import Subconscious.ModuleRegistry

/-!
# What a call does to the registry

Each call leaves the registry in one of a few forms. A registration enters its
slot, hidden or listed; a publication drops a mark; a promotion moves one
candidate; a catalog update changes one record; a removal filters every slot by
its connection.
-/

namespace Subconscious.RegistrySteps

open HashMaps HashMap Protocol ModuleRegistry

/-- Some registration of the connection stands in some slot. -/
def Holds (inner : RegistryInner Role Capabilities Rest) (connectionId : ConnectionId) : Prop :=
  (∃ moduleId registration, inner.modules.get moduleId = some registration ∧
      registration.connectionId = connectionId) ∨
    (∃ moduleId registration, inner.candidates.get moduleId = some registration ∧
      registration.connectionId = connectionId) ∨
    ∃ registration ∈ inner.superseded, registration.connectionId = connectionId

variable {slots : HashMap String (ModuleRegistration Role Capabilities Rest)}
  (inner : RegistryInner Role Capabilities Rest)

/-- A search of a map's values finds one exactly when a slot has one. -/
theorem find_values_none (h : slots.values.find? (fun registration =>
      decide (registration.connectionId = connectionId)) = none)
    (hget : slots.get moduleId = some registration) : registration.connectionId ≠ connectionId := by
  intro heq
  have hmem := (slots.mem_values).mpr ⟨moduleId, hget⟩
  exact List.find?_eq_none.mp h registration hmem (decide_eq_true heq)

theorem find_values_some (h : slots.values.find? (fun registration =>
      decide (registration.connectionId = connectionId)) = some registration) :
    ∃ moduleId, slots.get moduleId = some registration ∧
      registration.connectionId = connectionId := by
  obtain ⟨moduleId, hget⟩ := (slots.mem_values).mp (List.mem_of_find?_eq_some h)
  have hown := List.find?_some h
  exact ⟨moduleId, hget, of_decide_eq_true hown⟩

variable {inner} in
/-- What a lookup by connection says about the slots. -/
theorem findByConnection_cases :
    (findByConnection inner connectionId = none ∧ ¬ Holds inner connectionId) ∨
      ∃ slot registration, findByConnection inner connectionId = some (slot, registration) ∧
        registration.connectionId = connectionId ∧
        (slot = .active ∧ (∃ moduleId, inner.modules.get moduleId = some registration) ∨
          slot ≠ .active ∧ ∀ moduleId found, inner.modules.get moduleId = some found →
            found.connectionId ≠ connectionId) := by
  unfold findByConnection
  dsimp only
  cases hactive : inner.modules.values.find? (fun registration =>
      decide (registration.connectionId = connectionId)) with
  | some registration =>
    obtain ⟨moduleId, hget, hown⟩ := find_values_some hactive
    exact .inr ⟨.active, registration, rfl, hown, .inl ⟨rfl, moduleId, hget⟩⟩
  | none =>
    have hnone : ∀ moduleId found, inner.modules.get moduleId = some found →
        found.connectionId ≠ connectionId := fun moduleId found => find_values_none hactive
    cases hcandidate : inner.candidates.values.find? (fun registration =>
        decide (registration.connectionId = connectionId)) with
    | some registration =>
      obtain ⟨moduleId, hget, hown⟩ := find_values_some hcandidate
      exact .inr ⟨.candidate, registration, rfl, hown, .inr ⟨by decide, hnone⟩⟩
    | none =>
      cases hsuperseded : inner.superseded.find? (fun registration =>
          decide (registration.connectionId = connectionId)) with
      | some registration =>
        have hown := List.find?_some hsuperseded
        exact .inr ⟨.superseded, registration, rfl, of_decide_eq_true hown, .inr ⟨by decide, hnone⟩⟩
      | none =>
        refine .inl ⟨rfl, ?_⟩
        rintro (⟨moduleId, found, hget, hown⟩ | ⟨moduleId, found, hget, hown⟩ | ⟨found, hmem, hown⟩)
        · exact hnone moduleId found hget hown
        · exact find_values_none hcandidate hget hown
        · exact List.find?_eq_none.mp hsuperseded found hmem (decide_eq_true hown)

section

variable (slots : HashMap String (ModuleRegistration Role Capabilities Rest))
  (connectionId : ConnectionId)
  (f : ModuleRegistration Role Capabilities Rest → ModuleRegistration Role Capabilities Rest)

variable {f} in
/-- Changing a connection's first registration changes one slot. -/
theorem modifyOwned_get :
    (modifyOwned slots connectionId f).get moduleId = slots.get moduleId ∨
      ∃ old, slots.get moduleId = some old ∧ old.connectionId = connectionId ∧
        (modifyOwned slots connectionId f).get moduleId = some (f old) := by
  unfold modifyOwned
  split
  case h_1 => exact .inl rfl
  case h_2 entry hfound =>
    have hmem := (mem_toList _ _ _).mp (List.mem_of_find?_eq_some hfound)
    have hown := List.find?_some hfound
    rw [get_modify]
    split
    case isTrue heq =>
      rw [heq, hmem]
      exact .inr ⟨entry.2, rfl, of_decide_eq_true hown, rfl⟩
    case isFalse => exact .inl rfl

theorem mem_ownedIds : moduleId ∈ ownedIds slots connectionId ↔ ∃ registration,
    slots.get moduleId = some registration ∧ registration.connectionId = connectionId := by
  unfold ownedIds
  rw [List.mem_map]
  constructor
  · rintro ⟨⟨found, registration⟩, hmem, rfl⟩
    obtain ⟨hentry, hown⟩ := List.mem_filter.mp hmem
    exact ⟨registration, (mem_toList _ _ _).mp hentry, of_decide_eq_true hown⟩
  · rintro ⟨registration, hget, hown⟩
    exact ⟨(moduleId, registration), List.mem_filter.mpr
      ⟨(mem_toList _ _ _).mpr hget, decide_eq_true hown⟩, rfl⟩

end

/-- An update leaves a registration to its connection. -/
@[simp] theorem apply_connectionId (update : CatalogUpdate Role Capabilities)
    (registration : ModuleRegistration Role Capabilities Rest) :
    (update.apply registration).connectionId = registration.connectionId := rfl

/-- A loop of closings empties the slots of its ids and reports what it closed,
and leaves alone what `keep` shows of the registry. -/
structure Closes {Kept : Type} (keep : RegistryInner Role Capabilities Rest → Kept)
    (slots : RegistryInner Role Capabilities Rest →
      HashMap String (ModuleRegistration Role Capabilities Rest))
    (ids : List String) (closing closing' : Closing Role Capabilities Rest) : Prop where
  kept : keep closing'.inner = keep closing.inner
  emptied : ∀ moduleId, (slots closing'.inner).get moduleId =
    if moduleId ∈ ids then none else (slots closing.inner).get moduleId
  grows : closing.closed ⊆ closing'.closed
  closed : ∀ moduleId ∈ ids, ∀ registration,
    (slots closing.inner).get moduleId = some registration → registration.close ∈ closing'.closed

theorem foldl_closes
    {slots : RegistryInner Role Capabilities Rest →
      HashMap String (ModuleRegistration Role Capabilities Rest)}
    (hstep : ∀ closing moduleId, Closes keep slots [moduleId] closing (step closing moduleId))
    (ids : List String) (closing : Closing Role Capabilities Rest) :
    Closes keep slots ids closing (ids.foldl step closing) := by
  induction ids generalizing closing with
  | nil => exact ⟨rfl, fun _ => by simp, List.Subset.refl _, nofun⟩
  | cons first rest ih =>
    have hfirst := hstep closing first
    have hrest := ih (step closing first)
    refine ⟨hrest.kept.trans hfirst.kept, fun moduleId => ?_,
      List.Subset.trans hfirst.grows hrest.grows, ?_⟩
    · rw [List.foldl_cons, hrest.emptied, hfirst.emptied]
      by_cases heq : moduleId = first <;> simp [heq]
    intro moduleId hmem registration hget
    by_cases heq : moduleId = first
    · exact hrest.grows (hfirst.closed moduleId (heq ▸ List.mem_cons_self) registration hget)
    · refine hrest.closed moduleId ((List.mem_cons.mp hmem).resolve_left heq) registration ?_
      rw [hfirst.emptied, if_neg (by simpa using heq), hget]

/-- The registry without its active slots and its generation. -/
def besideModules (inner : RegistryInner Role Capabilities Rest) :
    RegistryInner Role Capabilities Rest :=
  { inner with modules := .empty, generation := 0 }

/-- The registry without its candidates. -/
def besideCandidates (inner : RegistryInner Role Capabilities Rest) :
    RegistryInner Role Capabilities Rest :=
  { inner with candidates := .empty }

theorem closeModule_closes (listed : Bool) (closing : Closing Role Capabilities Rest)
    (moduleId : String) : Closes besideModules RegistryInner.modules [moduleId] closing
      (closeModule listed closing moduleId) := by
  unfold closeModule
  cases hget : closing.inner.modules.get moduleId with
  | none =>
    refine ⟨rfl, fun other => ?_, List.Subset.refl _, ?_⟩
    · by_cases heq : other = moduleId <;> simp [heq, hget]
    · simp [hget]
  | some registration =>
    refine ⟨?_, fun other => ?_, List.subset_append_left _ _, ?_⟩
    · cases listed <;> rfl
    · cases listed <;> simp [bumpGeneration]
    · simp [hget]

theorem closeCandidate_closes (closing : Closing Role Capabilities Rest) (moduleId : String) :
    Closes besideCandidates RegistryInner.candidates [moduleId] closing
      (closeCandidate closing moduleId) := by
  unfold closeCandidate
  cases hget : closing.inner.candidates.get moduleId with
  | none =>
    refine ⟨rfl, fun other => ?_, List.Subset.refl _, ?_⟩
    · by_cases heq : other = moduleId <;> simp [heq, hget]
    · simp [hget]
  | some registration =>
    exact ⟨rfl, fun other => by simp, List.subset_append_left _ _, by simp [hget]⟩

/-- Closing active registrations never lowers the generation, and a listed one
moves it. -/
theorem foldl_closeModule_generation {ids : List String}
    (closing : Closing Role Capabilities Rest) :
    closing.inner.generation ≤ (ids.foldl (closeModule listed) closing).inner.generation ∧
      (listed = true → (∃ moduleId ∈ ids, (closing.inner.modules.get moduleId).isSome) →
        closing.inner.generation < (ids.foldl (closeModule listed) closing).inner.generation) := by
  induction ids generalizing closing with
  | nil =>
    refine ⟨Nat.le_refl _, ?_⟩
    rintro - ⟨moduleId, hmem, -⟩
    cases hmem
  | cons first rest ih =>
    rw [List.foldl_cons]
    obtain ⟨hmono, hstrict⟩ := ih (closeModule listed closing first)
    have hfirst : closing.inner.generation ≤ (closeModule listed closing first).inner.generation ∧
        (listed = true → (closing.inner.modules.get first).isSome →
          closing.inner.generation < (closeModule listed closing first).inner.generation) := by
      unfold closeModule
      cases closing.inner.modules.get first <;> cases listed <;> simp [bumpGeneration]
    refine ⟨hfirst.1.trans hmono, ?_⟩
    rintro hlisted ⟨moduleId, hmem, hsome⟩
    by_cases heq : moduleId = first
    · exact lt_of_lt_of_le (hfirst.2 hlisted (heq ▸ hsome)) hmono
    refine lt_of_le_of_lt hfirst.1 (hstrict hlisted ⟨moduleId, ?_, ?_⟩)
    · exact (List.mem_cons.mp hmem).resolve_left heq
    · rw [(closeModule_closes listed closing first).emptied, if_neg (by simpa using heq)]
      exact hsome

/-- Dropping the ids a connection owns filters the slots by connection. -/
theorem get_without_owned :
    (if moduleId ∈ ownedIds slots connectionId then none else slots.get moduleId) =
      (slots.get moduleId).filter fun registration =>
        decide (registration.connectionId ≠ connectionId) := by
  cases hget : slots.get moduleId with
  | none =>
    split <;> rfl
  | some registration =>
    by_cases hown : registration.connectionId = connectionId
    · rw [if_pos ((mem_ownedIds _ _).mpr ⟨registration, hget, hown⟩)]
      simp [Option.filter, hown]
    have hnot : moduleId ∉ ownedIds slots connectionId := by
      intro hmem
      obtain ⟨found, hfound, hfoundOwn⟩ := (mem_ownedIds _ _).mp hmem
      rw [hget] at hfound
      cases hfound
      exact hown hfoundOwn
    rw [if_neg hnot]
    simp [Option.filter, hown]

/-- Erasing the connections of a list leaves the others. -/
theorem mem_foldl_erase (closed : List (ModuleRegistration Role Capabilities Rest))
    (verified : Finset ConnectionId) :
    connectionId ∈ closed.foldl (fun verified registration =>
        verified.erase registration.connectionId) verified ↔
      connectionId ∈ verified ∧ ∀ registration ∈ closed,
        registration.connectionId ≠ connectionId := by
  induction closed generalizing verified with
  | nil => simp
  | cons first rest ih =>
    rw [List.foldl_cons, ih, Finset.mem_erase]
    simp only [List.mem_cons, forall_eq_or_imp]
    constructor
    · rintro ⟨⟨hne, hmem⟩, hrest⟩
      exact ⟨hmem, Ne.symm hne, hrest⟩
    · rintro ⟨hmem, hne, hrest⟩
      exact ⟨⟨Ne.symm hne, hmem⟩, hrest⟩

/-- What removing a connection leaves. -/
structure Deregistered (inner : RegistryInner Role Capabilities Rest)
    (connectionId : ConnectionId) (inner' : RegistryInner Role Capabilities Rest) : Prop where
  modules : ∀ moduleId, inner'.modules.get moduleId =
    (inner.modules.get moduleId).filter fun registration =>
      decide (registration.connectionId ≠ connectionId)
  candidates : ∀ moduleId, inner'.candidates.get moduleId =
    (inner.candidates.get moduleId).filter fun registration =>
      decide (registration.connectionId ≠ connectionId)
  superseded : inner'.superseded = inner.superseded.filter fun registration =>
    registration.connectionId ≠ connectionId
  unpublished : inner'.unpublished = inner.unpublished.erase connectionId
  nonceVerified : inner'.nonceVerified ⊆ inner.nonceVerified
  unverified : Holds inner connectionId → connectionId ∉ inner'.nonceVerified
  supersededBy : inner'.supersededBy =
    if (∃ registration ∈ inner.superseded, registration.connectionId = connectionId) then
      inner.supersededBy.remove connectionId
    else inner.supersededBy
  generation : inner.generation ≤ inner'.generation
  moved : connectionId ∉ inner.unpublished → ∀ moduleId registration,
    inner.modules.get moduleId = some registration →
    registration.connectionId = connectionId → inner.generation < inner'.generation

theorem deregisterConnection_spec :
    Deregistered inner connectionId (deregisterConnection inner connectionId).1 := by
  set unmarked := { inner with unpublished := inner.unpublished.erase connectionId } with hu
  set active := (ownedIds unmarked.modules connectionId).foldl
    (closeModule (decide (connectionId ∉ inner.unpublished))) ⟨unmarked, []⟩ with ha
  set candidate := (ownedIds active.inner.candidates connectionId).foldl closeCandidate active
    with hc
  obtain ⟨hmono, hstrict⟩ := foldl_closeModule_generation
    ⟨unmarked, []⟩
  have hactive := foldl_closes (closeModule_closes (decide (connectionId ∉ inner.unpublished)))
    (ownedIds unmarked.modules connectionId) ⟨unmarked, []⟩
  have hcandidate := foldl_closes closeCandidate_closes
    (ownedIds active.inner.candidates connectionId) active
  rw [← ha] at hmono hstrict hactive
  rw [← hc] at hcandidate
  have hcandidates : active.inner.candidates = inner.candidates :=
    (congrArg RegistryInner.candidates hactive.kept :)
  have hmodules : candidate.inner.modules = active.inner.modules :=
    (congrArg RegistryInner.modules hcandidate.kept :)
  have hgeneration : candidate.inner.generation = active.inner.generation :=
    (congrArg RegistryInner.generation hcandidate.kept :)
  have hbeside : besideModules (besideCandidates candidate.inner) =
      besideModules (besideCandidates unmarked) :=
    (congrArg besideModules hcandidate.kept).trans (congrArg besideCandidates hactive.kept)
  have hsuperseded : candidate.inner.superseded = inner.superseded :=
    (congrArg RegistryInner.superseded hbeside :)
  constructor
  · intro moduleId
    change candidate.inner.modules.get moduleId = _
    rw [hmodules, hactive.emptied]
    exact get_without_owned
  · intro moduleId
    change candidate.inner.candidates.get moduleId = _
    rw [hcandidate.emptied, hcandidates]
    exact get_without_owned
  · change candidate.inner.superseded.filter _ = _
    rw [hsuperseded]
  · exact congrArg RegistryInner.unpublished hbeside
  · intro other hmem
    have hkept := ((mem_foldl_erase _ _).mp hmem).1
    have hverified : candidate.inner.nonceVerified = inner.nonceVerified :=
      (congrArg RegistryInner.nonceVerified hbeside :)
    rw [hverified] at hkept
    exact hkept
  · intro hholds hmem
    have hnone := ((mem_foldl_erase _ _).mp hmem).2
    rcases hholds with ⟨moduleId, found, hget, rfl⟩ | ⟨moduleId, found, hget, rfl⟩ | ⟨found, hin, rfl⟩
    · refine hnone found.close (List.mem_append_left _ (hcandidate.grows ?_)) rfl
      exact hactive.closed moduleId ((mem_ownedIds _ _).mpr ⟨found, hget, rfl⟩) found hget
    · refine hnone found.close (List.mem_append_left _ ?_) rfl
      have hstill : active.inner.candidates.get moduleId = some found := by
        rw [hcandidates]
        exact hget
      exact hcandidate.closed moduleId ((mem_ownedIds _ _).mpr ⟨found, hstill, rfl⟩) found hstill
    · refine hnone found.close (List.mem_append_right _ (List.mem_map_of_mem ?_)) rfl
      rw [← hc, hsuperseded]
      exact List.mem_filter.mpr ⟨hin, decide_eq_true rfl⟩
  · change (if (candidate.inner.superseded.filter _).isEmpty then candidate.inner.supersededBy
      else candidate.inner.supersededBy.remove connectionId) = _
    rw [hsuperseded, show candidate.inner.supersededBy = inner.supersededBy from
      (congrArg RegistryInner.supersededBy hbeside :)]
    by_cases hany : ∃ registration ∈ inner.superseded, registration.connectionId = connectionId
    · rw [if_pos hany, if_neg]
      obtain ⟨registration, hmem, hown⟩ := hany
      rw [List.isEmpty_iff]
      exact List.ne_nil_of_mem (List.mem_filter.mpr ⟨hmem, decide_eq_true hown⟩)
    · rw [if_neg hany, if_pos]
      rw [List.isEmpty_iff, List.filter_eq_nil_iff]
      intro registration hmem hown
      exact hany ⟨registration, hmem, of_decide_eq_true hown⟩
  · change inner.generation ≤ candidate.inner.generation
    rw [hgeneration]
    exact hmono
  intro hpublished moduleId registration hget hown
  change inner.generation < candidate.inner.generation
  rw [hgeneration]
  refine hstrict (decide_eq_true hpublished)
    ⟨moduleId, (mem_ownedIds _ _).mpr ⟨registration, hget, hown⟩, ?_⟩
  rw [hget]
  rfl

/-- The registry after a successful registration into the active slot. -/
def enteredActive (inner : RegistryInner Role Capabilities Rest)
    (request : RegisterRequest Role Capabilities Rest) : RegistryInner Role Capabilities Rest :=
  let entered := { inner with
    modules := inner.modules.insert request.manifest.moduleId request.registration
    nonceVerified := request.markNonce inner.nonceVerified }
  if request.publish then bumpGeneration entered
  else { entered with unpublished := insert request.connectionId inner.unpublished }

/-- The registry after a successful registration of a candidate. -/
def enteredCandidate (inner : RegistryInner Role Capabilities Rest)
    (request : RegisterRequest Role Capabilities Rest) : RegistryInner Role Capabilities Rest :=
  let entered := { inner with
    candidates := inner.candidates.insert request.manifest.moduleId request.registration
    nonceVerified := request.markNonce inner.nonceVerified }
  if request.publish then entered
  else { entered with unpublished := insert request.connectionId inner.unpublished }

/-- The registry after the candidate of an id took the active slot. -/
def promotedTable (inner : RegistryInner Role Capabilities Rest) (moduleId : String)
    (promoted : ModuleRegistration Role Capabilities Rest) : RegistryInner Role Capabilities Rest :=
  bumpGeneration { inner with
    candidates := inner.candidates.remove moduleId
    modules := inner.modules.insert moduleId promoted
    superseded := inner.superseded ++ (inner.modules.get moduleId).toList
    supersededBy := match inner.modules.get moduleId with
      | some old => inner.supersededBy.insert old.connectionId promoted.connectionId
      | none => inner.supersededBy }

section

variable (request : RegisterRequest Role Capabilities Rest)

theorem registerActive_cases :
    ((registerActive inner request).1 = inner ∧
        ∃ refusal, (registerActive inner request).2 = .error refusal) ∨
      inner.modules.get request.manifest.moduleId = none ∧
        registerActive inner request = (enteredActive inner request, .ok request.registration) := by
  unfold registerActive
  cases moduleIdPathHazard request.manifest.moduleId with
  | error => exact .inl ⟨rfl, _, rfl⟩
  | ok =>
    dsimp only
    split
    case isTrue => exact .inl ⟨rfl, _, rfl⟩
    case isFalse hfree =>
      rw [contains_eq, Option.not_isSome_iff_eq_none] at hfree
      exact .inr ⟨hfree, rfl⟩

theorem registerCandidate_cases :
    ((registerCandidate inner request).1 = inner ∧
        ∃ refusal, (registerCandidate inner request).2 = .error refusal) ∨
      inner.candidates.get request.manifest.moduleId = none ∧
        registerCandidate inner request =
          (enteredCandidate inner request, .ok request.registration) := by
  unfold registerCandidate
  cases moduleIdPathHazard request.manifest.moduleId with
  | error => exact .inl ⟨rfl, _, rfl⟩
  | ok =>
    dsimp only
    split
    case isTrue => exact .inl ⟨rfl, _, rfl⟩
    case isFalse hfree =>
      rw [contains_eq, Option.not_isSome_iff_eq_none] at hfree
      exact .inr ⟨hfree, rfl⟩

end

/-- What a call leaves of the registry. -/
inductive RegistryStep (inner : RegistryInner Role Capabilities Rest) :
    RegistryOp Role Capabilities Rest → RegistryInner Role Capabilities Rest → Prop
  | same (op : RegistryOp Role Capabilities Rest) : RegistryStep inner op inner
  | active (request : RegisterRequest Role Capabilities Rest)
      (hfree : inner.modules.get request.manifest.moduleId = none) :
      RegistryStep inner (.registerActive request) (enteredActive inner request)
  | candidate (request : RegisterRequest Role Capabilities Rest)
      (hfree : inner.candidates.get request.manifest.moduleId = none) :
      RegistryStep inner (.registerCandidate request) (enteredCandidate inner request)
  | unhidden (connectionId : ConnectionId)
      (hnone : ∀ moduleId found, inner.modules.get moduleId = some found →
        found.connectionId ≠ connectionId) :
      RegistryStep inner (.publishRegistration connectionId)
        { inner with unpublished := inner.unpublished.erase connectionId }
  | published (connectionId : ConnectionId) :
      RegistryStep inner (.publishRegistration connectionId)
        (bumpGeneration { inner with unpublished := inner.unpublished.erase connectionId })
  | promoted (moduleId : String) (promoted : ModuleRegistration Role Capabilities Rest)
      (hget : inner.candidates.get moduleId = some promoted) :
      RegistryStep inner (.promoteCandidate moduleId) (promotedTable inner moduleId promoted)
  | replacedActive (connectionId : ConnectionId) (update : CatalogUpdate Role Capabilities) :
      RegistryStep inner (.replaceCatalog connectionId update)
        { inner with
          modules := modifyOwned inner.modules connectionId update.apply
          generation :=
            if connectionId ∈ inner.unpublished then inner.generation else inner.generation + 1 }
  | replacedCandidate (connectionId : ConnectionId) (update : CatalogUpdate Role Capabilities) :
      RegistryStep inner (.replaceCatalog connectionId update)
        { inner with candidates := modifyOwned inner.candidates connectionId update.apply }
  | replacedSuperseded (connectionId : ConnectionId) (update : CatalogUpdate Role Capabilities) :
      RegistryStep inner (.replaceCatalog connectionId update)
        { inner with superseded := modifySuperseded connectionId update.apply inner.superseded }
  | deregistered (connectionId : ConnectionId) (inner' : RegistryInner Role Capabilities Rest)
      (hleft : Deregistered inner connectionId inner') :
      RegistryStep inner (.deregisterConnection connectionId) inner'

theorem apply_step
    (op : RegistryOp Role Capabilities Rest) : RegistryStep inner op (op.apply inner) := by
  cases op with
  | registerActive request =>
    change RegistryStep inner _ (ModuleRegistry.registerActive inner request).1
    rcases registerActive_cases inner request with ⟨hsame, -⟩ | ⟨hfree, heq⟩
    · rw [hsame]
      exact .same _
    · rw [heq]
      exact .active request hfree
  | registerCandidate request =>
    change RegistryStep inner _ (ModuleRegistry.registerCandidate inner request).1
    rcases registerCandidate_cases inner request with ⟨hsame, -⟩ | ⟨hfree, heq⟩
    · rw [hsame]
      exact .same _
    · rw [heq]
      exact .candidate request hfree
  | publishRegistration connectionId =>
    change RegistryStep inner _ (ModuleRegistry.publishRegistration inner connectionId).1
    unfold ModuleRegistry.publishRegistration
    split
    case isTrue => exact .same _
    dsimp only
    rcases findByConnection_cases
      with
      ⟨hfind, hnone⟩ | ⟨slot, registration, hfind, -, ⟨rfl, -⟩ | ⟨hslot, hnone⟩⟩
    · rw [hfind]
      refine .unhidden connectionId ?_
      intro moduleId found hget hown
      exact hnone (.inl ⟨moduleId, found, hget, hown⟩)
    · rw [hfind]
      exact .published connectionId
    rw [hfind]
    cases slot with
    | active => exact absurd rfl hslot
    | candidate | superseded => exact .unhidden connectionId hnone
  | promoteCandidate moduleId =>
    change RegistryStep inner _ (ModuleRegistry.promoteCandidate inner moduleId).1
    unfold ModuleRegistry.promoteCandidate
    cases hget : inner.candidates.get moduleId with
    | none => exact .same _
    | some promoted => exact .promoted moduleId promoted hget
  | replaceCatalog connectionId update =>
    change RegistryStep inner _ (replaceCatalogForConnection inner connectionId update).1
    unfold replaceCatalogForConnection
    cases findByConnection inner connectionId with
    | none => exact .same _
    | some found =>
      rcases found with ⟨slot, registration⟩
      cases slot with
      | active =>
        have hstep : RegistryStep inner _ _ := .replacedActive connectionId update
        dsimp only
        split at hstep
        case isTrue hhidden =>
          rw [if_pos hhidden]
          exact hstep
        case isFalse hhidden =>
          rw [if_neg hhidden]
          exact hstep
      | candidate => exact .replacedCandidate connectionId update
      | superseded => exact .replacedSuperseded connectionId update
  | deregisterConnection connectionId =>
    exact .deregistered connectionId _ (deregisterConnection_spec inner)

end Subconscious.RegistrySteps
