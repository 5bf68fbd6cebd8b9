import Subconscious.RegistrySteps

/-!
# The catalog of the registry

The catalog shows the published active registrations. A call either moves the
generation or leaves them as they are, so a reader may cache by generation. A
reserved registration stays hidden until it is published, and removing a
connection leaves nothing that refers to it.
-/

namespace Subconscious.RegistryCatalog

open HashMaps HashMap Protocol ModuleRegistry Runs RegistrySteps List

/-- The active registration of an id as the catalog shows it. -/
def listed (inner : RegistryInner Role Capabilities Rest) (moduleId : String) :
    Option (ModuleRegistration Role Capabilities Rest) :=
  (inner.modules.get moduleId).filter fun registration =>
    decide (registration.connectionId ∉ inner.unpublished)

variable {inner : RegistryInner Role Capabilities Rest}
  {slots : HashMap String (ModuleRegistration Role Capabilities Rest)}

theorem listed_eq_some :
    listed inner moduleId = some registration ↔
      inner.modules.get moduleId = some registration ∧
        registration.connectionId ∉ inner.unpublished := by
  unfold listed
  rw [Option.filter_eq_some_iff, decide_eq_true_iff]

/-- Marks of other connections do not hide a registration. -/
theorem listed_of_marks (hmodules : inner'.modules = inner.modules)
    (hnone : ∀ moduleId found, inner.modules.get moduleId = some found →
      found.connectionId ≠ connectionId)
    (hmarks : ∀ other, other ≠ connectionId →
      (other ∈ inner'.unpublished ↔ other ∈ inner.unpublished)) (moduleId : String) :
    listed inner' moduleId = listed inner moduleId := by
  refine Option.ext fun registration => ?_
  rw [listed_eq_some, listed_eq_some, hmodules]
  constructor
  · rintro ⟨hget, hshown⟩
    exact ⟨hget, fun h => hshown ((hmarks _ (hnone moduleId _ hget)).mpr h)⟩
  · rintro ⟨hget, hshown⟩
    exact ⟨hget, fun h => hshown ((hmarks _ (hnone moduleId _ hget)).mp h)⟩

theorem not_holds_of_free (h : (findByConnection inner connectionId).isNone = true) :
    ¬ Holds inner connectionId := by
  rcases findByConnection_cases with ⟨-, hnone⟩ | ⟨slot, found, hfind, -⟩
  · exact hnone
  · rw [hfind] at h
    cases h

/-- A call moves the generation or leaves the catalog as it was. -/
theorem apply_listed (inner : RegistryInner Role Capabilities Rest)
    (op : RegistryOp Role Capabilities Rest) (hfree : registersFree inner op = true) :
    inner.generation < (op.apply inner).generation ∨
      inner.generation = (op.apply inner).generation ∧
        ∀ moduleId, listed (op.apply inner) moduleId = listed inner moduleId := by
  have hstep := apply_step inner op
  generalize op.apply inner = inner' at hstep
  cases hstep with
  | same | replacedCandidate | replacedSuperseded => exact .inr ⟨rfl, fun _ => rfl⟩
  | active request hslot =>
    unfold enteredActive
    cases request.publish with
    | true => exact .inl (Nat.lt_succ_self _)
    | false =>
      refine .inr ⟨rfl, fun moduleId => Option.ext fun registration => ?_⟩
      have hholds := not_holds_of_free hfree
      rw [listed_eq_some, listed_eq_some]
      simp only [Bool.false_eq_true, if_false, get_insert, Finset.mem_insert, not_or]
      constructor
      · rintro ⟨hget, hother, hshown⟩
        split at hget
        case isTrue =>
          cases hget
          exact absurd rfl hother
        case isFalse => exact ⟨hget, hshown⟩
      rintro ⟨hget, hshown⟩
      have hne : moduleId ≠ request.manifest.moduleId := by
        rintro rfl
        rw [hslot] at hget
        cases hget
      rw [if_neg hne]
      exact ⟨hget, fun h => hholds (.inl ⟨moduleId, registration, hget, h⟩), hshown⟩
  | candidate request =>
    have hholds := not_holds_of_free hfree
    unfold enteredCandidate
    cases request.publish with
    | true => exact .inr ⟨rfl, fun _ => rfl⟩
    | false =>
      refine .inr ⟨rfl, ?_⟩
      refine listed_of_marks rfl (fun moduleId found hget hown =>
        hholds (.inl ⟨moduleId, found, hget, hown⟩)) ?_
      intro other hne
      simp only [Bool.false_eq_true, if_false, Finset.mem_insert]
      exact or_iff_right hne
  | unhidden connectionId hnone =>
    refine .inr ⟨rfl, listed_of_marks rfl hnone ?_⟩
    intro other hne
    rw [Finset.mem_erase]
    exact and_iff_right hne
  | published | promoted => exact .inl (Nat.lt_succ_self _)
  | replacedActive connectionId update =>
    by_cases hhidden : connectionId ∈ inner.unpublished
    · rw [if_pos hhidden]
      refine .inr ⟨rfl, fun moduleId => ?_⟩
      unfold listed
      rcases modifyOwned_get inner.modules connectionId with
        hsame | ⟨old, hold, rfl, hnew⟩
      · rw [hsame]
      · rw [hnew, hold]
        simp [Option.filter, hhidden]
    · rw [if_neg hhidden]
      exact .inl (Nat.lt_succ_self _)
  | deregistered connectionId _ hleft =>
    rcases Nat.lt_or_ge inner.generation inner'.generation with hlt | hge
    · exact .inl hlt
    have heq : inner.generation = inner'.generation := le_antisymm hleft.generation hge
    refine .inr ⟨heq, fun moduleId => Option.ext fun registration => ?_⟩
    rw [listed_eq_some, listed_eq_some, hleft.modules, hleft.unpublished,
      Option.filter_eq_some_iff, decide_eq_true_iff, Finset.mem_erase]
    constructor
    · rintro ⟨⟨hget, hne⟩, hshown⟩
      exact ⟨hget, fun h => hshown ⟨hne, h⟩⟩
    rintro ⟨hget, hshown⟩
    have hne : registration.connectionId ≠ connectionId := by
      rintro rfl
      exact absurd (hleft.moved hshown moduleId registration hget rfl) (Nat.not_lt.mpr hge)
    exact ⟨⟨hget, hne⟩, fun h => hshown h.2⟩

/-- What the slots and marks of a registry keep. -/
structure RegistryInv (inner : RegistryInner Role Capabilities Rest) : Prop where
  activeKeyed : ∀ moduleId registration, inner.modules.get moduleId = some registration →
    registration.manifest.moduleId = moduleId
  candidateKeyed : ∀ moduleId registration, inner.candidates.get moduleId = some registration →
    registration.manifest.moduleId = moduleId
  verifiedHolds : ∀ connectionId ∈ inner.nonceVerified, Holds inner connectionId
  displacedSuperseded : ∀ connectionId displacer,
    inner.supersededBy.get connectionId = some displacer →
    ∃ registration ∈ inner.superseded, registration.connectionId = connectionId

theorem new_registryInv :
    RegistryInv (RegistryInner.new : RegistryInner Role Capabilities Rest) where
  activeKeyed := nofun
  candidateKeyed := nofun
  verifiedHolds := fun _ h => absurd h (Finset.notMem_empty _)
  displacedSuperseded := nofun

/-- Every slot keeps a registration of its connection. -/
def Carries (slots slots' : HashMap String (ModuleRegistration Role Capabilities Rest)) : Prop :=
  ∀ moduleId registration, slots.get moduleId = some registration →
    ∃ registration', slots'.get moduleId = some registration' ∧
      registration'.connectionId = registration.connectionId

theorem carries_refl : Carries slots slots := fun _ registration hget => ⟨registration, hget, rfl⟩

theorem carries_insert (hfree : slots.get moduleId = none) :
    Carries slots (slots.insert moduleId registration) := by
  intro other found hget
  refine ⟨found, ?_, rfl⟩
  rw [get_insert, if_neg, hget]
  rintro rfl
  rw [hfree] at hget
  cases hget

/-- A connection keeps what it holds when all slots are carried over. -/
theorem holds_of_carries (hholds : Holds inner connectionId)
    (hmodules : Carries inner.modules inner'.modules)
    (hcandidates : Carries inner.candidates inner'.candidates)
    (hsuperseded : (∃ registration ∈ inner.superseded, registration.connectionId = connectionId) →
      ∃ registration ∈ inner'.superseded, registration.connectionId = connectionId) :
    Holds inner' connectionId := by
  rcases hholds with ⟨moduleId, found, hget, hown⟩ | ⟨moduleId, found, hget, hown⟩ | hheld
  · obtain ⟨found', hget', hsame⟩ := hmodules moduleId found hget
    exact .inl ⟨moduleId, found', hget', hsame.trans hown⟩
  · obtain ⟨found', hget', hsame⟩ := hcandidates moduleId found hget
    exact .inr (.inl ⟨moduleId, found', hget', hsame.trans hown⟩)
  · exact .inr (.inr (hsuperseded hheld))

variable {request : RegisterRequest Role Capabilities Rest}

theorem mem_markNonce (h : connectionId ∈ request.markNonce verified) :
    connectionId = request.connectionId ∨ connectionId ∈ verified := by
  unfold RegisterRequest.markNonce at h
  split at h
  case isTrue => exact Finset.mem_insert.mp h
  case isFalse => exact .inr (Finset.mem_of_mem_erase h)

/-- A catalog update keeps the connections of the superseded records. -/
theorem mem_modifySuperseded
    (update : CatalogUpdate Role Capabilities)
    (records : List (ModuleRegistration Role Capabilities Rest)) :
    (∃ registration ∈ records, registration.connectionId = other) →
      ∃ registration ∈ modifySuperseded connectionId update.apply records,
        registration.connectionId = other := by
  induction records with
  | nil => rintro ⟨registration, hmem, -⟩; cases hmem
  | cons first rest ih =>
    rintro ⟨registration, hmem, hown⟩
    unfold modifySuperseded
    split
    case isTrue =>
      rcases mem_cons.mp hmem with rfl | hrest
      · exact ⟨update.apply registration, mem_cons_self, hown⟩
      · exact ⟨registration, mem_cons_of_mem _ hrest, hown⟩
    case isFalse =>
      rcases mem_cons.mp hmem with rfl | hrest
      · exact ⟨registration, mem_cons_self, hown⟩
      · obtain ⟨found, hfound, hfoundOwn⟩ := ih ⟨registration, hrest, hown⟩
        exact ⟨found, mem_cons_of_mem _ hfound, hfoundOwn⟩

section

variable (inner : RegistryInner Role Capabilities Rest)
  (request : RegisterRequest Role Capabilities Rest)

theorem enteredActive_eq : ∃ unpublished generation,
    enteredActive inner request = { inner with
      modules := inner.modules.insert request.manifest.moduleId request.registration
      nonceVerified := request.markNonce inner.nonceVerified
      unpublished, generation } := by
  unfold enteredActive
  cases request.publish with
  | true | false => exact ⟨_, _, rfl⟩

theorem enteredCandidate_eq : ∃ unpublished,
    enteredCandidate inner request = { inner with
      candidates := inner.candidates.insert request.manifest.moduleId request.registration
      nonceVerified := request.markNonce inner.nonceVerified
      unpublished } := by
  unfold enteredCandidate
  cases request.publish with
  | true | false => exact ⟨_, rfl⟩

end

theorem enteredActive_inv (hinv : RegistryInv inner)
    (hfree : inner.modules.get request.manifest.moduleId = none) :
    RegistryInv (enteredActive inner request) := by
  obtain ⟨unpublished, generation, heq⟩ := enteredActive_eq inner request
  rw [heq]
  refine ⟨forall_insert rfl hinv.activeKeyed, hinv.candidateKeyed, ?_, hinv.displacedSuperseded⟩
  intro connectionId hmem
  rcases mem_markNonce hmem with rfl | hold
  · refine .inl ⟨request.manifest.moduleId, request.registration, ?_, rfl⟩
    exact (get_insert _ _ _ _).trans (if_pos rfl)
  · exact holds_of_carries (hinv.verifiedHolds connectionId hold) (carries_insert hfree)
      carries_refl id

theorem enteredCandidate_inv (hinv : RegistryInv inner)
    (hfree : inner.candidates.get request.manifest.moduleId = none) :
    RegistryInv (enteredCandidate inner request) := by
  obtain ⟨unpublished, heq⟩ := enteredCandidate_eq inner request
  rw [heq]
  refine ⟨hinv.activeKeyed, forall_insert rfl hinv.candidateKeyed, ?_, hinv.displacedSuperseded⟩
  intro connectionId hmem
  rcases mem_markNonce hmem with rfl | hold
  · refine .inr (.inl ⟨request.manifest.moduleId, request.registration, ?_, rfl⟩)
    exact (get_insert _ _ _ _).trans (if_pos rfl)
  · exact holds_of_carries (hinv.verifiedHolds connectionId hold) carries_refl
      (carries_insert hfree) id

theorem promotedTable_inv (hinv : RegistryInv inner)
    (hget : inner.candidates.get moduleId = some promoted) :
    RegistryInv (promotedTable inner moduleId promoted) := by
  have hnew : (promotedTable inner moduleId promoted).modules.get moduleId = some promoted :=
    (get_insert _ _ _ _).trans (if_pos rfl)
  constructor
  · exact forall_insert (hinv.candidateKeyed moduleId promoted hget) hinv.activeKeyed
  · intro other registration hfound
    exact hinv.candidateKeyed other registration (of_get_remove hfound).2
  · intro connectionId hmem
    rcases hinv.verifiedHolds connectionId hmem with
      ⟨other, found, hfound, hown⟩ | ⟨other, found, hfound, hown⟩ | ⟨found, hin, hown⟩
    · by_cases heq : other = moduleId
      · subst heq
        refine .inr (.inr ⟨found, ?_, hown⟩)
        change found ∈ inner.superseded ++ (inner.modules.get other).toList
        rw [hfound]
        exact mem_append_right _ mem_cons_self
      · exact .inl ⟨other, found, (get_insert _ _ _ _).trans ((if_neg heq).trans hfound), hown⟩
    · by_cases heq : other = moduleId
      · subst heq
        rw [hget] at hfound
        cases hfound
        exact .inl ⟨other, promoted, hnew, hown⟩
      · exact .inr (.inl ⟨other, found, (get_remove _ _ _).trans ((if_neg heq).trans hfound), hown⟩)
    · exact .inr (.inr ⟨found, mem_append_left _ hin, hown⟩)
  · intro connectionId displacer hdisplaced
    change ∃ registration ∈ inner.superseded ++ (inner.modules.get moduleId).toList, _
    have hkept : inner.supersededBy.get connectionId = some displacer →
        ∃ registration ∈ inner.superseded ++ (inner.modules.get moduleId).toList,
          registration.connectionId = connectionId := by
      intro hold
      obtain ⟨registration, hin, hown⟩ := hinv.displacedSuperseded connectionId displacer hold
      exact ⟨registration, mem_append_left _ hin, hown⟩
    unfold promotedTable at hdisplaced
    cases hactive : inner.modules.get moduleId with
    | none =>
      rw [hactive] at hdisplaced hkept
      exact hkept hdisplaced
    | some old =>
      rw [hactive] at hdisplaced hkept
      rcases of_get_insert hdisplaced with ⟨heq, -⟩ | ⟨-, hold⟩
      · exact ⟨old, mem_append_right _ mem_cons_self, heq.symm⟩
      · exact hkept hold

/-- A catalog update in a slot keeps the ids the slots stand under. -/
theorem modifyOwned_keyed
    (hkeyed : ∀ moduleId registration, slots.get moduleId = some registration →
      registration.manifest.moduleId = moduleId) (update : CatalogUpdate Role Capabilities)
    (moduleId : String) (registration : ModuleRegistration Role Capabilities Rest)
    (hget : (modifyOwned slots connectionId update.apply).get moduleId = some registration) :
    registration.manifest.moduleId = moduleId := by
  rcases modifyOwned_get slots connectionId with hsame | ⟨old, hold, -, hnew⟩
  · exact hkeyed moduleId registration (hsame.symm.trans hget)
  · cases hnew.symm.trans hget
    exact hkeyed moduleId old hold

/-- And the connections that hold them. -/
theorem modifyOwned_carries (update : CatalogUpdate Role Capabilities) :
    Carries slots (modifyOwned slots connectionId update.apply) := by
  intro moduleId registration hget
  rcases modifyOwned_get slots connectionId with hsame | ⟨old, hold, -, hnew⟩
  · exact ⟨registration, hsame.trans hget, rfl⟩
  · cases hold.symm.trans hget
    exact ⟨_, hnew, rfl⟩

theorem deregistered_inv (hinv : RegistryInv inner)
    (hleft : Deregistered inner connectionId inner') : RegistryInv inner' := by
  constructor
  · exact forall_filter hleft.modules hinv.activeKeyed
  · exact forall_filter hleft.candidates hinv.candidateKeyed
  · intro other hmem
    have hholds := hinv.verifiedHolds other (hleft.nonceVerified hmem)
    have hne : other ≠ connectionId := by
      rintro rfl
      exact hleft.unverified hholds hmem
    rcases hholds with
      ⟨moduleId, found, hget, hown⟩ | ⟨moduleId, found, hget, hown⟩ | ⟨found, hin, hown⟩
    · refine .inl ⟨moduleId, found, ?_, hown⟩
      rw [hleft.modules, Option.filter_eq_some_iff, hown]
      exact ⟨hget, decide_eq_true hne⟩
    · refine .inr (.inl ⟨moduleId, found, ?_, hown⟩)
      rw [hleft.candidates, Option.filter_eq_some_iff, hown]
      exact ⟨hget, decide_eq_true hne⟩
    · refine .inr (.inr ⟨found, ?_, hown⟩)
      rw [hleft.superseded]
      exact mem_filter.mpr ⟨hin, decide_eq_true (hown ▸ hne)⟩
  · intro other displacer hget
    have hold : inner.supersededBy.get other = some displacer ∧
        ((∃ registration ∈ inner.superseded, registration.connectionId = connectionId) →
          other ≠ connectionId) := by
      rw [hleft.supersededBy] at hget
      split at hget
      case isTrue =>
        obtain ⟨hne, hget⟩ := of_get_remove hget
        exact ⟨hget, fun _ => hne⟩
      case isFalse hnone => exact ⟨hget, fun h => absurd h hnone⟩
    obtain ⟨registration, hin, hown⟩ := hinv.displacedSuperseded other displacer hold.1
    refine ⟨registration, ?_, hown⟩
    rw [hleft.superseded]
    refine mem_filter.mpr ⟨hin, decide_eq_true ?_⟩
    intro heq
    exact hold.2 ⟨registration, hin, heq⟩ (hown.symm.trans heq)

theorem apply_registryInv (hinv : RegistryInv inner) (op : RegistryOp Role Capabilities Rest) :
    RegistryInv (op.apply inner) := by
  have hstep := apply_step inner op
  generalize op.apply inner = inner' at hstep
  cases hstep with
  | same => exact hinv
  | active request hfree => exact enteredActive_inv hinv hfree
  | candidate request hfree => exact enteredCandidate_inv hinv hfree
  | unhidden | published => exact { hinv with }
  | promoted moduleId promoted hget => exact promotedTable_inv hinv hget
  | replacedActive connectionId update =>
    refine ⟨modifyOwned_keyed hinv.activeKeyed update, hinv.candidateKeyed, ?_,
      hinv.displacedSuperseded⟩
    intro other hmem
    exact holds_of_carries (hinv.verifiedHolds other hmem) (modifyOwned_carries update)
      carries_refl id
  | replacedCandidate connectionId update =>
    refine ⟨hinv.activeKeyed, modifyOwned_keyed hinv.candidateKeyed update, ?_,
      hinv.displacedSuperseded⟩
    intro other hmem
    exact holds_of_carries (hinv.verifiedHolds other hmem) carries_refl
      (modifyOwned_carries update) id
  | replacedSuperseded connectionId update =>
    refine ⟨hinv.activeKeyed, hinv.candidateKeyed, ?_, ?_⟩
    · intro other hmem
      exact holds_of_carries (hinv.verifiedHolds other hmem) carries_refl carries_refl
        (mem_modifySuperseded update _)
    · intro other displacer hget
      exact mem_modifySuperseded update _ (hinv.displacedSuperseded other displacer hget)
  | deregistered connectionId _ hleft => exact deregistered_inv hinv hleft

variable (ops : List (RegistryOp Role Capabilities Rest))

/-- Every run keeps the invariant. -/
theorem run_registryInv : RegistryInv (run ops) :=
  List.foldlRecOn (motive := RegistryInv) _ _ new_registryInv fun _ h op _ =>
    apply_registryInv h op

section

variable (more : List (RegistryOp Role Capabilities Rest))

/-- Along a run the generation never falls, and while it stands still the
catalog does. -/
theorem run_listed (hfree : AllRegisterFree (ops ++ more)) :
    (run ops).generation ≤ (run (ops ++ more)).generation ∧
      ((run ops).generation = (run (ops ++ more)).generation →
        ∀ moduleId, listed (run (ops ++ more)) moduleId = listed (run ops) moduleId) := by
  rw [run_append]
  refine ((throughout_append _ _).mp hfree).2.induction (fun inner =>
    (run ops).generation ≤ inner.generation ∧ ((run ops).generation = inner.generation →
      ∀ moduleId, listed inner moduleId = listed (run ops) moduleId)) ?_ ⟨le_rfl, fun _ _ => rfl⟩
  rintro inner op hop ⟨hmono, hstill⟩
  rcases apply_listed inner op hop with hlt | ⟨heq, hlisted⟩
  · exact ⟨by omega, fun h => by omega⟩
  refine ⟨by omega, fun h moduleId => ?_⟩
  rw [hlisted moduleId]
  exact hstill (by omega) moduleId

/-- The catalog's entries are the listed registrations. -/
theorem mem_entries : registration ∈ inner.modules.values.filter (fun registration =>
        registration.connectionId ∉ inner.unpublished) ↔
      ∃ moduleId, listed inner moduleId = some registration := by
  rw [mem_filter, mem_values, decide_eq_true_iff]
  simp only [listed_eq_some]
  constructor
  · rintro ⟨⟨moduleId, hget⟩, hshown⟩
    exact ⟨moduleId, hget, hshown⟩
  · rintro ⟨moduleId, hget, hshown⟩
    exact ⟨⟨moduleId, hget⟩, hshown⟩

/-- Slots that stand under their own ids name no id twice. -/
theorem values_ids_nodup
    (hkeyed : ∀ moduleId registration, slots.get moduleId = some registration →
      registration.manifest.moduleId = moduleId) :
    (slots.values.map fun registration => registration.manifest.moduleId).Nodup := by
  have hkeys : (slots.values.map fun registration => registration.manifest.moduleId) =
      slots.keys := by
    unfold HashMap.values HashMap.keys
    rw [map_map]
    refine map_congr_left ?_
    rintro ⟨moduleId, registration⟩ hmem
    exact hkeyed moduleId registration ((mem_toList _ _ _).mp hmem)
  rw [hkeys]
  exact slots.nodup_keys

theorem byModuleId_iff :
    byModuleId left right = true ↔ left.manifest.moduleId ≤ right.manifest.moduleId := by
  exact decide_eq_true_iff

/-- The same listed registrations give the same sorted catalog. -/
theorem sorted_entries_eq (hinv : RegistryInv inner) (hinv' : RegistryInv inner')
    (hlisted : ∀ moduleId, listed inner' moduleId = listed inner moduleId) :
    (listModules inner').2 = (listModules inner).2 := by
  have hnodup : ∀ {inner : RegistryInner Role Capabilities Rest}, RegistryInv inner →
      (inner.modules.values.filter fun registration =>
        decide (registration.connectionId ∉ inner.unpublished)).Nodup := by
    intro inner hinv
    exact (List.Nodup.of_map _ (values_ids_nodup hinv.activeKeyed)).filter _
  have hperm : (inner'.modules.values.filter fun registration =>
      decide (registration.connectionId ∉ inner'.unpublished)).Perm
      (inner.modules.values.filter fun registration =>
        decide (registration.connectionId ∉ inner.unpublished)) := by
    refine (perm_ext_iff_of_nodup (hnodup hinv') (hnodup hinv)).mpr ?_
    intro registration
    rw [mem_entries, mem_entries]
    simp only [hlisted]
  have hsorted : ∀ entries : List (ModuleRegistration Role Capabilities Rest),
      (entries.mergeSort byModuleId).Pairwise fun left right => byModuleId left right = true := by
    intro entries
    refine pairwise_mergeSort ?_ ?_ entries
    · intro a b c hab hbc
      rw [byModuleId_iff] at hab hbc ⊢
      exact String.le_trans hab hbc
    · intro a b
      rw [Bool.or_eq_true, byModuleId_iff, byModuleId_iff]
      exact String.le_total _ _
  refine List.Perm.eq_of_pairwise ?_ (hsorted _) (hsorted _)
    ((mergeSort_perm _ _).trans (hperm.trans (mergeSort_perm _ _).symm))
  intro left right hleft hright hle hge
  obtain ⟨key, hkey⟩ := (mem_entries).mp (mem_mergeSort.mp hleft)
  obtain ⟨key', hkey'⟩ := (mem_entries).mp (mem_mergeSort.mp hright)
  rw [hlisted] at hkey
  have hid := hinv.activeKeyed key left (listed_eq_some.mp hkey).1
  have hid' := hinv.activeKeyed key' right (listed_eq_some.mp hkey').1
  have hsame : left.manifest.moduleId = right.manifest.moduleId :=
    String.le_antisymm (byModuleId_iff.mp hle) (byModuleId_iff.mp hge)
  rw [hid, hid'] at hsame
  rw [hsame, hkey'] at hkey
  exact (Option.some.inj hkey).symm

/-- A call that ends the reservation of a connection. -/
def endsReservation (connectionId : ConnectionId) : RegistryOp Role Capabilities Rest → Bool
  | .publishRegistration other => decide (other = connectionId)
  | .deregisterConnection other => decide (other = connectionId)
  | _ => false

/-- Any other call keeps its mark. -/
theorem apply_keepsMark (hop : endsReservation connectionId op = false)
    (hmark : connectionId ∈ inner.unpublished) : connectionId ∈ (op.apply inner).unpublished := by
  have hstep := apply_step inner op
  generalize op.apply inner = inner' at hstep
  cases hstep with
  | same | promoted | replacedActive | replacedCandidate | replacedSuperseded => exact hmark
  | active request =>
    unfold enteredActive
    cases request.publish with
    | true => exact hmark
    | false => exact Finset.mem_insert_of_mem hmark
  | candidate request =>
    unfold enteredCandidate
    cases request.publish with
    | true => exact hmark
    | false => exact Finset.mem_insert_of_mem hmark
  | unhidden | published =>
    exact Finset.mem_erase.mpr ⟨Ne.symm (of_decide_eq_false hop), hmark⟩
  | deregistered other _ hleft =>
    rw [hleft.unpublished]
    exact Finset.mem_erase.mpr ⟨Ne.symm (of_decide_eq_false hop), hmark⟩

/-- So it does through a run of such calls. -/
theorem run_keepsMark (hmore : ∀ op ∈ more, endsReservation connectionId op = false)
    (hmark : connectionId ∈ (run ops).unpublished) :
    connectionId ∈ (run (ops ++ more)).unpublished := by
  rw [run_append]
  refine List.foldlRecOn (motive := fun inner : RegistryInner Role Capabilities Rest =>
    connectionId ∈ inner.unpublished) more _ hmark ?_
  exact fun _ hmark op hop => apply_keepsMark (hmore op hop) hmark

end

/-- A call that reserved a registration for a connection without publishing it. -/
def reserves (inner : RegistryInner Role Capabilities Rest) (connectionId : ConnectionId) :
    RegistryOp Role Capabilities Rest → Bool
  | .registerActive request =>
    decide (request.connectionId = connectionId) && !request.publish &&
      (ModuleRegistry.registerActive inner request).2.isOk
  | .registerCandidate request =>
    decide (request.connectionId = connectionId) && !request.publish &&
      (ModuleRegistry.registerCandidate inner request).2.isOk
  | _ => false

theorem reserves_marks (h : reserves inner connectionId op = true) :
    connectionId ∈ (op.apply inner).unpublished := by
  unfold reserves at h
  cases op with
  | registerActive request =>
    simp only [Bool.and_eq_true, Bool.not_eq_true', decide_eq_true_iff] at h
    obtain ⟨⟨rfl, hpublish⟩, hok⟩ := h
    change _ ∈ (ModuleRegistry.registerActive inner request).1.unpublished
    rcases registerActive_cases inner request with ⟨-, refusal, herror⟩ | ⟨-, heq⟩
    · rw [herror] at hok
      cases hok
    rw [heq]
    unfold enteredActive
    rw [hpublish]
    exact Finset.mem_insert_self _ _
  | registerCandidate request =>
    simp only [Bool.and_eq_true, Bool.not_eq_true', decide_eq_true_iff] at h
    obtain ⟨⟨rfl, hpublish⟩, hok⟩ := h
    change _ ∈ (ModuleRegistry.registerCandidate inner request).1.unpublished
    rcases registerCandidate_cases inner request with ⟨-, refusal, herror⟩ | ⟨-, heq⟩
    · rw [herror] at hok
      cases hok
    rw [heq]
    unfold enteredCandidate
    rw [hpublish]
    exact Finset.mem_insert_self _ _
  | publishRegistration | promoteCandidate | replaceCatalog | deregisterConnection => cases h

/-- No read of the catalog shows a registration of the connection. -/
def Hidden (inner : RegistryInner Role Capabilities Rest) (connectionId : ConnectionId) : Prop :=
  (∀ registration ∈ (listModules inner).2, registration.connectionId ≠ connectionId) ∧
    ∀ slot registration, publishedRegistration inner slot = some registration →
      registration.connectionId ≠ connectionId

theorem hidden_of_marked (hmark : connectionId ∈ inner.unpublished) :
    Hidden inner connectionId := by
  constructor
  · rintro registration hmem rfl
    have hentry := (mem_filter.mp (mem_mergeSort.mp hmem)).2
    exact of_decide_eq_true hentry hmark
  · rintro slot registration hread rfl
    have hshown := (Option.filter_eq_some_iff.mp hread).2
    exact of_decide_eq_true hshown hmark

/-- Nothing in the registry refers to the connection. -/
structure Forgotten (inner : RegistryInner Role Capabilities Rest) (connectionId : ConnectionId) :
    Prop where
  slots : ¬ Holds inner connectionId
  nonceVerified : connectionId ∉ inner.nonceVerified
  unpublished : connectionId ∉ inner.unpublished
  supersededBy : inner.supersededBy.get connectionId = none

theorem deregistered_forgotten (hinv : RegistryInv inner)
    (hleft : Deregistered inner connectionId inner') : Forgotten inner' connectionId := by
  constructor
  · rintro (⟨moduleId, found, hget, hown⟩ | ⟨moduleId, found, hget, hown⟩ | ⟨found, hin, hown⟩)
    · rw [hleft.modules] at hget
      exact of_decide_eq_true (Option.filter_eq_some_iff.mp hget).2 hown
    · rw [hleft.candidates] at hget
      exact of_decide_eq_true (Option.filter_eq_some_iff.mp hget).2 hown
    · rw [hleft.superseded] at hin
      exact of_decide_eq_true (mem_filter.mp hin).2 hown
  · intro hmem
    have hholds := hinv.verifiedHolds connectionId (hleft.nonceVerified hmem)
    exact hleft.unverified hholds hmem
  · rw [hleft.unpublished]
    exact Finset.notMem_erase _ _
  rw [hleft.supersededBy]
  split
  case isTrue => exact (get_remove _ _ _).trans (if_pos rfl)
  case isFalse hnone =>
    cases hget : inner.supersededBy.get connectionId with
    | none => rfl
    | some displacer => exact absurd (hinv.displacedSuperseded connectionId displacer hget) hnone

/-- What every run promises the readers of its catalog. -/
structure CatalogLaw (ops : List (RegistryOp Role Capabilities Rest)) : Prop where
  /-- Two reads of one generation read one catalog. -/
  cacheable : ∀ p q p' q', ops = p ++ q → ops = p' ++ q' →
    (listModules (run p)).1 = (listModules (run p')).1 →
    (listModules (run p)).2 = (listModules (run p')).2
  /-- A reservation is not shown until its connection publishes it. -/
  reserved : ∀ p op q r connectionId, ops = p ++ op :: q ++ r →
    reserves (run p) connectionId op = true →
    (∀ later ∈ q, endsReservation connectionId later = false) →
    Hidden (run (p ++ op :: q)) connectionId
  /-- No id is taken twice in the active or in the candidate slots. -/
  unique : ∀ p q, ops = p ++ q →
    ((run p).modules.values.map fun registration => registration.manifest.moduleId).Nodup ∧
      ((run p).candidates.values.map fun registration => registration.manifest.moduleId).Nodup
  /-- A removed connection leaves nothing behind. -/
  removed : ∀ p connectionId q, ops = p ++ .deregisterConnection connectionId :: q →
    Forgotten (run (p ++ [.deregisterConnection connectionId])) connectionId

/-- A counter short of its wrap is read exactly. -/
theorem generation_of_read (hbound : bound < 2 ^ 64) (hleft : left ≤ bound) (hright : right ≤ bound)
    (h : UInt64.ofNat left = UInt64.ofNat right) : left = right := by
  have hnat := congrArg UInt64.toNat h
  rw [UInt64.toNat_ofNat', UInt64.toNat_ofNat', Nat.mod_eq_of_lt (by omega),
    Nat.mod_eq_of_lt (by omega)] at hnat
  exact hnat

theorem run_catalogLaw (ops : List (RegistryOp Role Capabilities Rest))
    (hfree : AllRegisterFree ops) (hbumps : (run ops).generation < 2 ^ 64) :
    CatalogLaw ops := by
  have hcount : ∀ p q, ops = p ++ q → (run p).generation ≤ (run ops).generation := by
    rintro p q rfl
    exact (run_listed p q hfree).1
  have hextends : ∀ p more q, ops = p ++ more ++ q →
      (run p).generation = (run (p ++ more)).generation →
      (listModules (run (p ++ more))).2 = (listModules (run p)).2 := by
    intro p more q hops heq
    have hshort : AllRegisterFree (p ++ more) := by
      rw [hops] at hfree
      exact ((throughout_append _ _).mp hfree).1
    exact sorted_entries_eq (run_registryInv _) (run_registryInv _)
      ((run_listed p more hshort).2 heq)
  constructor
  · intro p q p' q' hp hp' hread
    have heq := generation_of_read hbumps (hcount p q hp) (hcount p' q' hp') hread
    rcases append_eq_append_iff.mp (hp.symm.trans hp') with ⟨more, rfl, -⟩ | ⟨more, rfl, -⟩
    · exact (hextends p more q' hp' heq).symm
    · exact hextends p' more q hp heq.symm
  · intro p op q r connectionId hops hreserves hlater
    have hmark : connectionId ∈ (run (p ++ [op])).unpublished := by
      rw [run_append]
      exact reserves_marks hreserves
    have hkept := run_keepsMark (p ++ [op]) q hlater hmark
    rw [append_assoc, singleton_append] at hkept
    exact hidden_of_marked hkept
  · intro p q hops
    have hinv := run_registryInv p
    exact ⟨values_ids_nodup hinv.activeKeyed, values_ids_nodup hinv.candidateKeyed⟩
  · intro p connectionId q hops
    rw [run_append]
    exact deregistered_forgotten (run_registryInv p) (deregisterConnection_spec _)

/-- A HELLO for a module id, as a supervisor's child sends it. -/
def helloFor (moduleId : String) (connectionId : ConnectionId) (publish : Bool) :
    RegisterRequest Unit Unit Unit :=
  ⟨⟨moduleId, none, [], none, ()⟩, 1, connectionId, [], publish, true⟩

/-- A module is reserved and published, a candidate replaces it, and the old
connection goes away. -/
def swapRun : List (RegistryOp Unit Unit Unit) :=
  [.registerActive (helloFor "aft" 1 false), .publishRegistration 1,
    .registerCandidate (helloFor "aft" 2 true), .promoteCandidate "aft",
    .replaceCatalog 2 ⟨[()], none, some true⟩, .deregisterConnection 1]

theorem swapRun_catalogLaw :
    AllRegisterFree swapRun ∧ (run swapRun).generation = 3 ∧ CatalogLaw swapRun := by
  have hfree : AllRegisterFree swapRun := by decide
  have hbumps : (run swapRun).generation = 3 := by decide
  exact ⟨hfree, hbumps, run_catalogLaw swapRun hfree (by rw [hbumps]; decide)⟩

end Subconscious.RegistryCatalog
