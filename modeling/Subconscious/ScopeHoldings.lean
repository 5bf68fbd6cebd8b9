import Subconscious.ScopeSettling
import Subconscious.ScopeVersions

/-!
# What a table holds

Where a committed scope comes from: its record was held or is an accepted one
of the call, and its link was checked in the call or is the held one of the
same session. So the link state of every scope a run makes live fits its parent.
-/

namespace Subconscious.ScopeHoldings

open HashMaps TreeMaps ScopeRecords ScopeChanges ScopeTables ScopeChecks ScopeParents ScopeSync
open ScopeCommits ScopeRuns ScopeVersions ScopeStaging ScopeSettling

section committed

variable {scopeRef : String} (hrefs : (request.records.map ScopeRecord.scopeRef).Nodup)
  (h : (synced table request reads).state.live[scopeRef]? = some scope)
include hrefs h

/-- The record of a committed scope was held, or the call sent it and it was
not refused. -/
theorem committed_record :
    (∃ held, (sweptOwner table request reads).1.live[scopeRef]? = some held ∧
      held.record = scope.record) ∨
    ∃ index sent, stagingRefusal (sweptOwner table request reads).1
        (decide (request.owner ∈ table.authorityOwners)) reads request.refusals sent index = none ∧
      sent.scopeRef = scopeRef ∧ storedRecord sent = scope.record := by
  obtain ⟨-, hnext, -⟩ := live_of_commitOwner h
  obtain ⟨hsettling, -, -⟩ := settled_settling hrefs
  rcases hsettling.form.cases hnext with hheld | ⟨index, sent, hsent, href, hstored, haccepted⟩
  · exact .inl hheld
  refine .inr ⟨index, sent, ?_, href, hstored⟩
  cases hstaging : stagingRefusal (sweptOwner table request reads).1
      (decide (request.owner ∈ table.authorityOwners)) reads request.refusals sent index with
  | none => rfl
  | some refusal =>
    have hrefused := hsettling.staged index refusal (by
      have hsent' : request.records[index]? = some sent := hsent
      unfold stagingRefusals
      rw [hsent']
      exact hstaging)
    rw [haccepted] at hrefused
    cases hrefused

/-- Where the link of a committed scope comes from. -/
inductive LinkOrigin (table : ScopeTable) (request : ScopeChange) (reads : ScopeReads)
    (scopeRef : String) (scope : LiveScope) : Prop where
  /-- There is no parent. -/
  | none (hparent : scope.record.parent = .none) (hstate : scope.parentState = .none)
  /-- The call made or changed the link and checked it. -/
  | checked (parent : ScopeParent) (state : ParentState) (next : TreeMap String ScopeRecord)
      (hparent : scope.record.parent = some parent) (hstate : scope.parentState = some state)
      (hnew : (settled table request reads).newLinkStates.get scopeRef = some state)
      (hchecked : checkNewLink (others table request) request.owner parent next = .ok state)
  /-- The session and its parent were held. -/
  | kept (parent : ScopeParent) (held : LiveScope)
      (hheld : (sweptOwner table request reads).1.live[scopeRef]? = some held)
      (hepoch : held.record.scopeEpoch = scope.record.scopeEpoch)
      (hparent : held.record.parent = some parent) (hsame : scope.record.parent = some parent)
      (hstate : scope.parentState = held.parentState)

/-- A committed scope with a new link state was sent in the call, and its link was checked. -/
theorem committed_newLink
    (hnew : (settled table request reads).newLinkStates.get scopeRef = some state) :
    ∃ index sent parent next,
      MakesLink (linkContext table request reads) (settled table request reads).refusals index
        sent ∧ sent.scopeRef = scopeRef ∧ scope.record = storedRecord sent ∧
      scope.record.parent = some parent ∧
      checkNewLink (others table request) request.owner parent next = .ok state := by
  obtain ⟨-, hnext, -⟩ := live_of_commitOwner h
  obtain ⟨hsettling, -, -⟩ := settled_settling hrefs
  obtain ⟨index, sent, parent, next, hmakes, href, hparent, hchecked⟩ :=
    hsettling.states scopeRef state hnew
  have hform := hsettling.form.named index sent hmakes.sent
  rw [href, hmakes.accepted, hnext] at hform
  have hstored : scope.record = storedRecord sent := Option.some.inj hform
  exact ⟨index, sent, parent, next, hmakes, href, hstored, by rw [hstored]; exact hparent, hchecked⟩

/-- A new link state stands only for a link that was not held. -/
theorem newLink_not_held
    (hnew : (settled table request reads).newLinkStates.get scopeRef = some state)
    (hheld : (sweptOwner table request reads).1.live[scopeRef]? = some held)
    (hepoch : held.record.scopeEpoch = scope.record.scopeEpoch) :
    held.record.parent ≠ scope.record.parent := by
  obtain ⟨index, sent, parent, -, hmakes, href, hstored, hparent, -⟩ :=
    committed_newLink hrefs h hnew
  intro hsame
  have hlink : newLink (sweptOwner table request reads).1.live sent = true := hmakes.newLink
  have hsent : sent.parent = some parent := by
    rw [hstored] at hparent
    exact hparent
  unfold newLink at hlink
  rw [hsent, href, hheld] at hlink
  dsimp only at hlink
  rw [hepoch, hsame, hparent, hstored] at hlink
  simp [storedRecord] at hlink

/-- The link of a committed scope was checked in the call, or it was held. -/
theorem committed_link : LinkOrigin table request reads scopeRef scope := by
  obtain ⟨_, hnext, -, hscope, -⟩ := live_of_commitOwner h
  have hstate := commitRecord_parentState hscope
  obtain ⟨hsettling, hempty, -⟩ := settled_settling hrefs
  unfold committedParentState at hstate
  cases hparent : scope.record.parent with
  | none =>
    rw [hparent] at hstate
    exact .none hparent hstate
  | some parent =>
    rw [hparent] at hstate
    cases hnew : (settled table request reads).newLinkStates.get scopeRef with
    | some state =>
      rw [hnew] at hstate
      obtain ⟨-, -, sentParent, next, -, -, -, hsentParent, hchecked⟩ :=
        committed_newLink hrefs h hnew
      exact .checked sentParent state next hsentParent hstate hnew hchecked
    | none =>
      rw [hnew] at hstate
      rcases hsettling.form.cases hnext with
        ⟨held, hheld, hsame⟩ | ⟨index, sent, hsent, href, hstored, haccepted⟩
      · change (sweptOwner table request reads).1.live[scopeRef]? = some held at hheld
        rw [heldSession_of_held _ _ _ hheld (by rw [hsame])] at hstate
        exact .kept parent held hheld (by rw [hsame]) (by rw [hsame]; exact hparent) hparent hstate
      · have hnot : newLink (sweptOwner table request reads).1.live sent = false := by
          by_contra hlink
          refine hsettling.covered index sent ?_ ⟨hsent, haccepted, (Bool.not_eq_false _).mp hlink⟩ ?_
          · rw [hempty]
            exact List.not_mem_nil
          · rw [href]
            exact hnew
        have hsentParent : sent.parent = some parent := by
          rw [← hstored] at hparent
          exact hparent
        unfold newLink at hnot
        rw [hsentParent, href] at hnot
        cases hheld : (sweptOwner table request reads).1.live[scopeRef]? with
        | none =>
          rw [hheld] at hnot
          cases hnot
        | some held =>
          rw [hheld] at hnot
          rw [Bool.or_eq_false_iff, decide_eq_false_iff_not, decide_eq_false_iff_not, not_not,
            not_not] at hnot
          have hepoch : held.record.scopeEpoch = scope.record.scopeEpoch := by
            rw [hnot.1, ← hstored]
            rfl
          rw [heldSession_of_held _ _ _ hheld hepoch] at hstate
          exact .kept parent held hheld hepoch hnot.2 hparent hstate

end committed

/-- The link state of an owner's live scope fits its parent. -/
structure SoundScope (owner : String) (scope : LiveScope) : Prop where
  unlinked : scope.record.parent = none → scope.parentState = none
  linked : ∀ parent, scope.record.parent = some parent → scope.parentState ≠ none
  pending : ∀ parent, scope.record.parent = some parent → scope.parentState = some .pending →
    parent.owner ≠ .reserved owner

/-- Every live scope of the table is sound. -/
def Sound (table : ScopeTable) : Prop :=
  ∀ owner scopeRef scope, table.live? owner scopeRef = some scope →
    SoundScope owner scope

/-- The parts of a refusal that are asked in order. -/
theorem orElse_none {α : Type} {a b : Option α} (h : (a <|> b) = none) : a = none ∧ b = none := by
  cases a with
  | none => exact ⟨rfl, h⟩
  | some => cases h

/-- An accepted record passed the checks of its epoch and its deadline. -/
theorem stagingRefusal_none
    (h : stagingRefusal state authorized reads prepared record index = none) :
    tombstoneRefusal record state.tombstones = none ∧
      epochRefusal record state.live[record.scopeRef]? state.tombstones = none ∧
      expiryRefusal record state.live[record.scopeRef]? reads.now = none := by
  unfold stagingRefusal recordRefusal at h
  obtain ⟨-, h⟩ := orElse_none h
  obtain ⟨h, -⟩ := orElse_none h
  obtain ⟨-, h⟩ := orElse_none h
  obtain ⟨-, h⟩ := orElse_none h
  obtain ⟨htombstone, h⟩ := orElse_none h
  obtain ⟨hepoch, h⟩ := orElse_none h
  obtain ⟨-, hexpiry⟩ := orElse_none h
  exact ⟨htombstone, hepoch, hexpiry⟩

/-- A checked link is pending only towards another owner. -/
theorem checkNewLink_pending (h : checkNewLink table owner parent next = .ok .pending) :
    parent.owner ≠ .reserved owner := by
  intro howner
  unfold checkNewLink at h
  rw [howner] at h
  dsimp only [reservedModuleId] at h
  rw [if_neg (fun hand => hand.1 rfl)] at h
  split at h
  case h_1 => cases h
  split at h
  case isTrue => cases h
  case isFalse =>
    split at h
    case isTrue | isFalse => cases h

/-- A commit leaves every link state fitting. -/
theorem committed_sound (h : Sound table) (haccepts : Accepts table request reads) :
    Sound (committed table request reads) := by
  intro owner scopeRef scope hlive
  rcases live_of_committed hlive with ⟨-, hother⟩ | ⟨rfl, hsynced⟩
  · exact h owner scopeRef scope hother
  cases committed_link (checkCall_records haccepts.checked) hsynced with
  | none hparent hstate =>
    refine ⟨fun _ => hstate, ?_, ?_⟩ <;>
    · intro parent hsome
      rw [hparent] at hsome
      cases hsome
  | checked parent state next hparent hstate hnew hlink =>
    refine ⟨?_, ?_, ?_⟩
    · intro hnone
      rw [hparent] at hnone
      cases hnone
    · intro other _
      rw [hstate]
      exact Option.some_ne_none _
    intro other hother hpending
    rw [hparent] at hother
    cases hother
    rw [hstate] at hpending
    cases hpending
    exact checkNewLink_pending hlink
  | kept parent held hlive' hepoch hparent hsame hstate =>
    have hsound := h request.owner scopeRef held (live_of_expireOwner hlive')
    refine ⟨?_, ?_, ?_⟩
    · intro hnone
      rw [hsame] at hnone
      cases hnone
    · intro other _
      rw [hstate]
      exact hsound.linked parent hparent
    intro other hother hpending
    rw [hsame] at hother
    cases hother
    exact hsound.pending parent hparent (hstate ▸ hpending)

/-- A refresh settles a link that has a parent, and never to pending. -/
theorem linkUpdate_some (h : linkUpdate table parentOwner childOwner entry = some update) :
    ∃ parent, entry.2.record.parent = some parent ∧ parent.owner = .reserved parentOwner ∧
      update.settled = settledState table parentOwner childOwner entry.1 parent entry.2.parentState ∧
      some update.settled ≠ entry.2.parentState := by
  unfold linkUpdate at h
  split at h
  case h_1 => cases h
  rename_i parent hparent
  split at h
  case isTrue => cases h
  case isFalse howner =>
    dsimp only at h
    split at h
    case isTrue => cases h
    case isFalse hne =>
      cases h
      exact ⟨parent, hparent, not_not.mp howner, rfl, hne⟩

/-- A refresh leaves a link alone that stands as it settles. -/
theorem linkUpdate_none (h : linkUpdate table parentOwner childOwner entry = none)
    (hparent : entry.2.record.parent = some parent) (howner : parent.owner = .reserved parentOwner) :
    some (settledState table parentOwner childOwner entry.1 parent entry.2.parentState) =
      entry.2.parentState := by
  unfold linkUpdate at h
  rw [hparent] at h
  dsimp only at h
  rw [if_neg (not_not.mpr howner)] at h
  split at h
  case isTrue heq => exact heq
  case isFalse => cases h

/-- After a refresh every link into the refreshed owner is settled. -/
theorem refreshLinksTo_settled {table : ScopeTable} {scopeRef : String}
    (hlive : table.live? owner scopeRef = some was)
    (hparent : was.record.parent = some parent) (howner : parent.owner = .reserved parentOwner) :
    ((refreshLinksTo table parentOwner order changes).table.live? owner scopeRef).bind
        LiveScope.parentState =
      some (settledState table parentOwner owner scopeRef parent was.parentState) := by
  have hafter := refreshLinksTo_live parentOwner order changes hlive
  cases hupdate : linkUpdate table parentOwner owner (scopeRef, was) with
  | none =>
    rw [hupdate] at hafter
    rw [hafter]
    exact (linkUpdate_none hupdate hparent howner).symm
  | some update =>
    rw [hupdate] at hafter
    obtain ⟨version, -, -, hmoved⟩ := hafter
    obtain ⟨other, hother, -, hsettled, -⟩ := linkUpdate_some hupdate
    rw [hparent] at hother
    cases hother
    rw [hmoved]
    exact congrArg some hsettled

/-- A refresh leaves no link pending. -/
theorem settledState_ne_pending :
    settledState table parentOwner childOwner childRef parent current ≠ .pending := by
  unfold settledState
  dsimp only
  split
  case h_4 =>
    split <;> exact nofun
  all_goals exact nofun

/-- A refresh leaves every link state fitting. -/
theorem refreshLinksTo_sound (h : Sound table) :
    Sound (refreshLinksTo table parentOwner order changes).table := by
  intro owner scopeRef scope hlive
  cases hbefore : table.live? owner scopeRef with
  | none =>
    rw [refreshLinksTo_live_none table order changes owner scopeRef hbefore] at hlive
    cases hlive
  | some was =>
    have hsound := h owner scopeRef was hbefore
    have hafter := refreshLinksTo_live parentOwner order changes hbefore
    cases hupdate : linkUpdate table parentOwner owner (scopeRef, was) with
    | none =>
      rw [hupdate] at hafter
      rw [hafter] at hlive
      cases hlive
      exact hsound
    | some =>
      rw [hupdate] at hafter
      obtain ⟨version, -, -, hmoved⟩ := hafter
      rw [hmoved] at hlive
      cases hlive
      obtain ⟨parent, hparent, -, hsettled, -⟩ := linkUpdate_some hupdate
      refine ⟨?_, fun _ _ => Option.some_ne_none _, ?_⟩
      · intro hnone
        rw [hparent] at hnone
        cases hnone
      · intro other _ hpending
        rw [hsettled] at hpending
        exact absurd (Option.some.inj hpending) settledState_ne_pending

/-- A call leaves every link state fitting. -/
theorem apply_sound (h : Sound table) (op : ScopeOp) : Sound (op.apply table) := by
  refine apply_induction ?_
    (fun _ _ _ haccepts => refreshLinksTo_sound (committed_sound h haccepts))
    (fun _ _ _ _ h' => refreshLinksTo_sound h')
  intro table' _ hlive _ owner scopeRef scope hscope
  exact h owner scopeRef scope (hlive owner scopeRef scope hscope)

/-- In every run the link states fit. -/
theorem run_sound (authorityOwners : Finset String) (ops : List ScopeOp) :
    Sound (run authorityOwners ops) := by
  refine run_induction (motive := Sound) authorityOwners ?_ (fun _ op h => apply_sound h op) ops
  exact fun _ _ _ hlive => (not_live_new hlive).elim

variable {scopeRef : String}

/-- A held scope whose record is committed again as it is stays as it is. -/
theorem synced_same (hrefs : (request.records.map ScopeRecord.scopeRef).Nodup)
    (hheld : (sweptOwner table request reads).1.live[scopeRef]? = some held)
    (hunlinked : held.record.parent = none → held.parentState = none)
    (h : (synced table request reads).state.live[scopeRef]? = some scope)
    (hrecord : scope.record = held.record) : scope = held := by
  obtain ⟨_, -, -, hscope, -⟩ := live_of_commitOwner h
  have hnew : (settled table request reads).newLinkStates.get scopeRef = none := by
    cases hstate : (settled table request reads).newLinkStates.get scopeRef with
    | none => rfl
    | some =>
      exact absurd (by rw [hrecord]) (newLink_not_held hrefs h hstate hheld (by rw [hrecord]))
  have hsession := heldSession_of_held _ _ scope.record hheld (by rw [hrecord])
  have hstate : held.parentState = committedParentState scope.record (some held)
      ((settled table request reads).newLinkStates.get scopeRef) := by
    rw [hnew]
    unfold committedParentState
    cases hparent : scope.record.parent with
    | none => exact hunlinked (by rw [← hrecord]; exact hparent)
    | some => rfl
  rw [commitRecord_of_same _ _ _ hsession hrecord.symm hstate] at hscope
  exact hscope.symm

/-- Nothing a call commits is past its deadline. -/
theorem synced_unexpired (hrefs : (request.records.map ScopeRecord.scopeRef).Nodup)
    (h : (synced table request reads).state.live[scopeRef]? = some scope) :
    scope.passedDeadline reads.now = none := by
  have hswept : ∀ (scopeRef : String) held,
      (sweptOwner table request reads).1.live[scopeRef]? = some held →
        held.record.expiresAtMs.filter (fun deadline => deadline ≤ reads.now) = none := by
    intro scopeRef held hheld
    unfold sweptOwner at hheld
    rw [expireOwner_live] at hheld
    exact Option.isNone_iff_eq_none.mp (Option.filter_eq_some_iff.mp hheld).2
  unfold LiveScope.passedDeadline
  rcases committed_record hrefs h with ⟨held, hheld, hrecord⟩ | ⟨index, sent, hsent, -, hrecord⟩
  · rw [← hrecord]
    exact hswept scopeRef held hheld
  rw [← hrecord]
  change sent.expiresAtMs.filter _ = none
  obtain ⟨-, -, hexpiry⟩ := stagingRefusal_none hsent
  unfold expiryRefusal at hexpiry
  dsimp only at hexpiry
  split at hexpiry
  case h_1 held hheld =>
    split at hexpiry
    case isTrue => cases hexpiry
    case isFalse hsame =>
      rw [← not_not.mp hsame]
      exact hswept _ held (Option.filter_eq_some_iff.mp hheld).1
  split at hexpiry
  case h_1 hnone =>
    rw [hnone]
    rfl
  case h_2 deadline hdeadline =>
    split at hexpiry
    case isTrue => cases hexpiry
    case isFalse hahead =>
      rw [hdeadline]
      simpa using hahead

/-- What a sync or a delta leaves with the record and the link state it had
keeps its version. -/
theorem change_same (hsound : Sound table) (h : table.live? owner scopeRef = some scope)
    (h' : (ScopeSync.change table request reads).1.live? owner scopeRef = some scope')
    (hrecord : scope'.record = scope.record) (hstate : scope'.parentState = scope.parentState) :
    scope' = scope := by
  by_cases haccepts : Accepts table request reads
  · rw [change_of_accepts haccepts] at h'
    have hrefs := checkCall_records haccepts.checked
    have hsame : (committed table request reads).live? owner scopeRef = some scope := by
      have hrecords := refreshLinksTo_record (committed table request reads) request.owner
        reads.order (synced table request reads).applied.tagChanges owner scopeRef
      change (refreshLinksTo (committed table request reads) request.owner reads.order
        (synced table request reads).applied.tagChanges).table.live? owner scopeRef =
          some scope' at h'
      rw [h', Option.map_some] at hrecords
      obtain ⟨mid, hmid, hmidRecord⟩ := Option.map_eq_some_iff.mp hrecords.symm
      unfold ScopeTable.live? at hmid ⊢
      rw [committed_owner] at hmid ⊢
      split at hmid
      case isFalse hne =>
        rw [if_neg hne]
        exact h
      rename_i howner
      rw [if_pos howner]
      have hheld : (sweptOwner table request reads).1.live[scopeRef]? = some scope := by
        unfold sweptOwner
        rw [expireOwner_live, ← howner]
        refine Option.filter_eq_some_iff.mpr ⟨h, ?_⟩
        have hunexpired : scope.passedDeadline reads.now = none := by
          unfold LiveScope.passedDeadline
          rw [← hrecord, ← hmidRecord]
          exact synced_unexpired hrefs hmid
        rw [hunexpired]
        rfl
      have hkept := synced_same hrefs hheld (hsound owner scopeRef scope h).unlinked hmid
        (hmidRecord.trans hrecord)
      rw [hkept] at hmid
      exact hmid
    have hafter := refreshLinksTo_live request.owner reads.order
      (synced table request reads).applied.tagChanges hsame
    cases hupdate : linkUpdate (committed table request reads) request.owner owner
        (scopeRef, scope) with
    | none =>
      rw [hupdate] at hafter
      exact Option.some.inj (h'.symm.trans hafter)
    | some update =>
      rw [hupdate] at hafter
      obtain ⟨version, -, -, hmoved⟩ := hafter
      have hscope := Option.some.inj (h'.symm.trans hmoved)
      obtain ⟨-, -, -, -, hne⟩ := linkUpdate_some hupdate
      rw [hscope] at hstate
      exact absurd hstate hne
  · rw [refused_live haccepts, h] at h'
    exact (Option.some.inj h').symm

end Subconscious.ScopeHoldings
