import Subconscious.ScopeHoldings
import Subconscious.ScopeTags

/-!
# What a refusal leaves alone

A call refused whole leaves the table as it was and publishes nothing. A
record refused in an accepted call leaves its scope as the call's own sweep
left it, with one exception: when the call ends the parent the scope is linked
to, the link ends with it.
-/

namespace Subconscious.ScopeRefusals

open TreeMaps ScopeRecords ScopeChanges ScopeTables ScopeChecks ScopeSync ScopeCommits
open ScopeRuns ScopeVersions ScopeStaging ScopeSettling ScopeHoldings ScopeTags

/-- Two tables that answer every question alike. -/
structure SameTable (table table' : ScopeTable) : Prop where
  owners : ∀ owner, table'.owner owner = table.owner owner
  lastVersion : table'.lastVersion = table.lastVersion
  authorityOwners : table'.authorityOwners = table.authorityOwners

variable {index : Nat}

/-- A call refused whole changes nothing. -/
theorem change_error_same (h : (change table request reads).2 = .error refusal) :
    SameTable table (change table request reads).1 ∧
      (ScopeOp.change request reads).tagChanges table = [] := by
  refine ⟨?_, ?_⟩
  · by_cases haccepts : Accepts table request reads
    · rw [change_of_accepts haccepts] at h
      cases h
    have howner := refused_owner haccepts
    obtain ⟨found, hrefused⟩ := change_of_refused haccepts
    rw [hrefused] at howner ⊢
    exact ⟨howner, rfl, rfl⟩
  · unfold ScopeOp.tagChanges
    dsimp only
    rw [h]

/-- The scope is linked to one of the same owner that is no longer live. -/
def ParentGone (table : ScopeTable) (owner : String) (scope : LiveScope) : Prop :=
  scope.parentState = some .linked ∧
    ∃ parent, scope.record.parent = some parent ∧ parent.owner = .reserved owner ∧
      ∀ up, table.live? owner parent.scopeRef = some up → up.record.scopeEpoch ≠ parent.scopeEpoch

/-- What a call leaves of a scope it did not change: the scope itself and no
tag change, or only an ended link when it ended the parent. -/
def Untouched (table : ScopeTable) (changes : List ScopeTagChange) (table' : ScopeTable)
    (owner scopeRef : String) (held : Option LiveScope) : Prop :=
  match held with
  | none => table'.live? owner scopeRef = none
  | some scope =>
    (¬ ParentGone table' owner scope → table'.live? owner scopeRef = some scope ∧
      (owner, scopeRef) ∉ changes.map ScopeTagChange.key) ∧
    (ParentGone table' owner scope → ∃ version, table.lastVersion < version ∧
      table'.live? owner scopeRef =
        some { scope with parentState := some .ended, version := version })

/-- A result says refused only when a refusal stands. -/
theorem recordResult_refused (h : (recordResult old live refusals entry).outcome = .refused) :
    ∃ refusal, refusals.get entry.2 = some refusal := by
  cases hget : refusals.get entry.2 with
  | some refusal => exact ⟨refusal, rfl⟩
  | none =>
    unfold recordResult at h
    rw [hget] at h
    dsimp only at h
    split at h
    case h_1 => cases h
    split at h
    case isTrue => cases h
    case isFalse =>
      split at h <;> cases h

/-- Reading a result again makes no refusal. -/
theorem refreshedResult_refused
    (h : (refreshedResult owner live changes result).outcome = .refused) :
    result.outcome = .refused := by
  unfold refreshedResult at h
  split at h
  case isTrue => cases h
  case isFalse => exact h

section

variable (hrecord : request.records[index]? = some record)
  (hresult : ((synced table request reads).applied.results.map
    (refreshedResult request.owner live changes))[index]? = some result)
include hrecord hresult

/-- The result of a record is made from its refusal, if it has one. -/
theorem result_eq : result = refreshedResult request.owner live changes
    (recordResult (sweptOwner table request reads).1.live (synced table request reads).state.live
      (settled table request reads).refusals (record, index)) := by
  have hresults : (synced table request reads).applied.results =
      request.records.zipIdx.map (recordResult (sweptOwner table request reads).1.live
        (synced table request reads).state.live (settled table request reads).refusals) := rfl
  rw [hresults, List.getElem?_map, List.getElem?_map, List.getElem?_zipIdx, hrecord] at hresult
  simp only [Option.map_some, Option.some.injEq, Nat.zero_add] at hresult
  exact hresult.symm

/-- No refusal stands for a record whose result says anything else. -/
theorem unrefused_of_result (haccepted : result.outcome ≠ .refused) :
    (settled table request reads).refusals.get index = none := by
  cases hget : (settled table request reads).refusals.get index with
  | none => rfl
  | some =>
    refine absurd ?_ haccepted
    rw [result_eq hrecord hresult]
    unfold recordResult refreshedResult
    rw [hget]
    rfl

end

section record

variable (hrefs : (request.records.map ScopeRecord.scopeRef).Nodup)
  (hrecord : request.records[index]? = some record)
  (hrefused : (settled table request reads).refusals.get index = some refusal)
include hrefs hrecord hrefused

/-- No link state stands for a refused record. -/
theorem newLinkStates_of_refused :
    (settled table request reads).newLinkStates.get record.scopeRef = none := by
  cases hstate : (settled table request reads).newLinkStates.get record.scopeRef with
  | none => rfl
  | some =>
    obtain ⟨hsettling, -, -⟩ := settled_settling hrefs
    obtain ⟨other, sent, -, -, hmakes, href, -⟩ := hsettling.states _ _ hstate
    have hindex := index_eq_of_ref hrefs hmakes.sent hrecord href
    subst hindex
    rw [hmakes.accepted] at hrefused
    cases hrefused

/-- The commit leaves the scope of a refused record as the sweep left it. -/
theorem committed_of_refused (hsound : Sound table) :
    (committed table request reads).live? request.owner record.scopeRef =
      (sweptOwner table request reads).1.live[record.scopeRef]? := by
  have hlive : (committed table request reads).live? request.owner record.scopeRef =
      (synced table request reads).state.live[record.scopeRef]? := by
    unfold ScopeTable.live?
    rw [committed_owner, if_pos rfl]
  obtain ⟨hsettling, -, -⟩ := settled_settling hrefs
  have hnext : (settled table request reads).next[record.scopeRef]? =
      (sweptOwner table request reads).1.live[record.scopeRef]?.map LiveScope.record := by
    have hnamed := hsettling.form.named index record hrecord
    rw [hrefused] at hnamed
    exact hnamed
  have hrecords := commitOwner_records request (table.owner request.owner).live
    (sweptOwner table request reads) (settled table request reads) table.lastVersion record.scopeRef
  rw [hnext] at hrecords
  rw [hlive]
  cases hheld : (sweptOwner table request reads).1.live[record.scopeRef]? with
  | none =>
    rw [hheld] at hrecords
    exact Option.map_eq_none_iff.mp hrecords
  | some scope =>
    rw [hheld] at hrecords
    obtain ⟨found, hfound, hsame⟩ := Option.map_eq_some_iff.mp hrecords
    obtain ⟨drawn, -, -, hcommitted, -⟩ := live_of_commitOwner hfound
    rw [hsame] at hcommitted
    have hsession := heldSession_of_held _ _ scope.record hheld rfl
    have hscope := hsound request.owner record.scopeRef scope (live_of_expireOwner hheld)
    have hsame := commitRecord_of_same
      record.scopeRef scope.record drawn hsession rfl (by
        rw [newLinkStates_of_refused hrefs hrecord hrefused]
        unfold committedParentState
        cases hparent : scope.record.parent with
        | none => exact hscope.unlinked hparent
        | some => rfl)
    rw [hsame] at hcommitted
    rw [← hcommitted] at hfound
    exact hfound

end record

/-- A link into the own scopes moves in a refresh exactly when its parent is gone. -/
theorem linkUpdate_own (hsound : SoundScope owner scope)
    (hrecords : ∀ other, (table'.live? owner other).map LiveScope.record =
      (table.live? owner other).map LiveScope.record) :
    (¬ ParentGone table' owner scope → linkUpdate table owner owner (scopeRef, scope) = none) ∧
      (ParentGone table' owner scope →
        linkUpdate table owner owner (scopeRef, scope) = some ⟨owner, scopeRef, .ended⟩) := by
  have hparentRecord : ∀ parent : ScopeParent, ((table.live? owner parent.scopeRef).filter fun up =>
        decide (up.record.scopeEpoch = parent.scopeEpoch)) = none ↔
      ∀ up, table'.live? owner parent.scopeRef = some up →
        up.record.scopeEpoch ≠ parent.scopeEpoch := by
    intro parent
    have hsame := hrecords parent.scopeRef
    rw [Option.filter_eq_none_iff]
    constructor
    · intro hnone up hup hepoch
      rw [hup, Option.map_some] at hsame
      obtain ⟨was, hwas, hrecord⟩ := Option.map_eq_some_iff.mp hsame.symm
      refine hnone was hwas (decide_eq_true ?_)
      rw [hrecord]
      exact hepoch
    · intro hgone up hup hepoch
      rw [hup, Option.map_some] at hsame
      obtain ⟨was, hwas, hrecord⟩ := Option.map_eq_some_iff.mp hsame
      refine hgone was hwas ?_
      rw [hrecord]
      exact of_decide_eq_true hepoch
  constructor
  · intro hnot
    cases hupdate : linkUpdate table owner owner (scopeRef, scope) with
    | none => rfl
    | some =>
      exfalso
      obtain ⟨parent, hparent, howner, hsettled, hne⟩ := linkUpdate_some hupdate
      rw [hsettled] at hne
      cases hstate : scope.parentState with
      | none => exact hsound.linked parent hparent hstate
      | some state =>
        rw [hstate] at hne
        cases state with
        | pending => exact hsound.pending parent hparent hstate howner
        | ended => exact hne rfl
        | linked =>
          refine hnot ⟨hstate, parent, hparent, howner, (hparentRecord parent).mp ?_⟩
          cases hfilter : (table.live? owner parent.scopeRef).filter fun up =>
              decide (up.record.scopeEpoch = parent.scopeEpoch) with
          | none => rfl
          | some up =>
            refine absurd ?_ hne
            unfold settledState
            rw [hfilter]
            rfl
  · rintro ⟨hstate, parent, hparent, howner, hgone⟩
    have hfilter := (hparentRecord parent).mpr hgone
    unfold linkUpdate settledState
    rw [hparent]
    dsimp only
    rw [if_neg (not_not.mpr howner), hfilter, hstate]
    rfl

/-- An accepted call leaves the scope of a refused record alone. -/
theorem refused_untouched (hsound : Sound table) (hversioned : Versioned table)
    (haccepts : Accepts table request reads) (hrecord : request.records[index]? = some record)
    (hrefused : (settled table request reads).refusals.get index = some refusal) :
    Untouched table (refreshed table request reads).tagChanges (refreshed table request reads).table
      request.owner record.scopeRef (sweptOwner table request reads).1.live[record.scopeRef]? := by
  have hrefs := checkCall_records haccepts.checked
  have hcommitted := committed_of_refused hrefs hrecord hrefused hsound
  unfold Untouched
  cases hheld : (sweptOwner table request reads).1.live[record.scopeRef]? with
  | none =>
    rw [hheld] at hcommitted
    exact refreshLinksTo_live_none _ _ _ _ _ hcommitted
  | some scope =>
    rw [hheld] at hcommitted
    have hbefore := live_of_expireOwner hheld
    have hscope := hsound request.owner record.scopeRef scope hbefore
    obtain ⟨hkeeps, hends⟩ := linkUpdate_own hscope
      (fun other => refreshLinksTo_record (committed table request reads) request.owner reads.order
        (synced table request reads).applied.tagChanges request.owner other)
    have hafter := refreshLinksTo_live request.owner reads.order
      (synced table request reads).applied.tagChanges hcommitted
    refine ⟨?_, ?_⟩
    · intro hnot
      rw [hkeeps hnot] at hafter
      refine ⟨hafter, ?_⟩
      intro hmem
      obtain ⟨change, hchange, hkey⟩ := List.mem_map.mp hmem
      have hmoved := apply_tagsMoved hversioned (.change request reads)
      unfold ScopeOp.tagChanges ScopeOp.apply at hmoved
      dsimp only at hmoved
      rw [change_of_accepts haccepts] at hmoved
      obtain ⟨hold, hnew, hne⟩ := hmoved.sound change hchange
      have howner : change.owner = request.owner := congrArg Prod.fst hkey
      have href : change.scopeRef = record.scopeRef := congrArg Prod.snd hkey
      rw [howner, href] at hold hnew
      refine hne (hold.trans (Eq.trans ?_ hnew.symm))
      unfold tagAt
      rw [show table.live? request.owner record.scopeRef = some scope from hbefore]
      exact congrArg (Option.map LiveScope.tag) hafter.symm
    · intro hgone
      rw [hends hgone] at hafter
      obtain ⟨version, hlt, -, hmoved⟩ := hafter
      have hle := (committed_fresh table request reads).le
      exact ⟨version, by omega, hmoved⟩

/-- A whole-call refusal changes nothing and publishes nothing, and a record
refused in an accepted call leaves its scope alone but for a parent the call ended. -/
theorem refusals_leave_table :
    (∀ table request reads refusal, (change table request reads).2 = .error refusal →
      SameTable table (change table request reads).1 ∧
        (ScopeOp.change request reads).tagChanges table = []) ∧
    ∀ authorityOwners ops request reads applied,
      (change (run authorityOwners ops) request reads).2 = .ok applied →
      ∀ (index : Nat) record result, request.records[index]? = some record →
        applied.results[index]? = some result → result.outcome = .refused →
        Untouched (run authorityOwners ops) applied.tagChanges
          (change (run authorityOwners ops) request reads).1 request.owner record.scopeRef
          (sweptOwner (run authorityOwners ops) request reads).1.live[record.scopeRef]? := by
  refine ⟨fun table request reads refusal => change_error_same, ?_⟩
  intro authorityOwners ops request reads applied happlied index record result hrecord hresult
    hrefused
  have haccepts := accepts_of_ok happlied
  rw [change_of_accepts haccepts] at happlied ⊢
  cases happlied
  rw [result_eq hrecord hresult] at hrefused
  obtain ⟨refusal, hrefusal⟩ := recordResult_refused (refreshedResult_refused hrefused)
  exact refused_untouched (run_sound authorityOwners ops) (run_versioned authorityOwners ops)
    haccepts hrecord hrefusal

/-- A parent and a child linked to it. -/
def linkedPair : List ScopeRecord :=
  [.new "parent" 1 .head,
    { ScopeRecord.new "child" 1 .worker with parent := some ⟨.reserved "owner", "parent", 1⟩ }]

/-- The sync that makes both live. -/
def syncLinkedPair : ScopeOp := .change (callBy "owner" 1 linkedPair none) (idleAt 0)

/-- A delta that ends the parent and sends the child with an epoch below its own. -/
def endParent : ScopeChange := callBy "owner" 2 [.new "child" 0 .worker] (some [⟨"parent", 1⟩])

/-- The delta refuses the child's record, and yet the child's scope is another
one after the call than after its sweep. -/
theorem endParent_moves_refused_child :
    ((change (run ∅ [syncLinkedPair]) endParent (idleAt 1)).2.toOption.map fun applied =>
      applied.results.map ScopeRecordResult.outcome) = some [.refused] ∧
    ((change (run ∅ [syncLinkedPair]) endParent (idleAt 1)).1.live? "owner" "child").map
      LiveScope.version = some 3 ∧
    (sweptOwner (run ∅ [syncLinkedPair]) endParent (idleAt 1)).1.live["child"]?.map
      LiveScope.version = some 1 := by
  set_option maxRecDepth 8000 in
  decide

/-- The theorem at a stale generation and at the delta above. -/
theorem refusals_leave_table_linkedPair :
    (∃ refusal, (change (run ∅ [syncLinkedPair]) (callBy "owner" 1 [] none) (idleAt 1)).2 =
        .error refusal ∧
      SameTable (run ∅ [syncLinkedPair])
        (change (run ∅ [syncLinkedPair]) (callBy "owner" 1 [] none) (idleAt 1)).1) ∧
    ∃ applied result, (change (run ∅ [syncLinkedPair]) endParent (idleAt 1)).2 = .ok applied ∧
      applied.results[0]? = some result ∧ result.outcome = .refused ∧
      Untouched (run ∅ [syncLinkedPair]) applied.tagChanges
        (change (run ∅ [syncLinkedPair]) endParent (idleAt 1)).1 "owner" "child"
        (sweptOwner (run ∅ [syncLinkedPair]) endParent (idleAt 1)).1.live["child"]? := by
  constructor
  · have hstale : (change (run ∅ [syncLinkedPair]) (callBy "owner" 1 [] none)
        (idleAt 1)).2.toOption.isNone = true := by
      set_option maxRecDepth 8000 in
      decide
    cases h : (change (run ∅ [syncLinkedPair]) (callBy "owner" 1 [] none) (idleAt 1)).2 with
    | ok =>
      rw [h] at hstale
      cases hstale
    | error refusal => exact ⟨refusal, rfl, (refusals_leave_table.1 _ _ _ _ h).1⟩
  · have houtcome : ((change (run ∅ [syncLinkedPair]) endParent (idleAt 1)).2.toOption.map
        fun applied => applied.results.map ScopeRecordResult.outcome) = some [.refused] := by
      set_option maxRecDepth 8000 in
      decide
    cases h : (change (run ∅ [syncLinkedPair]) endParent (idleAt 1)).2 with
    | error =>
      rw [h] at houtcome
      cases houtcome
    | ok applied =>
      rw [h] at houtcome
      have hlist : applied.results.map ScopeRecordResult.outcome = [.refused] :=
        Option.some.inj houtcome
      have hfirst : (applied.results.map ScopeRecordResult.outcome)[0]? = some .refused := by
        rw [hlist]
        rfl
      rw [List.getElem?_map] at hfirst
      obtain ⟨result, hresult, hrefused⟩ := Option.map_eq_some_iff.mp hfirst
      exact ⟨applied, result, rfl, hresult, hrefused,
        refusals_leave_table.2 ∅ [syncLinkedPair] endParent (idleAt 1) applied h 0
          (.new "child" 0 .worker) result rfl hresult hrefused⟩

end Subconscious.ScopeRefusals
