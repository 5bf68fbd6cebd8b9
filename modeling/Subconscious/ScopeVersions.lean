import Subconscious.ScopeRuns

/-!
# Versions of live scopes

Every version is drawn from one counter of the whole table. A live scope after
a call is the one before the call, or its version lies above everything the
counter had given out. No version is held by two scopes.
-/

namespace Subconscious.ScopeVersions

open TreeMaps ScopeRecords ScopeChanges ScopeTables ScopeChecks ScopeSync ScopeCommits
open ScopeRuns

/-- What is live afterwards was live as it is, or has a new version. -/
structure Fresh (table table' : ScopeTable) : Prop where
  le : table.lastVersion ≤ table'.lastVersion
  live : ∀ owner scopeRef scope, table'.live? owner scopeRef = some scope →
    table.live? owner scopeRef = some scope ∨
      (table.lastVersion < scope.version ∧ scope.version ≤ table'.lastVersion)

/-- The counter bounds every version, and no version is held twice. -/
structure Versioned (table : ScopeTable) : Prop where
  bounded : ∀ owner scopeRef scope, table.live? owner scopeRef = some scope →
    scope.version ≤ table.lastVersion
  distinct : ∀ owner scopeRef scope owner' scopeRef' scope',
    table.live? owner scopeRef = some scope → table.live? owner' scopeRef' = some scope' →
    scope.version = scope'.version → owner = owner' ∧ scopeRef = scopeRef'

/-- A table is fresh over itself. -/
theorem Fresh.refl (table : ScopeTable) : Fresh table table :=
  ⟨le_refl _, fun _ _ _ hlive => .inl hlive⟩

/-- What is fresh over a fresh table is fresh. -/
theorem Fresh.trans (hab : Fresh a b) (hbc : Fresh b c) : Fresh a c := by
  refine ⟨le_trans hab.le hbc.le, ?_⟩
  intro owner scopeRef scope hlive
  have hle := hab.le
  have hle' := hbc.le
  rcases hbc.live owner scopeRef scope hlive with hkept | ⟨hnew, hbound⟩
  · rcases hab.live owner scopeRef scope hkept with hfirst | ⟨hnew, hbound⟩
    · exact .inl hfirst
    · exact .inr ⟨hnew, by omega⟩
  · exact .inr ⟨by omega, hbound⟩

/-- Scopes that go leave the others their versions. -/
theorem Versioned.subset (h : Versioned table) (hlast : table'.lastVersion = table.lastVersion)
    (hlive : ∀ owner scopeRef scope, table'.live? owner scopeRef = some scope →
      table.live? owner scopeRef = some scope) : Versioned table' := by
  constructor
  · intro owner scopeRef scope hscope
    rw [hlast]
    exact h.bounded owner scopeRef scope (hlive _ _ _ hscope)
  · intro owner scopeRef scope owner' scopeRef' scope' hscope hscope'
    exact h.distinct owner scopeRef scope owner' scopeRef' scope' (hlive _ _ _ hscope)
      (hlive _ _ _ hscope')

/-- A fresh step keeps versions apart when the new ones are apart. -/
theorem Versioned.fresh (h : Versioned table) (hfresh : Fresh table table')
    (hdistinct : ∀ owner scopeRef scope owner' scopeRef' scope',
      table'.live? owner scopeRef = some scope → table'.live? owner' scopeRef' = some scope' →
      table.lastVersion < scope.version → scope.version = scope'.version →
      owner = owner' ∧ scopeRef = scopeRef') : Versioned table' := by
  have hle := hfresh.le
  constructor
  · intro owner scopeRef scope hscope
    rcases hfresh.live owner scopeRef scope hscope with hkept | ⟨-, hbound⟩
    · have hold := h.bounded owner scopeRef scope hkept
      omega
    · exact hbound
  intro owner scopeRef scope owner' scopeRef' scope' hscope hscope' heq
  by_cases hnew : table.lastVersion < scope.version
  · exact hdistinct _ _ _ _ _ _ hscope hscope' hnew heq
  rcases hfresh.live owner scopeRef scope hscope with hkept | ⟨hlt, -⟩
  · rcases hfresh.live owner' scopeRef' scope' hscope' with hkept' | ⟨hlt, -⟩
    · exact h.distinct _ _ _ _ _ _ hkept hkept' heq
    · omega
  · omega

variable (authorityOwners : Finset String)

/-- What is live in the committed owner is held, or new. -/
theorem synced_live (h : (synced table request reads).state.live[scopeRef]? = some scope) :
    table.live? request.owner scopeRef = some scope ∨
      (table.lastVersion < scope.version ∧
        scope.version ≤ (synced table request reads).lastVersion) := by
  obtain ⟨drawn, -, hdrawn, hscope, hbound⟩ := live_of_commitOwner h
  rcases commitRecord_kept_or_fresh hscope with ⟨hkept, -⟩ | ⟨hversion, hlast⟩
  · exact .inl (live_of_expireOwner hkept)
  refine .inr ⟨by omega, ?_⟩
  rw [hversion, ← hlast]
  exact hbound

/-- A commit draws every version it gives. -/
theorem committed_fresh (table : ScopeTable) (request : ScopeChange) (reads : ScopeReads) :
    Fresh table (committed table request reads) := by
  refine ⟨commitOwner_le request (table.owner request.owner).live _ _ _, ?_⟩
  intro owner scopeRef scope hlive
  rcases live_of_committed hlive with ⟨-, hother⟩ | ⟨rfl, hsynced⟩
  · exact .inl hother
  · exact synced_live hsynced

/-- A commit keeps versions apart: only the calling owner has new ones, and it
never repeats one. -/
theorem committed_versioned (h : Versioned table) (request : ScopeChange)
    (reads : ScopeReads) : Versioned (committed table request reads) := by
  refine h.fresh (committed_fresh table request reads) ?_
  intro owner scopeRef scope owner' scopeRef' scope' hscope hscope' hnew heq
  have hown : ∀ o r s, (committed table request reads).live? o r = some s →
      table.lastVersion < s.version → o = request.owner := by
    intro o r s hs hlt
    rcases live_of_committed hs with ⟨-, hs⟩ | ⟨howner, -⟩
    · have hold := h.bounded o r s hs
      omega
    · exact howner
  have howner := hown owner scopeRef scope hscope hnew
  have howner' := hown owner' scopeRef' scope' hscope' (by omega)
  subst howner
  subst howner'
  refine ⟨rfl, ?_⟩
  have hmem : ∀ r s, (committed table request reads).live? request.owner r = some s →
      (r, s) ∈ (commitRecords (sweptOwner table request reads).1.live
        (settled table request reads).newLinkStates (settled table request reads).next.toList
        table.lastVersion).1 := by
    intro r s hs
    unfold ScopeTable.live? at hs
    rw [committed_owner, if_pos rfl] at hs
    exact (get_ofList (commitOwner_nodup _ _ _)).mp hs
  have hold : ∀ (r : String) held, (sweptOwner table request reads).1.live[r]? = some held →
      held.version ≤ table.lastVersion := by
    intro r held hheld
    exact h.bounded request.owner r held (live_of_expireOwner hheld)
  exact commitRecords_distinct hold (hmem scopeRef scope hscope) (hmem scopeRef' scope' hscope')
    hnew heq

/-- A live scope after a refresh is the one before, or one of the updated ones. -/
theorem LinksMoved.live (h : LinksMoved table updates table')
    (hupdates : ∀ update ∈ updates,
      ∃ scope, table.live? update.childOwner update.childRef = some scope)
    (hlive : table'.live? owner scopeRef = some scope) :
    table.live? owner scopeRef = some scope ∨
      ∃ update ∈ updates, LinkUpdate.key update = (owner, scopeRef) ∧
        table.lastVersion < scope.version ∧ scope.version ≤ table'.lastVersion := by
  by_cases hmem : (owner, scopeRef) ∈ updates.map LinkUpdate.key
  · obtain ⟨update, hupdate, hkey⟩ := List.mem_map.mp hmem
    obtain ⟨was, hwas⟩ := hupdates update hupdate
    obtain ⟨version, hlt, hbound, hmoved⟩ := h.moved update hupdate was hwas
    cases update
    cases hkey
    rw [hlive] at hmoved
    cases hmoved
    exact .inr ⟨_, hupdate, rfl, hlt, hbound⟩
  · rw [h.kept owner scopeRef hmem] at hlive
    exact .inl hlive

/-- Every update is of a live scope. -/
theorem linkUpdates_live : ∀ update ∈ linkUpdates table parentOwner order,
    ∃ scope, table.live? update.childOwner update.childRef = some scope := by
  intro update hmem
  obtain ⟨was, hwas, -⟩ := mem_linkUpdates.mp hmem
  exact ⟨was, hwas⟩

/-- A refresh draws every version it gives. -/
theorem refreshLinksTo_fresh :
    Fresh table (refreshLinksTo table parentOwner order changes).table := by
  have hmoved := refreshLinksTo_moved table parentOwner order changes
  refine ⟨hmoved.le, ?_⟩
  intro owner scopeRef scope hlive
  rcases LinksMoved.live hmoved linkUpdates_live hlive with hkept | ⟨update, -, -, hnew⟩
  · exact .inl hkept
  · exact .inr hnew

/-- A refresh keeps versions apart. -/
theorem refreshLinksTo_versioned (h : Versioned table) :
    Versioned (refreshLinksTo table parentOwner order changes).table := by
  have hmoved := refreshLinksTo_moved table parentOwner order changes
  refine h.fresh refreshLinksTo_fresh ?_
  intro owner scopeRef scope owner' scopeRef' scope' hscope hscope' hnew heq
  have hupdated : ∀ o r s, (refreshLinksTo table parentOwner order changes).table.live? o r =
      some s → table.lastVersion < s.version →
      ∃ update ∈ linkUpdates table parentOwner order, LinkUpdate.key update = (o, r) := by
    intro o r s hs hlt
    rcases LinksMoved.live hmoved linkUpdates_live hs with hkept | ⟨update, hmem, hkey, -⟩
    · have hold := h.bounded o r s hkept
      omega
    · exact ⟨update, hmem, hkey⟩
  obtain ⟨update, hmem, hkey⟩ := hupdated owner scopeRef scope hscope hnew
  obtain ⟨update', hmem', hkey'⟩ := hupdated owner' scopeRef' scope' hscope' (by omega)
  cases update
  cases update'
  cases hkey
  cases hkey'
  have hsame := hmoved.distinct _ hmem _ hmem' scope scope' hscope hscope' heq
  exact ⟨congrArg Prod.fst hsame, congrArg Prod.snd hsame⟩

/-- A live scope shares the counters of the session it continues, or has new ones. -/
structure CellsFresh (table table' : ScopeTable) : Prop where
  le : table.lastVersion ≤ table'.lastVersion
  live : ∀ owner scopeRef scope', table'.live? owner scopeRef = some scope' →
    (∃ scope, table.live? owner scopeRef = some scope ∧ scope.cells = scope'.cells ∧
      scope.record.scopeEpoch = scope'.record.scopeEpoch) ∨
    (table.lastVersion < scope'.cells ∧ scope'.cells ≤ table'.lastVersion)

/-- Counters that are new or continued twice are new or continued. -/
theorem CellsFresh.trans (hab : CellsFresh a b) (hbc : CellsFresh b c) : CellsFresh a c := by
  refine ⟨le_trans hab.le hbc.le, ?_⟩
  intro owner scopeRef scope'' hlive
  have hle := hab.le
  have hle' := hbc.le
  rcases hbc.live owner scopeRef scope'' hlive with ⟨scope', hlive', hcells, hepoch⟩ | hnew
  · rcases hab.live owner scopeRef scope' hlive' with ⟨scope, hscope, hcells', hepoch'⟩ | hnew
    · exact .inl ⟨scope, hscope, hcells'.trans hcells, hepoch'.trans hepoch⟩
    · rw [hcells] at hnew
      exact .inr ⟨hnew.1, le_trans hnew.2 hle'⟩
  · exact .inr ⟨lt_of_le_of_lt hle hnew.1, hnew.2⟩

/-- Scopes that go leave the others their counters. -/
theorem cellsFresh_of_subset (hlast : table'.lastVersion = table.lastVersion)
    (hlive : ∀ owner scopeRef scope, table'.live? owner scopeRef = some scope →
      table.live? owner scopeRef = some scope) : CellsFresh table table' :=
  ⟨hlast.ge, fun owner scopeRef scope h =>
    .inl ⟨scope, hlive owner scopeRef scope h, rfl, rfl⟩⟩

/-- A commit continues the session of its epoch or names new counters. -/
theorem committed_cellsFresh (table : ScopeTable) (request : ScopeChange) (reads : ScopeReads) :
    CellsFresh table (committed table request reads) := by
  refine ⟨(committed_fresh table request reads).le, ?_⟩
  intro owner scopeRef scope hlive
  rcases live_of_committed hlive with ⟨-, hother⟩ | ⟨rfl, hsynced⟩
  · exact .inl ⟨scope, hother, rfl, rfl⟩
  obtain ⟨drawn, -, hdrawn, hscope, hbound⟩ := live_of_commitOwner hsynced
  have hcells := commitRecord_cells hscope
  cases hsession : heldSession (sweptOwner table request reads).1.live scopeRef scope.record with
  | some held =>
    rw [hsession] at hcells
    obtain ⟨hheld, hepoch⟩ := Option.filter_eq_some_iff.mp hsession
    exact .inl ⟨held, live_of_expireOwner hheld, hcells.symm, of_decide_eq_true hepoch⟩
  | none =>
    rw [hsession] at hcells
    have hcells' : scope.cells = drawn + 1 := hcells
    rcases commitRecord_kept_or_fresh hscope with ⟨hkept, -⟩ | ⟨hversion, hlast⟩
    · exfalso
      unfold heldSession at hsession
      rw [hkept] at hsession
      simp [Option.filter] at hsession
    · rw [hcells']
      exact .inr ⟨Nat.lt_succ_of_le hdrawn, hlast ▸ hbound⟩

/-- A refresh keeps every session. -/
theorem refreshLinksTo_cellsFresh :
    CellsFresh table (refreshLinksTo table parentOwner order changes).table := by
  refine ⟨(refreshLinksTo_fresh).le, ?_⟩
  intro owner scopeRef scope hlive
  obtain ⟨was, hwas, hrecord, hcells, -⟩ := refreshLinksTo_before hlive
  exact .inl ⟨was, hwas, hcells, congrArg ScopeRecord.scopeEpoch hrecord⟩

/-- What is live in a swept table was live. -/
theorem live_of_sweptTable
    (h : (sweptTable table now order).table.live? owner scopeRef = some scope) :
    table.live? owner scopeRef = some scope := by
  unfold ScopeTable.live? at h
  rw [sweptTable_owner] at h
  exact live_of_expireOwner h

/-- What holds where scopes only go, after an accepted change and after any
further refresh holds after every call. -/
theorem apply_induction {motive : ScopeTable → Prop}
    (hsubset : ∀ table' : ScopeTable, table'.lastVersion = table.lastVersion →
      (∀ owner scopeRef scope, table'.live? owner scopeRef = some scope →
        table.live? owner scopeRef = some scope) →
      (∀ owner, (table'.owner owner).synced = (table.owner owner).synced) → motive table')
    (hchanged : ∀ request reads, op = .change request reads → Accepts table request reads →
      motive (refreshed table request reads).table)
    (hrefreshed : ∀ (table' : ScopeTable) parentOwner order changes, motive table' →
      motive (refreshLinksTo table' parentOwner order changes).table) :
    motive (ScopeOp.apply table op) := by
  cases op with
  | change request reads =>
    change motive (ScopeSync.change table request reads).1
    by_cases haccepts : Accepts table request reads
    · rw [change_of_accepts haccepts]
      exact hchanged request reads rfl haccepts
    have howner := refused_owner haccepts
    obtain ⟨refusal, hrefused⟩ := change_of_refused haccepts
    rw [hrefused] at howner ⊢
    refine hsubset _ rfl ?_ fun owner => congrArg OwnerScopes.synced (howner owner)
    intro owner scopeRef scope hscope
    unfold ScopeTable.live? at hscope ⊢
    rw [← howner]
    exact hscope
  | sweepExpired now order =>
    refine List.foldlRecOn (motive := fun swept : ExpirySwept => motive swept.table) _ _ ?_ ?_
    · refine hsubset _ (foldl_sweepOwner_lastVersion _) (fun _ _ _ => live_of_sweptTable) ?_
      intro owner
      change ((sweptTable table now order).table.owner owner).synced = _
      rw [sweptTable_owner]
      rfl
    · intro swept hswept owner _
      exact hrefreshed _ _ _ _ hswept
  | releaseConnection connectionId =>
    refine hsubset _ rfl ?_ ?_
    · intro owner scopeRef scope hlive
      rw [← releaseConnection_live]
      exact hlive
    · intro owner
      change ((ScopeSync.releaseConnection table connectionId).owner owner).synced = _
      rw [releaseConnection_owner]
      unfold releaseOwner
      split <;> rfl

/-- A call draws every version it gives. -/
theorem apply_fresh (op : ScopeOp) : Fresh table (op.apply table) := by
  refine apply_induction
    (fun table' hlast hlive _ => ⟨hlast.ge, fun _ _ _ h => .inl (hlive _ _ _ h)⟩)
    (fun request reads _ _ => (committed_fresh table request reads).trans refreshLinksTo_fresh) ?_
  intro table' parentOwner order changes hfresh
  exact hfresh.trans refreshLinksTo_fresh

/-- A call keeps versions apart. -/
theorem apply_versioned (h : Versioned table) (op : ScopeOp) : Versioned (op.apply table) := by
  refine apply_induction (fun table' hlast hlive _ => h.subset hlast hlive)
    (fun request reads _ _ => refreshLinksTo_versioned (committed_versioned h request reads)) ?_
  intro table' parentOwner order changes hversioned
  exact refreshLinksTo_versioned hversioned

/-- A call continues sessions or names new counters. -/
theorem apply_cellsFresh (op : ScopeOp) : CellsFresh table (op.apply table) := by
  refine apply_induction (fun table' hlast hlive _ => cellsFresh_of_subset hlast hlive)
    (fun request reads _ _ =>
      (committed_cellsFresh table request reads).trans refreshLinksTo_cellsFresh) ?_
  intro table' parentOwner order changes hfresh
  exact hfresh.trans refreshLinksTo_cellsFresh

/-- The counters of every live scope were named by a version. -/
def CellsBounded (table : ScopeTable) : Prop :=
  ∀ owner scopeRef scope, table.live? owner scopeRef = some scope → scope.cells ≤ table.lastVersion

/-- Fresh counters stay below the version counter. -/
theorem CellsBounded.step (h : CellsBounded table) (hfresh : CellsFresh table table') :
    CellsBounded table' := by
  intro owner scopeRef scope' hlive
  have hle := hfresh.le
  rcases hfresh.live owner scopeRef scope' hlive with ⟨scope, hscope, hcells, -⟩ | hnew
  · rw [← hcells]
    exact le_trans (h owner scopeRef scope hscope) hle
  · exact hnew.2

/-- A daemon that just started has no live scope. -/
theorem new_live (owner : String) :
    (ScopeTable.new authorityOwners).live? owner scopeRef = none := by
  simp [ScopeTable.live?, ScopeTable.owner, ScopeTable.new, OwnerScopes.default]

theorem not_live_new {authorityOwners : Finset String} {owner scopeRef : String}
    (h : (ScopeTable.new authorityOwners).live? owner scopeRef = some scope) : False := by
  rw [new_live] at h
  cases h

/-- In every run versions are apart. -/
theorem run_versioned (ops : List ScopeOp) : Versioned (run authorityOwners ops) := by
  refine run_induction (motive := Versioned) authorityOwners ?_ (fun _ op h => apply_versioned h op) ops
  constructor
  · exact fun _ _ _ hlive => (not_live_new hlive).elim
  · exact fun _ _ _ _ _ _ hlive => (not_live_new hlive).elim

/-- In every run a version named the counters of each live scope. -/
theorem run_cellsBounded : CellsBounded (run authorityOwners ops) := by
  refine run_induction (motive := CellsBounded) authorityOwners ?_
    (fun table op h => h.step (apply_cellsFresh op)) ops
  exact fun _ _ _ hlive => (not_live_new hlive).elim

/-- Along a run the counter gives out new versions only. -/
theorem run_fresh (first last : List ScopeOp) :
    Fresh (run authorityOwners first) (run authorityOwners (first ++ last)) := by
  induction last using List.reverseRecOn with
  | nil =>
    rw [List.append_nil]
    exact .refl _
  | append_singleton last op ih =>
    rw [← List.append_assoc, run_append]
    exact ih.trans (apply_fresh op)

/-- A version stands for one state of one scope, at both times. -/
def VersionsName (table table' : ScopeTable) : Prop :=
  ∀ owner scopeRef scope owner' scopeRef' scope', table.live? owner scopeRef = some scope →
    table'.live? owner' scopeRef' = some scope' → scope.version = scope'.version →
    owner = owner' ∧ scopeRef = scopeRef' ∧ scope = scope'

/-- Where versions are apart, none that is drawn later repeats one. -/
theorem Fresh.versionsName (hfresh : Fresh table table') (h : Versioned table) :
    VersionsName table table' := by
  intro owner scopeRef scope owner' scopeRef' scope' hlive hlive' hsame
  rcases hfresh.live owner' scopeRef' scope' hlive' with hkept | ⟨hnew, -⟩
  · obtain ⟨rfl, rfl⟩ := h.distinct _ _ _ _ _ _ hlive hkept hsame
    exact ⟨rfl, rfl, Option.some.inj (hlive.symm.trans hkept)⟩
  · have hbound := h.bounded _ _ _ hlive
    omega

/-- Along every run a version names one state of one scope. -/
theorem run_versionsName (authorityOwners : Finset String) (first last : List ScopeOp) :
    VersionsName (run authorityOwners first) (run authorityOwners (first ++ last)) :=
  (run_fresh authorityOwners first last).versionsName (run_versioned authorityOwners first)

end Subconscious.ScopeVersions
