import Subconscious.ScopeCommits

/-!
# Runs of the scope table

The calls that change the table are a sync or a delta, an expiry sweep and a
connection that goes away. Each gives the table it leaves and the tag changes
it publishes. An accepted call commits its owner and then refreshes the links
into it; a sweep expires every owner and then refreshes the links into those
that lost a scope.
-/

namespace Subconscious.ScopeRuns

open HashMaps TreeMaps Protocol ScopeRecords ScopeChanges ScopeTables ScopeChecks ScopeParents
open ScopeSync ScopeCommits

/-- One call that may change the table. -/
inductive ScopeOp where
  | change (request : ScopeChange) (reads : ScopeReads)
  | sweepExpired (now : Nat) (order : HashOrder)
  | releaseConnection (connectionId : ConnectionId)

/-- The table after one call. -/
def ScopeOp.apply (table : ScopeTable) : ScopeOp → ScopeTable
  | .change request reads => (ScopeSync.change table request reads).1
  | .sweepExpired now order => (ScopeSync.sweepExpired table now order).table
  | .releaseConnection connectionId => ScopeSync.releaseConnection table connectionId

/-- The tag changes one call publishes. A refused call publishes none. -/
def ScopeOp.tagChanges (table : ScopeTable) : ScopeOp → List ScopeTagChange
  | .change request reads =>
    match (ScopeSync.change table request reads).2 with
    | .ok applied => applied.tagChanges
    | .error _ => []
  | .sweepExpired now order => (ScopeSync.sweepExpired table now order).tagChanges
  | .releaseConnection _ => []

section

variable (authorityOwners : Finset String)

/-- The table after a run of a daemon that just started. -/
def run (ops : List ScopeOp) : ScopeTable :=
  ops.foldl ScopeOp.apply (.new authorityOwners)

/-- A run ends with its last call. -/
theorem run_append (ops : List ScopeOp) (op : ScopeOp) :
    run authorityOwners (ops ++ [op]) = op.apply (run authorityOwners ops) := by
  unfold run
  rw [List.foldl_append]
  rfl

/-- A call of the one connection of an owner's current launch. -/
def callBy (owner : String) (generation : Nat) (records : List ScopeRecord)
    (ends : Option (List ScopeEnd)) : ScopeChange :=
  ⟨owner, 1, fun _ => true, generation, records, .empty, ends⟩

/-- A call read at a time when no scope is in use. -/
def idleAt (now : Nat) : ScopeReads := ⟨now, fun _ => false, .asStored⟩

/-- What a call leaves behind. -/
theorem apply_change (table : ScopeTable) (request : ScopeChange) (reads : ScopeReads) :
    (ScopeOp.change request reads).apply table = (change table request reads).1 :=
  rfl

/-- An invariant of every call holds along every run. -/
theorem run_induction {motive : ScopeTable → Prop} (hnew : motive (.new authorityOwners))
    (hstep : ∀ table op, motive table → motive (ScopeOp.apply table op)) (ops : List ScopeOp) :
    motive (run authorityOwners ops) := by
  induction ops using List.reverseRecOn with
  | nil => exact hnew
  | append_singleton ops op ih =>
    rw [run_append]
    exact hstep _ op ih

end

section call

variable (table : ScopeTable) (request : ScopeChange) (reads : ScopeReads)

/-- The table without the owner that calls. -/
def others : ScopeTable := { table with owners := table.owners.remove request.owner }

/-- The owner's scopes after the call's own expiry. -/
def sweptOwner : OwnerScopes × List ScopeExpired :=
  expireOwner request.owner (table.owner request.owner) reads.now

/-- The staged set after its links have settled. -/
def settled : LinkSettling :=
  settledLinks (others table request) (sweptOwner table request reads).1 request reads

/-- What the call commits. -/
def synced : Synced :=
  commitOwner request (table.owner request.owner).live (sweptOwner table request reads)
    (settled table request reads) table.lastVersion

/-- The table after the commit, before links are refreshed. -/
def committed : ScopeTable :=
  { others table request with
    owners := (others table request).owners.insert request.owner (synced table request reads).state
    lastVersion := (synced table request reads).lastVersion }

/-- The table and the tag changes after the refresh. -/
def refreshed : Refreshed :=
  refreshLinksTo (committed table request reads) request.owner reads.order
    (synced table request reads).applied.tagChanges

/-- The checks of a call that refuse it whole. -/
structure Accepts : Prop where
  checked : checkCall (table.owner request.owner) request = .ok ()
  fits : (settled table request reads).next.size ≤ maxLiveScopesPerOwner

variable {table request reads}

/-- An accepted call leaves the refreshed table and reports on it. -/
theorem change_of_accepts (h : Accepts table request reads) :
    change table request reads = ((refreshed table request reads).table,
      .ok { (synced table request reads).applied with
        tagChanges := (refreshed table request reads).tagChanges
        results := (synced table request reads).applied.results.map
          (refreshedResult request.owner
            ((refreshed table request reads).table.owner request.owner).live
            (refreshed table request reads).tagChanges) }) := by
  have hsync : syncOwner (others table request) (table.owner request.owner) request reads =
      .ok (synced table request reads) := by
    have hsize : decide ((settled table request reads).next.size ≤ maxLiveScopesPerOwner) = true :=
      decide_eq_true h.fits
    unfold settled sweptOwner at hsize
    unfold syncOwner require
    rw [h.checked]
    simp only [bind, Except.bind]
    rw [if_pos hsize]
    rfl
  unfold change
  dsimp only
  rw [show ({ table with owners := table.owners.remove request.owner } : ScopeTable) =
    others table request from rfl, hsync]
  rfl

section

variable (h : ¬ Accepts table request reads)
include h

/-- Every other call is refused and puts the owner back. -/
theorem change_of_refused :
    ∃ refusal, change table request reads =
      ({ others table request with
          owners := (others table request).owners.insert request.owner
            (table.owner request.owner) },
        .error refusal) := by
  have hsync : ∃ refusal,
      syncOwner (others table request) (table.owner request.owner) request reads =
        .error refusal := by
    unfold syncOwner
    cases hchecked : checkCall (table.owner request.owner) request with
    | error refusal => exact ⟨refusal, rfl⟩
    | ok =>
      have hsize : ¬ (settled table request reads).next.size ≤ maxLiveScopesPerOwner :=
        fun hfits => h ⟨hchecked, hfits⟩
      have hfalse := decide_eq_false hsize
      unfold settled sweptOwner at hfalse
      simp only [bind, Except.bind, require]
      rw [if_neg (by rw [hfalse]; exact Bool.false_ne_true)]
      exact ⟨_, rfl⟩
  obtain ⟨refusal, hrefused⟩ := hsync
  refine ⟨refusal, ?_⟩
  unfold change
  dsimp only
  rw [show ({ table with owners := table.owners.remove request.owner } : ScopeTable) =
    others table request from rfl, hrefused]
  rfl

/-- A refused call puts its owner back as it was. -/
theorem refused_owner (owner : String) :
    (change table request reads).1.owner owner = table.owner owner := by
  obtain ⟨refusal, hrefused⟩ := change_of_refused h
  rw [hrefused, owner_of_remove_insert table _ rfl]
  split
  case isTrue howner => rw [howner]
  case isFalse => rfl

/-- A refused call changes no live scope. -/
theorem refused_live (owner scopeRef : String) :
    (change table request reads).1.live? owner scopeRef = table.live? owner scopeRef := by
  unfold ScopeTable.live?
  rw [refused_owner h]

end

/-- Only an accepted call is answered. -/
theorem accepts_of_ok (h : (change table request reads).2 = .ok applied) :
    Accepts table request reads := by
  by_contra haccepts
  obtain ⟨refusal, hrefused⟩ := change_of_refused haccepts
  rw [hrefused] at h
  cases h

variable (table request reads)

/-- The other owners are as they were, and the calling owner is committed. -/
theorem committed_owner :
    (committed table request reads).owner owner =
      if owner = request.owner then (synced table request reads).state else table.owner owner :=
  owner_of_remove_insert table _ rfl

/-- Without the calling owner the others are as they were. -/
theorem others_owner :
    (others table request).owner owner =
      if owner = request.owner then .default else table.owner owner := by
  unfold others ScopeTable.owner
  rw [HashMap.get_remove]
  split
  case isTrue | isFalse => rfl

end call

/-- What is live after a call stood under another owner, or the call committed it. -/
theorem live_of_committed (h : (committed table request reads).live? owner scopeRef = some scope) :
    owner ≠ request.owner ∧ table.live? owner scopeRef = some scope ∨
      owner = request.owner ∧ (synced table request reads).state.live[scopeRef]? = some scope := by
  unfold ScopeTable.live? at h
  rw [committed_owner] at h
  split at h
  case isTrue howner => exact .inr ⟨howner, h⟩
  case isFalse hother => exact .inl ⟨hother, h⟩

/-- Nothing expired means nothing changed. -/
theorem expireOwner_nil (h : (expireOwner owner state now).2 = []) :
    (expireOwner owner state now).1 = state := by
  have hlive : (expireOwner owner state now).1.live = state.live := by
    apply ext_get
    intro scopeRef
    cases hheld : state.live[scopeRef]? with
    | none =>
      rw [expireOwner_live, hheld]
      rfl
    | some =>
      cases hswept : (expireOwner owner state now).1.live[scopeRef]? with
      | none =>
        obtain ⟨expired, hmem, -⟩ := expired_of_live hheld hswept
        rw [h] at hmem
        cases hmem
      | some =>
        rw [live_of_expireOwner hswept] at hheld
        exact hheld
  have htombstones : (expireOwner owner state now).1.tombstones = state.tombstones := by
    have hfold : (expireOwner owner state now).1.tombstones =
      (expireOwner owner state now).2.foldl
        (fun tombstones scope => tombstones.insert scope.scopeRef scope.scopeEpoch .expired)
        state.tombstones := rfl
    rw [hfold, h]
    rfl
  cases state
  unfold expireOwner at hlive htombstones ⊢
  dsimp only at hlive htombstones ⊢
  rw [hlive, htombstones]

/-- The owners of a list are expired, and nobody else. -/
theorem foldl_sweepOwner_owner {owners : List String} (hnodup : owners.Nodup)
    (swept : ExpirySwept) :
    (owners.foldl (sweepOwner now) swept).table.owner owner =
      if owner ∈ owners then (expireOwner owner (swept.table.owner owner) now).1
      else swept.table.owner owner := by
  induction owners generalizing swept with
  | nil => simp
  | cons first rest ih =>
    rw [List.nodup_cons] at hnodup
    have hfirst : ∀ other, (sweepOwner now swept first).table.owner other =
        if other = first then (expireOwner first (swept.table.owner first) now).1
        else swept.table.owner other := by
      intro other
      unfold sweepOwner
      dsimp only
      split
      case isTrue hnil =>
        rw [expireOwner_nil hnil]
        split
        case isTrue h => rw [h]
        case isFalse => rfl
      case isFalse => exact owner_of_insert _ rfl other
    rw [List.foldl_cons, ih hnodup.2, hfirst]
    by_cases howner : owner = first
    · subst howner
      rw [if_neg hnodup.1, if_pos rfl, if_pos List.mem_cons_self]
    · rw [if_neg howner]
      simp [howner]

section

variable (table : ScopeTable) (now : Nat) (order : HashOrder)

/-- The first half of a sweep. -/
def sweptTable : ExpirySwept :=
  (order.arrange table.owners.keys).foldl (sweepOwner now) ⟨table, [], [], []⟩

/-- Every owner is expired. -/
theorem sweptTable_owner (owner : String) :
    (sweptTable table now order).table.owner owner =
      (expireOwner owner (table.owner owner) now).1 := by
  have hnodup : (order.arrange table.owners.keys).Nodup :=
    (order.perm _).nodup_iff.mpr table.owners.nodup_keys
  unfold sweptTable
  rw [foldl_sweepOwner_owner hnodup]
  split
  case isTrue => rfl
  rename_i hnot
  have hnone : table.owners.get owner = none := by
    cases hget : table.owners.get owner with
    | none => rfl
    | some state =>
      have hkey : owner ∈ table.owners.keys := (HashMap.mem_keys _).mpr ⟨state, hget⟩
      exact absurd ((order.perm _).mem_iff.mpr hkey) hnot
  have hdefault : table.owner owner = .default := by
    unfold ScopeTable.owner
    rw [hnone]
    rfl
  rw [hdefault]
  refine (expireOwner_nil ?_).symm
  rfl

end

/-- Sweeping draws no version. -/
theorem foldl_sweepOwner_lastVersion (owners : List String) :
    (owners.foldl (sweepOwner now) swept).table.lastVersion = swept.table.lastVersion := by
  refine List.foldlRecOn (motive := fun acc : ExpirySwept =>
    acc.table.lastVersion = swept.table.lastVersion) _ _ rfl ?_
  intro acc hacc owner _
  unfold sweepOwner
  dsimp only
  split
  case isTrue | isFalse => exact hacc

section

variable (table : ScopeTable) (connectionId : ConnectionId)

/-- Losing a connection changes authority alone. -/
theorem releaseConnection_owner :
    (ScopeSync.releaseConnection table connectionId).owner owner =
      releaseOwner connectionId (table.owner owner) := by
  unfold ScopeSync.releaseConnection ScopeTable.owner
  rw [HashMap.get_mapValues]
  cases table.owners.get owner with
  | none | some => rfl

/-- Losing a connection leaves an owner its scopes. -/
theorem releaseOwner_live : (releaseOwner connectionId state).live = state.live := by
  unfold releaseOwner
  split <;> rfl

variable {connectionId table} in
/-- Losing a connection ends no scope. -/
theorem releaseConnection_live :
    (ScopeSync.releaseConnection table connectionId).live? owner scopeRef =
      table.live? owner scopeRef := by
  unfold ScopeTable.live?
  rw [releaseConnection_owner, releaseOwner_live]

end

end Subconscious.ScopeRuns
