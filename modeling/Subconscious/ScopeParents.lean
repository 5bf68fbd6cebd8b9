import Subconscious.ScopeChecks

/-!
# Parent links of the scopes a call stages

A call reads its owner's scopes from the set it stages and everybody else's
from the table. A link that is new or changed is checked against its parent,
and then for cycles; a record whose link is refused falls back to what was
held, and its children in the same call are looked at again. The walks up the
links carry fuel for every live scope, which they never use up.
-/

namespace Subconscious.ScopeParents

open HashMaps TreeMaps Protocol ScopeRecords ScopeTables ScopeChecks

/-- The owner whose call is in progress, and its set as it will stand. -/
abbrev Overlay := Option (String × TreeMap String ScopeRecord)

/-- The record an owner and a ref name. -/
def lookup (table : ScopeTable) (overlay : Overlay) (owner scopeRef : String) :
    Option ScopeRecord :=
  match overlay with
  | some (syncingOwner, next) =>
    if syncingOwner = owner then next[scopeRef]?
    else (table.live? owner scopeRef).map LiveScope.record
  | none => (table.live? owner scopeRef).map LiveScope.record

/-- Check a parent link a call creates or changes. -/
def checkNewLink (table : ScopeTable) (owner : String) (parent : ScopeParent)
    (next : TreeMap String ScopeRecord) : Except String ParentState :=
  match reservedModuleId parent.owner with
  | none => .error "a parent's owner must be a supervised module"
  | some parentOwner =>
    let parentRef := parent.scopeRef
    let parentEpoch := parent.scopeEpoch
    if parentOwner ≠ owner ∧ (table.owner parentOwner).synced = false then .ok .pending
    else
      match lookup table (some (owner, next)) parentOwner parentRef with
      | none => .error s!"parent {parentOwner}/{parentRef} is not live"
      | some record =>
        let liveEpoch := record.scopeEpoch
        if liveEpoch ≠ parentEpoch then
          .error s!"parent {parentOwner}/{parentRef} is live at scope_epoch {liveEpoch}, not {parentEpoch}"
        else if parentOwner ≠ owner ∧ Principal.reserved owner ∉ record.childOwners then
          .error s!"{owner} is neither the owner of parent {parentOwner}/{parentRef} nor in its child_owners"
        else .ok .linked

/-- Owner, ref and epoch a link names. -/
abbrev ScopeLinkKey := String × String × Nat

/-- How many live scopes a walk may meet. -/
def liveScopes (table : ScopeTable) (overlay : Overlay) : Nat :=
  (table.owners.toList.map fun entry => entry.2.live.size).sum
    + match overlay with
      | some (_, next) => next.size
      | none => 0

/-- What earlier walks over the same set found out. -/
structure LinkCycleCache where
  acyclic : Finset ScopeLinkKey
  cycles : HashMap ScopeLinkKey Nat
  members : List (Finset (String × String))

/-- The cache before the first walk. -/
def LinkCycleCache.default : LinkCycleCache := ⟨∅, .empty, []⟩

section

variable (cache : LinkCycleCache) (path : List ScopeLinkKey)

/-- Remember the keys of a path that closes no cycle. -/
def LinkCycleCache.extend : LinkCycleCache :=
  { cache with acyclic := cache.acyclic ∪ path.toFinset }

/-- Remember a cycle that a path ran into at a position. -/
def LinkCycleCache.addCycle (start : Nat) :
    LinkCycleCache where
  acyclic := cache.acyclic ∪ (path.take start).toFinset
  cycles := (path.drop start).foldl (fun cycles key => cycles.insert key cache.members.length)
    cache.cycles
  members := cache.members ++ [((path.drop start).map fun key => (key.1, key.2.1)).toFinset]

end

/-- Whether a link closes a cycle through its child, with the paths and cycles
earlier walks have met. -/
def walkCached (table : ScopeTable) (overlay : Overlay) (childOwner childRef : String) :
    Nat → ScopeParent → HashMap ScopeLinkKey Nat → List ScopeLinkKey → LinkCycleCache →
      Bool × LinkCycleCache
  | 0, _, _, path, cache => (false, cache.extend path)
  | fuel + 1, link, visited, path, cache =>
    match reservedModuleId link.owner with
    | none => (false, cache.extend path)
    | some owner =>
      let key := (owner, link.scopeRef, link.scopeEpoch)
      if owner = childOwner ∧ link.scopeRef = childRef then (true, cache)
      else if key ∈ cache.acyclic then (false, cache.extend path)
      else
        match cache.cycles.get key with
        | some cycle =>
          if (childOwner, childRef) ∈ cache.members.getD cycle ∅ then (true, cache)
          else (false, cache.extend path)
        | none =>
          match visited.get key with
          | some start => (false, cache.addCycle path start)
          | none =>
            let visited := visited.insert key path.length
            let path := path ++ [key]
            match lookup table overlay owner link.scopeRef with
            | none => (false, cache.extend path)
            | some record =>
              if record.scopeEpoch ≠ link.scopeEpoch then (false, cache.extend path)
              else
                match record.parent with
                | none => (false, cache.extend path)
                | some up => walkCached table overlay childOwner childRef fuel up visited path cache

section

variable (table : ScopeTable) (overlay : Overlay) (childOwner childRef : String)
  (parent : ScopeParent)

/-- `link_closes_cycle_cached`. -/
def linkClosesCycleCached (cache : LinkCycleCache) : Bool × LinkCycleCache :=
  walkCached table overlay childOwner childRef (liveScopes table overlay + 2) parent .empty [] cache

/-- Whether following links up reaches the child, without a cache. -/
def walk (table : ScopeTable) (overlay : Overlay) (childOwner childRef : String) :
    Nat → ScopeParent → Finset (String × String) → Bool
  | 0, _, _ => false
  | fuel + 1, link, visited =>
    match reservedModuleId link.owner with
    | none => false
    | some owner =>
      if owner = childOwner ∧ link.scopeRef = childRef then true
      else if (owner, link.scopeRef) ∈ visited then false
      else
        match lookup table overlay owner link.scopeRef with
        | none => false
        | some record =>
          if record.scopeEpoch ≠ link.scopeEpoch then false
          else
            match record.parent with
            | none => false
            | some up =>
              walk table overlay childOwner childRef fuel up (insert (owner, link.scopeRef) visited)

/-- `link_closes_cycle`. -/
def linkClosesCycle : Bool :=
  walk table overlay childOwner childRef (liveScopes table overlay + 2) parent ∅

end

/-- Whether a record makes a link or changes the one that is held. -/
def newLink (live : TreeMap String LiveScope) (record : ScopeRecord) : Bool :=
  match record.parent with
  | none => false
  | some parent =>
    match live[record.scopeRef]? with
    | none => true
    | some held =>
      decide (held.record.scopeEpoch ≠ record.scopeEpoch)
        || decide (held.record.parent ≠ some parent)

/-- The records of a call whose parent is the owner's scope of the given ref. -/
def children (owner : String) (records : List ScopeRecord) (scopeRef : String) : List Nat :=
  (records.zipIdx.filter fun entry =>
    entry.1.parent.any fun parent =>
      decide (reservedModuleId parent.owner = some owner) && decide (parent.scopeRef = scopeRef)).map
    fun entry => entry.2

/-- What does not change while links settle. -/
structure LinkContext where
  table : ScopeTable
  owner : String
  live : TreeMap String LiveScope
  records : List ScopeRecord

/-- What changes. -/
structure LinkSettling where
  next : TreeMap String ScopeRecord
  refusals : HashMap Nat RecordRefusal
  newLinkStates : HashMap String ParentState
  /-- The records still to look at, in order. -/
  pending : List Nat
  queued : Finset Nat

/-- Look at the queued records until the queue is empty or a link is refused. -/
def checkPending (context : LinkContext) :
    List Nat → LinkSettling → LinkSettling × Option (Nat × String)
  | [], settling => ({ settling with pending := [] }, none)
  | index :: rest, settling =>
    let popped := { settling with queued := settling.queued.erase index }
    match context.records[index]? with
    | none => checkPending context rest popped
    | some record =>
      if settling.refusals.contains index || !newLink context.live record then
        checkPending context rest popped
      else
        match record.parent with
        | none => checkPending context rest popped
        | some parent =>
          match checkNewLink context.table context.owner parent settling.next with
          | .ok state =>
            checkPending context rest
              { popped with newLinkStates := settling.newLinkStates.insert record.scopeRef state }
          | .error message => ({ popped with pending := rest }, some (index, message))

section

variable (context : LinkContext) (settling : LinkSettling)

/-- The first record whose new link closes a cycle. -/
def cyclePass (context : LinkContext) (settling : LinkSettling) :
    List (ScopeRecord × Nat) → LinkCycleCache → Option Nat
  | [], _ => none
  | (record, index) :: rest, cache =>
    match settling.newLinkStates.get record.scopeRef, record.parent with
    | some .linked, some parent =>
      let found := linkClosesCycleCached context.table (some (context.owner, settling.next))
        context.owner record.scopeRef parent cache
      if found.1 then some index else cyclePass context settling rest found.2
    | _, _ => cyclePass context settling rest cache

/-- Queue a record again unless it is queued. -/
def requeue (settling : LinkSettling) (index : Nat) : LinkSettling :=
  if index ∈ settling.queued then settling
  else { settling with pending := settling.pending ++ [index], queued := insert index settling.queued }

/-- Refuse the link of one record: what was held stands again, and the children
of the ref are looked at once more. -/
def rejectLink (index : Nat) (record : ScopeRecord) (message : String) : LinkSettling :=
  let scopeRef := record.scopeRef
  (children context.owner context.records scopeRef).foldl requeue
    { settling with
      refusals := settling.refusals.insert index ("scope_parent_not_permitted", message)
      newLinkStates := settling.newLinkStates.remove scopeRef
      next := match context.live[scopeRef]? with
        | some held => settling.next.insert scopeRef held.record
        | none => settling.next.erase scopeRef }

/-- The refused link of one round, if any: first by its parent, then by a cycle. -/
def refusedLink (rejected : Option (Nat × String)) : Option (Nat × String) :=
  match rejected with
  | some rejected => some rejected
  | none =>
    (cyclePass context settling context.records.zipIdx .default).map fun index =>
      (index, "the parent link would close a cycle")

end

/-- Rounds until no link is refused. Every round but the last refuses a record
that was not refused, so one round more than there are records is enough. -/
def settleLinks (context : LinkContext) : Nat → LinkSettling → LinkSettling
  | 0, settling => settling
  | fuel + 1, settling =>
    let checked := checkPending context settling.pending settling
    match refusedLink context checked.1 checked.2 with
    | none => checked.1
    | some (index, message) =>
      match context.records[index]? with
      | none => checked.1
      | some record =>
        settleLinks context fuel (rejectLink context checked.1 index record message)

end Subconscious.ScopeParents
