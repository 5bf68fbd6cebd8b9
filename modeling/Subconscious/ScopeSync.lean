import Subconscious.ScopeParents

/-!
# Syncing, applying and sweeping scopes

A full sync and a delta share one function. It stages the owner's set, refuses
records one by one, settles their links and commits only after the last check
of the whole call. What the call changed is reported as a list of tag changes,
and afterwards every link that points into the owner's scopes is settled anew.
-/

namespace Subconscious.ScopeSync

open HashMaps TreeMaps Protocol ScopeRecords ScopeChanges ScopeTables ScopeChecks ScopeParents

/-- What a call reads from outside the table. -/
structure ScopeReads where
  /-- The wall clock in milliseconds, which may go back. -/
  now : Nat
  /-- Whether a scope's counters say that it is bound or present. -/
  inUse : CellId → Bool
  /-- The order in which the owners are walked. -/
  order : HashOrder

/-- The reply of an accepted call and the tags it changed. -/
structure SyncApplied where
  results : List ScopeRecordResult
  endResults : List ScopeEndResult
  ended : List ScopeEnded
  tagChanges : List ScopeTagChange
  expired : List ScopeExpired

section

variable (live : TreeMap String LiveScope) (ends : Option (List ScopeEnd))

/-- What becomes of the requested ends. -/
def endResults : List ScopeEndResult :=
  (ends.getD []).map fun entry =>
    ⟨entry.scopeRef, entry.scopeEpoch,
      if live[entry.scopeRef]?.any fun held => held.record.scopeEpoch = entry.scopeEpoch then .ended
      else .notLive⟩

/-- The set a call starts from: what is held and not ended, or nothing. -/
def startingSet : TreeMap String ScopeRecord :=
  let held : TreeMap String ScopeRecord :=
    if ends.isSome then mapValues (fun _ scope => scope.record) live else ∅
  (endResults live ends).foldl
    (fun next entry => if entry.outcome = .ended then next.erase entry.scopeRef else next) held

end

/-- A staged set with the refusals of its records. -/
structure Staged where
  next : TreeMap String ScopeRecord
  refusals : HashMap Nat RecordRefusal

/-- A record as it is stored. -/
def storedRecord (record : ScopeRecord) : ScopeRecord :=
  { record with replaceOnlyIfIdle := false }

section

variable (state : OwnerScopes) (ownerAuthorized : Bool) (reads : ScopeReads)

/-- Why one record of a call is refused before links are looked at. -/
def stagingRefusal (prepared : HashMap Nat RecordRefusal) (record : ScopeRecord) (index : Nat) :
    Option RecordRefusal :=
  let held := state.live[record.scopeRef]?
  prepared.get index
    <|> recordRefusal record held state.tombstones ownerAuthorized reads.now
    <|> idleRefusal record held reads.inUse

/-- Stage one record: a refused one keeps what was held. -/
def stageRecord (prepared : HashMap Nat RecordRefusal) (staged : Staged)
    (entry : ScopeRecord × Nat) :
    Staged :=
  let record := entry.1
  match stagingRefusal state ownerAuthorized reads prepared record entry.2 with
  | some refusal =>
    { refusals := staged.refusals.insert entry.2 refusal
      next := match state.live[record.scopeRef]? with
        | some held => staged.next.insert record.scopeRef held.record
        | none => staged.next }
  | none => { staged with next := staged.next.insert record.scopeRef (storedRecord record) }

/-- Stage the records of a call in order. -/
def stageRecords (change : ScopeChange) : Staged :=
  change.records.zipIdx.foldl (stageRecord state ownerAuthorized reads change.refusals)
    ⟨startingSet state.live change.ends, change.refusals⟩

end

/-- The links before the first round: every record is queued. -/
def startSettling (staged : Staged) (records : List ScopeRecord) : LinkSettling where
  next := staged.next
  refusals := staged.refusals
  newLinkStates := .empty
  pending := List.range records.length
  queued := Finset.range records.length

/-- The parent state a staged record is committed with. -/
def committedParentState (record : ScopeRecord) (held : Option LiveScope)
    (newLinkState : Option ParentState) : Option ParentState :=
  match record.parent with
  | none => none
  | some _ =>
    match newLinkState, held with
    | some state, _ => some state
    | none, some held => held.parentState
    | none, none => some .pending

/-- The live scope of one staged record, and the last version afterwards. -/
def commitRecord (old : TreeMap String LiveScope) (newLinkStates : HashMap String ParentState)
    (scopeRef : String) (record : ScopeRecord) (lastVersion : Nat) : LiveScope × Nat :=
  let held := old[scopeRef]?.filter fun held => held.record.scopeEpoch = record.scopeEpoch
  let parentState := committedParentState record held (newLinkStates.get scopeRef)
  match held with
  | some held =>
    if held.record = record ∧ held.parentState = parentState then
      (⟨record, held.version, parentState, held.cells⟩, lastVersion)
    else (⟨record, lastVersion + 1, parentState, held.cells⟩, lastVersion + 1)
  | none => (⟨record, lastVersion + 1, parentState, lastVersion + 1⟩, lastVersion + 1)

/-- The live scopes of the staged records, in the order of their refs. -/
def commitRecords (old : TreeMap String LiveScope) (newLinkStates : HashMap String ParentState) :
    List (String × ScopeRecord) → Nat → List (String × LiveScope) × Nat
  | [], lastVersion => ([], lastVersion)
  | (scopeRef, record) :: rest, lastVersion =>
    let scope := commitRecord old newLinkStates scopeRef record lastVersion
    let scopes := commitRecords old newLinkStates rest scope.2
    ((scopeRef, scope.1) :: scopes.1, scopes.2)

/-- The held sessions that the staged set leaves out or replaces. -/
def replacedSessions (old : TreeMap String LiveScope) (next : TreeMap String ScopeRecord) :
    List ScopeEnded :=
  (old.toList.filter fun entry =>
    !(next[entry.1]?.any fun record => record.scopeEpoch = entry.2.record.scopeEpoch)).map
    fun entry => ⟨entry.1, entry.2.record.scopeEpoch⟩

section

variable (owner : String) (before after : TreeMap String LiveScope)

/-- How the tag of one ref moved, and what that closes. -/
def tagChange (scopeRef : String) : Option ScopeTagChange :=
  let was := before[scopeRef]?
  let now := after[scopeRef]?
  if was.map LiveScope.tag = now.map LiveScope.tag then none
  else
    some ⟨owner, scopeRef, was.map LiveScope.tag, now.map LiveScope.tag,
      match was, now with
      | some was, some now =>
        if was.record.scopeEpoch = now.record.scopeEpoch then drainForChange was now
        else .all .scopeEnded
      | some _, none => .all .scopeEnded
      | none, _ => .nothing⟩

/-- The tag changes of one owner, in the order of the refs. -/
def tagChanges : List ScopeTagChange :=
  (unionKeys before after).filterMap (tagChange owner before after)

end

/-- The result of one record, before links are refreshed. -/
def recordResult (old live : TreeMap String LiveScope) (refusals : HashMap Nat RecordRefusal)
    (entry : ScopeRecord × Nat) : ScopeRecordResult :=
  let record := entry.1
  match refusals.get entry.2 with
  | some (code, message) =>
    ⟨record.scopeRef, record.scopeEpoch, .refused, some code, some message, none, none⟩
  | none =>
    let outcome : ScopeRecordOutcome :=
      match old[record.scopeRef]?, live[record.scopeRef]? with
      | none, _ => .created
      | some held, live =>
        if held.record.scopeEpoch ≠ record.scopeEpoch then .replaced
        else if live.any fun live => held.version = live.version then .unchanged
        else .updated
    ⟨record.scopeRef, record.scopeEpoch, outcome, none, none, none, none⟩

/-- What an accepted call leaves behind. -/
structure Synced where
  state : OwnerScopes
  lastVersion : Nat
  applied : SyncApplied

/-- Commit a staged set. -/
def commitOwner (change : ScopeChange) (before : TreeMap String LiveScope)
    (swept : OwnerScopes × List ScopeExpired) (settled : LinkSettling) (lastVersion : Nat) :
    Synced :=
  let old := swept.1.live
  let replaced := replacedSessions old settled.next
  let scopes := commitRecords old settled.newLinkStates settled.next.toList lastVersion
  let live : TreeMap String LiveScope := ofList scopes.1
  { state :=
      { authority := some ⟨change.connectionId, change.generation⟩
        synced := true
        live := live
        tombstones := replaced.foldl
          (fun tombstones scope => tombstones.insert scope.scopeRef scope.scopeEpoch .ownerEnded)
          swept.1.tombstones }
    lastVersion := scopes.2
    applied :=
      { results := change.records.zipIdx.map (recordResult old live settled.refusals)
        endResults := endResults old change.ends
        ended := (swept.2.map fun scope => ⟨scope.scopeRef, scope.scopeEpoch⟩) ++ replaced
        tagChanges := tagChanges change.owner before live
        expired := swept.2 } }

/-- The links of a call after they have settled. -/
def settledLinks (table : ScopeTable) (swept : OwnerScopes) (change : ScopeChange)
    (reads : ScopeReads) : LinkSettling :=
  let staged := stageRecords swept (decide (change.owner ∈ table.authorityOwners)) reads change
  settleLinks ⟨table, change.owner, swept.live, change.records⟩ (change.records.length + 1)
    (startSettling staged change.records)

/-- Stage a call, and commit it unless the whole call is refused. -/
def syncOwner (table : ScopeTable) (state : OwnerScopes) (change : ScopeChange)
    (reads : ScopeReads) : Except SyncRefusal Synced := do
  checkCall state change
  let swept := expireOwner change.owner state reads.now
  let settled := settledLinks table swept.1 change reads
  let count := settled.next.size
  require (decide (count ≤ maxLiveScopesPerOwner)) ⟨"scope_live_limit_exceeded",
    s!"{count} live scopes exceed the limit of {maxLiveScopesPerOwner}"⟩
  .ok (commitOwner change state.live swept settled table.lastVersion)

/-- The state a link into an owner's scopes settles to. -/
def settledState (table : ScopeTable) (parentOwner childOwner childRef : String)
    (parent : ScopeParent) (current : Option ParentState) : ParentState :=
  let parentRecord := ((table.live? parentOwner parent.scopeRef).filter fun scope =>
    scope.record.scopeEpoch = parent.scopeEpoch).map LiveScope.record
  match current, parentRecord with
  | some .ended, _ => .ended
  | _, none => .ended
  | some .linked, some _ => .linked
  | _, some record =>
    let permitted := decide (childOwner = parentOwner)
      || decide (Principal.reserved childOwner ∈ record.childOwners)
    if permitted && !linkClosesCycle table none childOwner childRef parent then .linked else .ended

/-- One link that settles to another state. -/
structure LinkUpdate where
  childOwner : String
  childRef : String
  settled : ParentState
  deriving DecidableEq, Repr

/-- What a refresh does to one scope. -/
def linkUpdate (table : ScopeTable) (parentOwner childOwner : String)
    (entry : String × LiveScope) : Option LinkUpdate :=
  match entry.2.record.parent with
  | none => none
  | some parent =>
    if parent.owner ≠ .reserved parentOwner then none
    else
      let settled := settledState table parentOwner childOwner entry.1 parent entry.2.parentState
      if some settled = entry.2.parentState then none else some ⟨childOwner, entry.1, settled⟩

/-- What a refresh does to the scopes of all owners. -/
def linkUpdates (table : ScopeTable) (parentOwner : String) (order : HashOrder) :
    List LinkUpdate :=
  (order.arrange table.owners.keys).flatMap fun childOwner =>
    (table.owner childOwner).live.toList.filterMap (linkUpdate table parentOwner childOwner)

/-- A table with the tag changes gathered so far. -/
structure Refreshed where
  table : ScopeTable
  tagChanges : List ScopeTagChange

/-- Replace one live scope. -/
def setLive (table : ScopeTable) (owner scopeRef : String) (scope : LiveScope) :
    ScopeTable :=
  let state := table.owner owner
  let moved := { state with live := state.live.insert scopeRef scope }
  { table with owners := table.owners.insert owner moved }

/-- Add a tag change, or move the one the scope already has. -/
def addTagChange (changes : List ScopeTagChange) (owner scopeRef : String) (before after : ScopeTag)
    (drain : ScopeDrain) : List ScopeTagChange :=
  match changes.findIdx? fun change => change.owner = owner ∧ change.scopeRef = scopeRef with
  | some index =>
    changes.modify index fun change =>
      { change with after := some after, drain := change.drain.widen drain }
  | none => changes ++ [⟨owner, scopeRef, some before, some after, drain⟩]

/-- Apply one update. A version is drawn before the scope is looked up. -/
def applyLinkUpdate (refreshed : Refreshed) (update : LinkUpdate) : Refreshed :=
  let version := refreshed.table.lastVersion + 1
  let drawn := { refreshed.table with lastVersion := version }
  match drawn.live? update.childOwner update.childRef with
  | none => { refreshed with table := drawn }
  | some scope =>
    let moved := { scope with parentState := some update.settled, version := version }
    { table := setLive drawn update.childOwner update.childRef moved
      tagChanges := addTagChange refreshed.tagChanges update.childOwner update.childRef scope.tag
        moved.tag (if update.settled = .ended then .all .scopeParentEnded else .nothing) }

/-- Settle every link that points into an owner's scopes. -/
def refreshLinksTo (table : ScopeTable) (parentOwner : String) (order : HashOrder)
    (changes : List ScopeTagChange) : Refreshed :=
  (linkUpdates table parentOwner order).foldl applyLinkUpdate ⟨table, changes⟩

/-- Read one result again after the refresh. -/
def refreshedResult (owner : String) (live : TreeMap String LiveScope)
    (changes : List ScopeTagChange) (result : ScopeRecordResult) : ScopeRecordResult :=
  let scope := live[result.scopeRef]?
  { result with
    version := scope.map LiveScope.version
    parentState := scope.bind LiveScope.parentState
    outcome :=
      if result.outcome = .unchanged
          ∧ changes.any (fun change => change.owner = owner ∧ change.scopeRef = result.scopeRef) then
        .updated
      else result.outcome }

/-- `sync` and `apply`: one call, accepted or refused whole. -/
def change (table : ScopeTable) (request : ScopeChange) (reads : ScopeReads) :
    ScopeTable × Except SyncRefusal SyncApplied :=
  let owner := request.owner
  let original := table.owner owner
  let others := { table with owners := table.owners.remove owner }
  match syncOwner others original request reads with
  | .error refusal =>
    ({ others with owners := others.owners.insert owner original }, .error refusal)
  | .ok synced =>
    let committed : ScopeTable :=
      { others with
        owners := others.owners.insert owner synced.state
        lastVersion := synced.lastVersion }
    let refreshed := refreshLinksTo committed owner reads.order synced.applied.tagChanges
    (refreshed.table,
      .ok { synced.applied with
        tagChanges := refreshed.tagChanges
        results := synced.applied.results.map
          (refreshedResult owner (refreshed.table.owner owner).live refreshed.tagChanges) })

/-- What an expiry sweep found. -/
structure ExpirySwept where
  table : ScopeTable
  expired : List ScopeExpired
  tagChanges : List ScopeTagChange
  changedOwners : List String

/-- Sweep one owner. -/
def sweepOwner (now : Nat) (swept : ExpirySwept) (owner : String) : ExpirySwept :=
  let state := swept.table.owner owner
  let result := expireOwner owner state now
  if result.2 = [] then swept
  else
    { table := { swept.table with owners := swept.table.owners.insert owner result.1 }
      expired := swept.expired ++ result.2
      tagChanges := swept.tagChanges ++ result.2.map fun scope =>
        ⟨owner, scope.scopeRef, state.live[scope.scopeRef]?.map LiveScope.tag, none,
          .all .scopeEnded⟩
      changedOwners := swept.changedOwners ++ [owner] }

/-- Refresh the links into one swept owner. -/
def refreshSwept (order : HashOrder) (swept : ExpirySwept) (owner : String) : ExpirySwept :=
  let refreshed := refreshLinksTo swept.table owner order swept.tagChanges
  { swept with table := refreshed.table, tagChanges := refreshed.tagChanges }

/-- End every scope whose deadline passed. -/
def sweepExpired (table : ScopeTable) (now : Nat) (order : HashOrder) : ExpirySwept :=
  let swept := (order.arrange table.owners.keys).foldl (sweepOwner now) ⟨table, [], [], []⟩
  swept.changedOwners.foldl (refreshSwept order) swept

/-- A connection that is gone gives up its authority over one owner. -/
def releaseOwner (connectionId : ConnectionId) (state : OwnerScopes) : OwnerScopes :=
  if state.authority.any fun authority => authority.connectionId = connectionId then
    { state with authority := none }
  else state

/-- A connection that is gone gives up its authority. -/
def releaseConnection (table : ScopeTable) (connectionId : ConnectionId) : ScopeTable :=
  { table with owners := table.owners.mapValues (releaseOwner connectionId) }

end Subconscious.ScopeSync
