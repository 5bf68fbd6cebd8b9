import Subconscious.ScopeAdmissions
import Subconscious.ScopeRuns
import Subconscious.ForwardingRuns

/-!
# Scopes and routes together

The scope table and the forwarding table are two locks. A scope call publishes
the tags it moved while it holds both. An admitted open holds a lease: the
open itself first, then its pending relay, then its route, and beside them the
snapshots of the binding that the data plane keeps. The lease counts the bind
in its session and remembers what the bind was admitted under.

The counters are integers here, so that a count below zero would show.
-/

namespace Subconscious.ScopedWorld

open HashMaps Protocol ScopeRecords ScopeChanges ScopeTables ScopeChecks ScopeSync ScopeRuns
open ScopeAdmissions ForwardingState ForwardingRelays ForwardingRuns

/-- Identity of a presence flag: the lease it was made for. -/
abbrev PresenceId := LeaseId

/-- A route.open that names a scope. -/
structure ScopedOpen where
  opener : Principal
  connectionId : ConnectionId
  targetModule : String
  selector : ScopeSelector
  /-- What the target's manifest provides when the open is admitted. -/
  capabilities : Capabilities
  reads : AdmissionReads

/-- What an admission decided; it never changes afterwards. -/
structure Grant where
  owner : String
  selector : ScopeSelector
  opener : Principal
  connectionId : ConnectionId
  targetModule : String
  /-- The live scope it was admitted under. -/
  scope : LiveScope
  /-- The stamp the admission issued. -/
  issued : ScopeStamp
  /-- The flag its commit sets, when it holds presence. -/
  presence : Option PresenceId

/-- Binds of supervised modules say nothing about a live host and do not count. -/
def countsForIdle (opener : Principal) : Bool := (reservedModuleId opener).isNone

/-- The handle of one admitted bind. -/
structure Lease where
  grant : Grant
  /-- Whether the bind was taken off its counter, or never was on it. -/
  released : Bool
  /-- The open holds the handle and has not reserved its relay. -/
  waiting : Bool
  /-- A snapshot of the binding holds the handle. -/
  retained : Bool
  /-- The stamp its route.bind carried. -/
  stamp : Option ScopeStamp

/-- Both tables, the leases and the counters they share with the sessions. -/
structure World where
  scopes : ScopeTable
  forwarding : ForwardingInner
  /-- Every lease ever made, by identity. -/
  leases : List Lease
  binds : HashMap CellId Int
  presence : HashMap (CellId × ConnectionId) PresenceId
  /-- The flags that are set. -/
  present : Finset PresenceId

/-- A daemon that just started. -/
def World.new (authorityOwners : Finset String) : World where
  scopes := .new authorityOwners
  forwarding := .default
  leases := []
  binds := .empty
  presence := .empty
  present := ∅

section

variable (world : World)

/-- The count of a session's binds. -/
def World.bindCount (cells : CellId) : Int := (world.binds.get cells).getD 0

/-- Whether a session's counters say that it is bound or present. -/
def World.inUse (cells : CellId) : Bool :=
  decide (world.bindCount cells ≠ 0)
    || world.presence.toList.any fun entry => entry.1.1 = cells && decide (entry.2 ∈ world.present)

/-- Whether a scope was admitted under a lease. -/
def ofLease (lease : LeaseId) (scope : Option BoundScope) : Bool :=
  scope.any fun scope => scope.lease = lease

/-- A pending relay holds the lease. -/
def relayHolds (inner : ForwardingInner) (lease : LeaseId) : Bool :=
  inner.pendingRelays.values.any fun pending => ofLease lease pending.scope

/-- A bound route holds the lease. -/
def routeHolds (inner : ForwardingInner) (lease : LeaseId) : Bool :=
  inner.clientToModule.values.any fun route => ofLease lease route.scope

section

variable (id : LeaseId)

/-- The open, its relay or its route holds the lease. -/
def World.holds (lease : Lease) : Bool :=
  lease.waiting || relayHolds world.forwarding id || routeHolds world.forwarding id

/-- Something at all holds the lease. -/
def World.keeps (lease : Lease) : Bool :=
  world.holds id lease || lease.retained

/-- Whether a lease that something holds shares a presence flag. -/
def World.flagShared (flag : PresenceId) : Bool :=
  world.leases.zipIdx.any fun entry =>
    decide (entry.1.grant.presence = some flag) && world.keeps entry.2 entry.1

/-- Change one lease. -/
def World.setLease (change : Lease → Lease) : World :=
  { world with leases := world.leases.modify id change }

/-- Take a bind off its counter, unless that was done. -/
def World.release : World :=
  match world.leases[id]? with
  | none => world
  | some lease =>
    if lease.released then world
    else
      let cells := lease.grant.scope.cells
      let released := world.setLease id fun lease => { lease with released := true }
      { released with binds := world.binds.insert cells (world.bindCount cells - 1) }

/-- Set the presence flag of a lease that has one. -/
def World.commitPresence : World :=
  match world.leases[id]? with
  | none => world
  | some lease =>
    { world with
      present := match lease.grant.presence with
        | some flag => insert flag world.present
        | none => world.present }

end

/-- What an effect of the forwarding table does to the leases. -/
def World.applyEffect : Effect → World
  | .releaseBind lease => world.release lease
  | .commitPresence lease => world.commitPresence lease
  | _ => world

/-- A lease nothing holds is dropped, and a drop releases it. -/
def World.dropUnheld : World :=
  (List.range world.leases.length).foldl
    (fun acc id => match world.leases[id]? with
      | some lease => if world.keeps id lease then acc else acc.release id
      | none => acc)
    world

/-- One call of the forwarding table, with its effects on the leases and the
drop of the entries it took out. -/
def World.callTable (op : Op) : World :=
  let called := { world with forwarding := op.apply world.forwarding }
  ((op.effects world.forwarding).foldl World.applyEffect called).dropUnheld

/-- Most connections one session remembers as present. -/
def maxPresence : Nat := 8

/-- The presence of a session without the flags nobody can set any more. -/
def World.livePresence (cells : CellId) : HashMap (CellId × ConnectionId) PresenceId :=
  world.presence.retain fun key flag =>
    decide (key.1 ≠ cells) || decide (flag ∈ world.present) || world.flagShared flag

/-- The presence flag of a new bind, and the presence with it. -/
def World.presenceHandle (cells : CellId) (connectionId : ConnectionId) (wanted : Bool) :
    Option PresenceId × HashMap (CellId × ConnectionId) PresenceId :=
  let presence := world.livePresence cells
  if wanted then
    match presence.get (cells, connectionId) with
    | some flag => (some flag, presence)
    | none =>
      if presence.keys.countP (fun key => key.1 = cells) < maxPresence then
        (some world.leases.length, presence.insert (cells, connectionId) world.leases.length)
      else (none, presence)
  else (none, presence)

/-- Count a bind and make its lease, under the lock that admitted it. -/
def World.reserveBind (request : ScopedOpen) (admission : ScopeAdmission) (scope : LiveScope) :
    World :=
  let counts := countsForIdle request.opener
  let handle := world.presenceHandle scope.cells request.connectionId
    (request.selector.holdPresence && counts)
  { world with
    binds :=
      if counts then world.binds.insert scope.cells (world.bindCount scope.cells + 1)
      else world.binds
    presence := handle.2
    leases := world.leases ++
      [{ grant := ⟨admission.owner, request.selector, request.opener, request.connectionId,
            request.targetModule, scope, admission.stamp, handle.1⟩
         released := !counts
         waiting := true
         retained := false
         stamp := none }] }

/-- Admit a scoped open and reserve its bind, or refuse it. -/
def World.openScoped (request : ScopedOpen) : World :=
  match admitOpen world.scopes request.opener request.targetModule request.selector
      request.reads with
  | .error _ => world
  | .ok admission =>
    match checkTargetSupport admission.stamp request.targetModule request.capabilities with
    | .error _ => world
    | .ok () =>
      match world.scopes.live? admission.owner admission.stamp.scopeRef with
      | some scope => world.reserveBind request admission scope
      | none => world

/-- The scope a relay of the lease carries. -/
def Grant.bound (grant : Grant) (id : LeaseId) : BoundScope :=
  ⟨grant.owner, grant.selector.scopeRef, grant.scope.tag, grant.issued.workdir, id⟩

/-- The relay request of an admitted open. -/
def Grant.relayRequest (grant : Grant) (id : LeaseId) (request : RelayRequest) : RelayRequest :=
  { request with
    clientConnectionId := grant.connectionId
    moduleId := grant.targetModule
    principal := grant.opener
    scope := some (grant.bound id) }

/-- Reserve the relay of an admitted open. The handle moves into the table,
or is dropped with the refused request. -/
def World.beginScoped (id : LeaseId) (request : RelayRequest) : World :=
  match world.leases[id]? with
  | none => world
  | some lease =>
    if lease.waiting then
      (world.setLease id fun lease => { lease with waiting := false }).callTable
        (.beginRouteBindRelay (lease.grant.relayRequest id request))
    else world

/-- Send the route.bind with what its endpoint reads of the stamp, unless the
proof or the target's support no longer hold. -/
def World.sendBind (id : LeaseId) (capabilities : Capabilities)
    (bindProofMatches : String → String → Bool) : World :=
  match world.leases[id]? with
  | none => world
  | some lease =>
    if lease.waiting || lease.stamp.isSome then world
    else
      match checkBindProof world.scopes lease.grant.opener lease.grant.selector
          bindProofMatches with
      | .error _ => world
      | .ok () =>
        match checkTargetSupport lease.grant.issued lease.grant.targetModule capabilities with
        | .error _ => world
        | .ok () =>
          world.setLease id fun lease =>
            { lease with stamp := some (relayedStamp lease.grant.issued capabilities) }

/-- Publish what a scope call changed, under both locks. -/
def World.changeScopes (op : ScopeOp) : World :=
  { world with scopes := op.apply world.scopes }.callTable
    (.publishScopeChanges (op.tagChanges world.scopes))

end

/-- A connection that is gone leaves the presence of every session. -/
def World.releaseConnection (world : World) (connectionId : ConnectionId) : World :=
  { world with
    scopes := ScopeSync.releaseConnection world.scopes connectionId
    presence := world.presence.retain fun key _ => key.2 ≠ connectionId }

/-- The calls of the forwarding table that carry no scope of their own. -/
def plainCall : Op → Bool
  | .beginRouteBindRelay request => request.scope.isNone
  | .publishScopeChanges _ => false
  | _ => true

/-- One thing that happens in the daemon. -/
inductive Event where
  /-- An owner syncs or applies its scopes. -/
  | changeScopes (request : ScopeChange) (now : Nat) (order : HashOrder)
  | sweepExpired (now : Nat) (order : HashOrder)
  | releaseConnection (connectionId : ConnectionId)
  | openScoped (request : ScopedOpen)
  /-- An open is refused, or its task ends, before it reserved its relay. -/
  | abandonOpen (lease : LeaseId)
  | beginScoped (lease : LeaseId) (request : RelayRequest)
  | sendBind (lease : LeaseId) (capabilities : Capabilities)
      (bindProofMatches : String → String → Bool)
  /-- The data plane takes a snapshot of a bound route, and lets it go. -/
  | retain (lease : LeaseId)
  | forget (lease : LeaseId)
  /-- Any other call of the forwarding table. -/
  | call (op : Op)

/-- The scope call of an event, with what it reads of the counters. -/
def scopeCall (world : World) : Event → Option ScopeOp
  | .changeScopes request now order => some (.change request ⟨now, world.inUse, order⟩)
  | .sweepExpired now order => some (.sweepExpired now order)
  | _ => none

/-- The world after one event. An event out of turn changes nothing. -/
def step (world : World) : Event → World
  | .changeScopes request now order =>
    world.changeScopes (.change request ⟨now, world.inUse, order⟩)
  | .sweepExpired now order => world.changeScopes (.sweepExpired now order)
  | .releaseConnection connectionId => world.releaseConnection connectionId
  | .openScoped request => world.openScoped request
  | .abandonOpen id => (world.setLease id fun lease => { lease with waiting := false }).dropUnheld
  | .beginScoped id request => world.beginScoped id request
  | .sendBind id capabilities bindProofMatches => world.sendBind id capabilities bindProofMatches
  | .retain id =>
    if routeHolds world.forwarding id then
      world.setLease id fun lease => { lease with retained := true }
    else world
  | .forget id => (world.setLease id fun lease => { lease with retained := false }).dropUnheld
  | .call op => if plainCall op then world.callTable op else world

section

variable (authorityOwners : Finset String)

/-- The world after a run of a daemon that just started. -/
def run (events : List Event) : World :=
  events.foldl step (.new authorityOwners)

/-- A run ends with its last event. -/
theorem run_append (events : List Event) (event : Event) :
    run authorityOwners (events ++ [event]) = step (run authorityOwners events) event := by
  unfold run
  rw [List.foldl_append]
  rfl

/-- An invariant of every event holds along every run. -/
theorem run_induction {motive : World → Prop} (hnew : motive (.new authorityOwners))
    (hstep : ∀ world event, motive world → motive (step world event)) (events : List Event) :
    motive (run authorityOwners events) := by
  induction events using List.reverseRecOn with
  | nil => exact hnew
  | append_singleton events event ih =>
    rw [run_append]
    exact hstep _ event ih

end

end Subconscious.ScopedWorld
