import Subconscious.HashMaps
import Subconscious.ScopeChanges

/-!
# The forwarding table's state

The forwarding table joins client channels to module channels. Every entry
point runs under one lock, so the state is a plain record and each entry
point is a function on it. Handles to shared objects are identities: the
queue behind a sink, the one-shot sender a waiting call listens to, the flow
that counts a route's requests, and the lease of an admitted scope. What a
call does to such an object is an effect of the call.
-/

namespace Subconscious.ForwardingState

open HashMaps Protocol ScopeChanges

/-- A point of the monotone clock. -/
abbrev Instant := Nat

/-- Handle to one connection's outbound queue. -/
structure FrameSink where
  queue : Nat
  deriving DecidableEq, Repr

/-- Identity of a one-shot sender. -/
abbrev SenderId := Nat

/-- Identity of a route's flow ledger. -/
abbrev FlowId := Nat

/-- Module connection identity; the generation moves at every registration. -/
structure ModuleEndpointId where
  connectionId : ConnectionId
  generation : UInt64
  deriving DecidableEq, Repr

/-- Client-local route key. -/
structure ClientRouteKey where
  connectionId : ConnectionId
  channel : UInt16
  deriving DecidableEq, Repr

/-- Module-local route key. -/
structure ModuleRouteKey where
  endpoint : ModuleEndpointId
  channel : UInt16
  deriving DecidableEq, Repr

/-- A committed route, shared by the two route indexes. -/
structure RouteBinding where
  clientConnectionId : ConnectionId
  clientSink : FrameSink
  clientNegotiatedVer : UInt8
  clientChannel : UInt16
  clientEpoch : UInt32
  moduleId : String
  moduleEndpoint : ModuleEndpointId
  moduleSink : FrameSink
  moduleNegotiatedVer : UInt8
  moduleChannel : UInt16
  moduleEpoch : UInt32
  principal : Principal
  projectRoot : Option String
  boundAt : Instant
  flow : FlowId
  scope : Option BoundScope
  deriving DecidableEq, Repr

/-- The key a binding has in the client index. -/
def RouteBinding.clientKey (route : RouteBinding) : ClientRouteKey :=
  ⟨route.clientConnectionId, route.clientChannel⟩

/-- The key a binding has in the module index. -/
def RouteBinding.moduleKey (route : RouteBinding) : ModuleRouteKey :=
  ⟨route.moduleEndpoint, route.moduleChannel⟩

/-- Which kind of peer a route GOODBYE is delivered to. -/
inductive GoodbyeTargetKind where
  | client
  | module
  deriving DecidableEq, Repr

/-- One end of a released route, to be sent GOODBYE. -/
structure GoodbyeTarget where
  connectionId : ConnectionId
  sink : FrameSink
  negotiatedVer : UInt8
  channel : UInt16
  epoch : UInt32
  kind : GoodbyeTargetKind
  moduleId : Option String
  deriving DecidableEq, Repr

/-- An undeliverable GOODBYE closes the connection of a client, never of a module. -/
def GoodbyeTarget.closeOnDeliveryFailure (target : GoodbyeTarget) : Bool :=
  decide (target.kind = .client)

/-- The client end of a binding. -/
def RouteBinding.clientTarget (route : RouteBinding) : GoodbyeTarget :=
  ⟨route.clientConnectionId, route.clientSink, route.clientNegotiatedVer, route.clientChannel,
    route.clientEpoch, .client, some route.moduleId⟩

/-- The module end of a binding. -/
def RouteBinding.moduleTarget (route : RouteBinding) : GoodbyeTarget :=
  ⟨route.moduleEndpoint.connectionId, route.moduleSink, route.moduleNegotiatedVer,
    route.moduleChannel, route.moduleEpoch, .module, some route.moduleId⟩

/-- How one relayed route.bind ended. -/
inductive RouteBindRelayOutcome where
  | accepted
  /-- The module refused the bind with its own body. -/
  | rejected (body : ErrorBody)
  /-- The daemon refused the bind itself. -/
  | daemonRejected (body : ErrorBody)
  | moduleGone (message : String)
  deriving DecidableEq, Repr

/-- The handle pair one pending bind holds. -/
structure RouteReservation where
  clientKey : ClientRouteKey
  moduleKey : ModuleRouteKey
  clientEpoch : UInt32
  moduleEpoch : UInt32
  projectRoot : Option String
  deriving DecidableEq, Repr

/-- A relayed route.bind that no reply, drain, teardown or abort has settled. -/
structure PendingRouteBindRelayEntry where
  reservation : RouteReservation
  clientSink : FrameSink
  clientNegotiatedVer : UInt8
  routeOpenFrame : Frame
  busyRefusals : Bool
  requestWindow : Nat
  watchWindow : Option Nat
  principal : Principal
  /-- The admitted scope, with the tag captured then. -/
  scope : Option BoundScope
  deadline : Instant
  /-- Set once route.open has put the route.bind on the module's queue. -/
  relayEnqueued : Bool
  sender : SenderId
  deriving DecidableEq, Repr

/-- What `markRouteBindRelayEnqueued` found. -/
inductive RouteBindRelayMark where
  | marked
  | settledByReply
  | releasedWithoutReply
  deriving DecidableEq, Repr

/-- The result of releasing one route by handle. -/
inductive RouteRelease where
  | removed (target : GoodbyeTarget)
  | stale
  | absent
  deriving DecidableEq, Repr

/-- A registered module connection. -/
structure ModuleConnection where
  endpoint : ModuleEndpointId
  sink : FrameSink
  negotiatedVer : UInt8
  concurrency : Concurrency
  deriving DecidableEq, Repr

/-- How one module-control request ended. -/
inductive ModuleControlRpcOutcome where
  | response (body : String)
  | rejected (body : ErrorBody)
  | moduleGone (message : String)
  | malformedResponse (message : String)
  | unexpectedOp (expected actual : String)
  | deadlineElapsed
  deriving DecidableEq, Repr

/-- A module-control request without an answer yet. -/
structure PendingModuleControlRpcEntry where
  expectedOp : String
  deadline : Instant
  healthProbeStartedAt : Option Instant
  sender : SenderId
  deriving DecidableEq, Repr

/-- The newest health probe of an endpoint that timed out unanswered. -/
structure HealthProbeTombstone where
  expectedOp : String
  moduleId : String
  probeStartedAt : Instant
  expiresAt : Instant
  deriving DecidableEq, Repr

/-- Key of everything the daemon asked one endpoint on channel 0. -/
abbrev ControlKey := ModuleEndpointId × UInt64

/-- The state behind the forwarding lock. -/
structure ForwardingInner where
  daemonDraining : Bool
  /-- Whether each endpoint present at daemon shutdown reached quiescence. -/
  daemonDrainResults : HashMap ModuleEndpointId Bool
  /-- The active slot: the one endpoint per module id that routing resolves. -/
  modulesById : HashMap String ModuleConnection
  /-- The candidate slot of a swap. -/
  candidatesById : HashMap String ModuleConnection
  /-- Former active endpoints demoted by a cutover. -/
  supersededEndpoints : HashMap ModuleEndpointId ModuleConnection
  endpointByConnection : HashMap ConnectionId ModuleEndpointId
  moduleIdByEndpoint : HashMap ModuleEndpointId String
  /-- Endpoints in drain, with the reason the drain was begun with. -/
  drainingEndpoints : HashMap ModuleEndpointId RouteCloseReason
  closingConnections : Finset ConnectionId
  nextGeneration : UInt64
  reservedClient : HashMap ClientRouteKey ModuleRouteKey
  reservedModule : HashMap ModuleRouteKey ClientRouteKey
  nextClientChannel : HashMap ConnectionId UInt16
  nextModuleChannel : HashMap ModuleEndpointId UInt16
  clientSlotEpochs : HashMap ClientRouteKey UInt32
  moduleSlotEpochs : HashMap ModuleRouteKey UInt32
  lastPublishedEpoch : HashMap ClientRouteKey UInt32
  clientToModule : HashMap ClientRouteKey RouteBinding
  moduleToClient : HashMap ModuleRouteKey RouteBinding
  status : HashMap (ClientRouteKey × UInt32) String
  pendingRelays : HashMap ControlKey PendingRouteBindRelayEntry
  /-- Relays removed without a reply before route.open marked them enqueued. -/
  relaysReleasedBeforeEnqueue : Finset ControlKey
  /-- Each live scope's current tag, published by the scope table. -/
  scopeTags : HashMap (String × String) ScopeTag
  nextControlCorr : HashMap ModuleEndpointId UInt64
  pendingControlRpcs : HashMap ControlKey PendingModuleControlRpcEntry
  healthProbeTombstones : HashMap ControlKey HealthProbeTombstone

/-- The table before any connection. -/
def ForwardingInner.default : ForwardingInner where
  daemonDraining := false
  daemonDrainResults := .empty
  modulesById := .empty
  candidatesById := .empty
  supersededEndpoints := .empty
  endpointByConnection := .empty
  moduleIdByEndpoint := .empty
  drainingEndpoints := .empty
  closingConnections := ∅
  nextGeneration := 0
  reservedClient := .empty
  reservedModule := .empty
  nextClientChannel := .empty
  nextModuleChannel := .empty
  clientSlotEpochs := .empty
  moduleSlotEpochs := .empty
  lastPublishedEpoch := .empty
  clientToModule := .empty
  moduleToClient := .empty
  status := .empty
  pendingRelays := .empty
  relaysReleasedBeforeEnqueue := ∅
  scopeTags := .empty
  nextControlCorr := .empty
  pendingControlRpcs := .empty
  healthProbeTombstones := .empty

/-- Refusals of the forwarding table. A poisoned lock is not modelled. -/
inductive ForwardingError where
  | connectionRoleConflict (connectionId : ConnectionId)
  | noModuleConnection
  | moduleReloading (moduleId : String)
  | staleModuleEndpoint
  | unknownReservation (clientChannel moduleChannel : UInt16)
  | clientRouteChannelExhausted (connectionId : ConnectionId)
  | moduleRouteChannelExhausted (endpoint : ModuleEndpointId)
  | relayCorrelationExhausted
  | connectionClosing (connectionId : ConnectionId)
  | clientEgressClosed (connectionId : ConnectionId)
  | routeOpenBuild (message : String)
  | candidateSlotOccupied (moduleId : String)
  | moduleEgressUnavailable (connectionId : ConnectionId)
  deriving DecidableEq, Repr

/-- What a call does to an object outside the table. -/
inductive Effect where
  /-- Answer the route.open that waits on a one-shot. -/
  | settle (sender : SenderId) (outcome : RouteBindRelayOutcome)
  /-- Answer the waiter of a module-control request. -/
  | settleControl (sender : SenderId) (outcome : ModuleControlRpcOutcome)
  /-- Put a frame on a queue through a slot reserved for it. -/
  | enqueue (sink : FrameSink) (frame : Frame)
  | newFlow (flow : FlowId) (requestWindow : Nat) (busyRefusals : Bool) (watchWindow : Option Nat)
  | closeFlow (flow : FlowId)
  | beginFlowDrain (flow : FlowId)
  | releaseBind (lease : LeaseId)
  | recordServed (lease : LeaseId) (moduleId : String)
  | commitPresence (lease : LeaseId)
  /-- Withdraw the operator confirmations of one route or one module. -/
  | operatorRouteClosed (key : ModuleRouteKey)
  | operatorModuleClosed (endpoint : ModuleEndpointId)
  /-- Forget what the bind breaker learned of a module id's former process. -/
  | resetRouteBindBreaker (moduleId : String)
  /-- Ask a connection to close. -/
  | requestConnectionClose (connectionId : ConnectionId) (code message : String)
  deriving DecidableEq, Repr

/-- What one call leaves: the table, its answer and its effects in order. -/
structure Step (α : Type) where
  inner : ForwardingInner
  result : Except ForwardingError α
  effects : List Effect

end Subconscious.ForwardingState
