import Subconscious.ForwardingRelays

/-!
# Drains, teardown and scope drains of the forwarding table

A drain settles everything still pending on an endpoint and keeps its
routes. A teardown removes every entry of one connection. A scope drain
publishes the tags a scope call moved and closes the routes that lost
authority. The module-control requests share the endpoint's correlation
counter, and their life is modelled beside the relays.
-/

namespace Subconscious.ForwardingTeardown

open HashMaps Protocol ForwardingState ForwardingOperations ForwardingRelays

/-- Drop one pending relay without a reply. The GOODBYE of a bind already on
the module's queue is gathered; an open still sending its bind finds its key
recorded and sends the GOODBYE itself. -/
def abandonPendingRelay (outcome : RouteBindRelayOutcome) (gathered : Gathered)
    (key : ControlKey) : Gathered :=
  match gathered.inner.pendingRelays.get key with
  | none => gathered
  | some pending =>
    let dropped := dropRelay gathered.inner key pending
    let settled := gathered.effects ++ [.settle pending.sender outcome]
    if pending.relayEnqueued then
      ⟨dropped, gathered.targets ++ (abandonedRouteTarget dropped pending.reservation).toList,
        settled⟩
    else
      ⟨{ dropped with
          relaysReleasedBeforeEnqueue := insert key dropped.relaysReleasedBeforeEnqueue },
        gathered.targets, settled⟩

section

variable (inner : ForwardingInner) (endpoint : ModuleEndpointId)

/-- The keys of the relays pending on one endpoint. -/
def endpointRelayKeys : List ControlKey :=
  inner.pendingRelays.keys.filter fun key => key.1 = endpoint

/-- The control requests pending on one endpoint. -/
def endpointControlRpcs : List (ControlKey × PendingModuleControlRpcEntry) :=
  inner.pendingControlRpcs.toList.filter fun entry => entry.1.1 = endpoint

end

/-- What a drain hands to the supervisor. -/
structure ModuleDrainTarget where
  endpoint : ModuleEndpointId
  sink : FrameSink
  negotiatedVer : UInt8
  abandonedBindings : List GoodbyeTarget
  excludedSubscriptions : Nat
  deriving DecidableEq, Repr

section

variable (inner : ForwardingInner)

/-- The flows of the routes of one endpoint. -/
def endpointFlows (endpoint : ModuleEndpointId) : List FlowId :=
  (inner.clientToModule.values.filter fun route => route.moduleEndpoint = endpoint).map
    RouteBinding.flow

/-- Mark an endpoint draining and settle everything pending on it. The
argument `exclusions` is what each flow answers when its drain begins. -/
def beginDrainLocked (moduleId : String) (module : ModuleConnection) (reason : RouteCloseReason)
    (exclusions : FlowId → Nat) : Step ModuleDrainTarget :=
  let endpoint := module.endpoint
  let gated := { inner with
    drainingEndpoints := inner.drainingEndpoints.insert endpoint reason }
  let flows := endpointFlows gated endpoint
  let drained := (endpointRelayKeys gated endpoint).foldl
    (abandonPendingRelay (.daemonRejected (moduleReloadingRefusal moduleId)))
    ⟨gated, [], flows.map .beginFlowDrain⟩
  ⟨{ drained.inner with
      pendingControlRpcs := drained.inner.pendingControlRpcs.retain fun key _ =>
        key.1 ≠ endpoint },
    .ok ⟨endpoint, module.sink, module.negotiatedVer, drained.targets,
      flows.foldl (fun total flow => min (total + exclusions flow) 0xFFFFFFFF) 0⟩,
    drained.effects ++ (endpointControlRpcs drained.inner endpoint).map fun entry =>
      .settleControl entry.2.sender (.moduleGone
        s!"module '{moduleId}' began draining during module-control RPC")⟩

/-- Begin draining whatever endpoint is active for a module id. -/
def beginModuleDrain (moduleId : String) (reason : RouteCloseReason) (exclusions : FlowId → Nat) :
    Step (Option ModuleDrainTarget) :=
  match inner.modulesById.get moduleId with
  | none => ⟨inner, .ok none, []⟩
  | some module =>
    let drained := beginDrainLocked inner moduleId module reason exclusions
    ⟨drained.inner, drained.result.map some, drained.effects⟩

/-- Begin draining one specific endpoint, whichever slot it is in. -/
def beginEndpointDrain (endpoint : ModuleEndpointId) (reason : RouteCloseReason)
    (exclusions : FlowId → Nat) : Step (Option ModuleDrainTarget) :=
  match moduleConnectionForEndpointLocked inner endpoint, inner.moduleIdByEndpoint.get endpoint with
  | some module, some moduleId =>
    let drained := beginDrainLocked inner moduleId module reason exclusions
    ⟨drained.inner, drained.result.map some, drained.effects⟩
  | _, _ => ⟨inner, .ok none, []⟩

/-- Gate every endpoint at daemon shutdown. -/
def beginDaemonDrain : Step (List (String × ModuleEndpointId)) :=
  if inner.daemonDraining then ⟨inner, .ok [], []⟩
  else
    let modules := inner.modulesById.toList.map fun entry => (entry.1, entry.2.endpoint)
    let offSlot := inner.candidatesById.values.map ModuleConnection.endpoint
      ++ inner.supersededEndpoints.keys
    ⟨{ inner with
        daemonDraining := true
        daemonDrainResults := modules.foldl
          (fun results entry => results.insert entry.2 false) inner.daemonDrainResults
        drainingEndpoints := (modules.map Prod.snd ++ offSlot).foldl
          (fun draining endpoint => draining.insert endpoint .restart) inner.drainingEndpoints },
      .ok modules, []⟩

/-- Record whether an endpoint captured at shutdown reached quiescence. -/
def recordDaemonDrainResult (endpoint : ModuleEndpointId) (drained : Bool) : Step Unit :=
  ⟨{ inner with daemonDrainResults := inner.daemonDrainResults.modify endpoint fun _ => drained },
    .ok (), []⟩

/-- Release one reserved pair by its module key. -/
def releaseReservedModuleKey (moduleKey : ModuleRouteKey) : ForwardingInner :=
  match inner.reservedModule.get moduleKey with
  | some clientKey => releaseReservedRouteLocked inner clientKey moduleKey
  | none => inner

/-- Clear the slot of a module id when exactly this endpoint is in it. -/
def clearSlot (modules : HashMap String ModuleConnection) (moduleId : String)
    (endpoint : ModuleEndpointId) : HashMap String ModuleConnection :=
  if (modules.get moduleId).any fun module => module.endpoint = endpoint then
    modules.remove moduleId
  else modules

/-- Drop the id, slots and counters of an endpoint, before its relays and routes. -/
def forgetEndpoint (endpoint : ModuleEndpointId) : ForwardingInner :=
  { inner with
    drainingEndpoints := inner.drainingEndpoints.remove endpoint
    daemonDrainResults := inner.daemonDrainResults.remove endpoint
    moduleIdByEndpoint := inner.moduleIdByEndpoint.remove endpoint
    modulesById := match inner.moduleIdByEndpoint.get endpoint with
      | some moduleId => clearSlot inner.modulesById moduleId endpoint
      | none => inner.modulesById
    candidatesById := match inner.moduleIdByEndpoint.get endpoint with
      | some moduleId => clearSlot inner.candidatesById moduleId endpoint
      | none => inner.candidatesById
    supersededEndpoints := inner.supersededEndpoints.remove endpoint
    endpointByConnection := inner.endpointByConnection.remove endpoint.connectionId
    nextModuleChannel := inner.nextModuleChannel.remove endpoint
    nextControlCorr := inner.nextControlCorr.remove endpoint
    healthProbeTombstones := inner.healthProbeTombstones.retain fun key _ => key.1 ≠ endpoint
    moduleSlotEpochs := inner.moduleSlotEpochs.retain fun key _ => key.endpoint ≠ endpoint }

end

/-- What tearing down one connection released. -/
structure ConnectionCleanup where
  released : List GoodbyeTarget
  abandonedRelays : Nat
  deriving DecidableEq, Repr

section

variable (inner : ForwardingInner)

section

variable (endpoint : ModuleEndpointId)

/-- The reserved module keys of one endpoint. -/
def endpointReservedKeys : List ModuleRouteKey :=
  inner.reservedModule.keys.filter fun key => key.endpoint = endpoint

/-- Take every relay of an endpoint out of the pending map, and record the
ones whose open is still sending. -/
def dropEndpointRelays : ForwardingInner :=
  let unsent := (inner.pendingRelays.toList.filter fun entry =>
    entry.1.1 = endpoint && !entry.2.relayEnqueued).map Prod.fst
  { inner with
    pendingRelays := inner.pendingRelays.retain fun key _ => key.1 ≠ endpoint
    relaysReleasedBeforeEnqueue := inner.relaysReleasedBeforeEnqueue ∪ unsent.toFinset }

/-- Remove a module connection with everything that belongs to it. -/
def removeModuleConnectionLocked : Step ConnectionCleanup :=
  let moduleLabel := (inner.moduleIdByEndpoint.get endpoint).getD "unknown"
  let forgotten := forgetEndpoint inner endpoint
  let unreserved := (endpointReservedKeys forgotten endpoint).foldl
    releaseReservedModuleKey forgotten
  let relays := unreserved.pendingRelays.toList.filter fun entry => entry.1.1 = endpoint
  let unrelayed := dropEndpointRelays unreserved endpoint
  let controls := endpointControlRpcs unrelayed endpoint
  let uncontrolled := { unrelayed with
    pendingControlRpcs := unrelayed.pendingControlRpcs.retain fun key _ => key.1 ≠ endpoint }
  let unrouted := releaseEndpointRoutesLocked uncontrolled endpoint
  ⟨unrouted.inner,
    .ok ⟨unrouted.targets, min relays.length 0xFFFFFFFF⟩,
    .operatorModuleClosed endpoint
      :: relays.map (fun entry => .settle entry.2.sender (.moduleGone
        s!"module '{moduleLabel}' connection closed during route.bind relay"))
      ++ controls.map (fun entry => .settleControl entry.2.sender (.moduleGone
        s!"module '{moduleLabel}' connection closed during module-control RPC"))
      ++ unrouted.effects⟩

end

section

variable (connectionId : ConnectionId)

/-- The keys of the relays one client connection waits on. -/
def clientRelayKeys : List ControlKey :=
  (inner.pendingRelays.toList.filter fun entry =>
    entry.2.reservation.clientKey.connectionId = connectionId).map Prod.fst

/-- The pairs one client connection still holds reserved. -/
def clientReservedPairs : List (ClientRouteKey × ModuleRouteKey) :=
  inner.reservedClient.toList.filter fun entry => entry.1.connectionId = connectionId

/-- Forget the slots, published epochs and statuses of a client connection. -/
def forgetClientSlots : ForwardingInner :=
  { inner with
    nextClientChannel := inner.nextClientChannel.remove connectionId
    clientSlotEpochs := inner.clientSlotEpochs.retain fun key _ => key.connectionId ≠ connectionId
    lastPublishedEpoch := inner.lastPublishedEpoch.retain fun key _ =>
      key.connectionId ≠ connectionId
    status := inner.status.retain fun key _ => key.1.connectionId ≠ connectionId }

/-- Remove the routes, relays and slots of a client connection. -/
def cleanupClientConnectionLocked : Gathered :=
  let unrouted := releaseClientConnectionRoutes inner connectionId
  let unrelayed := (clientRelayKeys unrouted.inner connectionId).foldl
    (abandonPendingRelay (.moduleGone "client connection closed during route.bind relay"))
    unrouted
  let unreserved := (clientReservedPairs unrelayed.inner connectionId).foldl
    (fun inner pair => releaseReservedRouteLocked inner pair.1 pair.2) unrelayed.inner
  ⟨forgetClientSlots unreserved connectionId, unrelayed.targets, unrelayed.effects⟩

/-- Tear one connection down. The closing mark is set for the duration only. -/
def cleanupConnectionCounted : Step ConnectionCleanup :=
  let marked := { inner with
    closingConnections := insert connectionId inner.closingConnections }
  let cleaned : Step ConnectionCleanup :=
    match marked.endpointByConnection.get connectionId with
    | some endpoint =>
      removeModuleConnectionLocked
        { marked with endpointByConnection := marked.endpointByConnection.remove connectionId }
        endpoint
    | none =>
      let gathered := cleanupClientConnectionLocked marked connectionId
      ⟨gathered.inner, .ok ⟨gathered.targets, 0⟩, gathered.effects⟩
  { cleaned with inner := { cleaned.inner with
      closingConnections := cleaned.inner.closingConnections.erase connectionId } }

/-- Mark a client whose queue refused a frame of a published route closing. -/
def escalateClientDeliveryFailure (channel : UInt16) (expectedEpoch : UInt32)
    (code message : String) : Step Bool :=
  if inner.lastPublishedEpoch.get ⟨connectionId, channel⟩ ≠ some expectedEpoch then
    ⟨inner, .ok false, []⟩
  else
    ⟨{ inner with closingConnections := insert connectionId inner.closingConnections },
      .ok true, [.requestConnectionClose connectionId code message]⟩

end

end

end Subconscious.ForwardingTeardown
