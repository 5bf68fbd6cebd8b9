import Subconscious.ForwardingOperations

/-!
# Relays, routes, drains and teardown of the forwarding table

A route.open reserves a slot pair and leaves a pending relay. A reply of the
module, a drain, a teardown or the open's own abort takes the relay away
again, and only an accepted reply turns it into a binding. The functions
below are the table's side of that life, in the order of the source.
-/

namespace Subconscious.ForwardingRelays

open Protocol ScopeChanges ForwardingState ForwardingOperations

/-- Give back a reserved pair, where it is still reserved as that pair. -/
def releaseReservedRouteLocked (inner : ForwardingInner) (clientKey : ClientRouteKey)
    (moduleKey : ModuleRouteKey) : ForwardingInner :=
  { inner with
    reservedClient :=
      if inner.reservedClient.get clientKey = some moduleKey then
        inner.reservedClient.remove clientKey
      else inner.reservedClient
    reservedModule :=
      if inner.reservedModule.get moduleKey = some clientKey then
        inner.reservedModule.remove moduleKey
      else inner.reservedModule
    status := inner.status.retain fun key _ => key.1 ≠ clientKey }

/-- A release by handle: the table, what it found and its effects. -/
structure Release where
  inner : ForwardingInner
  release : RouteRelease
  effects : List Effect

/-- Stop counting the bind of a route's scope, when it has one. -/
def releaseBindEffects (route : RouteBinding) : List Effect :=
  match route.scope with
  | some scope => [.releaseBind scope.lease]
  | none => []

section

variable (inner : ForwardingInner)

/-- Remove the route at a client handle and name its module end. -/
def releaseClientRouteLocked (clientKey : ClientRouteKey) (expectedEpoch : UInt32) : Release :=
  match inner.clientToModule.get clientKey with
  | none => ⟨inner, .absent, []⟩
  | some route =>
    if route.clientEpoch ≠ expectedEpoch then ⟨inner, .stale, []⟩
    else
      ⟨{ inner with
          clientToModule := inner.clientToModule.remove clientKey
          moduleToClient := inner.moduleToClient.remove route.moduleKey
          status := inner.status.remove (clientKey, expectedEpoch) },
        .removed route.moduleTarget,
        .closeFlow route.flow :: releaseBindEffects route ++ [.operatorRouteClosed route.moduleKey]⟩

/-- Remove the route at a module handle and name its client end. -/
def releaseModuleRouteLocked (moduleKey : ModuleRouteKey) (expectedEpoch : UInt32) : Release :=
  match inner.moduleToClient.get moduleKey with
  | none => ⟨inner, .absent, []⟩
  | some route =>
    if route.moduleEpoch ≠ expectedEpoch then ⟨inner, .stale, []⟩
    else
      ⟨{ inner with
          moduleToClient := inner.moduleToClient.remove moduleKey
          clientToModule := inner.clientToModule.remove route.clientKey
          status := inner.status.remove (route.clientKey, route.clientEpoch) },
        .removed route.clientTarget,
        .operatorRouteClosed moduleKey :: .closeFlow route.flow :: releaseBindEffects route⟩

/-- Release a route on a client's GOODBYE. -/
def releaseClientRoute (clientConnectionId : ConnectionId) (clientChannel : UInt16)
    (expectedEpoch : UInt32) : Step RouteRelease :=
  let released := releaseClientRouteLocked inner ⟨clientConnectionId, clientChannel⟩ expectedEpoch
  ⟨released.inner, .ok released.release, released.effects⟩

/-- Release a route on a module's GOODBYE. -/
def releaseModuleRoute (moduleConnectionId : ConnectionId) (moduleChannel : UInt16)
    (expectedEpoch : UInt32) : Step RouteRelease :=
  match inner.endpointByConnection.get moduleConnectionId with
  | none => ⟨inner, .ok .absent, []⟩
  | some endpoint =>
    let released := releaseModuleRouteLocked inner ⟨endpoint, moduleChannel⟩ expectedEpoch
    ⟨released.inner, .ok released.release, released.effects⟩

end

/-- The table, the ends to notify and the effects a loop has gathered. -/
structure Gathered where
  inner : ForwardingInner
  targets : List GoodbyeTarget
  effects : List Effect

/-- Add one release to what a loop gathered. -/
def Gathered.addRelease (gathered : Gathered) (released : Release) : Gathered :=
  { inner := released.inner
    targets := match released.release with
      | .removed target => gathered.targets ++ [target]
      | _ => gathered.targets
    effects := gathered.effects ++ released.effects }

section

variable (inner : ForwardingInner)

/-- Release the routes of one client connection. -/
def releaseClientConnectionRoutes (connectionId : ConnectionId) : Gathered :=
  (inner.clientToModule.toList.filter fun entry => entry.1.connectionId = connectionId).foldl
    (fun gathered entry =>
      gathered.addRelease (releaseClientRouteLocked gathered.inner entry.1 entry.2.clientEpoch))
    ⟨inner, [], []⟩

/-- Release the routes of one module endpoint. -/
def releaseEndpointRoutesLocked (endpoint : ModuleEndpointId) : Gathered :=
  (inner.moduleToClient.toList.filter fun entry => entry.1.endpoint = endpoint).foldl
    (fun gathered entry =>
      gathered.addRelease (releaseModuleRouteLocked gathered.inner entry.1 entry.2.moduleEpoch))
    ⟨inner, [], []⟩

/-- Release the routes of an endpoint whose drain is over. -/
def releaseModuleEndpointRoutes (endpoint : ModuleEndpointId) : Step (List GoodbyeTarget) :=
  let gathered := releaseEndpointRoutesLocked inner endpoint
  ⟨gathered.inner, .ok gathered.targets, gathered.effects⟩

end

/-- What one route.open hands to the table. -/
structure RelayRequest where
  clientConnectionId : ConnectionId
  clientSink : FrameSink
  clientNegotiatedVer : UInt8
  clientCorr : UInt64
  moduleId : String
  principal : Principal
  scope : Option BoundScope
  projectRoot : Option String
  deadline : Instant
  busyRefusals : Bool
  /-- The one-shot the open will wait on. -/
  sender : SenderId
  deriving DecidableEq, Repr

/-- What the open needs to send its route.bind. -/
structure PendingRouteBindRelay where
  endpoint : ModuleEndpointId
  moduleSink : FrameSink
  negotiatedVer : UInt8
  slots : RouteSlots
  corr : UInt64
  deriving DecidableEq, Repr

/-- Requests a channel may have in flight. -/
def windowFor : Concurrency → Nat
  | .serial => 1
  | .moduleManaged => 32
  | .statelessParallel => 1024

/-- Watches a module-managed channel may hold. -/
def defaultModuleManagedWatchWindow : Nat := 24

/-- The flags of the route.open response. -/
def routeOpenFlags : Flags := .new false .passive false

/-- The pending entry of one reserved relay. -/
def RelayRequest.entry (request : RelayRequest) (module : ModuleConnection) (slots : RouteSlots)
    (routeOpenFrame : Frame) : PendingRouteBindRelayEntry where
  reservation :=
    ⟨⟨request.clientConnectionId, slots.clientChannel⟩, ⟨module.endpoint, slots.moduleChannel⟩,
      slots.clientEpoch, slots.moduleEpoch, request.projectRoot⟩
  clientSink := request.clientSink
  clientNegotiatedVer := request.clientNegotiatedVer
  routeOpenFrame := routeOpenFrame
  busyRefusals := request.busyRefusals
  requestWindow := windowFor module.concurrency
  watchWindow :=
    if request.busyRefusals && module.concurrency = .moduleManaged then
      some defaultModuleManagedWatchWindow
    else none
  principal := request.principal
  scope := request.scope
  deadline := request.deadline
  relayEnqueued := false
  sender := request.sender

section

variable (inner : ForwardingInner)

/-- Add one pending relay with its reserved pair. -/
def reserveRelay (key : ControlKey) (entry : PendingRouteBindRelayEntry) : ForwardingInner :=
  { inner with
    reservedClient :=
      inner.reservedClient.insert entry.reservation.clientKey entry.reservation.moduleKey
    reservedModule :=
      inner.reservedModule.insert entry.reservation.moduleKey entry.reservation.clientKey
    pendingRelays := inner.pendingRelays.insert key entry }

/-- The module connection a relay may be reserved on, or why none. -/
def relayTargetLocked (clientConnectionId : ConnectionId) (moduleId : String) :
    Except ForwardingError ModuleConnection :=
  if inner.endpointByConnection.contains clientConnectionId then
    .error (.connectionRoleConflict clientConnectionId)
  else if clientConnectionId ∈ inner.closingConnections then
    .error (.connectionClosing clientConnectionId)
  else
    match inner.modulesById.get moduleId with
    | none => .error .noModuleConnection
    | some module =>
      if inner.drainingEndpoints.contains module.endpoint then
        .error (.moduleReloading moduleId)
      else if module.endpoint.connectionId ∈ inner.closingConnections then
        .error (.connectionClosing module.endpoint.connectionId)
      else
        .ok module

/-- Reserve a slot pair and a correlation id for one route.open. -/
def beginRouteBindRelayInner (request : RelayRequest) : Step PendingRouteBindRelay :=
  match relayTargetLocked inner request.clientConnectionId request.moduleId with
  | .error err => ⟨inner, .error err, []⟩
  | .ok module =>
    match allocateControlCorr inner module.endpoint with
    | (inner, .error err) => ⟨inner, .error err, [correlationExhaustedClose module.endpoint]⟩
    | (inner, .ok corr) =>
      match allocateRouteSlots inner request.clientConnectionId module.endpoint with
      | (inner, .error err) => ⟨inner, .error err, []⟩
      | (inner, .ok slots) =>
        match Frame.buildWithVersion request.clientNegotiatedVer .response routeOpenFlags 0 0
            request.clientCorr (routeOpenBody slots.clientChannel slots.clientEpoch none none) with
        | .error message => ⟨inner, .error (.routeOpenBuild message), []⟩
        | .ok frame =>
          ⟨reserveRelay inner (module.endpoint, corr) (request.entry module slots frame),
            .ok ⟨module.endpoint, module.sink, module.negotiatedVer, slots, corr⟩, []⟩

/-- Record that the route.bind entered the module's queue. -/
def markRouteBindRelayEnqueued (endpoint : ModuleEndpointId) (corr : UInt64) :
    Step RouteBindRelayMark :=
  if inner.pendingRelays.contains (endpoint, corr) then
    ⟨{ inner with
        pendingRelays := inner.pendingRelays.modify (endpoint, corr) fun pending =>
          { pending with relayEnqueued := true } },
      .ok .marked, []⟩
  else if (endpoint, corr) ∈ inner.relaysReleasedBeforeEnqueue then
    ⟨{ inner with
        relaysReleasedBeforeEnqueue := inner.relaysReleasedBeforeEnqueue.erase (endpoint, corr) },
      .ok .releasedWithoutReply, []⟩
  else
    ⟨inner, .ok .settledByReply, []⟩

/-- Take a pending relay out of the table together with its reserved pair. -/
def dropRelay (key : ControlKey) (pending : PendingRouteBindRelayEntry) : ForwardingInner :=
  releaseReservedRouteLocked { inner with pendingRelays := inner.pendingRelays.remove key }
    pending.reservation.clientKey pending.reservation.moduleKey

/-- Give up a relay from the open's own side. -/
def abortPendingRelay (endpoint : ModuleEndpointId) (corr : UInt64)
    (outcome : RouteBindRelayOutcome) : Step (Option GoodbyeTarget) :=
  match inner.pendingRelays.get (endpoint, corr) with
  | none =>
    ⟨{ inner with
        relaysReleasedBeforeEnqueue := inner.relaysReleasedBeforeEnqueue.erase (endpoint, corr) },
      .ok none, []⟩
  | some pending =>
    let dropped := dropRelay inner (endpoint, corr) pending
    ⟨dropped,
      .ok (if pending.relayEnqueued then abandonedRouteTarget dropped pending.reservation
        else none),
      [.settle pending.sender outcome]⟩

/-- Why a bind admitted under `scope` may no longer commit. -/
def scopeRefusalLocked (scope : BoundScope) : Option ErrorBody :=
  let ended := ErrorBody.new "scope_ended"
    s!"scope '{scope.scopeRef}' of {scope.owner} at scope_epoch {scope.tag.scopeEpoch} ended while the route was being bound"
  match inner.scopeTags.get scope.key with
  | some current =>
    if current = scope.tag then none
    else if current.scopeEpoch = scope.tag.scopeEpoch then
      some (.new "scope_changed"
        s!"scope '{scope.scopeRef}' of {scope.owner} changed while the route was being bound; re-open it")
    else some ended
  | none => some ended

end

/-- What a completion reads from outside the table. -/
structure CompletionReads where
  now : Instant
  /-- Whether the client's queue had lost its writer when the guard looked. -/
  sinkClosedAtGuard : Bool
  /-- The same, when the refusal text was chosen. -/
  sinkClosedAtReason : Bool
  boundAt : Instant
  flow : FlowId
  /-- Whether the writer was gone when the response entered the queue. -/
  writerClosed : Bool
  deriving DecidableEq, Repr

/-- The response frame of a commit, rebuilt with the windows when the client
asked for busy refusals. -/
def publishedFrame (pending : PendingRouteBindRelayEntry) : Except String Frame :=
  if pending.busyRefusals then
    Frame.buildWithVersion pending.clientNegotiatedVer .response
      pending.routeOpenFrame.header.flags 0 0 pending.routeOpenFrame.header.corr
      (routeOpenBody pending.reservation.clientKey.channel pending.reservation.clientEpoch
        (some pending.requestWindow) pending.watchWindow)
  else
    .ok pending.routeOpenFrame

/-- The binding an accepted relay becomes. -/
def committedBinding (pending : PendingRouteBindRelayEntry) (moduleId : String)
    (module : ModuleConnection) (reads : CompletionReads) : RouteBinding where
  clientConnectionId := pending.reservation.clientKey.connectionId
  clientSink := pending.clientSink
  clientNegotiatedVer := pending.clientNegotiatedVer
  clientChannel := pending.reservation.clientKey.channel
  clientEpoch := pending.reservation.clientEpoch
  moduleId := moduleId
  moduleEndpoint := pending.reservation.moduleKey.endpoint
  moduleSink := module.sink
  moduleNegotiatedVer := module.negotiatedVer
  moduleChannel := pending.reservation.moduleKey.channel
  moduleEpoch := pending.reservation.moduleEpoch
  principal := pending.principal
  projectRoot := pending.reservation.projectRoot
  boundAt := reads.boundAt
  flow := reads.flow
  scope := pending.scope

section

variable (inner : ForwardingInner)

/-- Enter a binding into both indexes and publish its client epoch. -/
def installBinding (binding : RouteBinding) : ForwardingInner :=
  { inner with
    clientToModule := inner.clientToModule.insert binding.clientKey binding
    moduleToClient := inner.moduleToClient.insert binding.moduleKey binding
    lastPublishedEpoch := inner.lastPublishedEpoch.insert binding.clientKey binding.clientEpoch }

/-- Take back a binding whose response no writer was left to send. -/
def retractBinding (binding : RouteBinding) (previousPublished : Option UInt32) : ForwardingInner :=
  { inner with
    clientToModule := inner.clientToModule.remove binding.clientKey
    moduleToClient := inner.moduleToClient.remove binding.moduleKey
    status := inner.status.remove (binding.clientKey, binding.clientEpoch)
    lastPublishedEpoch := match previousPublished with
      | some epoch => inner.lastPublishedEpoch.insert binding.clientKey epoch
      | none => inner.lastPublishedEpoch.remove binding.clientKey }

/-- Publish a route whose pair was just taken out of the reservations. -/
def publishRoute (pending : PendingRouteBindRelayEntry) (binding : RouteBinding) (frame : Frame)
    (reads : CompletionReads) :
    Step (Option GoodbyeTarget) :=
  let installed := installBinding inner binding
  let published : List Effect :=
    .newFlow reads.flow pending.requestWindow pending.busyRefusals
        (if pending.busyRefusals then pending.watchWindow else none)
      :: (match binding.scope with
          | some scope => [.recordServed scope.lease binding.moduleId]
          | none => [])
      ++ [.enqueue pending.clientSink frame]
  if reads.writerClosed then
    ⟨retractBinding installed binding (inner.lastPublishedEpoch.get binding.clientKey),
      .ok (abandonedRouteTarget installed pending.reservation),
      published ++ [.closeFlow reads.flow,
        .settle pending.sender (.moduleGone "client egress closed during route publication")]⟩
  else
    ⟨installed, .ok none,
      published
        ++ (match binding.scope with
          | some scope => [.commitPresence scope.lease]
          | none => [])
        ++ [.settle pending.sender .accepted]⟩

/-- Turn an accepted relay, already taken out of the pending map, into a route. -/
def commitRouteLocked (pending : PendingRouteBindRelayEntry) (reads : CompletionReads) :
    Step (Option GoodbyeTarget) :=
  let clientKey := pending.reservation.clientKey
  let moduleKey := pending.reservation.moduleKey
  if clientKey.connectionId ∈ inner.closingConnections then
    ⟨inner, .error (.connectionClosing clientKey.connectionId), []⟩
  else
    match inner.moduleIdByEndpoint.get moduleKey.endpoint with
    | none => ⟨inner, .error .staleModuleEndpoint, []⟩
    | some moduleId =>
      if inner.drainingEndpoints.contains moduleKey.endpoint then
        ⟨inner, .error (.moduleReloading moduleId), []⟩
      else
        match publishedFrame pending with
        | .error message => ⟨inner, .error (.routeOpenBuild message), []⟩
        | .ok frame =>
          let unknown := ForwardingError.unknownReservation clientKey.channel moduleKey.channel
          if inner.reservedClient.get clientKey ≠ some moduleKey then
            ⟨{ inner with reservedClient := inner.reservedClient.remove clientKey },
              .error unknown, []⟩
          else
            let taken := { inner with
              reservedClient := inner.reservedClient.remove clientKey
              reservedModule := inner.reservedModule.remove moduleKey }
            if inner.reservedModule.get moduleKey ≠ some clientKey then
              ⟨taken, .error unknown, []⟩
            else
              match (inner.modulesById.get moduleId).filter
                  fun module => module.endpoint = moduleKey.endpoint with
              | none => ⟨taken, .error .staleModuleEndpoint, []⟩
              | some module =>
                publishRoute taken pending (committedBinding pending moduleId module reads) frame reads

end

/-- What a completion reports to the module's frame handler. -/
structure PendingRelayCompletion where
  settled : Bool
  abandoned : Option GoodbyeTarget
  deriving DecidableEq, Repr

/-- The refusal of an open whose module is draining or superseded. -/
def moduleReloadingRefusal (moduleId : String) : ErrorBody :=
  .new "module_reloading" s!"module_id '{moduleId}' is reloading"

/-- Settle a relay by the module's reply. The pending entry is taken out
first, so every arm below works on the table without it. -/
def completePendingRelay (inner : ForwardingInner) (connectionId : ConnectionId) (corr : UInt64)
    (outcome : RouteBindRelayOutcome) (reads : CompletionReads) : Step PendingRelayCompletion :=
  match inner.endpointByConnection.get connectionId with
  | none => ⟨inner, .ok ⟨false, none⟩, []⟩
  | some endpoint =>
    match inner.pendingRelays.get (endpoint, corr) with
    | none => ⟨inner, .ok ⟨false, none⟩, []⟩
    | some pending =>
      let dropped := dropRelay inner (endpoint, corr) pending
      let abandoned := abandonedRouteTarget dropped pending.reservation
      if pending.deadline ≤ reads.now then
        ⟨dropped, .ok ⟨true, if outcome = .accepted then abandoned else none⟩,
          [.settle pending.sender (.daemonRejected (.new "module_timeout"
            "route.bind response arrived after its daemon deadline"))]⟩
      else
        match outcome with
        | .accepted =>
          if reads.sinkClosedAtGuard
              || decide (pending.reservation.clientKey.connectionId ∈ inner.closingConnections) then
            ⟨dropped, .ok ⟨true, abandoned⟩,
              [.settle pending.sender (.moduleGone
                (if reads.sinkClosedAtReason then
                  "client egress closed before route publication"
                else "client connection is closing before route publication"))]⟩
          else if inner.supersededEndpoints.contains endpoint
              || inner.drainingEndpoints.contains endpoint then
            ⟨dropped, .ok ⟨true, abandoned⟩,
              [.settle pending.sender (.daemonRejected (moduleReloadingRefusal
                ((inner.moduleIdByEndpoint.get endpoint).getD "unknown")))]⟩
          else
            match pending.scope.bind (scopeRefusalLocked inner) with
            | some refusal =>
              ⟨dropped, .ok ⟨true, abandoned⟩, [.settle pending.sender (.daemonRejected refusal)]⟩
            | none =>
              let committed := commitRouteLocked
                { inner with pendingRelays := inner.pendingRelays.remove (endpoint, corr) }
                pending reads
              ⟨committed.inner, committed.result.map (fun target => ⟨true, target⟩),
                committed.effects⟩
        | terminal => ⟨dropped, .ok ⟨true, none⟩, [.settle pending.sender terminal]⟩

end Subconscious.ForwardingRelays
