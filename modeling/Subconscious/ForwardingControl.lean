import Subconscious.ForwardingTeardown

/-!
# Scope publication, control requests and lookups

The scope table publishes the tags a call moved in the same step that closes
the routes the move narrows. Module-control requests share the correlation
counter of the relays. A data frame finds its route by handle: connection,
channel and epoch.
-/

namespace Subconscious.ForwardingControl

open HashMaps Protocol ScopeChanges ForwardingState ForwardingOperations ForwardingRelays

/-- Publish the tag one change leaves. -/
def publishTag (tags : HashMap (String × String) ScopeTag) (change : ScopeTagChange) :
    HashMap (String × String) ScopeTag :=
  match change.after with
  | some tag => tags.insert change.key tag
  | none => tags.remove change.key

/-- Whether a narrowing list closes a carrier's route to a module. -/
def carrierNarrowed (narrowed : List (Principal × Option (Finset String)))
    (principal : Principal) (moduleId : String) : Bool :=
  narrowed.any fun entry => entry.1 = principal && match entry.2 with
    | none => true
    | some targets => moduleId ∉ targets

/-- The reason one change closes a route of a scope, if it does. -/
def drainReason (change : ScopeTagChange) (scope : BoundScope) (route : RouteBinding) :
    Option RouteCloseReason :=
  if change.before.map ScopeTag.scopeEpoch ≠ some scope.tag.scopeEpoch then none
  else
    match change.drain with
    | .nothing => none
    | .all reason => some reason
    | .carriers narrowed =>
      if route.principal ≠ .reserved scope.owner
          && carrierNarrowed narrowed route.principal route.moduleId then
        some .scopeCarrierRemoved
      else none

/-- The change a call made to one scope. A later change of the same scope
would replace an earlier one. -/
def changesByScope (changes : List ScopeTagChange) : HashMap (String × String) ScopeTagChange :=
  changes.foldl (fun map change => map.insert change.key change) .empty

/-- Why the changes of one call close a route, if they do. -/
def selectRoute (byScope : HashMap (String × String) ScopeTagChange) (route : RouteBinding) :
    Option RouteCloseReason :=
  match route.scope with
  | none => none
  | some scope =>
    match byScope.get scope.key with
    | none => none
    | some change => drainReason change scope route

/-- One live route a scope change closed. -/
structure ScopeDrainedRoute where
  reason : RouteCloseReason
  scope : Option BoundScope
  moduleId : String
  client : GoodbyeTarget
  module : GoodbyeTarget
  deriving DecidableEq, Repr

/-- The table, the drained routes and the effects of a scope drain. -/
structure ScopeDrained where
  inner : ForwardingInner
  drained : List ScopeDrainedRoute
  effects : List Effect

/-- Close one selected route. -/
def drainSelected (acc : ScopeDrained) (selected : ClientRouteKey × UInt32 × RouteCloseReason) :
    ScopeDrained :=
  match acc.inner.clientToModule.get selected.1 with
  | none => acc
  | some route =>
    let released := releaseClientRouteLocked acc.inner selected.1 selected.2.1
    { inner := released.inner
      drained := match released.release with
        | .removed module =>
          acc.drained ++ [⟨selected.2.2, route.scope, route.moduleId, route.clientTarget, module⟩]
        | _ => acc.drained
      effects := acc.effects ++ released.effects }

section

variable (inner : ForwardingInner) (changes : List ScopeTagChange)

/-- The routes the changes of one call close. -/
def selectedRoutes : List (ClientRouteKey × UInt32 × RouteCloseReason) :=
  inner.clientToModule.toList.filterMap fun entry =>
    (selectRoute (changesByScope changes) entry.2).map fun reason =>
      (entry.1, entry.2.clientEpoch, reason)

/-- Publish the tags a scope call changed and close the routes it selects. -/
def publishScopeChanges : Step (List ScopeDrainedRoute) :=
  let published := { inner with scopeTags := changes.foldl publishTag inner.scopeTags }
  let drained := (selectedRoutes published changes).foldl drainSelected ⟨published, [], []⟩
  ⟨drained.inner, .ok drained.drained, drained.effects⟩

end

/-- What one module-control request asks for. -/
structure ControlRpcRequest where
  expectedOp : String
  deadline : Instant
  healthProbeStartedAt : Option Instant
  allowDraining : Bool
  sender : SenderId
  deriving DecidableEq, Repr

/-- What the caller needs to send its control request. -/
structure PendingModuleControlRpc where
  endpoint : ModuleEndpointId
  moduleSink : FrameSink
  negotiatedVer : UInt8
  corr : UInt64
  deriving DecidableEq, Repr

section

variable (inner : ForwardingInner)

/-- Add a control request on a resolved module connection. A new health probe
forgets the endpoint's older unanswered ones first. -/
def beginControlRpcLocked (moduleId : String) (module : ModuleConnection)
    (request : ControlRpcRequest) : Step PendingModuleControlRpc :=
  if !request.allowDraining && inner.drainingEndpoints.contains module.endpoint then
    ⟨inner, .error (.moduleReloading moduleId), []⟩
  else if module.endpoint.connectionId ∈ inner.closingConnections then
    ⟨inner, .error (.connectionClosing module.endpoint.connectionId), []⟩
  else
    let probed := { inner with
      healthProbeTombstones :=
        if request.healthProbeStartedAt.isSome then
          inner.healthProbeTombstones.retain fun key _ => key.1 ≠ module.endpoint
        else inner.healthProbeTombstones }
    match allocateControlCorr probed module.endpoint with
    | (inner, .error err) => ⟨inner, .error err, [correlationExhaustedClose module.endpoint]⟩
    | (inner, .ok corr) =>
      ⟨{ inner with
          pendingControlRpcs := inner.pendingControlRpcs.insert (module.endpoint, corr)
            ⟨request.expectedOp, request.deadline, request.healthProbeStartedAt, request.sender⟩ },
        .ok ⟨module.endpoint, module.sink, module.negotiatedVer, corr⟩, []⟩

/-- Begin a control request on the id's active endpoint. -/
def beginModuleControlRpcInner (moduleId : String) (request : ControlRpcRequest) :
    Step PendingModuleControlRpc :=
  match inner.modulesById.get moduleId with
  | none => ⟨inner, .error .noModuleConnection, []⟩
  | some module => beginControlRpcLocked inner moduleId module request

section

variable (endpoint : ModuleEndpointId)

/-- Begin a health probe of one endpoint, in whichever slot it is. -/
def beginEndpointHealthProbeRpc (request : ControlRpcRequest) : Step PendingModuleControlRpc :=
  match moduleConnectionForEndpointLocked inner endpoint with
  | none => ⟨inner, .error .noModuleConnection, []⟩
  | some module =>
    beginControlRpcLocked inner ((inner.moduleIdByEndpoint.get endpoint).getD "") module
      { request with allowDraining := true }

/-- Forget a control request its caller no longer waits for. -/
def cancelModuleControlRpc (corr : UInt64) : Step Unit :=
  ⟨{ inner with pendingControlRpcs := inner.pendingControlRpcs.remove (endpoint, corr) },
    .ok (), []⟩

/-- How long an unanswered health probe is remembered, in milliseconds. -/
def healthProbeTombstoneTtl : Nat := 5 * 60 * 1000

/-- Keep a timed out health probe as a tombstone. -/
def tombstoneHealthProbeRpc (corr : UInt64) (now : Instant) : Step Bool :=
  match inner.pendingControlRpcs.get (endpoint, corr) with
  | none => ⟨inner, .ok false, []⟩
  | some pending =>
    match pending.healthProbeStartedAt with
    | none => ⟨inner, .ok false, []⟩
    | some probeStartedAt =>
      ⟨{ inner with
          pendingControlRpcs := inner.pendingControlRpcs.remove (endpoint, corr)
          healthProbeTombstones := inner.healthProbeTombstones.insert (endpoint, corr)
            ⟨pending.expectedOp, (inner.moduleIdByEndpoint.get endpoint).getD "unknown",
              probeStartedAt, now + healthProbeTombstoneTtl⟩ },
        .ok true, []⟩

end

/-- The delayed removal of a tombstone that reached its end. -/
def expireHealthProbeTombstone (key : ControlKey) (now : Instant) : Step Unit :=
  if (inner.healthProbeTombstones.get key).any fun tombstone => tombstone.expiresAt ≤ now then
    ⟨{ inner with healthProbeTombstones := inner.healthProbeTombstones.remove key }, .ok (), []⟩
  else ⟨inner, .ok (), []⟩

end

/-- What a control reply did. -/
inductive ModuleControlRpcCompletion where
  | unknown
  | settled
  | lateHealthAnswer (moduleId : String) (latency : Nat)
  deriving DecidableEq, Repr

section

variable (inner : ForwardingInner)

/-- Settle a control request by the module's reply. -/
def completeModuleControlRpc (connectionId : ConnectionId) (corr : UInt64)
    (actualOp : Option String) (outcome : ModuleControlRpcOutcome) (now : Instant) :
    Step ModuleControlRpcCompletion :=
  match inner.endpointByConnection.get connectionId with
  | none => ⟨inner, .ok .unknown, []⟩
  | some endpoint =>
    match inner.pendingControlRpcs.get (endpoint, corr) with
    | some pending =>
      let taken := { inner with
        pendingControlRpcs := inner.pendingControlRpcs.remove (endpoint, corr) }
      if pending.deadline ≤ now then
        ⟨taken,
          .ok (match pending.healthProbeStartedAt with
            | some startedAt => .lateHealthAnswer
                ((inner.moduleIdByEndpoint.get endpoint).getD "unknown") (now - startedAt)
            | none => .settled),
          [.settleControl pending.sender .deadlineElapsed]⟩
      else
        let outcome := match actualOp with
          | some actual =>
            if actual ≠ pending.expectedOp then .unexpectedOp pending.expectedOp actual
            else outcome
          | none => outcome
        ⟨taken, .ok .settled, [.settleControl pending.sender outcome]⟩
    | none =>
      match inner.healthProbeTombstones.get (endpoint, corr) with
      | none => ⟨inner, .ok .unknown, []⟩
      | some tombstone =>
        ⟨{ inner with
            healthProbeTombstones := inner.healthProbeTombstones.remove (endpoint, corr) },
          .ok (if tombstone.expiresAt ≤ now then .unknown
            else .lateHealthAnswer tombstone.moduleId (now - tombstone.probeStartedAt)), []⟩

/-- The client handle a module's status update is for. -/
def statusHandle (moduleKey : ModuleRouteKey) (moduleEpoch : UInt32) :
    Option (ClientRouteKey × UInt32) :=
  match inner.moduleToClient.get moduleKey with
  | some route =>
    if route.moduleEpoch = moduleEpoch then some (route.clientKey, route.clientEpoch) else none
  | none =>
    match inner.reservedModule.get moduleKey with
    | some clientKey =>
      if inner.moduleSlotEpochs.get moduleKey = some moduleEpoch then
        some (clientKey, (inner.clientSlotEpochs.get clientKey).getD 0)
      else none
    | none => none

/-- Remember the status a module sent for a bound or reserved route. -/
def cacheStatus (endpoint : ModuleEndpointId) (moduleChannel : UInt16) (moduleEpoch : UInt32)
    (status : String) : Step Bool :=
  if !inner.moduleIdByEndpoint.contains endpoint then ⟨inner, .error .staleModuleEndpoint, []⟩
  else
    match statusHandle inner ⟨endpoint, moduleChannel⟩ moduleEpoch with
    | some handle => ⟨{ inner with status := inner.status.insert handle status }, .ok true, []⟩
    | none => ⟨inner, .ok false, []⟩

end

/-- What a data frame's handle names. -/
inductive DataRouteState where
  | bound (route : RouteBinding)
  | reserved
  | epochMismatch
  | absent
  deriving DecidableEq, Repr

/-- A lookup answers for the role the connection has. -/
inductive DataRoute where
  | client (state : DataRouteState)
  | module (state : DataRouteState)
  deriving DecidableEq, Repr

/-- The state of one slot as a frame of the given epoch sees it. -/
def slotState (bound : Option RouteBinding) (boundEpoch : RouteBinding → UInt32) (reserved : Bool)
    (slotEpoch : Option UInt32) (epoch : UInt32) : DataRouteState :=
  match bound with
  | some route => if boundEpoch route = epoch then .bound route else .epochMismatch
  | none =>
    if reserved && slotEpoch = some epoch then .reserved
    else if reserved then .epochMismatch
    else .absent

/-- Find the route of a data frame. -/
def lookupDataRoute (inner : ForwardingInner) (connectionId : ConnectionId) (channel : UInt16)
    (epoch : UInt32) : DataRoute :=
  match inner.endpointByConnection.get connectionId with
  | some endpoint =>
    let key : ModuleRouteKey := ⟨endpoint, channel⟩
    .module (slotState (inner.moduleToClient.get key) RouteBinding.moduleEpoch
      (inner.reservedModule.contains key) (inner.moduleSlotEpochs.get key) epoch)
  | none =>
    let key : ClientRouteKey := ⟨connectionId, channel⟩
    .client (slotState (inner.clientToModule.get key) RouteBinding.clientEpoch
      (inner.reservedClient.contains key) (inner.clientSlotEpochs.get key) epoch)

end Subconscious.ForwardingControl
