import Subconscious.ForwardingState

/-!
# The forwarding table's entry points

Each definition follows one function of the forwarding table, under its
lock. What a function reads from outside the table is an argument: the
clock, whether a queue still has its writer, and the identities of objects
it allocates. An early return keeps the updates made before it.
-/

namespace Subconscious.ForwardingOperations

open HashMaps Protocol ForwardingState

/-- The channel after this one; channel 0 is the control channel and is skipped. -/
def nextChannel (channel : UInt16) : UInt16 :=
  if channel + 1 = 0 then 1 else channel + 1

/-- Walk the channels from `channel` to the first eligible one, and give up
on returning to `start`. The fuel exceeds the number of channels. -/
def scanChannel (eligible : UInt16 → Bool) (start : UInt16) : Nat → UInt16 → Option UInt16
  | 0, _ => none
  | fuel + 1, channel =>
    if eligible channel then some channel
    else if nextChannel channel = start then none
    else scanChannel eligible start fuel (nextChannel channel)

/-- Fuel of a channel scan. -/
def channelFuel : Nat := 65536

/-- A client slot that is neither bound nor reserved and has an epoch left. -/
def clientEligible (inner : ForwardingInner) (connectionId : ConnectionId) (channel : UInt16) :
    Bool :=
  !inner.clientToModule.contains ⟨connectionId, channel⟩
    && !inner.reservedClient.contains ⟨connectionId, channel⟩
    && (inner.clientSlotEpochs.get ⟨connectionId, channel⟩).getD 0 < 0xFFFFFFFF

/-- A module slot that is neither bound nor reserved and has an epoch left. -/
def moduleEligible (inner : ForwardingInner) (endpoint : ModuleEndpointId) (channel : UInt16) :
    Bool :=
  !inner.moduleToClient.contains ⟨endpoint, channel⟩
    && !inner.reservedModule.contains ⟨endpoint, channel⟩
    && (inner.moduleSlotEpochs.get ⟨endpoint, channel⟩).getD 0 < 0xFFFFFFFF

/-- The slot pair of one new route. -/
structure RouteSlots where
  clientChannel : UInt16
  clientEpoch : UInt32
  moduleChannel : UInt16
  moduleEpoch : UInt32
  deriving DecidableEq, Repr

section

variable (inner : ForwardingInner) (connectionId : ConnectionId)

section

variable (endpoint : ModuleEndpointId)

/-- The epochs and cursors after one slot pair is handed out. -/
def takeRouteSlots (clientChannel moduleChannel : UInt16) : ForwardingInner × RouteSlots :=
  let clientEpoch := (inner.clientSlotEpochs.get ⟨connectionId, clientChannel⟩).getD 0 + 1
  let moduleEpoch := (inner.moduleSlotEpochs.get ⟨endpoint, moduleChannel⟩).getD 0 + 1
  ({ inner with
      clientSlotEpochs := inner.clientSlotEpochs.insert ⟨connectionId, clientChannel⟩ clientEpoch
      moduleSlotEpochs := inner.moduleSlotEpochs.insert ⟨endpoint, moduleChannel⟩ moduleEpoch
      nextClientChannel := inner.nextClientChannel.insert connectionId (nextChannel clientChannel)
      nextModuleChannel := inner.nextModuleChannel.insert endpoint (nextChannel moduleChannel) },
    ⟨clientChannel, clientEpoch, moduleChannel, moduleEpoch⟩)

/-- Choose one free client slot and one free module slot. The cursor entries
are created even when the scan finds nothing. -/
def allocateRouteSlots : ForwardingInner × Except ForwardingError RouteSlots :=
  let clientStart := (inner.nextClientChannel.get connectionId).getD 1
  let inner := { inner with
    nextClientChannel := inner.nextClientChannel.insert connectionId clientStart }
  match scanChannel (clientEligible inner connectionId) clientStart channelFuel clientStart with
  | none => (inner, .error (.clientRouteChannelExhausted connectionId))
  | some clientChannel =>
    let moduleStart := (inner.nextModuleChannel.get endpoint).getD 1
    let inner := { inner with
      nextModuleChannel := inner.nextModuleChannel.insert endpoint moduleStart }
    match scanChannel (moduleEligible inner endpoint) moduleStart channelFuel moduleStart with
    | none => (inner, .error (.moduleRouteChannelExhausted endpoint))
    | some moduleChannel =>
      let taken := takeRouteSlots inner connectionId endpoint clientChannel moduleChannel
      (taken.1, .ok taken.2)

/-- Hand out the endpoint's next channel-0 correlation id. Id 0 stands for an
exhausted counter, and marks the endpoint's connection closing. -/
def allocateControlCorr (inner : ForwardingInner) (endpoint : ModuleEndpointId) :
    ForwardingInner × Except ForwardingError UInt64 :=
  let candidate := (inner.nextControlCorr.get endpoint).getD 1
  if candidate = 0 then
    ({ inner with closingConnections := insert endpoint.connectionId inner.closingConnections },
      .error .relayCorrelationExhausted)
  else
    ({ inner with
        nextControlCorr := inner.nextControlCorr.insert endpoint
          (if candidate = 0xFFFFFFFFFFFFFFFF then 0 else candidate + 1) },
      .ok candidate)

/-- The close request of an endpoint that has no correlation id left. -/
def correlationExhaustedClose : Effect :=
  .requestConnectionClose endpoint.connectionId "control_correlation_exhausted"
    "daemon-originated channel-0 correlation space exhausted"

end

/-- Whether a connection owns committed or reserved client routes. -/
def connectionHasClientRoutesLocked : Bool :=
  inner.clientToModule.keys.any (fun key => key.connectionId = connectionId)
    || inner.reservedClient.keys.any (fun key => key.connectionId = connectionId)

/-- A connection may become a module only when it has no role yet. -/
def checkModuleConnectionRoleLocked : Except ForwardingError Unit :=
  if inner.endpointByConnection.contains connectionId
      || connectionHasClientRoutesLocked inner connectionId then
    .error (.connectionRoleConflict connectionId)
  else
    .ok ()

end

/-- What a registration brings. `ackQueued` is the outcome of queueing the
HELLO_ACK, which is the first frame of the module's queue. -/
structure Registration where
  connectionId : ConnectionId
  moduleId : String
  negotiatedVer : UInt8
  concurrency : Concurrency
  sink : FrameSink
  ackQueued : Bool
  deriving DecidableEq, Repr

/-- The generation of the next registration. -/
def bumpGeneration (generation : UInt64) : UInt64 :=
  if generation = 0xFFFFFFFFFFFFFFFF then 1 else generation + 1

section

variable (registration : Registration) (inner : ForwardingInner)

/-- The endpoint the next registration creates. -/
def Registration.endpoint : ModuleEndpointId :=
  ⟨registration.connectionId, bumpGeneration inner.nextGeneration⟩

/-- The module connection the next registration creates. -/
def Registration.moduleConnection : ModuleConnection :=
  ⟨registration.endpoint inner, registration.sink, registration.negotiatedVer,
    registration.concurrency⟩

end

section

variable (inner : ForwardingInner) (registration : Registration)

/-- The entries both kinds of registration make for their endpoint. -/
def installEndpoint : ForwardingInner :=
  let endpoint := registration.endpoint inner
  { inner with
    nextGeneration := endpoint.generation
    endpointByConnection := inner.endpointByConnection.insert registration.connectionId endpoint
    moduleIdByEndpoint := inner.moduleIdByEndpoint.insert endpoint registration.moduleId
    nextModuleChannel := inner.nextModuleChannel.insert endpoint 1
    nextControlCorr := inner.nextControlCorr.insert endpoint 1 }

/-- Register a module connection into the active slot of its id. -/
def registerModuleConnectionInner : Step ModuleEndpointId :=
  if inner.daemonDraining || decide (registration.connectionId ∈ inner.closingConnections) then
    ⟨inner, .error (.connectionClosing registration.connectionId), []⟩
  else
    match checkModuleConnectionRoleLocked inner registration.connectionId with
    | .error err => ⟨inner, .error err, []⟩
    | .ok () =>
      if !registration.ackQueued then
        ⟨inner, .error (.moduleEgressUnavailable registration.connectionId), []⟩
      else
        let module := registration.moduleConnection inner
        ⟨{ installEndpoint inner registration with
            modulesById := inner.modulesById.insert registration.moduleId module },
          .ok module.endpoint, [.resetRouteBindBreaker registration.moduleId]⟩

/-- Register a swap candidate, beside whatever endpoint is active for the id. -/
def registerCandidateModuleConnectionInner : Step ModuleEndpointId :=
  if inner.daemonDraining || decide (registration.connectionId ∈ inner.closingConnections) then
    ⟨inner, .error (.connectionClosing registration.connectionId), []⟩
  else
    match checkModuleConnectionRoleLocked inner registration.connectionId with
    | .error err => ⟨inner, .error err, []⟩
    | .ok () =>
      if inner.candidatesById.contains registration.moduleId then
        ⟨inner, .error (.candidateSlotOccupied registration.moduleId), []⟩
      else if !registration.ackQueued then
        ⟨inner, .error (.moduleEgressUnavailable registration.connectionId), []⟩
      else
        let module := registration.moduleConnection inner
        ⟨{ installEndpoint inner registration with
            candidatesById := inner.candidatesById.insert registration.moduleId module },
          .ok module.endpoint, []⟩

end

/-- What a promotion did. -/
structure ForwardingCutover where
  promoted : ModuleEndpointId
  incumbent : Option ModuleEndpointId
  deriving DecidableEq, Repr

section

variable (inner : ForwardingInner)

/-- Promote a module id's candidate to the active slot. -/
def cutoverCandidate (moduleId : String) : Step (Option ForwardingCutover) :=
  if inner.daemonDraining then
    ⟨inner, .error (.moduleReloading moduleId), []⟩
  else
    match inner.candidatesById.get moduleId with
    | none => ⟨inner, .ok none, []⟩
    | some candidate =>
      let incumbent := inner.modulesById.get moduleId
      ⟨{ inner with
          candidatesById := inner.candidatesById.remove moduleId
          modulesById := inner.modulesById.insert moduleId candidate
          supersededEndpoints := match incumbent with
            | some old => inner.supersededEndpoints.insert old.endpoint old
            | none => inner.supersededEndpoints },
        .ok (some ⟨candidate.endpoint, incumbent.map ModuleConnection.endpoint⟩),
        [.resetRouteBindBreaker moduleId]⟩

/-- The module connection registered under exactly this endpoint, in
whichever slot it is. -/
def moduleConnectionForEndpointLocked (endpoint : ModuleEndpointId) : Option ModuleConnection :=
  match inner.moduleIdByEndpoint.get endpoint with
  | none => none
  | some moduleId =>
    ((inner.modulesById.get moduleId).filter fun module => module.endpoint = endpoint)
      <|> ((inner.candidatesById.get moduleId).filter fun module => module.endpoint = endpoint)
      <|> inner.supersededEndpoints.get endpoint

/-- Where to send the GOODBYE of a bind the daemon gave up. -/
def abandonedRouteTarget (reservation : RouteReservation) : Option GoodbyeTarget :=
  match inner.moduleIdByEndpoint.get reservation.moduleKey.endpoint,
      moduleConnectionForEndpointLocked inner reservation.moduleKey.endpoint with
  | some moduleId, some module =>
    if module.endpoint = reservation.moduleKey.endpoint then
      some ⟨module.endpoint.connectionId, module.sink, module.negotiatedVer,
        reservation.moduleKey.channel, reservation.moduleEpoch, .module, some moduleId⟩
    else
      none
  | _, _ => none

end

end Subconscious.ForwardingOperations
