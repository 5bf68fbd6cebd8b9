import Subconscious.ForwardingState
import Subconscious.RequestCredits

/-!
# Data routes

What the router asks of the forwarding table for a frame on a data channel,
and the errors it answers with. An error frame is its header and its structured
body; the bodies the router writes are far below the frame limit, so building
one succeeds.
-/

namespace Subconscious.DataRoutes

open Protocol ForwardingState Semaphores RequestCredits

/-- What a route handle of a connection names. -/
inductive DataRouteState where
  | bound (route : RouteBinding)
  | epochMismatch
  | reserved
  | absent
  deriving DecidableEq, Repr

/-- And from which side the connection speaks. -/
inductive DataRoute where
  | module (state : DataRouteState)
  | client (state : DataRouteState)
  deriving DecidableEq, Repr

/-- A handle against one index: its binding, its reservation and its last epoch. -/
def handleState (binding : Option RouteBinding) (bindingEpoch : RouteBinding → UInt32)
    (reserved : Bool) (slotEpoch : Option UInt32) (epoch : UInt32) : DataRouteState :=
  match binding with
  | some route => if bindingEpoch route = epoch then .bound route else .epochMismatch
  | none =>
    if reserved then if slotEpoch = some epoch then .reserved else .epochMismatch
    else .absent

section

variable (inner : ForwardingInner)

/-- The route of a frame, by the side of its connection. -/
def lookupDataRoute (connectionId : ConnectionId) (channel : UInt16) (epoch : UInt32) : DataRoute :=
  match inner.endpointByConnection.get connectionId with
  | some endpoint =>
    .module (handleState (inner.moduleToClient.get ⟨endpoint, channel⟩) RouteBinding.moduleEpoch
      (inner.reservedModule.contains ⟨endpoint, channel⟩)
      (inner.moduleSlotEpochs.get ⟨endpoint, channel⟩) epoch)
  | none =>
    .client (handleState (inner.clientToModule.get ⟨connectionId, channel⟩)
      RouteBinding.clientEpoch (inner.reservedClient.contains ⟨connectionId, channel⟩)
      (inner.clientSlotEpochs.get ⟨connectionId, channel⟩) epoch)

/-- Validate a request against the current route and take its credit, in one
lock section. A flow that a drain closed says so. -/
def tryAdmitRequest [Semaphore Sem] (flow : ChannelFlow Sem) (route : RouteBinding)
    (epoch : UInt32) (corr : UInt64) (subscription : Bool) : ChannelFlow Sem × RequestAdmission :=
  if epoch ≠ route.clientEpoch ∨ inner.clientToModule.get route.clientKey ≠ some route then
    (flow, .stale)
  else
    match flow.tryAcquireTagged corr subscription with
    | (flow, .stale) =>
      (flow, if inner.drainingEndpoints.contains route.moduleEndpoint then .moduleReloading
        else .stale)
    | admission => admission

/-- The endpoint is marked draining. -/
def endpointIsDraining (endpoint : ModuleEndpointId) : Bool :=
  inner.drainingEndpoints.contains endpoint

end

/-- Why a frame could not be routed. Building errors and poisoned locks are not
modelled. -/
inductive RouterError where
  | unknownChannel (channel : UInt16) (epoch : UInt32) (corr : UInt64)
  | staleRouteEpoch (channel : UInt16) (epoch : UInt32) (corr : UInt64)
  | routeBusy (channel : UInt16) (epoch : UInt32) (corr : UInt64) (detail : RouteBusyDetail)
  | backend (channel : UInt16) (epoch : UInt32) (corr : UInt64) (message : String)
  | routeError (channel : UInt16) (epoch : UInt32) (corr : UInt64) (code message : String)
  deriving DecidableEq, Repr

/-- Flags of an ERROR the daemon authors itself. -/
def daemonErrorFlags : Flags := (Flags.new false .passive false).withDaemonOrigin

/-- An ERROR frame with its structured body. -/
structure ErrorFrame where
  channel : UInt16
  epoch : UInt32
  corr : UInt64
  flags : Flags
  body : ErrorBody
  deriving DecidableEq, Repr

/-- An error frame of the daemon. -/
def errorFrame (channel : UInt16) (epoch : UInt32) (corr : UInt64) (code message : String) :
    ErrorFrame :=
  ⟨channel, epoch, corr, daemonErrorFlags, ErrorBody.new code message⟩

/-- The JSON object of a busy detail, its members in order. -/
def RouteBusyDetail.toJson (detail : RouteBusyDetail) : String :=
  let reason := detail.reason
  let requestInFlight := detail.requestInFlight
  let requestWindow := detail.requestWindow
  let watchInFlight := detail.watchInFlight
  "\x7b\"reason\":\"" ++ reason ++ "\",\"request_in_flight\":" ++ toString requestInFlight
    ++ ",\"request_window\":" ++ toString requestWindow
    ++ ",\"watch_in_flight\":" ++ toString watchInFlight
    ++ optionalMember "watch_window" detail.watchWindow ++ "\x7d"

/-- The frame that tells a client of an error. -/
def RouterError.toErrorFrame : RouterError → ErrorFrame
  | .routeBusy channel epoch corr detail =>
    ⟨channel, epoch, corr, daemonErrorFlags, "route_busy",
      "route has no free request or watch credit; retry on the same route",
      some (RouteBusyDetail.toJson detail)⟩
  | .unknownChannel channel epoch corr =>
    errorFrame channel epoch corr "unknown_channel" ("unknown channel " ++ toString channel.toNat)
  | .staleRouteEpoch channel epoch corr =>
    errorFrame channel epoch corr "stale_route_epoch"
      ("stale route epoch for channel " ++ toString channel.toNat)
  | .backend channel epoch corr message => errorFrame channel epoch corr "backend_error" message
  | .routeError channel epoch corr code message => errorFrame channel epoch corr code message

section

variable (channel : UInt16) (epoch : UInt32) (corr : UInt64)

/-- The refusal of a request whose module is reloading. -/
def moduleReloadingError : RouterError :=
  .routeError channel epoch corr "module_reloading"
    ("module endpoint for route channel " ++ toString channel.toNat ++ " is reloading")

/-- The codes on which a client may send the request again. -/
def refusalCodes : List String :=
  ["module_reloading", "unknown_channel", "stale_route_epoch", "route_busy"]

/-- The replacement of a module frame the client's queue cannot take. -/
def frameTooLargeError (bytes limit : Nat) : ErrorFrame :=
  ⟨channel, epoch, corr, daemonErrorFlags, "frame_too_large",
    "module frame of " ++ toString bytes ++ " bytes exceeds client egress limit of "
      ++ toString limit ++ " bytes",
    some ("\x7b\"byte_limit\":" ++ toString limit ++ ",\"frame_bytes\":" ++ toString bytes
      ++ "\x7d")⟩

end

/-- Length of an encoded header. -/
def headerLen : Nat := 21

/-- What a frame weighs in a queue. -/
def queuedFrameBytes (frame : Frame) : Nat := headerLen + frame.body.utf8ByteSize

/-- A frame that ends a request. -/
def isTerminalFrame : FrameType → Bool
  | .response => true
  | .error => true
  | .streamEnd => true
  | _ => false

/-- Clearing the origin bit leaves it clear. -/
@[simp] theorem withoutDaemonOrigin_clear (flags : Flags) :
    flags.withoutDaemonOrigin.isDaemonOrigin = false := by
  unfold Flags.withoutDaemonOrigin Flags.isDaemonOrigin flagDaemonOrigin
  have hclear : flags.bits &&& ~~~(0x40 : UInt8) &&& 0x40 = 0 := by
    rw [UInt8.and_assoc, show ~~~(0x40 : UInt8) &&& 0x40 = 0 from rfl, UInt8.and_zero]
  rw [hclear]
  rfl

end Subconscious.DataRoutes
