import Subconscious.DataRoutes
import Subconscious.ForwardingRuns

/-!
# The router on the data plane

Each frame a connection sends is one task, from its arrival to its end. Between
two lock sections, and wherever the code waits, any other task and any call of
the forwarding table may come in: a release, a drain, a swap, a scope change.
What a step reads from outside (whether a queue took the frame) is an argument.

Channel 0 is the control plane; its calls are the calls of the table here.
Counters, log lines and the limiter of orphan GOODBYEs are left out.
-/

namespace Subconscious.DataPlane

open HashMaps Semaphores Protocol ForwardingState ForwardingRelays ForwardingRuns RequestCredits
open DataRoutes

variable {Sem : Type} [Semaphore Sem]

/-- Identity of one inbound frame. -/
abbrev TaskId := Nat

/-- A frame in a queue. -/
inductive OutFrame where
  | data (frame : Frame)
  | error (frame : ErrorFrame)
  deriving DecidableEq, Repr

/-- The flags of a queued frame. -/
def OutFrame.flags : OutFrame → Flags
  | .data frame => frame.header.flags
  | .error frame => frame.flags

/-- Who wrote a queued frame. -/
inductive Author where
  /-- The daemon, as its answer to an inbound frame or of its own. -/
  | daemon (answers : Option TaskId)
  /-- The sender of an inbound frame that was passed on. -/
  | relayed (task : TaskId)
  deriving DecidableEq, Repr

/-- One frame that entered a queue. -/
structure Sent where
  sink : FrameSink
  frame : OutFrame
  author : Author
  deriving DecidableEq, Repr

/-- What is done when a client cannot be given a frame: its connection closes. -/
structure DeliveryFailure where
  connectionId : ConnectionId
  channel : UInt16
  epoch : UInt32
  code : String
  message : String
  deriving DecidableEq, Repr

/-- With what the queue said. -/
def DeliveryFailure.because (failure : DeliveryFailure) (message : String) : DeliveryFailure :=
  { failure with message := failure.message ++ ": " ++ message }

/-- Where the routing of a frame stands. -/
inductive TaskPhase where
  | arrived
  /-- A forwarding backend looks its route up again. -/
  | backendLookup
  /-- On a route of the client, before any credit. -/
  | bound (route : RouteBinding)
  /-- Waiting for a permit, or holding one that is not recorded. -/
  | waiting (route : RouteBinding) (holding : Bool)
  /-- The flow closed before the credit was recorded. -/
  | unserved (route : RouteBinding)
  /-- Waiting for room in the module's queue. -/
  | forwarding (route : RouteBinding) (credit : Bool)
  /-- Waiting to answer that the route is busy. -/
  | busy (route : RouteBinding) (detail : RouteBusyDetail)
  /-- Waiting to answer with an error. -/
  | answering (error : ErrorFrame)
  | echoing
  /-- A released route's module is sent GOODBYE. -/
  | notifying (target : GoodbyeTarget)
  /-- A module's frame on its way to a client. -/
  | relaying (sink : FrameSink) (frame : Frame) (failure : Option DeliveryFailure)
  /-- An error in place of a frame too large for the client. -/
  | replacing (sink : FrameSink) (error : ErrorFrame) (failure : DeliveryFailure)
  deriving DecidableEq, Repr

/-- A frame being routed, with the connection it came from. -/
structure Task where
  connectionId : ConnectionId
  egress : FrameSink
  frame : Frame
  phase : TaskPhase
  deriving DecidableEq, Repr

/-- A static backend of a channel. -/
inductive Backend where
  | echo
  | forward
  deriving DecidableEq, Repr

/-- The daemon, as far as data frames go. -/
structure RouterWorld (Sem : Type) where
  table : ForwardingInner
  flows : HashMap FlowId (ChannelFlow Sem)
  nextFlow : FlowId
  backends : HashMap UInt16 Backend
  /-- Bytes each connection's queue accepts in one frame. -/
  byteBudget : FrameSink → Nat
  tasks : HashMap TaskId Task
  nextTask : TaskId
  /-- The frames that entered queues, in order. -/
  sent : List Sent

/-- The router before its first frame. -/
def RouterWorld.new (backends : HashMap UInt16 Backend) (byteBudget : FrameSink → Nat) :
    RouterWorld Sem :=
  ⟨.default, .empty, 0, backends, byteBudget, .empty, 0, []⟩

section

variable (w : RouterWorld Sem)

/-- A task goes on to its next wait. -/
def RouterWorld.advanceTo (t : TaskId) (task : Task) (phase : TaskPhase) : RouterWorld Sem :=
  { w with tasks := w.tasks.insert t { task with phase := phase } }

/-- A task ends. -/
def RouterWorld.finish (t : TaskId) : RouterWorld Sem :=
  { w with tasks := w.tasks.remove t }

/-- A frame enters a queue. -/
def RouterWorld.emit (sink : FrameSink) (frame : OutFrame) (author : Author) : RouterWorld Sem :=
  { w with sent := w.sent ++ [⟨sink, frame, author⟩] }

/-- A flow changes. -/
def RouterWorld.setFlow (id : FlowId) (flow : ChannelFlow Sem) : RouterWorld Sem :=
  { w with flows := w.flows.insert id flow }

/-- A request of a flow ended. -/
def RouterWorld.releaseCorr (w : RouterWorld Sem) (id : FlowId) (corr : UInt64) : RouterWorld Sem :=
  { w with flows := w.flows.modify id fun flow => flow.releaseCorr corr }

/-- What a call of the table does to flows and queues. -/
def RouterWorld.effect : Effect → RouterWorld Sem
  | .newFlow id requestWindow busyRefusals watchWindow =>
    w.setFlow id (if busyRefusals then .withAdmission requestWindow true watchWindow
      else .new requestWindow)
  | .closeFlow id => { w with flows := w.flows.modify id ChannelFlow.close }
  | .beginFlowDrain id => { w with flows := w.flows.modify id fun flow => flow.beginDrain.1 }
  | .enqueue sink frame => w.emit sink (.data frame) (.daemon none)
  | _ => w

/-- A committed route gets a flow of its own. -/
def RouterWorld.freshen : Op → Op
  | .completePendingRelay connectionId corr outcome reads =>
    .completePendingRelay connectionId corr outcome { reads with flow := w.nextFlow }
  | op => op

/-- One call of the forwarding table. -/
def RouterWorld.call (w : RouterWorld Sem) (op : Op) : RouterWorld Sem :=
  ((w.freshen op).effects w.table).foldl RouterWorld.effect
    { w with table := (w.freshen op).apply w.table, nextFlow := w.nextFlow + 1 }

/-- Close the connection of a client that could not be given a frame. -/
def RouterWorld.escalate (failure : DeliveryFailure) : RouterWorld Sem :=
  w.call (.escalateClientDeliveryFailure failure.connectionId failure.channel failure.epoch
    failure.code failure.message)

end

/-- What a step reads from outside: whether the queue took the frame, and why not. -/
structure StepReads where
  accepted : Bool
  message : String
  deriving DecidableEq, Repr

section

variable (w : RouterWorld Sem) (t : TaskId) (task : Task)

/-- A frame without a route: a request is answered, anything else dropped. -/
def RouterWorld.refuse (error : RouterError) : RouterWorld Sem :=
  if task.frame.header.ty = .request then w.advanceTo t task (.answering error.toErrorFrame)
  else w.finish t

/-- A client released one of its routes. -/
def RouterWorld.routeGoodbye : RouterWorld Sem :=
  let channel := task.frame.header.channel
  let epoch := task.frame.header.epoch
  let released := w.call (.releaseClientRoute task.connectionId channel epoch)
  match (releaseClientRoute w.table task.connectionId channel epoch).result with
  | .ok (.removed target) => released.advanceTo t task (.notifying target)
  | _ => released.finish t

section

variable (route : RouteBinding)

/-- The credit of a frame on a bound route. Only a request needs one. -/
def RouterWorld.takeCredit : RouterWorld Sem :=
  let header := task.frame.header
  if header.ty = .request then
    match w.flows.get route.flow with
    | none => w
    | some flow =>
      if flow.busyRefusals then
        let admitted := tryAdmitRequest w.table flow route header.epoch header.corr
          header.flags.isSubscription
        let w := w.setFlow route.flow admitted.1
        match admitted.2 with
        | .admitted => w.advanceTo t task (.forwarding route true)
        | .busy detail => w.advanceTo t task (.busy route detail)
        | .moduleReloading =>
          w.advanceTo t task (.answering
            (moduleReloadingError header.channel header.epoch header.corr).toErrorFrame)
        | .stale =>
          w.advanceTo t task (.answering
            (RouterError.staleRouteEpoch header.channel header.epoch header.corr).toErrorFrame)
      else w.advanceTo t task (.waiting route false)
  else w.advanceTo t task (.forwarding route false)

/-- A waiting request: first its permit, then its record. -/
def RouterWorld.waitCredit (holding : Bool) : RouterWorld Sem :=
  let header := task.frame.header
  match w.flows.get route.flow with
  | none => w
  | some flow =>
    if holding then
      let recorded := flow.recordAcquired header.corr header.flags.isSubscription
      (w.setFlow route.flow recorded.1).advanceTo t task
        (if recorded.2 then .forwarding route true else .unserved route)
    else if Semaphore.closed flow.sem then w.advanceTo t task (.unserved route)
    else
      match Semaphore.tryAcquire flow.sem with
      | none => w
      | some sem =>
        (w.setFlow route.flow { flow with sem := sem }).advanceTo t task (.waiting route true)

/-- A request whose flow closed is answered by what closed it. -/
def RouterWorld.unserved : RouterWorld Sem :=
  let header := task.frame.header
  let error : RouterError :=
    if endpointIsDraining w.table route.moduleEndpoint then
      moduleReloadingError header.channel header.epoch header.corr
    else
      .backend header.channel header.epoch header.corr
        ("flow-control window closed for route channel " ++ toString header.channel.toNat)
  w.advanceTo t task (.answering error.toErrorFrame)

/-- The frame a module gets for a client's frame. -/
def toModule (frame : Frame) (route : RouteBinding) : Frame :=
  { frame with header := { frame.header with
      channel := route.moduleChannel
      epoch := route.moduleEpoch
      flags := frame.header.flags.withoutDaemonOrigin } }

/-- The frame enters the module's queue, or its credit goes back. -/
def RouterWorld.forward (credit : Bool) (reads : StepReads) : RouterWorld Sem :=
  let header := task.frame.header
  if reads.accepted then
    (w.emit route.moduleSink (.data (toModule task.frame route)) (.relayed t)).finish t
  else
    (if credit then w.releaseCorr route.flow header.corr else w).advanceTo t task
      (.answering (RouterError.backend header.channel route.clientEpoch header.corr
        reads.message).toErrorFrame)

end

/-- A module frame without a route: a request is answered, and another frame may
be met with a GOODBYE for the route the daemon does not hold. -/
def RouterWorld.refuseModuleFrame (error : RouterError) (orphan : Bool) (reads : StepReads) :
    RouterWorld Sem :=
  let header := task.frame.header
  if header.ty = .request then w.advanceTo t task (.answering error.toErrorFrame)
  else if orphan && header.ty != .goodbye && reads.accepted then
    (w.emit task.egress
      (.data ⟨⟨0, header.ver, .goodbye, .new false .passive false, header.channel, header.epoch, 0⟩,
        ""⟩) (.daemon none)).finish t
  else w.finish t

/-- The frame a client gets for a module's frame. -/
def toClient (frame : Frame) (channel : UInt16) (epoch : UInt32) : Frame :=
  { frame with header := { frame.header with
      channel := channel
      epoch := epoch
      flags := frame.header.flags.withoutDaemonOrigin } }

/-- A module released one of its routes. -/
def RouterWorld.routeModuleGoodbye : RouterWorld Sem :=
  let channel := task.frame.header.channel
  let epoch := task.frame.header.epoch
  let released := w.call (.releaseModuleRoute task.connectionId channel epoch)
  match (releaseModuleRoute w.table task.connectionId channel epoch).result with
  | .ok (.removed target) =>
    released.advanceTo t task (.relaying target.sink
      (toClient task.frame target.channel target.epoch)
      (if target.closeOnDeliveryFailure then
        some ⟨target.connectionId, target.channel, target.epoch, "route_goodbye_delivery_failed",
          "failed to enqueue route GOODBYE for client channel " ++ toString target.channel.toNat⟩
      else none))
  | _ => released.finish t

/-- A module frame that a client's queue could never take. -/
def RouterWorld.refuseOversized (route : RouteBinding) (bytes limit : Nat) : RouterWorld Sem :=
  let corr := task.frame.header.corr
  match task.frame.header.ty with
  | .push =>
    (w.escalate ⟨route.clientConnectionId, route.clientChannel, route.clientEpoch,
      "frame_too_large", "oversized push: size=" ++ toString bytes ++ " limit=" ++ toString limit
        ++ " (header plus body bytes)"⟩).finish t
  | .request =>
    w.advanceTo t task (.answering
      (frameTooLargeError route.moduleChannel route.moduleEpoch corr bytes limit))
  | _ =>
    (w.releaseCorr route.flow corr).advanceTo t task (.replacing route.clientSink
      (frameTooLargeError route.clientChannel route.clientEpoch corr bytes limit)
      ⟨route.clientConnectionId, route.clientChannel, route.clientEpoch,
        "module_to_client_delivery_failed",
        "failed to enqueue frame_too_large for client channel "
          ++ toString route.clientChannel.toNat ++ " corr " ++ toString corr.toNat⟩)

/-- A module frame on a bound route. A terminal one frees its request's credit
before it is delivered. -/
def RouterWorld.routeModuleFrame (route : RouteBinding) : RouterWorld Sem :=
  let header := task.frame.header
  if header.ty = .goodbye then w.routeModuleGoodbye t task
  else if queuedFrameBytes task.frame > w.byteBudget route.clientSink then
    w.refuseOversized t task route (queuedFrameBytes task.frame) (w.byteBudget route.clientSink)
  else
    (if isTerminalFrame header.ty then w.releaseCorr route.flow header.corr else w).advanceTo t
      task (.relaying route.clientSink
        (toClient task.frame route.clientChannel route.clientEpoch)
        (some ⟨route.clientConnectionId, route.clientChannel, route.clientEpoch,
          "module_to_client_delivery_failed",
          "failed to enqueue module frame for client channel "
            ++ toString route.clientChannel.toNat ++ " corr " ++ toString header.corr.toNat⟩))

/-- Look the frame's route up, and go on to the next wait. -/
def RouterWorld.route (w : RouterWorld Sem) (t : TaskId) (task : Task) (reads : StepReads) :
    RouterWorld Sem :=
  let channel := task.frame.header.channel
  let epoch := task.frame.header.epoch
  let corr := task.frame.header.corr
  if channel = 0 then w.finish t
  else
    match lookupDataRoute w.table task.connectionId channel epoch with
    | .module .epochMismatch =>
      w.refuseModuleFrame t task (.staleRouteEpoch channel epoch corr) true reads
    | .module .reserved =>
      w.refuseModuleFrame t task (.unknownChannel channel epoch corr) false reads
    | .module .absent =>
      w.refuseModuleFrame t task (.unknownChannel channel epoch corr) true reads
    | .module (.bound route) => w.routeModuleFrame t task route
    | .client .epochMismatch => w.refuse t task (.staleRouteEpoch channel epoch corr)
    | .client .reserved => w.refuse t task (.unknownChannel channel epoch corr)
    | .client (.bound route) =>
      if task.frame.header.ty = .goodbye then w.routeGoodbye t task
      else w.advanceTo t task (.bound route)
    | .client .absent =>
      match w.backends.get channel with
      | some .echo => w.advanceTo t task .echoing
      | some .forward => w.advanceTo t task .backendLookup
      | none => w.refuse t task (.unknownChannel channel epoch corr)

/-- A forwarding backend finds a client route or answers that there is none. -/
def RouterWorld.routeBackend : RouterWorld Sem :=
  let channel := task.frame.header.channel
  let epoch := task.frame.header.epoch
  match lookupDataRoute w.table task.connectionId channel epoch with
  | .client (.bound route) => w.advanceTo t task (.bound route)
  | _ =>
    w.advanceTo t task (.answering
      (RouterError.unknownChannel channel epoch task.frame.header.corr).toErrorFrame)

/-- The GOODBYE of a route its client released. -/
def clientReleasedGoodbye (target : GoodbyeTarget) : Frame :=
  ⟨⟨0, target.negotiatedVer, .goodbye, .new false .passive false, target.channel, target.epoch,
    0⟩, ""⟩

/-- A task takes its next step. -/
def RouterWorld.advance (reads : StepReads) : RouterWorld Sem :=
  match task.phase with
  | .arrived => w.route t task reads
  | .backendLookup => w.routeBackend t task
  | .bound route => w.takeCredit t task route
  | .waiting route holding => w.waitCredit t task route holding
  | .unserved route => w.unserved t task route
  | .forwarding route credit => w.forward t task route credit reads
  | .busy route detail =>
    let header := task.frame.header
    if reads.accepted then
      (w.emit route.clientSink (.error (RouterError.routeBusy header.channel header.epoch
        header.corr detail).toErrorFrame) (.daemon (some t))).finish t
    else
      w.advanceTo t task (.answering (RouterError.backend header.channel header.epoch header.corr
        reads.message).toErrorFrame)
  | .answering error =>
    (if reads.accepted then w.emit task.egress (.error error) (.daemon (some t)) else w).finish t
  | .echoing =>
    (if reads.accepted then
      w.emit task.egress
        (.data { task.frame with header := { task.frame.header with ty := .response } })
        (.daemon (some t))
    else w).finish t
  | .notifying target =>
    (if reads.accepted then
      w.emit target.sink (.data (clientReleasedGoodbye target)) (.daemon none)
    else w).finish t
  | .relaying sink frame failure =>
    (if reads.accepted then w.emit sink (.data frame) (.relayed t)
    else
      match failure with
      | none => w
      | some failure => w.escalate (failure.because reads.message)).finish t
  | .replacing sink error failure =>
    (if reads.accepted then w.emit sink (.error error) (.daemon none)
    else w.escalate (failure.because reads.message)).finish t

/-- A connection ends while its frame is routed; a permit in hand goes back. -/
def RouterWorld.cancel : RouterWorld Sem :=
  (match task.phase with
    | .waiting route true =>
      { w with flows := w.flows.modify route.flow fun flow =>
          { flow with sem := Semaphore.addPermits flow.sem 1 } }
    | _ => w).finish t

end

/-- What can happen next. -/
inductive RouterEvent where
  | arrive (connectionId : ConnectionId) (egress : FrameSink) (frame : Frame)
  | advance (task : TaskId) (reads : StepReads)
  | cancel (task : TaskId)
  | call (op : Op)

/-- The task that takes the step, if one does. -/
def RouterEvent.task : RouterEvent → Option TaskId
  | .advance task _ => some task
  | .cancel task => some task
  | _ => none

section

variable (w : RouterWorld Sem)

/-- One step, or nothing where the task is gone. -/
def RouterWorld.step : RouterEvent → RouterWorld Sem
  | .arrive connectionId egress frame =>
    { w with
      tasks := w.tasks.insert w.nextTask ⟨connectionId, egress, frame, .arrived⟩
      nextTask := w.nextTask + 1 }
  | .advance t reads =>
    match w.tasks.get t with
    | none => w
    | some task => w.advance t task reads
  | .cancel t =>
    match w.tasks.get t with
    | none => w
    | some task => w.cancel t task
  | .call op => w.call op

/-- A run from some state. -/
def RouterWorld.runFrom (events : List RouterEvent) : RouterWorld Sem :=
  events.foldl RouterWorld.step w

/-- A run goes on from where its first part ended. -/
theorem RouterWorld.runFrom_append (events more : List RouterEvent) :
    w.runFrom (events ++ more) = (w.runFrom events).runFrom more :=
  List.foldl_append

/-- The last event of a run is one step. -/
theorem RouterWorld.runFrom_snoc (events : List RouterEvent) (event : RouterEvent) :
    w.runFrom (events ++ [event]) = (w.runFrom events).step event := by
  rw [runFrom_append]
  rfl

end

end Subconscious.DataPlane
