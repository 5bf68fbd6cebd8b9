import Subconscious.ForwardingEndings
import Subconscious.ForwardingHandles
import Subconscious.RouteOpenProtocol

/-!
# The daemon around the relay of a route.bind

The parties that share a relay: the handlers of any number of route.opens, the
readers of the module connections, drains, swaps, teardowns and the senders of
GOODBYEs. Every lock section of the forwarding table is one call of the table.
Between two of them any other party may take a step, so an event is one lock
section with the code around it up to the handler's next await. What the code
reads from outside (the clock, room in a queue, a writer that is gone) is an
argument of the event.
-/

namespace Subconscious.RelayWorld

open HashMaps Protocol ForwardingState ForwardingRelays ForwardingRuns ForwardingEndings
open ForwardingHandles RouteOpenProtocol

/-- One route.open that reserved a relay. -/
structure RouteOpen where
  request : RelayRequest
  relay : PendingRouteBindRelay
  phase : Phase
  deriving DecidableEq, Repr

/-- The key its relay is filed under. -/
def RouteOpen.key (o : RouteOpen) : ControlKey := (o.relay.endpoint, o.relay.corr)

/-- The connection that asked. -/
def RouteOpen.client (o : RouteOpen) : ConnectionId := o.request.clientConnectionId

/-- The handle pair it reserved. -/
def RouteOpen.allocation (o : RouteOpen) : Allocation :=
  relayAllocation o.request.clientConnectionId o.relay

/-- What has become of a GOODBYE that was given out. -/
inductive GoodbyeState where
  /-- Its sender has not run yet. -/
  | held
  /-- A detached task waits for room until the given time. -/
  | waiting (giveUpAt : Instant)
  | queued
  /-- No room came in time; counted as dropped. -/
  | expired (giveUpAt : Instant)
  /-- The writer is gone, or no runtime is left to wait in; counted as dropped. -/
  | dropped
  deriving DecidableEq, Repr

/-- How far its sender got: not yet run, waiting for room, or done with it. -/
def GoodbyeState.stage : GoodbyeState → Nat
  | .held => 0
  | .waiting _ => 1
  | .queued | .expired _ | .dropped => 2

/-- A GOODBYE for a given up bind. The frame names channel and epoch only; the
session is the registration of the module's connection it was given out for. -/
structure Goodbye where
  target : GoodbyeTarget
  session : Option ModuleEndpointId
  state : GoodbyeState
  deriving DecidableEq, Repr

/-- The module handle the GOODBYE is meant for. -/
def Goodbye.handle (goodbye : Goodbye) : Option (ModuleRouteKey × UInt32) :=
  goodbye.session.map fun endpoint =>
    (⟨endpoint, goodbye.target.channel⟩, goodbye.target.epoch)

/-- A frame in a module's queue. -/
inductive ModuleFrame where
  | routeBind (handle : ModuleRouteKey × UInt32) (corr : UInt64)
  | goodbye (connectionId : ConnectionId) (channel : UInt16) (epoch : UInt32)
  deriving DecidableEq, Repr

/-- The handle a route.bind carries. -/
def ModuleFrame.bindHandle : ModuleFrame → Option (ModuleRouteKey × UInt32)
  | .routeBind handle _ => some handle
  | .goodbye _ _ _ => none

/-- The daemon, as far as relays go. -/
structure World where
  /-- The lock sections so far. -/
  calls : List Op
  table : ForwardingInner
  now : Instant
  opens : HashMap SenderId RouteOpen
  nextSender : SenderId
  /-- What the one-shots were given, with the time. -/
  settled : List (SenderId × RouteBindRelayOutcome × Instant)
  /-- The module replies that found a relay. -/
  replies : List (SenderId × RouteBindRelayOutcome)
  /-- The GOODBYEs given out for given up binds. -/
  goodbyes : List Goodbye
  /-- The frames that entered module queues, in order. -/
  queued : List ModuleFrame
  /-- The frames that entered client queues for route.opens, in order. -/
  answers : List (SenderId × Answer)
  /-- Connections whose socket is over or whose writer is gone. -/
  ended : Finset ConnectionId
  /-- Connections whose module registration was released. -/
  deregistered : Finset ConnectionId
  shuttingDown : Bool

/-- The daemon before its first connection. -/
def World.initial : World where
  calls := []
  table := .default
  now := 0
  opens := .empty
  nextSender := 0
  settled := []
  replies := []
  goodbyes := []
  queued := []
  answers := []
  ended := ∅
  deregistered := ∅
  shuttingDown := false

section

variable (w : World)

/-- One lock section, with the one-shots it settles. -/
def World.invoke (op : Op) : World :=
  { w with
    calls := w.calls ++ [op]
    table := op.apply w.table
    settled := w.settled ++ (settlements w.table op).map fun entry => (entry.1, entry.2, w.now) }

section

variable (inner : ForwardingInner)

/-- The GOODBYEs a lock section hands to its caller. -/
def handedOut (op : Op) : List Goodbye :=
  (abandoned inner op).map fun target =>
    ⟨target, inner.endpointByConnection.get target.connectionId, .held⟩

/-- One lock section whose caller sends the GOODBYEs it is handed. -/
def World.perform (op : Op) : World :=
  { w.invoke op with goodbyes := w.goodbyes ++ handedOut w.table op }

/-- A handler moves on. -/
def World.setPhase (id : SenderId) (o : RouteOpen) (phase : Phase) : World :=
  { w with opens := w.opens.insert id { o with phase := phase } }

/-- A handler returns, with the frames for its client. -/
def World.finish (id : SenderId) (o : RouteOpen) (answers : List Answer) : World :=
  { w.setPhase id o .finished with
    answers := w.answers ++ if o.client ∈ w.ended then [] else answers.map fun a => (id, a) }

/-- `release_and_disarm` of the reservation guard, then the handler's return. -/
def World.releaseAndFinish (id : SenderId) (o : RouteOpen) (answers : List Answer) : World :=
  (w.perform (.abortPendingRelay o.relay.endpoint o.relay.corr
    (.moduleGone "route.open handler canceled"))).finish id o answers

/-- The GOODBYE an open sends itself when it finds its relay released. -/
def RouteOpen.goodbye (o : RouteOpen) : Goodbye :=
  ⟨⟨o.relay.endpoint.connectionId, o.relay.moduleSink, o.relay.negotiatedVer,
      o.relay.slots.moduleChannel, o.relay.slots.moduleEpoch, .module, none⟩,
    some o.relay.endpoint, .held⟩

/-- The error code a client is told for a refused relay. -/
def refusalCode : RouteBindRelayOutcome → String
  | .rejected body => body.code
  | .daemonRejected body => body.code
  | _ => "target_unavailable"

/-- The response frames a reply puts on a client's queue, while a writer is
there to send them. -/
def published (connectionId : ConnectionId) (corr : UInt64) (outcome : RouteBindRelayOutcome)
    (reads : CompletionReads) : List Frame :=
  if reads.writerClosed then []
  else (completePendingRelay inner connectionId corr outcome reads).effects.filterMap fun
    | .enqueue _ frame => some frame
    | _ => none

/-- The relay a reply on a connection finds. -/
def repliedRelay (connectionId : ConnectionId) (corr : UInt64) :
    Option PendingRouteBindRelayEntry :=
  (inner.endpointByConnection.get connectionId).bind fun endpoint =>
    inner.pendingRelays.get (endpoint, corr)

end

/-- The module's reply to a route.bind, on the reader of its connection. An
error of the lock section ends that connection. -/
def World.complete (connectionId : ConnectionId) (corr : UInt64) (outcome : RouteBindRelayOutcome)
    (reads : CompletionReads) : World :=
  let sender := (repliedRelay w.table connectionId corr).map (·.sender)
  let next := w.perform (.completePendingRelay connectionId corr outcome reads)
  { next with
    replies := w.replies ++ sender.toList.map fun id => (id, outcome)
    answers := w.answers ++ sender.toList.flatMap fun id =>
      (published w.table connectionId corr outcome reads).map fun frame => (id, .opened frame)
    deregistered :=
      match (completePendingRelay w.table connectionId corr outcome reads).result with
      | .ok _ => w.deregistered
      | .error _ => insert connectionId w.deregistered }

/-- How long a late GOODBYE waits for room, in milliseconds. -/
def lateModuleGoodbyeDeadline : Nat := 30000

/-- The GOODBYE at a position reaches a new state. -/
def World.setGoodbye (index : Nat) (goodbye : Goodbye) (state : GoodbyeState) : World :=
  { w with
    goodbyes := w.goodbyes.set index { goodbye with state := state }
    queued :=
      if state = .queued then
        w.queued ++ [.goodbye goodbye.target.connectionId goodbye.target.channel
          goodbye.target.epoch]
      else w.queued }

/-- `send_module_route_goodbye` up to its detached task. -/
def World.sendModuleRouteGoodbye (index : Nat) (room runtime : Bool) : World :=
  match w.goodbyes[index]? with
  | none => w
  | some goodbye =>
    if goodbye.state ≠ .held then w
    else if goodbye.target.connectionId ∈ w.ended then w.setGoodbye index goodbye .dropped
    else if room then w.setGoodbye index goodbye .queued
    else if !runtime && w.shuttingDown then w.setGoodbye index goodbye .dropped
    else w.setGoodbye index goodbye (.waiting (w.now + lateModuleGoodbyeDeadline))

/-- The detached task of a late GOODBYE looks again. -/
def World.resumeLateGoodbye (index : Nat) (room : Bool) : World :=
  match w.goodbyes[index]? with
  | none => w
  | some goodbye =>
    match goodbye.state with
    | .waiting giveUpAt =>
      if goodbye.target.connectionId ∈ w.ended then w.setGoodbye index goodbye .dropped
      else if room then w.setGoodbye index goodbye .queued
      else if giveUpAt ≤ w.now then w.setGoodbye index goodbye (.expired giveUpAt)
      else w
    | _ => w

end

/-- One step of one party. -/
inductive Event where
  /-- The clock moves on. -/
  | tick (elapsed : Nat)
  /-- A route.open reserves its relay. -/
  | openRoute (request : RelayRequest)
  /-- The open refuses before its route.bind is queued, or queueing it failed. -/
  | giveUp (id : SenderId) (code : String)
  /-- The module's queue takes the route.bind. -/
  | queueBind (id : SenderId)
  | mark (id : SenderId)
  /-- The open's one-shot is ready. -/
  | wake (id : SenderId)
  /-- The open looks at its one-shot, which is not ready. -/
  | poll (id : SenderId)
  /-- It looks at its timer next. -/
  | timeOut (id : SenderId)
  /-- The open's task is aborted with its connection. -/
  | cancel (id : SenderId)
  | reply (connectionId : ConnectionId) (corr : UInt64) (outcome : RouteBindRelayOutcome)
      (reads : CompletionReads)
  /-- A lock section of any other party. -/
  | call (op : Op)
  | beginShutdown
  /-- A lock section of the shutdown, which sends none of the GOODBYEs it is handed. -/
  | shutdownCall (op : Op)
  /-- The registry lets a module connection go. -/
  | deregister (connectionId : ConnectionId)
  /-- The connection may say HELLO again. -/
  | sessionOver (connectionId : ConnectionId)
  /-- A connection's socket is over. -/
  | endConnection (connectionId : ConnectionId)
  | sendModuleRouteGoodbye (index : Nat) (room runtime : Bool)
  | resumeLateGoodbye (index : Nat) (room : Bool)

/-- Which lock sections the other parties may enter. The registry admits one
live connection for each module id, so a registration replaces only an active
connection that it has let go. -/
def World.callable (w : World) (op : Op) : Bool :=
  !relayCall op && match op with
    | .registerModuleConnection registration =>
      decide (registration.connectionId ∉ w.deregistered) &&
        (w.table.modulesById.get registration.moduleId).all fun module =>
          decide (module.endpoint.connectionId ∈ w.deregistered)
    | .registerCandidateModuleConnection registration =>
      decide (registration.connectionId ∉ w.deregistered)
    | _ => true

/-- The parties of a relay make its calls themselves. -/
theorem relayCall_of_callable {w : World} (h : w.callable op = true) : relayCall op = false := by
  unfold World.callable at h
  rw [Bool.and_eq_true, Bool.not_eq_true'] at h
  exact h.1

/-- The route.bind of a key is in its module's queue. -/
def World.bindQueued (w : World) (key : ControlKey) : Bool :=
  w.queued.any fun
    | .routeBind handle corr => decide ((handle.1.endpoint, corr) = key)
    | .goodbye _ _ _ => false

/-- What the one-shot of an open holds. -/
def World.outcomeOf (w : World) (id : SenderId) : Option RouteBindRelayOutcome :=
  (w.settled.find? fun entry => entry.1 = id).map fun entry => entry.2.1

/-- One step, or nothing where the party cannot take it. -/
def World.step (w : World) : Event → World
  | .tick elapsed => { w with now := w.now + elapsed }
  | .openRoute request =>
    let request := { request with sender := w.nextSender }
    let next := w.perform (.beginRouteBindRelay request)
    match (beginRouteBindRelayInner w.table request).result with
    | .error _ => next
    | .ok relay =>
      { next with
        opens := w.opens.insert w.nextSender ⟨request, relay, .sending⟩
        nextSender := w.nextSender + 1 }
  | .giveUp id code =>
    match w.opens.get id with
    | some o => if o.phase = .sending then w.releaseAndFinish id o [.refused code] else w
    | none => w
  | .queueBind id =>
    match w.opens.get id with
    | some o =>
      if o.phase = .sending ∧ o.relay.endpoint.connectionId ∉ w.ended then
        { w.setPhase id o .sent with
          queued := w.queued ++ [.routeBind o.allocation.moduleHandle o.relay.corr] }
      else w
    | none => w
  | .mark id =>
    match w.opens.get id with
    | some o =>
      if o.phase = .sent then
        let next := (w.perform (.markRouteBindRelayEnqueued o.relay.endpoint o.relay.corr)).setPhase
          id o .waiting
        match (markRouteBindRelayEnqueued w.table o.relay.endpoint o.relay.corr).result with
        | .ok .releasedWithoutReply => { next with goodbyes := next.goodbyes ++ [o.goodbye] }
        | _ => next
      else w
    | none => w
  | .wake id =>
    match w.opens.get id with
    | some o =>
      if o.phase = .waiting then
        match w.outcomeOf id with
        | some .accepted => w.finish id o []
        | some outcome => w.releaseAndFinish id o [.refused (refusalCode outcome)]
        | none =>
          if w.table.pendingRelays.contains o.key then w
          else w.releaseAndFinish id o [.refused "target_unavailable"]
      else w
    | none => w
  | .poll id =>
    match w.opens.get id with
    | some o =>
      if o.phase = .waiting ∧ w.outcomeOf id = none ∧ w.table.pendingRelays.contains o.key then
        w.setPhase id o .polled
      else w
    | none => w
  | .timeOut id =>
    match w.opens.get id with
    | some o =>
      if o.phase = .polled then
        if o.request.deadline ≤ w.now then w.releaseAndFinish id o [.refused "module_timeout"]
        else w.setPhase id o .waiting
      else w
    | none => w
  | .cancel id =>
    match w.opens.get id with
    | some o =>
      if (o.phase = .sending ∨ o.phase = .waiting) ∧ o.client ∈ w.ended then
        w.releaseAndFinish id o []
      else w
    | none => w
  | .reply connectionId corr outcome reads =>
    match w.table.endpointByConnection.get connectionId with
    | some endpoint =>
      if connectionId ∉ w.deregistered ∧ w.bindQueued (endpoint, corr) = true then
        w.complete connectionId corr outcome { reads with now := w.now }
      else w
    | none => w
  | .call op => if w.callable op then w.perform op else w
  | .beginShutdown => { w.perform .beginDaemonDrain with shuttingDown := true }
  | .shutdownCall op => if w.shuttingDown && w.callable op then w.invoke op else w
  | .deregister connectionId =>
    { w with deregistered := insert connectionId w.deregistered }
  | .sessionOver connectionId =>
    if w.table.endpointByConnection.contains connectionId then w
    else { w with deregistered := w.deregistered.erase connectionId }
  | .endConnection connectionId => { w with ended := insert connectionId w.ended }
  | .sendModuleRouteGoodbye index room runtime => w.sendModuleRouteGoodbye index room runtime
  | .resumeLateGoodbye index room => w.resumeLateGoodbye index room

/-- The daemon after any sequence of steps. -/
def World.run (events : List Event) : World := events.foldl World.step .initial

end Subconscious.RelayWorld
