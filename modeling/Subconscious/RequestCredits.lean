import Subconscious.HashMaps
import Subconscious.Protocol
import Subconscious.Semaphores
import Mathlib.Data.List.Induction

/-!
# Request credits of one route

A route admits as many requests at once as its window says, and as many
subscriptions as its watch window says, if it has one. A semaphore hands out
the free permits of each lane; which one is a parameter of all that follows. A ledger remembers what is out, by correlation
id; the same id may be out several times.

The semaphores are not under the flow's lock. A waiting acquirer takes its
permit outside the lock and records it inside, so another call may stand
between the two. An immediate admission holds the lock throughout, and only
the semaphores can move under it. The time of the last warning is left out.
-/

namespace Subconscious.RequestCredits

open HashMaps Semaphores

/-- One request that is out. -/
structure RequestCredit where
  subscription : Bool
  watchCredit : Bool
  excludedFromDrain : Bool
  deriving DecidableEq, Repr

/-- The credits that are out, the newest of each correlation id last. -/
structure CreditLedger where
  byCorr : HashMap UInt64 (List RequestCredit)

/-- Nothing is out. -/
def CreditLedger.default : CreditLedger := ⟨.empty⟩

section

variable (ledger : CreditLedger)

/-- Record one more credit of a correlation id. -/
def CreditLedger.acquire (corr : UInt64) (subscription watchCredit : Bool) : CreditLedger :=
  ⟨ledger.byCorr.insert corr
    ((ledger.byCorr.get corr).getD [] ++ [⟨subscription, watchCredit, false⟩])⟩

/-- Take back the newest credit of a correlation id. -/
def CreditLedger.release (corr : UInt64) : CreditLedger × Option RequestCredit :=
  match ledger.byCorr.get corr with
  | none => (ledger, none)
  | some credits =>
    (⟨if credits.dropLast.isEmpty then ledger.byCorr.remove corr
      else ledger.byCorr.insert corr credits.dropLast⟩, credits.getLast?)

/-- Every credit that is out. -/
def CreditLedger.credits : List RequestCredit :=
  ledger.byCorr.values.flatten

/-- A subscription no longer holds a drain up. -/
def RequestCredit.exclude (credit : RequestCredit) : RequestCredit :=
  if credit.subscription then { credit with excludedFromDrain := true } else credit

/-- Exclude every subscription from the drain, and count the ones not excluded
before. The count is a 32-bit one and saturates. -/
def CreditLedger.captureSubscriptionExclusions : CreditLedger × Nat :=
  (⟨ledger.byCorr.mapValues (List.map RequestCredit.exclude)⟩,
    min (ledger.credits.filter fun credit =>
      credit.subscription && !credit.excludedFromDrain).length 0xFFFFFFFF)

/-- How many credits are out. -/
def CreditLedger.inFlight : Nat :=
  (ledger.byCorr.values.map List.length).sum

/-- What a drain still waits on. -/
def CreditLedger.drainInFlight : Nat :=
  (ledger.credits.filter fun credit => !credit.excludedFromDrain).length

end

variable {Sem : Type} [Semaphore Sem]

/-- Credit accounting of one route, shared by its two halves. -/
structure ChannelFlow (Sem : Type) where
  sem : Sem
  window : Nat
  busyRefusals : Bool
  watchSem : Option Sem
  watchWindow : Option Nat
  closed : Bool
  credits : CreditLedger

/-- An open flow with the given windows. -/
def ChannelFlow.withAdmission (window : Nat) (busyRefusals : Bool) (watchWindow : Option Nat) :
    ChannelFlow Sem :=
  ⟨Semaphore.new window, window, busyRefusals, watchWindow.map Semaphore.new, watchWindow, false, .default⟩

/-- A flow whose requests wait for their credit. -/
def ChannelFlow.new (window : Nat) : ChannelFlow Sem := .withAdmission window false none

/-- What a busy route tells the client. -/
structure RouteBusyDetail where
  reason : String
  requestInFlight : Nat
  watchInFlight : Nat
  requestWindow : Nat
  watchWindow : Option Nat
  deriving DecidableEq, Repr

/-- How an immediate admission ends. -/
inductive RequestAdmission where
  | admitted
  | busy (detail : RouteBusyDetail)
  | moduleReloading
  | stale
  deriving DecidableEq, Repr

section

variable (flow : ChannelFlow Sem)

omit [Semaphore Sem] in
/-- The refusal of a lane that is full. -/
def ChannelFlow.busy : RequestAdmission :=
  .busy ⟨"no_credit", flow.credits.inFlight,
    (flow.credits.credits.filter fun credit => credit.subscription).length, flow.window,
    flow.watchWindow⟩

/-- The first half of an immediate admission: the flow with the total permit
taken, or the refusal. -/
def ChannelFlow.takeTotal : Except RequestAdmission (ChannelFlow Sem) :=
  if flow.closed then .error .stale
  else
    match Semaphore.tryAcquire flow.sem with
    | none => .error flow.busy
    | some sem => .ok { flow with sem := sem }

/-- The watch permit of a subscription, if the flow has a watch lane: the lane
afterwards and whether a permit was taken, or nothing if the lane is full. -/
def ChannelFlow.takeWatch (subscription : Bool) : Option (Option Sem × Bool) :=
  if subscription then
    match flow.watchSem with
    | none => some (none, false)
    | some sem => (Semaphore.tryAcquire sem).map fun sem => (some sem, true)
  else some (flow.watchSem, false)

section

variable (corr : UInt64) (subscription : Bool)

/-- The second half: the watch permit, and the record. A full watch lane drops
the total permit again. -/
def ChannelFlow.finishAdmission : ChannelFlow Sem × RequestAdmission :=
  match flow.takeWatch subscription with
  | none => ({ flow with sem := Semaphore.addPermits flow.sem 1 }, flow.busy)
  | some (watchSem, watchCredit) =>
    ({ flow with
        watchSem := watchSem
        credits := flow.credits.acquire corr subscription watchCredit }, .admitted)

/-- Admit a request at once or refuse it. -/
def ChannelFlow.tryAcquireTagged : ChannelFlow Sem × RequestAdmission :=
  match flow.takeTotal with
  | .error refusal => (flow, refusal)
  | .ok held => held.finishAdmission corr subscription

/-- The end of a waiting acquire, once its permit is there. A flow that closed
meanwhile drops the permit. -/
def ChannelFlow.recordAcquired : ChannelFlow Sem × Bool :=
  if flow.closed then ({ flow with sem := Semaphore.addPermits flow.sem 1 }, false)
  else ({ flow with credits := flow.credits.acquire corr subscription false }, true)

end

/-- Give a semaphore one permit back, unless it is closed. -/
def restorePermit (sem : Sem) : Sem :=
  if Semaphore.closed sem then sem else Semaphore.addPermits sem 1

/-- The request of a correlation id ended. An unknown id changes nothing. -/
def ChannelFlow.releaseCorr (corr : UInt64) : ChannelFlow Sem :=
  match flow.credits.release corr with
  | (_, none) => flow
  | (credits, some released) =>
    { flow with
      credits := credits
      sem := restorePermit flow.sem
      watchSem := if released.watchCredit then flow.watchSem.map restorePermit
        else flow.watchSem }

/-- No credit is given out from now on. -/
def ChannelFlow.close : ChannelFlow Sem :=
  { flow with
    closed := true
    sem := Semaphore.close flow.sem
    watchSem := flow.watchSem.map Semaphore.close }

/-- Close the flow and let subscriptions out of the drain's count. -/
def ChannelFlow.beginDrain : ChannelFlow Sem × Nat :=
  ({ flow.close with credits := flow.credits.captureSubscriptionExclusions.1 },
    flow.credits.captureSubscriptionExclusions.2)

end

/-- Identity of one waiting call. -/
abbrev AcquirerId := Nat

/-- A call that waits for a permit, or has it and has not recorded it. -/
structure Acquirer where
  corr : UInt64
  subscription : Bool
  holding : Bool
  deriving DecidableEq, Repr

/-- A flow and the calls in progress on it. -/
structure FlowWorld (Sem : Type) where
  flow : ChannelFlow Sem
  acquirers : HashMap AcquirerId Acquirer
  /-- An immediate admission between its halves: it has the lock and a permit. -/
  admitting : Option (UInt64 × Bool)

/-- A new flow nobody calls yet. -/
def FlowWorld.new (window : Nat) (busyRefusals : Bool) (watchWindow : Option Nat) : FlowWorld Sem :=
  ⟨.withAdmission window busyRefusals watchWindow, .empty, none⟩

/-- What can happen next. -/
inductive FlowEvent where
  /-- A waiting acquire begins. -/
  | acquire (task : AcquirerId) (corr : UInt64) (subscription : Bool)
  /-- The semaphore serves a waiting acquire, or tells it that it closed. -/
  | poll (task : AcquirerId)
  /-- A served acquire takes the lock and records its permit. -/
  | record (task : AcquirerId)
  /-- A waiting acquire is dropped, with its permit if it has one. -/
  | cancel (task : AcquirerId)
  /-- An immediate admission takes the lock and the total permit. -/
  | tryAcquire (corr : UInt64) (subscription : Bool)
  /-- It goes on to its end. -/
  | finish
  | releaseCorr (corr : UInt64)
  | beginDrain
  | close
  deriving DecidableEq, Repr

/-- What a call that ended in a step returned. -/
inductive FlowAnswer where
  | acquired
  | flowClosed
  | admission (admission : RequestAdmission)
  | drained (exclusions : Nat)
  deriving DecidableEq, Repr

/-- A request was admitted. -/
def FlowAnswer.admits : FlowAnswer → Bool
  | .acquired => true
  | .admission .admitted => true
  | _ => false

section

variable (w : FlowWorld Sem)

/-- An acquirer's call ends, and its permit goes back if it has one. -/
def FlowWorld.dropAcquirer (task : AcquirerId) (acquirer : Acquirer) : FlowWorld Sem :=
  { w with
    flow := if acquirer.holding then { w.flow with sem := Semaphore.addPermits w.flow.sem 1 } else w.flow
    acquirers := w.acquirers.remove task }

/-- The semaphore turns to one waiting acquire. -/
def FlowWorld.poll (task : AcquirerId) : FlowWorld Sem × Option FlowAnswer :=
  match w.acquirers.get task with
  | none => (w, none)
  | some acquirer =>
    if Semaphore.closed w.flow.sem then (w.dropAcquirer task acquirer, some .flowClosed)
    else if acquirer.holding then (w, none)
    else
      match Semaphore.tryAcquire w.flow.sem with
      | none => (w, none)
      | some sem =>
        ({ w with
            flow := { w.flow with sem := sem }
            acquirers := w.acquirers.insert task { acquirer with holding := true } }, none)

/-- A served acquire goes on to its end. -/
def FlowWorld.record (task : AcquirerId) : FlowWorld Sem × Option FlowAnswer :=
  match w.acquirers.get task with
  | none => (w, none)
  | some acquirer =>
    if acquirer.holding then
      let recorded := w.flow.recordAcquired acquirer.corr acquirer.subscription
      ({ w with flow := recorded.1, acquirers := w.acquirers.remove task },
        some (if recorded.2 then .acquired else .flowClosed))
    else (w, none)

/-- A call that takes the lock waits while an admission holds it. -/
def FlowWorld.locked (call : FlowWorld Sem × Option FlowAnswer) :
    FlowWorld Sem × Option FlowAnswer :=
  if w.admitting.isSome then (w, none) else call

/-- One step, and what a call that ended in it returned. -/
def FlowWorld.step : FlowEvent → FlowWorld Sem × Option FlowAnswer
  | .acquire task corr subscription =>
    if w.acquirers.contains task then (w, none)
    else ({ w with acquirers := w.acquirers.insert task ⟨corr, subscription, false⟩ }, none)
  | .poll task => w.poll task
  | .record task => w.locked (w.record task)
  | .cancel task =>
    match w.acquirers.get task with
    | none => (w, none)
    | some acquirer => (w.dropAcquirer task acquirer, none)
  | .tryAcquire corr subscription =>
    w.locked <|
      match w.flow.takeTotal with
      | .error refusal => (w, some (.admission refusal))
      | .ok held => ({ w with flow := held, admitting := some (corr, subscription) }, none)
  | .finish =>
    match w.admitting with
    | none => (w, none)
    | some (corr, subscription) =>
      let finished := w.flow.finishAdmission corr subscription
      ({ w with flow := finished.1, admitting := none }, some (.admission finished.2))
  | .releaseCorr corr => w.locked ({ w with flow := w.flow.releaseCorr corr }, none)
  | .beginDrain =>
    w.locked ({ w with flow := w.flow.beginDrain.1 }, some (.drained w.flow.beginDrain.2))
  | .close => w.locked ({ w with flow := w.flow.close }, none)

/-- A run from some state. -/
def FlowWorld.runFrom (events : List FlowEvent) : FlowWorld Sem :=
  events.foldl (fun w event => (w.step event).1) w

/-- A run goes on from where its first part ended. -/
theorem FlowWorld.runFrom_append (events more : List FlowEvent) :
    w.runFrom (events ++ more) = (w.runFrom events).runFrom more :=
  List.foldl_append

/-- The last event of a run is one step. -/
theorem FlowWorld.runFrom_snoc (events : List FlowEvent) (event : FlowEvent) :
    w.runFrom (events ++ [event]) = ((w.runFrom events).step event).1 := by
  rw [runFrom_append]
  rfl

end

end Subconscious.RequestCredits
