import Subconscious.Runs
import Subconscious.DataPlane
import Subconscious.FlowLaws

/-!
# What a refusal proves

A client may send a request again when the daemon refused it with one of four
codes. Such an answer ends a task that never passed the point of no return: no
module's queue saw its frame, no ledger recorded its credit, and a permit it
took was given back. Whatever is passed on between a client and a module has the origin bit clear.
-/

namespace Subconscious.RouterLaws

open HashMaps HashMap Semaphores Protocol ForwardingState ForwardingRuns RequestCredits FlowLaws
open DataRoutes DataPlane

variable {Sem : Type} [Semaphore Sem]

/-- A daemon answer that invites a resend. -/
def Refusal (sent : Sent) : Prop :=
  ∃ error : ErrorFrame, sent.frame = .error error ∧ error.body.code ∈ refusalCodes

/-- The flow a task has an unrecorded permit of. -/
def inHand : TaskPhase → Option FlowId
  | .waiting route true => some route.flow
  | _ => none

/-- Both lanes of a flow and its ledger: the free permits with the one in hand,
the free watch permits and the credits that are out. -/
def lanes (w : RouterWorld Sem) (held : Option FlowId) (id : FlowId) :
    Option (Nat × Option Nat × CreditLedger) :=
  (w.flows.get id).map fun flow =>
    (Semaphore.permits flow.sem + if held = some id then 1 else 0,
      flow.watchSem.map Semaphore.permits, flow.credits)

/-- The flow a task of the router has an unrecorded permit of. -/
def heldBy (w : RouterWorld Sem) (t : TaskId) : Option FlowId :=
  (w.tasks.get t).bind fun task => inHand task.phase

/-- The task is past its last refusal. -/
def spent : TaskPhase → Bool
  | .forwarding _ _ => true
  | .relaying _ _ _ => true
  | .replacing _ _ _ => true
  | .notifying _ => true
  | .answering error => decide (error.body.code ∉ refusalCodes)
  | _ => false

/-- A frame on its way to a client does not look daemon-authored. -/
def Clear : TaskPhase → Prop
  | .relaying _ frame _ => frame.header.flags.isDaemonOrigin = false
  | _ => True

/-- The tasks stay, and only the daemon's own frames enter queues. -/
structure Quiet (w u : RouterWorld Sem) : Prop where
  tasks : u.tasks = w.tasks
  nextTask : u.nextTask = w.nextTask
  sent : ∃ new, u.sent = w.sent ++ new ∧ ∀ sent ∈ new, sent.author = .daemon none

variable (w : RouterWorld Sem)

omit [Semaphore Sem] in
/-- Doing nothing is quiet. -/
theorem Quiet.refl : Quiet w w := ⟨rfl, rfl, [], (List.append_nil _).symm, nofun⟩

omit [Semaphore Sem] in
/-- What answers a task, or is passed on for it, was in a queue before. -/
theorem Quiet.old {w u : RouterWorld Sem} (h : Quiet w u) (hmem : entry ∈ u.sent)
    (hauthor : entry.author = author) (hnamed : author ≠ .daemon none) : entry ∈ w.sent := by
  obtain ⟨new, hnew, hauthors⟩ := h.sent
  rw [hnew] at hmem
  refine (List.mem_append.mp hmem).resolve_right fun hadded => hnamed ?_
  rw [← hauthor, hauthors entry hadded]

/-- Quiet steps compose. -/
theorem Quiet.trans (hab : Quiet a b) (hbc : Quiet b c) : Quiet a c :=
  ⟨hbc.tasks.trans hab.tasks, hbc.nextTask.trans hab.nextTask,
    Runs.appended_trans hab.sent hbc.sent⟩

omit [Semaphore Sem] in
/-- A change of the flows alone. -/
theorem Quiet.flows (flows : HashMap FlowId (ChannelFlow Sem)) : Quiet w { w with flows := flows } :=
  ⟨rfl, rfl, [], (List.append_nil _).symm, nofun⟩

/-- The effects of a call write only daemon frames. -/
theorem effect_quiet : Quiet w (w.effect effect) := by
  cases effect with
  | newFlow | closeFlow | beginFlowDrain => exact .flows w _
  | enqueue => exact ⟨rfl, rfl, _, rfl, List.forall_mem_singleton.mpr rfl⟩
  | settle | settleControl | releaseBind | recordServed | commitPresence | operatorRouteClosed
  | operatorModuleClosed | resetRouteBindBreaker | requestConnectionClose => exact .refl w

/-- A call of the table is quiet. -/
theorem call_quiet : Quiet w (w.call op) := by
  unfold RouterWorld.call
  generalize (w.freshen op).effects w.table = effects
  have hstart : Quiet w { w with
      table := (w.freshen op).apply w.table, nextFlow := w.nextFlow + 1 } :=
    ⟨rfl, rfl, [], (List.append_nil _).symm, nofun⟩
  generalize { w with table := (w.freshen op).apply w.table, nextFlow := w.nextFlow + 1 } = u
    at hstart
  induction effects generalizing u with
  | nil => exact hstart
  | cons effect rest ih =>
    rw [List.foldl_cons]
    exact ih _ (hstart.trans (effect_quiet u))

/-- Where a step leaves its task. -/
inductive TaskStep (w : RouterWorld Sem) (t : TaskId) (task : Task) : RouterWorld Sem → Prop
  | idle : TaskStep w t task w
  | moved (u : RouterWorld Sem) (phase : TaskPhase) (hu : Quiet w u) (hclear : Clear phase)
      (hspent : spent task.phase = true → spent phase = true)
      (hlanes : spent phase = true ∨ lanes u (inHand phase) = lanes w (inHand task.phase)) :
      TaskStep w t task (u.advanceTo t task phase)
  | ended (u : RouterWorld Sem) (hu : Quiet w u) : TaskStep w t task (u.finish t)
  | answered (sink : FrameSink) (frame : OutFrame) (hidle : inHand task.phase = none)
      (hspent : spent task.phase = true → ¬ Refusal ⟨sink, frame, .daemon (some t)⟩) :
      TaskStep w t task ((w.emit sink frame (.daemon (some t))).finish t)
  | relayed (sink : FrameSink) (frame : Frame) (hspent : spent task.phase = true)
      (hclear : frame.header.flags.isDaemonOrigin = false) :
      TaskStep w t task ((w.emit sink (.data frame) (.relayed t)).finish t)

/-- A task that may still be refused and has no permit in hand. -/
structure Unserved (phase : TaskPhase) : Prop where
  unspent : spent phase = false
  idle : inHand phase = none

/-- Such a task goes on without touching a flow. -/
theorem TaskStep.stays {w : RouterWorld Sem} (h : Unserved task.phase) (hclear : Clear phase)
    (hidle : inHand phase = none) : TaskStep w t task (w.advanceTo t task phase) :=
  .moved w phase (.refl w) hclear (fun hspent => by rw [h.unspent] at hspent; cases hspent)
    (.inr (by rw [hidle, h.idle]))

/-- A flow that changes for the one who has its permit in hand, or for nobody. -/
theorem lanes_setFlow {w : RouterWorld Sem} {id : FlowId} (hget : w.flows.get id = some flow)
    (hheld : held = none ∨ held = some id) (hheld' : held' = none ∨ held' = some id)
    (hpermits : Semaphore.permits flow'.sem + (if held' = some id then 1 else 0) =
      Semaphore.permits flow.sem + if held = some id then 1 else 0)
    (hwatch : flow'.watchSem = flow.watchSem) (hcredits : flow'.credits = flow.credits) :
    lanes (w.setFlow id flow') held' = lanes w held := by
  funext other
  unfold lanes RouterWorld.setFlow
  rw [get_insert]
  by_cases heq : other = id
  · rw [if_pos heq, heq, hget, Option.map_some, Option.map_some, hpermits, hwatch, hcredits]
  · have hother : ∀ held : Option FlowId, held = none ∨ held = some id → held ≠ some other := by
      rintro _ (rfl | rfl) hsame
      · cases hsame
      · exact heq (Option.some.inj hsame).symm
    rw [if_neg heq, if_neg (hother held hheld), if_neg (hother held' hheld')]

omit [Semaphore Sem] in
/-- So is a frame of the daemon's own. -/
theorem emitted_quiet : Quiet w (w.emit sink frame (.daemon none)) :=
  ⟨rfl, rfl, _, rfl, List.forall_mem_singleton.mpr rfl⟩

section

variable (t : TaskId) (task : Task)

/-- A refused client frame is answered or dropped. -/
theorem refuse_step (h : Unserved task.phase) :
    TaskStep w t task (w.refuse t task error) := by
  unfold RouterWorld.refuse
  split
  case isTrue => exact .stays h trivial rfl
  case isFalse => exact .ended w (.refl w)

/-- So is a refused module frame. -/
theorem refuseModuleFrame_step
    (h : Unserved task.phase) :
    TaskStep w t task (w.refuseModuleFrame t task error orphan reads) := by
  unfold RouterWorld.refuseModuleFrame
  dsimp only
  split
  case isTrue => exact .stays h trivial rfl
  split
  case isTrue => exact .ended _ (emitted_quiet w)
  case isFalse => exact .ended w (.refl w)

/-- A GOODBYE of a client is past refusal. -/
theorem routeGoodbye_step : TaskStep w t task (w.routeGoodbye t task) := by
  unfold RouterWorld.routeGoodbye
  dsimp only
  split
  case h_1 => exact .moved _ _ (call_quiet w) trivial (fun _ => rfl) (.inl rfl)
  case h_2 => exact .ended _ (call_quiet w)

/-- So is one of a module. -/
theorem routeModuleGoodbye_step : TaskStep w t task (w.routeModuleGoodbye t task) := by
  unfold RouterWorld.routeModuleGoodbye
  dsimp only
  split
  case h_1 =>
    exact .moved _ _ (call_quiet w) (withoutDaemonOrigin_clear _) (fun _ => rfl) (.inl rfl)
  case h_2 => exact .ended _ (call_quiet w)

/-- An oversized frame is never a refusal. -/
theorem refuseOversized_step (bytes limit : Nat) :
    TaskStep w t task (w.refuseOversized t task route bytes limit) := by
  unfold RouterWorld.refuseOversized
  split
  case h_1 => exact .ended _ (call_quiet w)
  case h_2 => exact .moved w _ (.refl w) trivial (fun _ => rfl) (.inl rfl)
  case h_3 => exact .moved _ _ (.flows w _) trivial (fun _ => rfl) (.inl rfl)

/-- A module frame on its route is past refusal. -/
theorem routeModuleFrame_step : TaskStep w t task (w.routeModuleFrame t task route) := by
  unfold RouterWorld.routeModuleFrame
  dsimp only
  split
  case isTrue => exact routeModuleGoodbye_step w t task
  split
  case isTrue => exact refuseOversized_step w t task _ _
  split
  case isTrue =>
    exact .moved _ _ (.flows w _) (withoutDaemonOrigin_clear _) (fun _ => rfl) (.inl rfl)
  case isFalse =>
    exact .moved w _ (.refl w) (withoutDaemonOrigin_clear _) (fun _ => rfl) (.inl rfl)

/-- The lookup leaves every flow alone. -/
theorem route_step (h : Unserved task.phase) :
    TaskStep w t task (w.route t task reads) := by
  unfold RouterWorld.route
  dsimp only
  split
  case isTrue => exact .ended w (.refl w)
  split
  case h_1 | h_2 | h_3 => exact refuseModuleFrame_step w t task h
  case h_4 route _ => exact routeModuleFrame_step w t task
  case h_5 | h_6 => exact refuse_step w t task h
  case h_7 =>
    split
    case isTrue => exact routeGoodbye_step w t task
    case isFalse => exact .stays h trivial rfl
  case h_8 =>
    split
    case h_1 | h_2 => exact .stays h trivial rfl
    case h_3 => exact refuse_step w t task h

/-- So does the second lookup. -/
theorem routeBackend_step (h : Unserved task.phase) :
    TaskStep w t task (w.routeBackend t task) := by
  unfold RouterWorld.routeBackend
  dsimp only
  split
  case h_1 | h_2 => exact .stays h trivial rfl

end

/-- An admission that is not granted leaves the flow as it was. -/
theorem tryAdmitRequest_refused (inner : ForwardingInner) (flow : ChannelFlow Sem)
    (route : RouteBinding) (epoch : UInt32) (corr : UInt64) (subscription : Bool)
    (h : (tryAdmitRequest inner flow route epoch corr subscription).2 ≠ .admitted) :
    (tryAdmitRequest inner flow route epoch corr subscription).1 = flow := by
  unfold tryAdmitRequest at h ⊢
  split
  case isTrue => rfl
  case isFalse hcurrent =>
    rw [if_neg hcurrent] at h
    have hrefused := tryAcquireTagged_refused flow corr subscription
    generalize flow.tryAcquireTagged corr subscription = admission at h hrefused ⊢
    rcases admission with ⟨flow', answer⟩
    cases answer with
    | admitted => exact absurd rfl h
    | busy | moduleReloading | stale => exact hrefused nofun

section

variable (t : TaskId) (task : Task)

section

variable (route : RouteBinding)

/-- An immediate admission records a credit or leaves the flow as it was. -/
theorem takeCredit_step (h : Unserved task.phase) :
    TaskStep w t task (w.takeCredit t task route) := by
  unfold RouterWorld.takeCredit
  dsimp only
  split
  case isFalse => exact .moved w _ (.refl w) trivial (fun _ => rfl) (.inl rfl)
  cases hget : w.flows.get route.flow with
  | none => exact .idle
  | some flow =>
    dsimp only
    split
    case isFalse => exact .stays h trivial rfl
    have hrefused := tryAdmitRequest_refused w.table flow route task.frame.header.epoch
      task.frame.header.corr task.frame.header.flags.isSubscription
    generalize tryAdmitRequest w.table flow route task.frame.header.epoch
      task.frame.header.corr task.frame.header.flags.isSubscription = admission at hrefused ⊢
    rcases admission with ⟨flow', answer⟩
    have hsame : answer ≠ .admitted →
        lanes (w.setFlow route.flow flow') none = lanes w (inHand task.phase) := by
      intro hanswer
      have hflow : flow' = flow := hrefused hanswer
      rw [hflow, h.idle]
      exact lanes_setFlow hget (.inl rfl) (.inl rfl) rfl rfl rfl
    cases answer with
    | admitted => exact .moved _ _ (.flows w _) trivial (fun _ => rfl) (.inl rfl)
    | busy | moduleReloading | stale =>
      exact .moved _ _ (.flows w _) trivial (fun hspent => by rw [h.unspent] at hspent; cases hspent)
        (.inr (hsame nofun))

/-- Waiting for a credit takes a permit in hand, and gives it back or records it. -/
theorem waitCredit_step (hphase : task.phase = .waiting route holding) :
    TaskStep w t task (w.waitCredit t task route holding) := by
  have hnever : ∀ phase, spent task.phase = true → spent phase = true := by
    intro phase hspent
    rw [hphase] at hspent
    cases hspent
  unfold RouterWorld.waitCredit
  cases hget : w.flows.get route.flow with
  | none => exact .idle
  | some flow =>
    dsimp only
    cases holding with
    | true =>
      rw [if_pos rfl]
      unfold ChannelFlow.recordAcquired
      split
      case isTrue =>
        refine .moved _ _ (.flows w _) trivial (hnever _) (.inr ?_)
        rw [hphase]
        refine lanes_setFlow hget (.inr rfl) (.inl rfl) ?_ rfl rfl
        simp [inHand]
      case isFalse => exact .moved _ _ (.flows w _) trivial (hnever _) (.inl rfl)
    | false =>
      have h : Unserved task.phase := by
        rw [hphase]
        exact ⟨rfl, rfl⟩
      rw [if_neg Bool.false_ne_true]
      split
      case isTrue => exact .stays h trivial rfl
      cases hsem : Semaphore.tryAcquire flow.sem with
      | none => exact .idle
      | some sem =>
        refine .moved _ _ (.flows w _) trivial (hnever _) (.inr ?_)
        rw [h.idle]
        refine lanes_setFlow hget (.inl rfl) (.inr rfl) ?_ rfl rfl
        simp [inHand, (Semaphore.of_tryAcquire hsem).2.2]

/-- A module that cannot be given a frame is no reason to send it again. -/
theorem backend_spent :
    spent (.answering (RouterError.backend channel epoch corr message).toErrorFrame) = true := by
  change decide ("backend_error" ∉ refusalCodes) = true
  decide

/-- A forwarded frame loses its origin bit. -/
theorem forward_step (hspent : spent task.phase = true) :
    TaskStep w t task (w.forward t task route credit reads) := by
  unfold RouterWorld.forward
  split
  case isTrue => exact .relayed _ _ hspent (withoutDaemonOrigin_clear _)
  cases credit with
  | true =>
    exact .moved _ _ (.flows w _) trivial (fun _ => backend_spent) (.inl backend_spent)
  | false =>
    exact .moved w _ (.refl w) trivial (fun _ => backend_spent) (.inl backend_spent)

end

/-- Every step of a task is one of these. -/
theorem advance_step (hclear : Clear task.phase) : TaskStep w t task (w.advance t task reads) := by
  unfold RouterWorld.advance
  split
  case h_1 hphase => exact route_step w t task (by rw [hphase]; exact ⟨rfl, rfl⟩)
  case h_2 hphase => exact routeBackend_step w t task (by rw [hphase]; exact ⟨rfl, rfl⟩)
  case h_3 route hphase => exact takeCredit_step w t task route (by rw [hphase]; exact ⟨rfl, rfl⟩)
  case h_4 route holding hphase => exact waitCredit_step w t task route hphase
  case h_5 route hphase => exact .stays (by rw [hphase]; exact ⟨rfl, rfl⟩) trivial rfl
  case h_6 route credit hphase =>
    exact forward_step w t task route (by rw [hphase]; rfl)
  case h_7 route detail hphase =>
    have h : Unserved task.phase := by
      rw [hphase]
      exact ⟨rfl, rfl⟩
    split
    case isTrue =>
      exact .answered _ _ h.idle fun hspent => by rw [h.unspent] at hspent; cases hspent
    case isFalse => exact .stays h trivial rfl
  case h_8 error hphase =>
    split
    case isTrue =>
      refine .answered _ _ (by rw [hphase]; rfl) fun hspent => ?_
      rw [hphase] at hspent
      rintro ⟨found, hframe, hcode⟩
      cases hframe
      exact of_decide_eq_true hspent hcode
    case isFalse => exact .ended w (.refl w)
  case h_9 hphase =>
    split
    case isTrue =>
      refine .answered _ _ (by rw [hphase]; rfl) fun _ => ?_
      rintro ⟨found, hframe, -⟩
      cases hframe
    case isFalse => exact .ended w (.refl w)
  case h_10 target hphase =>
    split
    case isTrue => exact .ended _ (emitted_quiet w)
    case isFalse => exact .ended w (.refl w)
  case h_11 sink frame failure hphase =>
    rw [hphase] at hclear
    split
    case isTrue => exact .relayed sink frame (by rw [hphase]; rfl) hclear
    case isFalse =>
      cases failure with
      | none => exact .ended w (.refl w)
      | some => exact .ended _ (call_quiet w)
  case h_12 sink error failure hphase =>
    split
    case isTrue => exact .ended _ (emitted_quiet w)
    case isFalse => exact .ended _ (call_quiet w)

/-- A task that is dropped gives its permit back. -/
theorem cancel_step : TaskStep w t task (w.cancel t task) := by
  unfold RouterWorld.cancel
  split
  case h_1 => exact .ended _ (.flows w _)
  case h_2 => exact .ended w (.refl w)

end

/-- No refusal answers the task. -/
def NoRefusal (w : RouterWorld Sem) (t : TaskId) : Prop :=
  ∀ sent ∈ w.sent, sent.author = .daemon (some t) → ¬ Refusal sent

/-- The task was never refused and cannot be refused any more. -/
structure Spent (w : RouterWorld Sem) (t : TaskId) : Prop where
  known : t < w.nextTask
  unrefused : NoRefusal w t
  phase : ∀ task, w.tasks.get t = some task → spent task.phase = true

/-- What holds in every state of the router. -/
structure RouterInv (w : RouterWorld Sem) : Prop where
  known : ∀ t task, w.tasks.get t = some task → t < w.nextTask
  clear : ∀ t task, w.tasks.get t = some task → Clear task.phase
  /-- A task in progress has no answer yet. -/
  unanswered : ∀ t task, w.tasks.get t = some task → ∀ sent ∈ w.sent, sent.author ≠ .daemon (some t)
  answeredKnown : ∀ sent ∈ w.sent, ∀ t, sent.author = .daemon (some t) → t < w.nextTask
  /-- A frame that was passed on is past its last refusal, and carries no origin bit. -/
  relayed : ∀ sent ∈ w.sent, ∀ t, sent.author = .relayed t →
    Spent w t ∧ sent.frame.flags.isDaemonOrigin = false

omit [Semaphore Sem] in
/-- A new router has no task. -/
theorem new_routerInv :
    RouterInv (.new backends byteBudget : RouterWorld Sem) where
  known := fun t task h => by cases h
  clear := fun t task h => by cases h
  unanswered := fun t task h => by cases h
  answeredKnown := fun sent h => by cases h
  relayed := fun sent h => by cases h

omit [Semaphore Sem] in
/-- A quiet step refuses nobody. -/
theorem quiet_spent {w u : RouterWorld Sem} (h : Spent w t) (hu : Quiet w u) : Spent u t := by
  refine ⟨by rw [hu.nextTask]; exact h.known, ?_, by rw [hu.tasks]; exact h.phase⟩
  intro sent hmem hauthor
  exact h.unrefused sent (hu.old hmem hauthor (by simp)) hauthor

omit [Semaphore Sem] in
/-- A quiet step keeps the invariant. -/
theorem quiet_inv {w u : RouterWorld Sem} (h : RouterInv w) (hu : Quiet w u) : RouterInv u := by
  constructor
  · rw [hu.tasks, hu.nextTask]
    exact h.known
  · rw [hu.tasks]
    exact h.clear
  · intro t task hget sent hmem hauthor
    rw [hu.tasks] at hget
    exact h.unanswered t task hget sent (hu.old hmem hauthor (by simp)) hauthor
  · intro sent hmem t hauthor
    rw [hu.nextTask]
    exact h.answeredKnown sent (hu.old hmem hauthor (by simp)) t hauthor
  · intro sent hmem t hauthor
    obtain ⟨hspent, hclear⟩ := h.relayed sent (hu.old hmem hauthor (by simp)) t hauthor
    exact ⟨quiet_spent hspent hu, hclear⟩

omit [Semaphore Sem] in
/-- The tasks after one of them moved or ended. -/
theorem advanceTo_get (u : RouterWorld Sem)
    (s : TaskId) : (u.advanceTo t task phase).tasks.get s =
      if s = t then some { task with phase := phase } else u.tasks.get s :=
  get_insert _ _ _ _

omit [Semaphore Sem] in
/-- A finished task is gone. -/
theorem finish_get (u : RouterWorld Sem) (t s : TaskId) :
    (u.finish t).tasks.get s = if s = t then none else u.tasks.get s :=
  get_remove _ _ _

omit [Semaphore Sem] in
/-- The others stay. -/
theorem finish_old {u : RouterWorld Sem} (h : (u.finish t).tasks.get s = some task) :
    u.tasks.get s = some task :=
  (of_get_remove h).2

/-- Nothing that is past its last refusal comes back before it. -/
theorem taskStep_spent {w w' : RouterWorld Sem} (hget : w.tasks.get t = some task)
    (hstep : TaskStep w t task w') (h : Spent w s) : Spent w' s := by
  cases hstep with
  | idle => exact h
  | moved u phase hu hclear hspent =>
    have hkept := quiet_spent h hu
    refine ⟨hkept.known, hkept.unrefused, ?_⟩
    intro task' hget'
    rw [advanceTo_get] at hget'
    split at hget'
    case isTrue heq =>
      cases hget'
      subst heq
      exact hspent (h.phase task hget)
    case isFalse => exact hkept.phase task' hget'
  | ended u hu =>
    have hkept := quiet_spent h hu
    exact ⟨hkept.known, hkept.unrefused, fun task' hget' => hkept.phase task' (finish_old hget')⟩
  | answered sink frame hidle hspent =>
    refine ⟨h.known, ?_, fun task' hget' => h.phase task' (finish_old hget')⟩
    refine List.forall_mem_append.mpr ⟨h.unrefused, List.forall_mem_singleton.mpr fun hauthor => ?_⟩
    cases hauthor
    exact hspent (h.phase task hget)
  | relayed =>
    refine ⟨h.known, ?_, fun task' hget' => h.phase task' (finish_old hget')⟩
    refine List.forall_mem_append.mpr ⟨h.unrefused, List.forall_mem_singleton.mpr fun hauthor => ?_⟩
    cases hauthor

omit [Semaphore Sem] in
/-- A task in progress that passes its last refusal was never refused. -/
theorem spent_of_unanswered {w : RouterWorld Sem} (hinv : RouterInv w)
    (hget : w.tasks.get t = some task) (hspent : spent task.phase = true) : Spent w t := by
  refine ⟨hinv.known t task hget, ?_, ?_⟩
  · intro sent hmem hauthor
    exact absurd hauthor (hinv.unanswered t task hget sent hmem)
  intro task' hget'
  rw [hget] at hget'
  cases hget'
  exact hspent

/-- A task after a step was there before it. -/
theorem taskStep_tasks {w w' : RouterWorld Sem} (hget : w.tasks.get t = some task)
    (hstep : TaskStep w t task w') (h : w'.tasks.get s = some task') :
    ∃ old, w.tasks.get s = some old ∧ (task' = old ∨ Clear task'.phase) := by
  cases hstep with
  | idle => exact ⟨task', h, .inl rfl⟩
  | moved u phase hu hclear =>
    rw [advanceTo_get, hu.tasks] at h
    split at h
    case isTrue heq =>
      cases h
      exact ⟨task, heq ▸ hget, .inr hclear⟩
    case isFalse => exact ⟨task', h, .inl rfl⟩
  | ended u hu => exact ⟨task', hu.tasks ▸ finish_old h, .inl rfl⟩
  | answered | relayed => exact ⟨task', finish_old h, .inl rfl⟩

/-- A step of a task starts none. -/
theorem taskStep_nextTask {w w' : RouterWorld Sem}
    (hstep : TaskStep w t task w') : w'.nextTask = w.nextTask := by
  cases hstep with
  | idle | answered | relayed => rfl
  | moved _ _ hu | ended _ hu => exact hu.nextTask

/-- What a step adds to the queues. -/
theorem taskStep_sent {w w' : RouterWorld Sem} (hstep : TaskStep w t task w') (hmem : sent ∈ w'.sent) :
    sent ∈ w.sent ∨ sent.author = .daemon none ∨
      sent.author = .daemon (some t) ∧ w'.tasks.get t = none ∨
      sent.author = .relayed t ∧ spent task.phase = true ∧
        sent.frame.flags.isDaemonOrigin = false := by
  cases hstep with
  | idle => exact .inl hmem
  | moved u _ hu | ended u hu =>
    obtain ⟨new, hnew, hauthors⟩ := hu.sent
    change sent ∈ u.sent at hmem
    rw [hnew] at hmem
    exact (List.mem_append.mp hmem).imp id fun hadded => .inl (hauthors sent hadded)
  | answered =>
    rcases List.mem_append.mp hmem with hold | hadded
    · exact .inl hold
    · rw [List.mem_singleton.mp hadded]
      exact .inr (.inr (.inl ⟨rfl, (finish_get _ _ _).trans (if_pos rfl)⟩))
  | relayed sink frame hspent hclear =>
    rcases List.mem_append.mp hmem with hold | hadded
    · exact .inl hold
    · rw [List.mem_singleton.mp hadded]
      exact .inr (.inr (.inr ⟨rfl, hspent, hclear⟩))

section

variable {w w' : RouterWorld Sem} (hinv : RouterInv w) (hget : w.tasks.get t = some task)
  (hstep : TaskStep w t task w')
include hinv hget hstep

/-- A step of a task keeps the invariant. -/
theorem taskStep_inv : RouterInv w' := by
  have hnext := taskStep_nextTask hstep
  constructor
  · intro s task' h
    obtain ⟨old, hold, -⟩ := taskStep_tasks hget hstep h
    rw [hnext]
    exact hinv.known s old hold
  · intro s task' h
    obtain ⟨old, hold, rfl | hclear⟩ := taskStep_tasks hget hstep h
    · exact hinv.clear s task' hold
    · exact hclear
  · intro s task' h sent hmem hauthor
    obtain ⟨old, hold, -⟩ := taskStep_tasks hget hstep h
    rcases taskStep_sent hstep hmem with hsent | hnone | ⟨hanswer, hgone⟩ | ⟨hrelayed, -⟩
    · exact hinv.unanswered s old hold sent hsent hauthor
    · rw [hnone] at hauthor
      cases hauthor
    · rw [hanswer] at hauthor
      cases hauthor
      rw [hgone] at h
      cases h
    · rw [hrelayed] at hauthor
      cases hauthor
  · intro sent hmem s hauthor
    rw [hnext]
    rcases taskStep_sent hstep hmem with hsent | hnone | ⟨hanswer, -⟩ | ⟨hrelayed, -⟩
    · exact hinv.answeredKnown sent hsent s hauthor
    · rw [hnone] at hauthor
      cases hauthor
    · rw [hanswer] at hauthor
      cases hauthor
      exact hinv.known t task hget
    · rw [hrelayed] at hauthor
      cases hauthor
  · intro sent hmem s hauthor
    rcases taskStep_sent hstep hmem with hsent | hnone | ⟨hanswer, -⟩ | ⟨hrelayed, hspent, hclear⟩
    · obtain ⟨hs, hc⟩ := hinv.relayed sent hsent s hauthor
      exact ⟨taskStep_spent hget hstep hs, hc⟩
    · rw [hnone] at hauthor
      cases hauthor
    · rw [hanswer] at hauthor
      cases hauthor
    rw [hrelayed] at hauthor
    cases hauthor
    exact ⟨taskStep_spent hget hstep (spent_of_unanswered hinv hget hspent), hclear⟩

/-- A step that takes from a lane or a ledger leaves its task past its last refusal. -/
theorem taskStep_lanes : lanes w' (heldBy w' t) = lanes w (heldBy w t) ∨ Spent w' t := by
  have hstays := taskStep_inv hinv hget hstep
  have hheld : heldBy w t = inHand task.phase := by rw [heldBy, hget, Option.bind_some]
  rw [hheld]
  cases hstep with
  | idle => exact .inl (by rw [hheld])
  | answered sink frame hidle =>
    left
    rw [heldBy, finish_get, if_pos rfl, hidle]
    rfl
  | relayed sink frame hspent =>
    exact .inr (taskStep_spent hget (.relayed sink frame hspent ‹_›)
      (spent_of_unanswered hinv hget hspent))
  | moved u phase hu hclear hspent hlanes =>
    have hget' : (u.advanceTo t task phase).tasks.get t = some { task with phase := phase } :=
      (advanceTo_get u t).trans (if_pos rfl)
    rcases hlanes with hphase | hsame
    · exact .inr (spent_of_unanswered hstays hget' hphase)
    · left
      rw [heldBy, hget', Option.bind_some]
      exact hsame
  | ended u hu =>
    have hkept := quiet_inv hinv hu
    have hgetu : u.tasks.get t = some task := by rw [hu.tasks]; exact hget
    refine .inr ⟨hkept.known t task hgetu, ?_, ?_⟩
    · intro sent hmem hauthor
      exact absurd hauthor (hkept.unanswered t task hgetu sent hmem)
    intro task' hget'
    rw [finish_get, if_pos rfl] at hget'
    cases hget'

end

/-- A step of the router is a step of one task, a new task or a quiet call. -/
theorem step_cases (hinv : RouterInv w) (event : RouterEvent) :
    Quiet w (w.step event) ∧ (event.task = none ∨ w.step event = w) ∨
      (∃ t task, event.task = some t ∧ w.tasks.get t = some task ∧
        TaskStep w t task (w.step event)) ∨
      event.task = none ∧ ∃ task : Task, task.phase = .arrived ∧ w.step event =
        { w with tasks := w.tasks.insert w.nextTask task, nextTask := w.nextTask + 1 } := by
  cases event with
  | arrive => exact .inr (.inr ⟨rfl, _, rfl, rfl⟩)
  | advance t reads =>
    unfold RouterWorld.step
    dsimp only
    cases hget : w.tasks.get t with
    | none => exact .inl ⟨.refl w, .inr rfl⟩
    | some task =>
      exact .inr (.inl ⟨t, task, rfl, hget, advance_step w t task (hinv.clear t task hget)⟩)
  | cancel t =>
    unfold RouterWorld.step
    dsimp only
    cases hget : w.tasks.get t with
    | none => exact .inl ⟨.refl w, .inr rfl⟩
    | some task => exact .inr (.inl ⟨t, task, rfl, hget, cancel_step w t task⟩)
  | call op => exact .inl ⟨call_quiet w, .inl rfl⟩

section

variable {w : RouterWorld Sem} (hinv : RouterInv w)
include hinv

/-- No step takes a task back before its last refusal. -/
theorem step_spent (h : Spent w t) : Spent (w.step event) t := by
  rcases step_cases w hinv event with ⟨hquiet, -⟩ | ⟨s, task, -, hget, hstep⟩ | ⟨-, task, -, heq⟩
  · exact quiet_spent h hquiet
  · exact taskStep_spent hget hstep h
  rw [heq]
  refine ⟨Nat.lt_succ_of_lt h.known, h.unrefused, ?_⟩
  intro task' hget
  rw [get_insert, if_neg (Nat.ne_of_lt h.known)] at hget
  exact h.phase task' hget

omit hinv in
/-- Every step keeps the invariant. -/
theorem step_inv (hinv : RouterInv w) (event : RouterEvent) : RouterInv (w.step event) := by
  rcases step_cases w hinv event with ⟨hquiet, -⟩ | ⟨s, task, -, hget, hstep⟩ | ⟨-, task, hphase, heq⟩
  · exact quiet_inv hinv hquiet
  · exact taskStep_inv hinv hget hstep
  have hspents : ∀ t, Spent w t → Spent (w.step event) t := fun t h => step_spent hinv h
  rw [heq] at hspents ⊢
  refine ⟨?_, ?_, ?_, ?_, ?_⟩
  · refine forall_insert (Nat.lt_succ_self _) fun t task' hget => ?_
    exact Nat.lt_succ_of_lt (hinv.known t task' hget)
  · refine forall_insert ?_ hinv.clear
    rw [hphase]
    trivial
  · intro t task' hget sent hmem hauthor
    rcases of_get_insert hget with ⟨hnew, -⟩ | ⟨-, hget⟩
    · exact absurd (hinv.answeredKnown sent hmem t hauthor) (by rw [hnew]; exact lt_irrefl _)
    · exact hinv.unanswered t task' hget sent hmem hauthor
  · intro sent hmem t hauthor
    exact Nat.lt_succ_of_lt (hinv.answeredKnown sent hmem t hauthor)
  intro sent hmem t hauthor
  obtain ⟨hs, hc⟩ := hinv.relayed sent hmem t hauthor
  exact ⟨hspents t hs, hc⟩

/-- Every run keeps the invariant. -/
theorem runFrom_inv (events : List RouterEvent) : RouterInv (w.runFrom events) := by
  induction events using List.reverseRecOn with
  | nil => exact hinv
  | append_singleton events event ih =>
    rw [RouterWorld.runFrom_snoc]
    exact step_inv ih event

/-- No run takes a task back before its last refusal. -/
theorem runFrom_spent (h : Spent w t) (events : List RouterEvent) : Spent (w.runFrom events) t := by
  induction events using List.reverseRecOn with
  | nil => exact h
  | append_singleton events event ih =>
    rw [RouterWorld.runFrom_snoc]
    exact step_spent (runFrom_inv hinv events) ih

/-- A step of a task that takes from a lane or a ledger passes its last refusal. -/
theorem step_lanes (hevent : event.task = some t) :
    lanes (w.step event) (heldBy (w.step event) t) = lanes w (heldBy w t) ∨
      Spent (w.step event) t := by
  rcases step_cases w hinv event with ⟨-, hnone | hsame⟩ | ⟨s, task, htask, hget, hstep⟩ | ⟨hnone, -⟩
  · rw [hnone] at hevent
    cases hevent
  · exact .inl (by rw [hsame])
  · rw [htask] at hevent
    cases hevent
    exact taskStep_lanes hinv hget hstep
  · rw [hnone] at hevent
    cases hevent

end

/-- What every run of the router keeps. -/
structure RouterLaw (start : RouterWorld Sem) (events : List RouterEvent) : Prop where
  /-- A refused request entered no queue. -/
  notDelivered : ∀ answer ∈ (start.runFrom events).sent, ∀ t,
    answer.author = .daemon (some t) → Refusal answer →
    ∀ sent ∈ (start.runFrom events).sent, sent.author ≠ .relayed t
  /-- No step of its routing took anything from a lane or a ledger beside a permit
  in hand, and in the end it has none in hand. -/
  notCredited : ∀ answer ∈ (start.runFrom events).sent, ∀ t,
    answer.author = .daemon (some t) → Refusal answer →
    heldBy (start.runFrom events) t = none ∧
    ∀ p event q, events = p ++ event :: q → event.task = some t →
      ∀ id, lanes (start.runFrom (p ++ [event])) (heldBy (start.runFrom (p ++ [event])) t) id =
        lanes (start.runFrom p) (heldBy (start.runFrom p) t) id
  /-- What is passed on does not look daemon-authored. -/
  clear : ∀ sent ∈ (start.runFrom events).sent, ∀ t, sent.author = .relayed t →
    sent.frame.flags.isDaemonOrigin = false
  /-- So a frame that does was written by the daemon. -/
  authored : ∀ sent ∈ (start.runFrom events).sent, sent.frame.flags.isDaemonOrigin = true →
    ∃ answers, sent.author = .daemon answers

/-- Every run of the router keeps the law. -/
theorem router_refusesBeforeForwarding (backends : HashMap UInt16 Backend)
    (byteBudget : FrameSink → Nat) (events : List RouterEvent) :
    RouterLaw (.new backends byteBudget : RouterWorld Sem) events := by
  set start : RouterWorld Sem := .new backends byteBudget
  have hstart : RouterInv start := new_routerInv
  have hinv := runFrom_inv hstart events
  constructor
  · intro answer hanswer t hauthor hrefusal sent hsent hrelayed
    exact (hinv.relayed sent hsent t hrelayed).1.unrefused answer hanswer hauthor hrefusal
  · intro answer hanswer t hauthor hrefusal
    refine ⟨?_, ?_⟩
    · cases hget : (start.runFrom events).tasks.get t with
      | none => rw [heldBy, hget, Option.bind_none]
      | some task => exact absurd hauthor (hinv.unanswered t task hget answer hanswer)
    intro p event q hevents htask id
    rw [RouterWorld.runFrom_snoc]
    rcases step_lanes (runFrom_inv hstart p) htask with hsame | hspent
    · exact congrFun hsame id
    have hend := runFrom_spent (step_inv (runFrom_inv hstart p) event) hspent q
    have hrun : start.runFrom events = ((start.runFrom p).step event).runFrom q := by
      rw [hevents, RouterWorld.runFrom_append]
      rfl
    rw [hrun] at hanswer
    exact absurd hrefusal (hend.unrefused answer hanswer hauthor)
  · intro sent hsent t hrelayed
    exact (hinv.relayed sent hsent t hrelayed).2
  intro sent hsent hflag
  cases hauthor : sent.author with
  | daemon answers => exact ⟨answers, rfl⟩
  | relayed t =>
    rw [(hinv.relayed sent hsent t hauthor).2] at hflag
    cases hflag

/-- A request on a channel nobody holds. -/
def strayRequest : Frame := ⟨⟨0, 1, .request, .new false .interactive false, 9, 1, 5⟩, ""⟩

example : ((RouterWorld.new .empty fun _ => 1024 : RouterWorld Counter).runFrom
    [.arrive 1 ⟨0⟩ strayRequest, .advance 0 ⟨true, ""⟩, .advance 0 ⟨true, ""⟩]).sent =
    [⟨⟨0⟩, .error (RouterError.unknownChannel 9 1 5).toErrorFrame, .daemon (some 0)⟩] := by
  decide

end Subconscious.RouterLaws
