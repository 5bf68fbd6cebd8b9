import Mathlib.Logic.Function.Basic
import Subconscious.Runs

/-!
# Module questions on held calls and tasks

A module that handles a tool call may ask the host a question. A call that the
host waits for is answered with the question and parked under a token, and the
host's follow-up brings the answer. A call that became a task shows the question
in its state; the host's updates are queued, and the driver of the task takes
answers and questions in whatever order they win. A call carries one question at
a time, and an answer that the driver takes goes to the question that is current
then, whichever question the host gave it for.
-/

namespace Subconscious.HeldQuestions

open Runs

/-- An answer of the host, with the question that it was given for. An update does
not name that question, so nothing in the gateway reads it. -/
structure Answer where
  call : Nat
  question : Nat
  deriving DecidableEq, Repr

/-- What a task shows the host. -/
inductive TaskState where
  | working
  | inputRequired (question : Nat)
  deriving DecidableEq, Repr

/-- Who waits for the module. -/
inductive Place where
  | inline
  | parked (token : Nat)
  | task (state : TaskState) (answers : List Answer)
  | over
  deriving DecidableEq, Repr

/-- The questions of one call are numbered in the order they come in. -/
structure Call where
  asks : Nat := 0
  asked : Bool := false
  /-- The question that waits to be put to the host, and the one that was. -/
  queued : Option Nat := none
  outstanding : Option Nat := none
  place : Place := .inline
  /-- What the module was sent; nothing stands for a decline or an error. -/
  answered : List (Nat × Option Answer) := []
  deriving DecidableEq, Repr

/-- A call that a token stands for, and the question its answer showed. -/
structure ParkedCall where
  call : Nat
  toolName : String
  shown : Nat
  deriving DecidableEq, Repr

/-- The calls of one host session. -/
structure Session where
  calls : Nat → Call := fun _ => {}
  parked : Nat → Option ParkedCall := fun _ => none
  nextToken : Nat := 0

/-- What happens to a session, in any order. -/
inductive Step where
  | deliverInputAsk (call : Nat)
  | park (call : Nat) (toolName : String)
  | resume (token : Nat) (toolName : String) (answered : Bool)
  /-- Also the end of the session, for a parked call. -/
  | expireHeldCall (token : Nat)
  /-- The call becomes a task, with the question that it was about to be answered with. -/
  | start (call : Nat) (ask : Bool)
  /-- The host's answer to a question, when it reaches the gateway. -/
  | update (call question : Nat)
  | takeAnswer (call : Nat)
  | takeAsk (call : Nat)
  | declineOutstanding (call : Nat)
  /-- The driver shows the task as working again, after the module has its answer. -/
  | setWorking (call : Nat)
  /-- The module's last frame, a cancel or the end of the session. -/
  | finish (call : Nat)
  deriving DecidableEq, Repr

/-- How many answers wait for the driver of a task. -/
def taskUpdateQueue : Nat := 4

section

variable (call : Call)

/-- A question of the module; a call that has one open refuses it. -/
def deliverInputAsk : Call :=
  if call.asked ∨ call.queued.isSome ∨ call.place = .over then call
  else { call with asks := call.asks + 1, asked := true, queued := some call.asks }

/-- The queued question goes to the host. -/
def markOutstanding (place : Nat → Place) : Call :=
  match call.queued with
  | some question =>
    { call with queued := none, outstanding := some question, place := place question }
  | none => call

/-- The outstanding question is answered, and the call is open to another one. -/
def settle (answer : Option Answer) (place : Place) : Call :=
  match call.outstanding with
  | some question =>
    { call with
      asked := false, outstanding := none, place
      answered := (question, answer) :: call.answered }
  | none => { call with place }

/-- The call becomes a task. -/
def start (ask : Bool) : Call :=
  if call.place = .inline then
    if ask then markOutstanding call fun question => .task (.inputRequired question) []
    else { call with place := .task .working [] }
  else call

/-- An update is taken while the task shows a question, be it given for it or not. -/
def update (id question : Nat) : Call :=
  match call.place with
  | .task (.inputRequired shown) answers =>
    if answers.length < taskUpdateQueue then
      { call with place := .task (.inputRequired shown) (answers ++ [⟨id, question⟩]) }
    else call
  | _ => call

/-- The driver drops an answer when no question is outstanding. -/
def takeAnswer : Call :=
  match call.place with
  | .task state (answer :: answers) =>
    if call.outstanding.isSome then settle call (some answer) (.task state answers)
    else { call with place := .task state answers }
  | _ => call

/-- The driver shows the next question. -/
def takeAsk : Call :=
  match call.place with
  | .task _ answers => markOutstanding call fun question => .task (.inputRequired question) answers
  | _ => call

/-- The driver declines a question whose time is over. -/
def declineOutstanding : Call :=
  match call.place with
  | .task state answers => settle call none (.task state answers)
  | _ => call

/-- The task shows no question any more. -/
def setWorking : Call :=
  match call.place with
  | .task _ answers =>
    if call.outstanding.isSome then call else { call with place := .task .working answers }
  | _ => call

/-- The guard of the call answers what it still holds with an error. A parked
call keeps the frame for its follow-up. -/
def finish : Call :=
  match call.place with
  | .parked _ => call
  | _ => settle (markOutstanding (settle call none .over) fun _ => .over) none .over

end

section

variable (session : Session)

/-- Change one call. -/
def Session.on (id : Nat) (change : Call → Call) : Session :=
  { session with calls := Function.update session.calls id (change (session.calls id)) }

/-- Changing one call leaves the others. -/
theorem calls_on (id other : Nat) (change : Call → Call) :
    (session.on id change).calls other =
      if other = id then change (session.calls id) else session.calls other :=
  Function.update_apply _ _ _ _

/-- A call is answered with its question and waits under a new token. -/
def park (id : Nat) (toolName : String) : Session :=
  match (session.calls id).place, (session.calls id).queued with
  | .inline, some shown =>
    let held := session.on id fun call => markOutstanding call fun _ => .parked session.nextToken
    { held with
      parked := Function.update session.parked session.nextToken (some ⟨id, toolName, shown⟩)
      nextToken := session.nextToken + 1 }
  | _, _ => session

/-- A token names its call once. -/
def unpark (token : Nat) (entry : ParkedCall) (answer : Option Answer) (place : Place) : Session :=
  let settled := session.on entry.call fun call => settle call answer place
  { settled with parked := Function.update session.parked token none }

/-- A follow-up brings the answer to the question its token was given with. -/
def resume (token : Nat) (toolName : String) (answered : Bool) : Session :=
  match session.parked token with
  | some entry =>
    if entry.toolName = toolName then
      let answer : Answer := ⟨entry.call, entry.shown⟩
      unpark session token entry (if answered then some answer else none) .inline
    else session
  | none => session

/-- A parked call that got no follow-up is over. -/
def expireHeldCall (token : Nat) : Session :=
  match session.parked token with
  | some entry => unpark session token entry none .over
  | none => session

/-- What one step does. -/
def step : Step → Session
  | .deliverInputAsk call => session.on call deliverInputAsk
  | .park call toolName => park session call toolName
  | .resume token toolName answered => resume session token toolName answered
  | .expireHeldCall token => expireHeldCall session token
  | .start call ask => session.on call (start · ask)
  | .update call question => session.on call (update · call question)
  | .takeAnswer call => session.on call takeAnswer
  | .takeAsk call => session.on call takeAsk
  | .declineOutstanding call => session.on call declineOutstanding
  | .setWorking call => session.on call setWorking
  | .finish call => session.on call finish

end

/-- A session from its start. -/
def run (steps : List Step) : Session := steps.foldl step {}

/-- Each question of the call was answered at most once, and with an answer of
the host only if the host answered that question. -/
structure Faithful (id : Nat) (call : Call) : Prop where
  once : (call.answered.map Prod.fst).Nodup
  own : ∀ question answer, (question, some answer) ∈ call.answered → answer = ⟨id, question⟩

/-- The driver of a task puts a question to the host only when no answer is left
to take, and an update that comes in while a question is shown is given for it. -/
def Timely (session : Session) : Step → Prop
  | .takeAsk id => ∀ state answers, (session.calls id).place = .task state answers → answers = []
  | .update id question => ∀ shown answers,
      (session.calls id).place = .task (.inputRequired shown) answers → question = shown
  | _ => True

/-- The questions of a call come to the host in their order, and the answers that
wait for the driver are answers to the outstanding one. -/
structure InOrder (id : Nat) (call : Call) : Prop extends Faithful id call where
  past : ∀ entry ∈ call.answered, entry.1 < call.asks
  outstanding : ∀ question, call.outstanding = some question →
    question < call.asks ∧ ∀ entry ∈ call.answered, entry.1 < question
  queued : ∀ question, call.queued = some question → question < call.asks ∧
    (∀ entry ∈ call.answered, entry.1 < question) ∧
    ∀ earlier, call.outstanding = some earlier → earlier < question
  task : ∀ state answers question, call.place = .task state answers →
    call.outstanding = some question →
    (∀ shown, state = .inputRequired shown → shown = question) ∧
    ∀ answer ∈ answers, answer = ⟨id, question⟩

section

variable {id : Nat} (h : InOrder id call)
include h

/-- A new question comes after all others. -/
theorem InOrder.deliverInputAsk : InOrder id (deliverInputAsk call) := by
  unfold HeldQuestions.deliverInputAsk
  split
  case isTrue => exact h
  case isFalse =>
    refine ⟨⟨h.once, h.own⟩, ?_, ?_, ?_, h.task⟩
    · exact fun entry hentry => Nat.lt_succ_of_lt (h.past entry hentry)
    · intro question houtstanding
      obtain ⟨hlt, hpast⟩ := h.outstanding question houtstanding
      exact ⟨Nat.lt_succ_of_lt hlt, hpast⟩
    · rintro question ⟨⟩
      exact ⟨Nat.lt_succ_self _, h.past, fun earlier hearlier => (h.outstanding earlier hearlier).1⟩

/-- Moving a call that has no question out to the host. -/
theorem InOrder.moved (hnone : call.outstanding = none) (place : Place) :
    InOrder id { call with place } := by
  refine ⟨⟨h.once, h.own⟩, h.past, h.outstanding, h.queued, ?_⟩
  intro state answers question _ houtstanding
  rw [hnone] at houtstanding
  cases houtstanding

/-- Answering the outstanding question, by the host only if the answer is its own. -/
theorem InOrder.settle (answer : Option Answer) (place : Place)
    (hanswer : ∀ given question, answer = some given → call.outstanding = some question →
      given = ⟨id, question⟩) : InOrder id (settle call answer place) := by
  unfold HeldQuestions.settle
  split
  case h_2 hnone => exact h.moved hnone place
  case h_1 question houtstanding =>
    obtain ⟨hlt, hpast⟩ := h.outstanding question houtstanding
    refine ⟨⟨?_, ?_⟩, List.forall_mem_cons.mpr ⟨hlt, h.past⟩, nofun, ?_, nofun⟩
    · refine List.nodup_cons.mpr ⟨?_, h.once⟩
      intro hmem
      obtain ⟨entry, hentry, hsame⟩ := List.mem_map.mp hmem
      exact absurd hsame (Nat.ne_of_lt (hpast entry hentry))
    · intro asked given hmem
      rcases List.mem_cons.mp hmem with heq | hbefore
      · obtain ⟨rfl, hgiven⟩ := Prod.mk.inj heq
        exact hanswer given asked hgiven.symm houtstanding
      · exact h.own asked given hbefore
    · intro later hlater
      obtain ⟨hnew, hafter, hnext⟩ := h.queued later hlater
      exact ⟨hnew, List.forall_mem_cons.mpr ⟨hnext question houtstanding, hafter⟩, nofun⟩

/-- Putting the queued question to the host, with no answers at hand. -/
theorem InOrder.markOutstanding (place : Nat → Place)
    (hplace : ∀ question state answers, place question = .task state answers →
      state = .inputRequired question ∧ answers = []) :
    InOrder id (markOutstanding call place) := by
  unfold HeldQuestions.markOutstanding
  cases hqueued : call.queued with
  | none => exact h
  | some question =>
    obtain ⟨hlt, hpast, -⟩ := h.queued question hqueued
    refine ⟨⟨h.once, h.own⟩, h.past, ?_, nofun, ?_⟩
    · rintro shown ⟨⟩
      exact ⟨hlt, hpast⟩
    · rintro state answers shown htask ⟨⟩
      obtain ⟨rfl, rfl⟩ := hplace question state answers htask
      refine ⟨?_, nofun⟩
      rintro other ⟨⟩
      rfl

/-- A new task has no answers. -/
theorem InOrder.start (ask : Bool) : InOrder id (start call ask) := by
  unfold HeldQuestions.start
  split_ifs
  · refine h.markOutstanding _ ?_
    rintro question state answers ⟨⟩
    exact ⟨rfl, rfl⟩
  · refine ⟨⟨h.once, h.own⟩, h.past, h.outstanding, h.queued, ?_⟩
    rintro state answers question ⟨⟩ _
    exact ⟨nofun, nofun⟩
  · exact h

/-- An answer that is given for the shown question. -/
theorem InOrder.update (hshown : ∀ shown answers,
    call.place = .task (.inputRequired shown) answers → question = shown) :
    InOrder id (update call id question) := by
  unfold HeldQuestions.update
  split
  case h_1 shown answers hplace =>
    split
    case isFalse => exact h
    case isTrue =>
      refine ⟨⟨h.once, h.own⟩, h.past, h.outstanding, h.queued, ?_⟩
      rintro state queue current ⟨⟩ houtstanding
      obtain ⟨hsame, hqueue⟩ := h.task _ _ current hplace houtstanding
      refine ⟨hsame, List.forall_mem_append.mpr ⟨hqueue, List.forall_mem_singleton.mpr ?_⟩⟩
      rw [hshown shown answers hplace, hsame shown rfl]
  case h_2 => exact h

/-- The driver delivers an answer to the question it was given for. -/
theorem InOrder.takeAnswer : InOrder id (takeAnswer call) := by
  unfold HeldQuestions.takeAnswer
  split
  case h_1 state answer answers hplace =>
    split
    case isTrue =>
      refine h.settle _ _ ?_
      rintro given question ⟨⟩ houtstanding
      exact (h.task state _ question hplace houtstanding).2 answer List.mem_cons_self
    case isFalse hnone => exact h.moved (Option.not_isSome_iff_eq_none.mp hnone) _
  case h_2 => exact h

/-- The next question is shown after the answers to the last one are taken. -/
theorem InOrder.takeAsk
    (hdrained : ∀ state answers, call.place = .task state answers → answers = []) :
    InOrder id (takeAsk call) := by
  unfold HeldQuestions.takeAsk
  split
  case h_1 answers hplace =>
    cases hdrained _ answers hplace
    refine h.markOutstanding _ ?_
    rintro question state answers ⟨⟩
    exact ⟨rfl, rfl⟩
  case h_2 => exact h

/-- A decline is no answer of the host. -/
theorem InOrder.declineOutstanding : InOrder id (declineOutstanding call) := by
  unfold HeldQuestions.declineOutstanding
  split
  · exact h.settle none _ nofun
  · exact h

/-- A task that shows no question. -/
theorem InOrder.setWorking : InOrder id (setWorking call) := by
  unfold HeldQuestions.setWorking
  split
  · split
    case isTrue => exact h
    case isFalse hnone => exact h.moved (Option.not_isSome_iff_eq_none.mp hnone) _
  · exact h

/-- The end of a call answers both its questions with an error. -/
theorem InOrder.finish : InOrder id (finish call) := by
  unfold HeldQuestions.finish
  split
  · exact h
  · have hmarked := (h.settle none .over nofun).markOutstanding (fun _ => .over)
      fun _ _ _ hno => nomatch hno
    exact hmarked.settle none .over nofun

end

/-- Every call is in order, and a token stands for the question that the host got
with it. -/
structure Sound (session : Session) : Prop where
  calls : ∀ id, InOrder id (session.calls id)
  tokens : ∀ token entry, session.parked token = some entry → token < session.nextToken ∧
    (session.calls entry.call).place = .parked token ∧
    (session.calls entry.call).outstanding = some entry.shown

section

variable (h : Sound session)
include h

/-- The other calls stay in order. -/
theorem Sound.inOrder_on (id : Nat) (change : Call → Call)
    (horder : InOrder id (session.calls id) → InOrder id (change (session.calls id)))
    (other : Nat) : InOrder other ((session.on id change).calls other) := by
  rw [calls_on]
  split
  case isTrue hsame =>
    subst hsame
    exact horder (h.calls other)
  case isFalse => exact h.calls other

/-- A change that keeps a call in order and leaves a parked one as it is. -/
theorem Sound.on (id : Nat) (change : Call → Call)
    (horder : InOrder id (session.calls id) → InOrder id (change (session.calls id)))
    (hparked : ∀ token, (session.calls id).place = .parked token →
      (change (session.calls id)).place = .parked token ∧
      (change (session.calls id)).outstanding = (session.calls id).outstanding) :
    Sound (session.on id change) := by
  refine ⟨h.inOrder_on id change horder, ?_⟩
  intro token entry hentry
  obtain ⟨hlt, hplace, hshown⟩ := h.tokens token entry hentry
  refine ⟨hlt, ?_⟩
  rw [calls_on]
  split
  case isTrue hsame =>
    rw [hsame] at hplace hshown
    obtain ⟨hkept, houtstanding⟩ := hparked token hplace
    exact ⟨hkept, houtstanding.trans hshown⟩
  case isFalse => exact ⟨hplace, hshown⟩

/-- A new token stands for a call that no other token stands for. -/
theorem Sound.park (id : Nat) (toolName : String) : Sound (park session id toolName) := by
  unfold HeldQuestions.park
  split
  case h_1 shown hplace hqueued =>
    have hnotask : ∀ question state answers,
        Place.parked session.nextToken = .task state answers →
          state = .inputRequired question ∧ answers = [] := fun _ _ _ hno => nomatch hno
    refine ⟨h.inOrder_on id (markOutstanding · fun _ => .parked session.nextToken)
      (·.markOutstanding _ hnotask), ?_⟩
    intro token entry hentry
    dsimp only at hentry ⊢
    rw [Function.update_apply] at hentry
    rw [calls_on]
    split at hentry
    case isTrue heq =>
      cases hentry
      rw [if_pos rfl, markOutstanding, hqueued, heq]
      exact ⟨Nat.lt_succ_self _, rfl, rfl⟩
    case isFalse =>
      obtain ⟨hlt, hparked, hshown⟩ := h.tokens token entry hentry
      have hother : entry.call ≠ id := by
        intro hsame
        rw [hsame, hplace] at hparked
        cases hparked
      rw [if_neg hother]
      exact ⟨Nat.lt_succ_of_lt hlt, hparked, hshown⟩
  case h_2 => exact h

/-- A token is used up with the question it stands for. -/
theorem Sound.unpark (hentry : session.parked token = some entry) (answer : Option Answer)
    (hanswer : ∀ given, answer = some given → given = ⟨entry.call, entry.shown⟩) (place : Place) :
    Sound (unpark session token entry answer place) := by
  obtain ⟨-, hplace, hshown⟩ := h.tokens token entry hentry
  have hown : ∀ given question, answer = some given →
      (session.calls entry.call).outstanding = some question → given = ⟨entry.call, question⟩ := by
    intro given question hgiven houtstanding
    rw [hshown] at houtstanding
    cases houtstanding
    exact hanswer given hgiven
  refine ⟨h.inOrder_on entry.call (settle · answer place) (·.settle answer place hown), ?_⟩
  intro other later hlater
  simp only [HeldQuestions.unpark, Function.update_apply] at hlater ⊢
  split at hlater
  case isTrue => cases hlater
  case isFalse hne =>
    obtain ⟨hlt, hparked, houtstanding⟩ := h.tokens other later hlater
    have hother : later.call ≠ entry.call := by
      intro hsame
      rw [hsame, hplace] at hparked
      cases hparked
      exact hne rfl
    rw [calls_on, if_neg hother]
    exact ⟨hlt, hparked, houtstanding⟩

/-- Every timely step keeps the session sound. -/
theorem Sound.step (next : Step) (htimely : Timely session next) : Sound (step session next) := by
  cases next with
  | deliverInputAsk id =>
    refine h.on id _ (·.deliverInputAsk) ?_
    intro token hplace
    unfold deliverInputAsk
    split
    case isTrue | isFalse => exact ⟨hplace, rfl⟩
  | park id toolName => exact h.park id toolName
  | resume token toolName answered =>
    simp only [HeldQuestions.step, resume]
    split
    case h_1 entry hentry =>
      split
      case isTrue =>
        refine h.unpark hentry _ ?_ .inline
        intro given hgiven
        split at hgiven
        case isTrue => exact (Option.some.inj hgiven).symm
        case isFalse => cases hgiven
      case isFalse => exact h
    case h_2 => exact h
  | expireHeldCall token =>
    simp only [HeldQuestions.step, expireHeldCall]
    split
    case h_1 entry hentry => exact h.unpark hentry none nofun .over
    case h_2 => exact h
  | start id ask =>
    exact h.on id (start · ask) (·.start ask) fun token hplace => by simp [start, hplace]
  | update id question =>
    exact h.on id (update · id question) (·.update htimely) fun token hplace => by
      simp [update, hplace]
  | takeAnswer id => exact h.on id _ (·.takeAnswer) fun token hplace => by simp [takeAnswer, hplace]
  | takeAsk id => exact h.on id _ (·.takeAsk htimely) fun token hplace => by simp [takeAsk, hplace]
  | declineOutstanding id =>
    exact h.on id _ (·.declineOutstanding) fun token hplace => by simp [declineOutstanding, hplace]
  | setWorking id => exact h.on id _ (·.setWorking) fun token hplace => by simp [setWorking, hplace]
  | finish id => exact h.on id _ (·.finish) fun token hplace => by simp [finish, hplace]

end

/-- In every run in which a task shows a question only when no answer is left to
take, and no update comes in for an earlier question than the shown one, each
question of each call is answered at most once, and an answer of the host only
goes to the question that it was given for. -/
theorem run_answers_faithful (steps : List Step) (htimely : Throughout step Timely {} steps)
    (id : Nat) : Faithful id ((run steps).calls id) := by
  have hempty : Sound {} := by
    refine ⟨fun _ => ?_, nofun⟩
    exact ⟨⟨List.nodup_nil, nofun⟩, nofun, nofun, nofun, nofun⟩
  have hrun := htimely.induction Sound (fun _ next hnext h => h.step next hnext) hempty
  exact (hrun.calls id).toFaithful

/-- A task takes an answer to its first question, and the module asks again. -/
def answered (updates : List Step) : List Step :=
  [.deliverInputAsk 0, .start 0 true] ++ updates ++
    [.takeAnswer 0, .setWorking 0, .deliverInputAsk 0]

/-- The driver drops a second answer before it shows the next question, which then
gets its own. -/
theorem run_answers_faithful_drained :
    let session := run (answered [.update 0 0, .update 0 0] ++
      [.takeAnswer 0, .takeAsk 0, .update 0 1, .takeAnswer 0])
    (session.calls 0).answered = [(1, some ⟨0, 1⟩), (0, some ⟨0, 0⟩)] ∧
      Faithful 0 (session.calls 0) := by
  refine ⟨by decide, run_answers_faithful (answered [.update 0 0, .update 0 0] ++
    [.takeAnswer 0, .takeAsk 0, .update 0 1, .takeAnswer 0]) ?_ 0⟩
  refine ⟨trivial, trivial, ?_, ?_, trivial, trivial, trivial, trivial, ?_, ?_, trivial, trivial⟩
  · rintro shown answers ⟨⟩
    rfl
  · rintro shown answers ⟨⟩
    rfl
  · rintro state answers ⟨⟩
    rfl
  · rintro shown answers ⟨⟩
    rfl

/-- A second answer to the first question is delivered to the next one: when the
driver shows that one first, and when the answer comes in while it is shown. -/
theorem stale_answer_delivered :
    ¬ Faithful 0 ((run (answered [.update 0 0, .update 0 0] ++
      [.takeAsk 0, .takeAnswer 0])).calls 0) ∧
    ¬ Faithful 0 ((run (answered [.update 0 0] ++
      [.takeAsk 0, .update 0 0, .takeAnswer 0])).calls 0) := by
  constructor
  · intro h
    have hown := h.own 1 ⟨0, 0⟩ (by decide)
    cases hown
  · intro h
    have hown := h.own 1 ⟨0, 0⟩ (by decide)
    cases hown

end Subconscious.HeldQuestions
