import Mathlib.Logic.Relation
import Subconscious.ForwardingState

/-!
# One route.open as a protocol

What the rest of the daemon can see of one route.open: where its handler
stands, its pending relay, its route.bind in the module's queue, the outcomes
and replies it had, the GOODBYEs given out for its module handle and the
answers its client got. A move is what one atomic step of any party does to
that picture. The promises of the protocol are facts about every sequence of
moves; the refinement of the daemon to these moves is proved elsewhere.
-/

namespace Subconscious.RouteOpenProtocol

open Protocol ForwardingState

/-- Where the handler of a route.open stands. -/
inductive Phase where
  /-- Between reserving its relay and queueing the route.bind. -/
  | sending
  /-- The route.bind is queued and not yet marked. -/
  | sent
  /-- Waiting for the outcome. -/
  | waiting
  /-- It saw no outcome and has yet to look at its timer. -/
  | polled
  | finished
  deriving DecidableEq, Repr

/-- The handler is in `timeout_at` on its one-shot. -/
def Phase.awaits : Phase → Bool
  | .waiting | .polled => true
  | .sending | .sent | .finished => false

/-- A handler that goes on awaits once its route.bind is marked. -/
theorem Phase.early_iff {phase : Phase} (hopen : phase ≠ .finished) :
    phase = .sending ∨ phase = .sent ↔ phase.awaits = false := by
  cases phase <;> simp_all [Phase.awaits]

/-- What a client gets for its route.open. -/
inductive Answer where
  | opened (frame : Frame)
  | refused (code : String)
  deriving DecidableEq, Repr

/-- What can be seen of one route.open. -/
structure View where
  deadline : Instant
  phase : Phase
  /-- The pending relay's enqueue mark, while the relay is pending. -/
  mark : Option Bool
  /-- The relay was released before its route.bind was marked. -/
  released : Bool
  /-- How often the route.bind entered the module's queue. -/
  binds : Nat
  /-- What the open's one-shot was given, with the time. -/
  outcomes : List (RouteBindRelayOutcome × Instant)
  /-- The module's replies that found the relay. -/
  replies : List RouteBindRelayOutcome
  /-- The GOODBYEs given out for the module handle. -/
  goodbyes : Nat
  answers : List Answer
  /-- The module's connection is removed or closed, or the daemon shuts down. -/
  lost : Bool
  /-- The client's connection is over. -/
  clientEnded : Bool
  deriving DecidableEq, Repr

/-- The one-shot was given an acceptance. -/
def View.Accepted (v : View) : Prop := ∃ time, (.accepted, time) ∈ v.outcomes

/-- The module answered the bind with an error or a body nobody can read. -/
def View.ModuleRefused (v : View) : Prop := ∃ reply ∈ v.replies, reply ≠ .accepted

/-- What an open that stops may tell its client: nothing to a connection that
is over, and no refusal once it was accepted, unless its timer fires after it
saw no outcome. -/
inductive Farewell (v : View) : List Answer → Prop where
  | silent (hended : v.clientEnded = true) : Farewell v []
  | unsent (hphase : v.phase = .sending) (code : String) : Farewell v [.refused code]
  | refused (hphase : v.phase = .waiting) (hrefused : ¬ v.Accepted) (code : String) :
      Farewell v [.refused code]
  | timedOut (hphase : v.phase = .polled) : Farewell v [.refused "module_timeout"]

/-- The GOODBYEs for a bind that is given up: one if it is owed and the module
can still be found. -/
def owed (due gone : Bool) : Nat := if due && !gone then 1 else 0

/-- One atomic step of some party, as one open sees it. -/
inductive Move : View → View → Prop where
  | lose (v : View) : Move v { v with lost := true }
  | clientEnds (v : View) : Move v { v with clientEnded := true }
  | queueBind (v : View) (hphase : v.phase = .sending) :
    Move v { v with phase := .sent, binds := v.binds + 1 }
  | markPending (v : View) (hphase : v.phase = .sent) (hmark : v.mark = some false) :
    Move v { v with phase := .waiting, mark := some true }
  /-- The open finds its relay released and owes the GOODBYE itself. -/
  | markReleased (v : View) (hphase : v.phase = .sent) (hmark : v.mark = none)
      (hreleased : v.released = true) :
    Move v { v with phase := .waiting, released := false, goodbyes := v.goodbyes + 1 }
  | markSettled (v : View) (hphase : v.phase = .sent) (hmark : v.mark = none)
      (hreleased : v.released = false) :
    Move v { v with phase := .waiting }
  /-- The open looks at its one-shot and finds nothing. -/
  | poll (v : View) (hphase : v.phase = .waiting) (hpending : v.mark ≠ none) :
    Move v { v with phase := .polled }
  /-- Its timer has not fired. -/
  | rest (v : View) (hphase : v.phase = .polled) : Move v { v with phase := .waiting }
  /-- A drain or a teardown ends the relay. -/
  | sweep (v : View) (mark gone : Bool) (outcome : RouteBindRelayOutcome) (time : Instant)
      (hmark : v.mark = some mark) (houtcome : outcome ≠ .accepted)
      (hgone : gone = true → v.lost = true) :
    Move v { v with
      mark := none
      released := v.released || !mark
      outcomes := v.outcomes ++ [(outcome, time)]
      goodbyes := v.goodbyes + owed mark gone }
  /-- The module's reply ends the relay without a route. -/
  | refuse (v : View) (mark gone : Bool) (reply outcome : RouteBindRelayOutcome) (time : Instant)
      (hmark : v.mark = some mark) (hbind : 0 < v.binds) (houtcome : outcome ≠ .accepted)
      (hgone : gone = true → v.lost = true) :
    Move v { v with
      mark := none
      outcomes := v.outcomes ++ [(outcome, time)]
      replies := v.replies ++ [reply]
      goodbyes := v.goodbyes + owed (decide (reply = .accepted)) gone }
  /-- The module's reply publishes the route and answers the client. -/
  | publish (v : View) (mark : Bool) (frame : Frame) (time : Instant)
      (hmark : v.mark = some mark) (hbind : 0 < v.binds) (htime : time < v.deadline) :
    Move v { v with
      mark := none
      outcomes := v.outcomes ++ [(.accepted, time)]
      replies := v.replies ++ [.accepted]
      answers := v.answers ++ [.opened frame] }
  /-- The open gives its own relay up. -/
  | abort (v : View) (mark gone : Bool) (outcome : RouteBindRelayOutcome) (time : Instant)
      (answers : List Answer) (hmark : v.mark = some mark)
      (hphase : v.phase = .sending ∨ v.phase.awaits) (houtcome : outcome ≠ .accepted)
      (hgone : gone = true → v.lost = true) (hanswers : Farewell v answers) :
    Move v { v with
      phase := .finished
      mark := none
      outcomes := v.outcomes ++ [(outcome, time)]
      goodbyes := v.goodbyes + owed mark gone
      answers := v.answers ++ answers }
  /-- The open stops after its relay was ended by someone else. -/
  | stop (v : View) (answers : List Answer) (hmark : v.mark = none)
      (hphase : v.phase = .sending ∨ v.phase.awaits) (hanswers : Farewell v answers) :
    Move v { v with phase := .finished, released := false, answers := v.answers ++ answers }
  /-- The open learns of its acceptance; the client has its answer already. -/
  | accept (v : View) (hphase : v.phase = .waiting) (haccepted : v.Accepted) :
    Move v { v with phase := .finished }

/-- What holds of an open after any number of moves. -/
structure Sound (v : View) : Prop where
  outcome_once : v.outcomes.length = if v.mark.isSome then 0 else 1
  mark_phase : ∀ mark, v.mark = some mark → v.phase ≠ .finished ∧ mark = v.phase.awaits
  /-- The release note lives only until the open marks or stops. -/
  released_phase : v.released = true →
    v.mark = none ∧ v.replies = [] ∧ v.goodbyes = 0 ∧ (v.phase = .sending ∨ v.phase = .sent)
  binds_le : v.binds ≤ 1
  binds_sending : v.phase = .sending → v.binds = 0
  binds_sent : v.phase = .sent ∨ v.phase.awaits → v.binds = 1
  /-- Before the bind is queued there is neither a reply nor a GOODBYE. -/
  unsent : v.binds = 0 → v.replies = [] ∧ v.goodbyes = 0
  pending : v.mark.isSome → v.replies = [] ∧ v.goodbyes = 0
  accepted_inTime : ∀ time, (.accepted, time) ∈ v.outcomes → time < v.deadline
  accepted_reply : v.Accepted → v.replies = [.accepted] ∧ v.goodbyes = 0
  refused_quiet : v.ModuleRefused → v.goodbyes = 0
  goodbye_once : v.goodbyes ≤ 1
  /-- A queued bind whose relay is gone has ended in one of four ways. -/
  ended : v.mark = none → v.released = false → v.binds = 1 →
    v.Accepted ∨ v.ModuleRefused ∨ v.goodbyes = 1 ∨ v.lost = true
  /-- An open that still has to mark learns of a release when it does. -/
  noted : v.mark = none → v.phase = .sending ∨ v.phase = .sent → v.released = true ∨ v.replies ≠ []
  answers_open : v.phase ≠ .finished →
    (v.answers = [] ∧ ¬ v.Accepted) ∨ (∃ frame, v.answers = [.opened frame]) ∧ v.Accepted
  /-- A finished open has told its client one thing, or nothing to a client that
  is gone, or it timed out after it was accepted. -/
  answers_done : v.phase = .finished →
    (∃ answer, v.answers = [answer]) ∨ (v.answers = [] ∧ v.clientEnded = true) ∨
      ∃ frame, v.answers = [.opened frame, .refused "module_timeout"]
  opened_iff : (∃ frame, .opened frame ∈ v.answers) ↔ v.Accepted

variable {v : View}

/-- An open is answered at most once, or it timed out after it was accepted. -/
theorem Sound.answers_le (h : Sound v) :
    v.answers.length ≤ 1 ∨ ∃ frame, v.answers = [.opened frame, .refused "module_timeout"] := by
  by_cases hphase : v.phase = .finished
  · rcases h.answers_done hphase with ⟨answer, hanswer⟩ | ⟨hnone, -⟩ | hboth
    · simp [hanswer]
    · simp [hnone]
    · exact .inr hboth
  · rcases h.answers_open hphase with ⟨hnone, -⟩ | ⟨⟨frame, hanswer⟩, -⟩
    · simp [hnone]
    · simp [hanswer]

section

variable (h : Sound v)
include h

/-- A pending relay has had no outcome, no reply and no GOODBYE yet. -/
theorem Sound.untouched (hmark : v.mark = some mark) :
    v.outcomes = [] ∧ v.replies = [] ∧ v.goodbyes = 0 ∧ v.released = false ∧ v.answers = [] := by
  have hsome : v.mark.isSome := by rw [hmark]; rfl
  have houtcomes : v.outcomes = [] := by
    have hlength := h.outcome_once
    rw [if_pos hsome] at hlength
    exact List.eq_nil_of_length_eq_zero hlength
  obtain ⟨hreplies, hgoodbyes⟩ := h.pending hsome
  have hreleased : v.released = false := by
    cases hr : v.released with
    | false => rfl
    | true =>
      have hnone := (h.released_phase hr).1
      rw [hmark] at hnone
      cases hnone
  have hanswers : v.answers = [] := by
    rcases h.answers_open (h.mark_phase mark hmark).1 with hempty | ⟨-, time, haccepted⟩
    · exact hempty.1
    · rw [houtcomes] at haccepted
      cases haccepted
  exact ⟨houtcomes, hreplies, hgoodbyes, hreleased, hanswers⟩

/-- An open has one outcome at most. -/
theorem Sound.outcome_unique (hx : x ∈ v.outcomes) (hy : y ∈ v.outcomes) : x = y := by
  have hone : v.outcomes.length ≤ 1 := by
    rw [h.outcome_once]
    split <;> simp
  cases houtcomes : v.outcomes with
  | nil =>
    rw [houtcomes] at hx
    cases hx
  | cons head tail =>
    rw [houtcomes] at hone hx hy
    have htail : tail = [] := by simpa using hone
    subst htail
    rw [List.mem_singleton.mp hx, List.mem_singleton.mp hy]

/-- An open that awaits its outcome has no release note left. -/
theorem Sound.unreleased (hawaits : v.phase.awaits = true) : v.released = false := by
  cases hr : v.released with
  | false => rfl
  | true =>
    rcases (h.released_phase hr).2.2.2 with hphase | hphase <;> simp [hphase, Phase.awaits] at hawaits

/-- The module may be lost at any time. -/
theorem Sound.lose : Sound { v with lost := true } :=
  { h with ended := fun _ _ _ => .inr (.inr (.inr rfl)) }

/-- The client may leave at any time. -/
theorem Sound.clientEnds : Sound { v with clientEnded := true } :=
  { h with
    answers_done := fun hphase =>
      (h.answers_done hphase).imp_right (.imp_left fun hempty => ⟨hempty.1, rfl⟩) }

/-- The module's queue takes the bind once. -/
theorem Sound.queueBind (hphase : v.phase = .sending) :
    Sound { v with phase := .sent, binds := v.binds + 1 } := by
  have hbinds := h.binds_sending hphase
  obtain ⟨hreplies, hgoodbyes⟩ := h.unsent hbinds
  have hopen : v.phase ≠ .finished := by simp [hphase]
  exact { h with
    mark_phase := by
      intro mark hmark
      have hunsent := (h.mark_phase mark hmark).2
      rw [hphase] at hunsent
      exact ⟨nofun, hunsent⟩
    released_phase := fun hr => ⟨(h.released_phase hr).1, hreplies, hgoodbyes, .inr rfl⟩
    binds_le := by simp [hbinds]
    binds_sending := by simp
    binds_sent := by simp [hbinds]
    unsent := fun _ => ⟨hreplies, hgoodbyes⟩
    ended := by
      intro hmark hreleased _
      rcases h.noted hmark (.inl hphase) with hnoted | hreplied
      · dsimp only at hreleased
        rw [hnoted] at hreleased
        cases hreleased
      · exact absurd hreplies hreplied
    noted := fun hmark _ => h.noted hmark (.inl hphase)
    answers_open := fun _ => h.answers_open hopen
    answers_done := by simp }

/-- A pending relay is marked. -/
theorem Sound.markPending (hphase : v.phase = .sent) (hmark : v.mark = some false) :
    Sound { v with phase := .waiting, mark := some true } := by
  obtain ⟨houtcomes, hreplies, hgoodbyes, hreleased, hanswers⟩ := h.untouched hmark
  have hbinds := h.binds_sent (.inl hphase)
  have hopen : v.phase ≠ .finished := by simp [hphase]
  exact { h with
    outcome_once := by simp [houtcomes]
    mark_phase := by simp [Phase.awaits]
    released_phase := by simp [hreleased]
    binds_sending := by simp
    binds_sent := fun _ => hbinds
    pending := fun _ => ⟨hreplies, hgoodbyes⟩
    ended := by simp
    noted := by simp
    answers_open := fun _ => h.answers_open hopen
    answers_done := by simp }

/-- A relay released without a reply is owed its GOODBYE by the open. -/
theorem Sound.markReleased (hphase : v.phase = .sent) (hmark : v.mark = none)
    (hreleased : v.released = true) :
    Sound { v with phase := .waiting, released := false, goodbyes := v.goodbyes + 1 } := by
  obtain ⟨-, hreplies, hgoodbyes, -⟩ := h.released_phase hreleased
  have hbinds := h.binds_sent (.inl hphase)
  have hopen : v.phase ≠ .finished := by simp [hphase]
  have hrefused : ¬ v.Accepted := by
    intro haccepted
    have hreply := (h.accepted_reply haccepted).1
    rw [hreplies] at hreply
    cases hreply
  exact { h with
    mark_phase := by simp [hmark]
    released_phase := by simp
    binds_sending := by simp
    binds_sent := fun _ => hbinds
    unsent := by simp [hbinds]
    pending := by simp [hmark]
    accepted_reply := fun haccepted => absurd haccepted hrefused
    refused_quiet := by simp [View.ModuleRefused, hreplies]
    goodbye_once := by simp [hgoodbyes]
    ended := by simp [hgoodbyes]
    noted := by simp
    answers_open := fun _ => h.answers_open hopen
    answers_done := by simp }

/-- A queued open goes on to wait, or from one look at its one-shot to the next. -/
theorem Sound.await (hbinds : v.binds = 1) (hopen : v.phase ≠ .finished)
    (hphase : phase = .waiting ∨ phase = .polled) (hmark : v.mark = none ∨ v.mark = some true)
    (hreleased : v.released = false) : Sound { v with phase := phase } := by
  have hawaits : phase.awaits = true := by rcases hphase with rfl | rfl <;> rfl
  have hopen' : phase ≠ .finished := by rcases hphase with rfl | rfl <;> simp
  have hearly : ¬ (phase = .sending ∨ phase = .sent) := by
    rcases hphase with rfl | rfl <;> simp
  exact { h with
    mark_phase := by
      intro mark hsome
      rcases hmark with hnone | htrue
      · simp [hnone] at hsome
      · rw [htrue] at hsome
        cases hsome
        exact ⟨hopen', hawaits.symm⟩
    released_phase := by simp [hreleased]
    binds_sending := fun hsending => absurd (.inl hsending) hearly
    binds_sent := fun _ => hbinds
    noted := fun _ hphase => absurd hphase hearly
    answers_open := fun _ => h.answers_open hopen
    answers_done := fun hfinished => absurd hfinished hopen' }

/-- An open in `timeout_at` looks at its one-shot and at its timer in turn. -/
theorem Sound.look (hawaits : v.phase.awaits = true) (hphase : phase = .waiting ∨ phase = .polled) :
    Sound { v with phase := phase } := by
  have hopen : v.phase ≠ .finished := by
    intro hfinished
    simp [hfinished, Phase.awaits] at hawaits
  refine h.await (h.binds_sent (.inr hawaits)) hopen hphase ?_ (h.unreleased hawaits)
  cases hmark : v.mark with
  | none => exact .inl rfl
  | some mark =>
    have hmarked := (h.mark_phase mark hmark).2
    rw [hawaits] at hmarked
    exact .inr (congrArg some hmarked)

end

/-- At most one GOODBYE is owed. -/
theorem owed_le : owed due gone ≤ 1 := by
  unfold owed
  split <;> simp

/-- A GOODBYE that is due to a module that is there is owed. -/
theorem owed_eq_one (hdue : due = true) (hgone : gone = false) : owed due gone = 1 := by
  rw [owed, hdue, hgone]
  rfl

/-- A first outcome that is a refusal accepts nothing. -/
theorem not_accepted_of_refusal
    (houtcomes : v.outcomes = [(outcome, time)]) (houtcome : outcome ≠ .accepted) :
    ¬ v.Accepted := by
  rintro ⟨time', hmem⟩
  rw [houtcomes, List.mem_singleton] at hmem
  exact houtcome (congrArg Prod.fst hmem).symm

/-- A drain or a teardown may end the relay. -/
theorem Sound.sweep (h : Sound v) (time : Instant) (hmark : v.mark = some mark)
    (houtcome : outcome ≠ .accepted) (hgone : gone = true → v.lost = true) :
    Sound { v with
      mark := none
      released := v.released || !mark
      outcomes := v.outcomes ++ [(outcome, time)]
      goodbyes := v.goodbyes + owed mark gone } := by
  obtain ⟨houtcomes, hreplies, hgoodbyes, hreleased, hanswers⟩ := h.untouched hmark
  obtain ⟨hopen, hawaits⟩ := h.mark_phase mark hmark
  rw [houtcomes, hgoodbyes, hreleased, List.nil_append, Bool.false_or, Nat.zero_add]
  have hrefused := @not_accepted_of_refusal
    { v with
      mark := none, released := !mark, outcomes := [(outcome, time)], goodbyes := owed mark gone }
    outcome time rfl houtcome
  exact { h with
    outcome_once := rfl
    mark_phase := by simp
    released_phase := by
      intro hunmarked
      have hunsent : mark = false := by simpa using hunmarked
      refine ⟨rfl, hreplies, by simp [owed, hunsent], ?_⟩
      exact (Phase.early_iff hopen).mpr (hawaits.symm.trans hunsent)
    unsent := by
      intro hbinds
      refine ⟨hreplies, ?_⟩
      cases mark with
      | false => rfl
      | true =>
        have hone := h.binds_sent (.inr hawaits.symm)
        rw [hone] at hbinds
        cases hbinds
    pending := by simp
    accepted_inTime := fun time' hmem => absurd ⟨time', hmem⟩ hrefused
    accepted_reply := fun haccepted => absurd haccepted hrefused
    refused_quiet := by simp [View.ModuleRefused, hreplies]
    goodbye_once := owed_le
    ended := by
      intro _ hmarked _
      have htrue : mark = true := by simpa using hmarked
      cases hg : gone with
      | true => exact .inr (.inr (.inr (hgone hg)))
      | false => exact .inr (.inr (.inl (owed_eq_one htrue rfl)))
    noted := by
      intro _ hphase
      left
      change (!mark) = true
      rw [hawaits, (Phase.early_iff hopen).mp hphase]
      rfl
    answers_open := fun _ => .inl ⟨hanswers, hrefused⟩
    opened_iff := iff_of_false (by simp [hanswers]) hrefused }

/-- The module's reply may end the relay without a route. -/
theorem Sound.refuse (h : Sound v) (reply : RouteBindRelayOutcome) (time : Instant)
    (hmark : v.mark = some mark) (hbind : 0 < v.binds) (houtcome : outcome ≠ .accepted)
    (hgone : gone = true → v.lost = true) :
    Sound { v with
      mark := none
      outcomes := v.outcomes ++ [(outcome, time)]
      replies := v.replies ++ [reply]
      goodbyes := v.goodbyes + owed (decide (reply = .accepted)) gone } := by
  obtain ⟨houtcomes, hreplies, hgoodbyes, hreleased, hanswers⟩ := h.untouched hmark
  rw [houtcomes, hgoodbyes, hreplies, List.nil_append, List.nil_append, Nat.zero_add]
  have hrefused := @not_accepted_of_refusal
    { v with
      mark := none, outcomes := [(outcome, time)], replies := [reply]
      goodbyes := owed (decide (reply = .accepted)) gone }
    outcome time rfl houtcome
  exact { h with
    outcome_once := rfl
    mark_phase := by simp
    released_phase := by simp [hreleased]
    unsent := fun hbinds => absurd hbinds (Nat.ne_of_gt hbind)
    pending := by simp
    accepted_inTime := fun time' hmem => absurd ⟨time', hmem⟩ hrefused
    accepted_reply := fun haccepted => absurd haccepted hrefused
    refused_quiet := by
      rintro ⟨reply', hmem, hother⟩
      rw [List.mem_singleton] at hmem
      rw [hmem] at hother
      simp [owed, hother]
    goodbye_once := owed_le
    ended := by
      intro _ _ _
      by_cases hreply : reply = .accepted
      · cases hg : gone with
        | true => exact .inr (.inr (.inr (hgone hg)))
        | false => exact .inr (.inr (.inl (owed_eq_one (decide_eq_true hreply) rfl)))
      · exact .inr (.inl ⟨reply, List.mem_singleton.mpr rfl, hreply⟩)
    noted := fun _ _ => .inr (by simp)
    answers_open := fun _ => .inl ⟨hanswers, hrefused⟩
    opened_iff := iff_of_false (by simp [hanswers]) hrefused }

/-- The module's reply may publish the route in time. -/
theorem Sound.publish (h : Sound v) (frame : Frame) (hmark : v.mark = some mark)
    (hbind : 0 < v.binds) (htime : time < v.deadline) :
    Sound { v with
      mark := none
      outcomes := v.outcomes ++ [(.accepted, time)]
      replies := v.replies ++ [.accepted]
      answers := v.answers ++ [.opened frame] } := by
  obtain ⟨houtcomes, hreplies, hgoodbyes, hreleased, hanswers⟩ := h.untouched hmark
  obtain ⟨hopen, -⟩ := h.mark_phase mark hmark
  rw [houtcomes, hreplies, hanswers, List.nil_append, List.nil_append, List.nil_append]
  have haccepted : View.Accepted { v with
      mark := none, outcomes := [(.accepted, time)], replies := [.accepted]
      answers := [.opened frame] } := ⟨time, List.mem_singleton.mpr rfl⟩
  exact { h with
    outcome_once := rfl
    mark_phase := by simp
    released_phase := by simp [hreleased]
    unsent := fun hbinds => absurd hbinds (Nat.ne_of_gt hbind)
    pending := by simp
    accepted_inTime := by
      intro time' hmem
      cases List.mem_singleton.mp hmem
      exact htime
    accepted_reply := fun _ => ⟨rfl, hgoodbyes⟩
    refused_quiet := fun _ => hgoodbyes
    ended := fun _ _ _ => .inl haccepted
    noted := fun _ _ => .inr (by simp)
    answers_open := fun _ => .inr ⟨⟨frame, rfl⟩, haccepted⟩
    answers_done := fun hphase => absurd hphase hopen
    opened_iff := ⟨fun _ => haccepted, fun _ => ⟨frame, List.mem_singleton.mpr rfl⟩⟩ }

section

variable (h : Farewell v answers)
include h

/-- What an open says as its first words ends it with one answer, or with none
when nobody is left to hear it. -/
theorem Farewell.done : (∃ answer, answers = [answer]) ∨ answers = [] ∧ v.clientEnded = true := by
  cases h with
  | silent hended => exact .inr ⟨rfl, hended⟩
  | unsent _ code | refused _ _ code => exact .inl ⟨.refused code, rfl⟩
  | timedOut => exact .inl ⟨_, rfl⟩

/-- No open tells of its own acceptance. -/
theorem Farewell.not_opened : .opened frame ∉ answers := by
  cases h <;> simp

/-- What an open may say depends on its phase, its client and its acceptance. -/
theorem Farewell.congr (hphase : v'.phase = v.phase) (hended : v'.clientEnded = v.clientEnded)
    (haccepted : v'.Accepted → v.Accepted) : Farewell v' answers := by
  cases h with
  | silent h => exact .silent (hended.trans h)
  | unsent h code => exact .unsent (hphase.trans h) code
  | refused h hrefused code => exact .refused (hphase.trans h) (mt haccepted hrefused) code
  | timedOut h => exact .timedOut (hphase.trans h)

/-- Losing the module changes nothing of what an open may say. -/
theorem Farewell.lose (gone : Bool) : Farewell { v with lost := gone } answers :=
  h.congr rfl rfl id

end

/-- An accepted open that stops says nothing more, unless it times out. -/
theorem Sound.farewell_accepted (h : Sound v) (hanswers : Farewell v answers)
    (haccepted : v.Accepted) : answers = [] ∨ answers = [.refused "module_timeout"] := by
  cases hanswers with
  | silent => exact .inl rfl
  | unsent hphase =>
    have hreplies := (h.unsent (h.binds_sending hphase)).1
    rw [(h.accepted_reply haccepted).1] at hreplies
    cases hreplies
  | refused _ hrefused => exact absurd haccepted hrefused
  | timedOut => exact .inr rfl

/-- An open whose relay is gone may stop. -/
theorem Sound.stop (h : Sound v) (hmark : v.mark = none)
    (hphase : v.phase = .sending ∨ v.phase.awaits) (hanswers : Farewell v answers) :
    Sound { v with phase := .finished, released := false, answers := v.answers ++ answers } := by
  have hopen : v.phase ≠ .finished := by
    intro hfinished
    simp [hfinished, Phase.awaits] at hphase
  have hsaid : (∃ answer, v.answers ++ answers = [answer]) ∨
      (v.answers ++ answers = [] ∧ v.clientEnded = true) ∨
      ∃ frame, v.answers ++ answers = [.opened frame, .refused "module_timeout"] := by
    rcases h.answers_open hopen with ⟨hempty, -⟩ | ⟨⟨frame, hopened⟩, haccepted⟩
    · rw [hempty, List.nil_append]
      exact hanswers.done.imp_right .inl
    rcases h.farewell_accepted hanswers haccepted with hnone | htimedOut
    · rw [hnone, List.append_nil]
      exact .inl ⟨_, hopened⟩
    · rw [htimedOut, hopened]
      exact .inr (.inr ⟨frame, rfl⟩)
  exact { h with
    mark_phase := by simp [hmark]
    released_phase := by simp
    binds_sending := by simp
    binds_sent := by simp [Phase.awaits]
    ended := by
      intro _ _ hone
      rcases hphase with hsending | hawaits
      · have hzero := h.binds_sending hsending
        rw [hzero] at hone
        cases hone
      exact h.ended hmark (h.unreleased hawaits) hone
    noted := by simp
    answers_open := by simp
    answers_done := fun _ => hsaid
    opened_iff := by
      refine Iff.trans ?_ h.opened_iff
      simp [hanswers.not_opened] }

/-- An abort is a sweep after which the open stops. -/
theorem Sound.abort (h : Sound v) (time : Instant) (hmark : v.mark = some mark)
    (hphase : v.phase = .sending ∨ v.phase.awaits) (houtcome : outcome ≠ .accepted)
    (hgone : gone = true → v.lost = true) (hanswers : Farewell v answers) :
    Sound { v with
      phase := .finished
      mark := none
      outcomes := v.outcomes ++ [(outcome, time)]
      goodbyes := v.goodbyes + owed mark gone
      answers := v.answers ++ answers } := by
  obtain ⟨-, -, -, hreleased, -⟩ := h.untouched hmark
  rw [hreleased]
  refine (h.sweep time hmark houtcome hgone).stop rfl hphase (hanswers.congr rfl rfl ?_)
  rintro ⟨time', hmem⟩
  rcases List.mem_append.mp hmem with hold | hnew
  · exact ⟨time', hold⟩
  · exact absurd (congrArg Prod.fst (List.mem_singleton.mp hnew)).symm houtcome

/-- An open may learn of its acceptance. -/
theorem Sound.accept (h : Sound v) (hphase : v.phase = .waiting)
    (haccepted : v.Accepted) : Sound { v with phase := .finished } := by
  have hreleased := h.unreleased (by rw [hphase]; rfl)
  have hopen : v.phase ≠ .finished := by simp [hphase]
  exact { h with
    mark_phase := by
      intro mark hmark
      obtain ⟨time, hmem⟩ := haccepted
      rw [(h.untouched hmark).1] at hmem
      cases hmem
    released_phase := by simp [hreleased]
    binds_sending := by simp
    binds_sent := by simp [Phase.awaits]
    noted := by simp
    answers_open := by simp
    answers_done := by
      intro _
      rcases h.answers_open hopen with hrefused | ⟨⟨frame, hopened⟩, -⟩
      · exact absurd haccepted hrefused.2
      · exact .inl ⟨_, hopened⟩ }

/-- One move keeps the promises. -/
theorem Move.sound (hmove : Move v v') (h : Sound v) : Sound v' := by
  cases hmove with
  | lose => exact h.lose
  | clientEnds => exact h.clientEnds
  | queueBind hphase => exact h.queueBind hphase
  | markPending hphase hmark => exact h.markPending hphase hmark
  | markReleased hphase hmark hreleased => exact h.markReleased hphase hmark hreleased
  | markSettled hphase hmark hreleased =>
    exact h.await (h.binds_sent (.inl hphase)) (by simp [hphase]) (.inl rfl) (.inl hmark) hreleased
  | poll hphase => exact h.look (by simp [hphase, Phase.awaits]) (.inr rfl)
  | rest hphase => exact h.look (by simp [hphase, Phase.awaits]) (.inl rfl)
  | sweep mark gone outcome time hmark houtcome hgone => exact h.sweep time hmark houtcome hgone
  | refuse mark gone reply outcome time hmark hbind houtcome hgone =>
    exact h.refuse reply time hmark hbind houtcome hgone
  | publish mark frame time hmark hbind htime => exact h.publish frame hmark hbind htime
  | abort mark gone outcome time answers hmark hphase houtcome hgone hanswers =>
    exact h.abort time hmark hphase houtcome hgone hanswers
  | stop answers hmark hphase hanswers => exact h.stop hmark hphase hanswers
  | accept hphase haccepted => exact h.accept hphase haccepted

/-- Any number of moves. -/
def Moves : View → View → Prop := Relation.ReflTransGen Move

/-- The promises hold after any number of moves. -/
theorem Moves.sound (hmoves : Moves v v') (h : Sound v) : Sound v' := by
  induction hmoves with
  | refl => exact h
  | tail _ hmove ih => exact hmove.sound ih

/-- An open that has just reserved its relay. -/
structure Fresh (v : View) : Prop where
  phase : v.phase = .sending
  mark : v.mark = some false
  released : v.released = false
  binds : v.binds = 0
  outcomes : v.outcomes = []
  replies : v.replies = []
  goodbyes : v.goodbyes = 0
  answers : v.answers = []

/-- A fresh open has promised nothing yet. -/
theorem Fresh.sound (h : Fresh v) : Sound v := by
  have hrefused : ¬ v.Accepted := by simp [View.Accepted, h.outcomes]
  constructor
  case answers_open => exact fun _ => .inl ⟨h.answers, hrefused⟩
  case opened_iff => simp [h.answers, hrefused]
  case accepted_reply => exact fun haccepted => absurd haccepted hrefused
  all_goals simp [h.phase, h.mark, h.released, h.binds, h.outcomes, h.replies, h.goodbyes,
    View.ModuleRefused, Phase.awaits]

/-- The ways a route.bind that entered the module's queue can end. -/
inductive BindEnd where
  /-- The route is committed. -/
  | committed
  /-- The module refused it. -/
  | refused
  /-- It is taken back by a GOODBYE. -/
  | takenBack
  /-- The module is gone, so nothing is left to take back. -/
  | lost
  deriving DecidableEq, Repr

/-- Nothing is left to be decided about the relay. -/
def View.Ended (v : View) : Prop := v.mark = none ∧ v.released = false

/-- How the bind of an ended relay ended. -/
def View.EndsAs (v : View) : BindEnd → Prop
  | .committed => v.Accepted ∧ v.goodbyes = 0
  | .refused => ¬ v.Accepted ∧ v.ModuleRefused ∧ v.goodbyes = 0
  | .takenBack => ¬ v.Accepted ∧ ¬ v.ModuleRefused ∧ v.goodbyes = 1
  | .lost => ¬ v.Accepted ∧ ¬ v.ModuleRefused ∧ v.goodbyes = 0 ∧ v.lost = true

/-- Two endings of one bind are the same. -/
theorem View.EndsAs.unique (h : v.EndsAs e) (h' : v.EndsAs e') : e = e' := by
  cases e <;> cases e' <;> simp_all [View.EndsAs]

/-- A queued bind whose relay is over has ended in one way. -/
theorem Sound.endsAs (h : Sound v) (hended : v.Ended) (hbind : v.binds = 1) : ∃ e, v.EndsAs e := by
  by_cases haccepted : v.Accepted
  · exact ⟨.committed, haccepted, (h.accepted_reply haccepted).2⟩
  by_cases hrefused : v.ModuleRefused
  · exact ⟨.refused, haccepted, hrefused, h.refused_quiet hrefused⟩
  by_cases hgoodbye : v.goodbyes = 1
  · exact ⟨.takenBack, haccepted, hrefused, hgoodbye⟩
  have hnone : v.goodbyes = 0 := by
    have hle := h.goodbye_once
    omega
  rcases h.ended hended.1 hended.2 hbind with hacc | href | hone | hlost
  · exact absurd hacc haccepted
  · exact absurd href hrefused
  · exact absurd hone hgoodbye
  · exact ⟨.lost, haccepted, hrefused, hnone, hlost⟩

/-- Until the relay is over no GOODBYE is given out, and the open goes on. -/
theorem Sound.unended (h : Sound v) (hopen : ¬ v.Ended) : v.goodbyes = 0 ∧ v.phase ≠ .finished := by
  cases hmark : v.mark with
  | some mark => exact ⟨(h.untouched hmark).2.2.1, (h.mark_phase mark hmark).1⟩
  | none =>
    have hreleased : v.released = true := by
      cases hr : v.released with
      | true => rfl
      | false => exact absurd ⟨hmark, hr⟩ hopen
    obtain ⟨-, -, hgoodbyes, hphase⟩ := h.released_phase hreleased
    refine ⟨hgoodbyes, ?_⟩
    rcases hphase with hphase | hphase <;> simp [hphase]

/-- Once the relay is over, moves add no outcome, no reply and no GOODBYE. -/
structure Settled (v v' : View) : Prop where
  ended : v'.Ended
  outcomes : v'.outcomes = v.outcomes
  replies : v'.replies = v.replies
  goodbyes : v'.goodbyes = v.goodbyes
  lost : v.lost = true → v'.lost = true

/-- One move settles nothing anew. -/
theorem Move.settled (hmove : Move v v') (h : v.Ended) : Settled v v' := by
  obtain ⟨hmark, hreleased⟩ := h
  cases hmove with
  | lose => exact ⟨⟨hmark, hreleased⟩, rfl, rfl, rfl, fun _ => rfl⟩
  | clientEnds | queueBind | markSettled | poll | rest | accept =>
    exact ⟨⟨hmark, hreleased⟩, rfl, rfl, rfl, id⟩
  | markPending hphase hsome => simp [hmark] at hsome
  | markReleased hphase hnone htrue => simp [hreleased] at htrue
  | sweep _ _ _ _ hsome | refuse _ _ _ _ _ hsome | publish _ _ _ hsome | abort _ _ _ _ _ hsome =>
    simp [hmark] at hsome
  | stop => exact ⟨⟨hmark, rfl⟩, rfl, rfl, rfl, id⟩

/-- No number of moves does. -/
theorem Moves.settled (hmoves : Moves v v') (h : v.Ended) : Settled v v' := by
  induction hmoves with
  | refl => exact ⟨h, rfl, rfl, rfl, id⟩
  | tail _ hmove ih =>
    have hnext := hmove.settled ih.ended
    exact ⟨hnext.ended, hnext.outcomes.trans ih.outcomes, hnext.replies.trans ih.replies,
      hnext.goodbyes.trans ih.goodbyes, fun hlost => hnext.lost (ih.lost hlost)⟩

/-- An ending stays. -/
theorem Settled.endsAs (h : Settled v v') (hends : v.EndsAs e) : v'.EndsAs e := by
  have haccepted : v'.Accepted ↔ v.Accepted := by rw [View.Accepted, h.outcomes, View.Accepted]
  have hrefused : v'.ModuleRefused ↔ v.ModuleRefused := by
    rw [View.ModuleRefused, h.replies, View.ModuleRefused]
  cases e with
  | committed => exact ⟨haccepted.mpr hends.1, h.goodbyes.trans hends.2⟩
  | refused =>
    exact ⟨mt haccepted.mp hends.1, hrefused.mpr hends.2.1, h.goodbyes.trans hends.2.2⟩
  | takenBack =>
    exact ⟨mt haccepted.mp hends.1, mt hrefused.mp hends.2.1, h.goodbyes.trans hends.2.2⟩
  | lost =>
    exact ⟨mt haccepted.mp hends.1, mt hrefused.mp hends.2.1, h.goodbyes.trans hends.2.2.1,
      h.lost hends.2.2.2⟩

end Subconscious.RouteOpenProtocol
