import Mathlib.Logic.Function.Basic
import Subconscious.Runs

/-!
# The ordered mutating lane of the origin effect log

The log is an actor. A mutation claims the lane, asks the store for unsettled
effects, commits its intent and only then joins the set of open effects. The
lane is one flag, and a terminal, a loss and a shutdown free it whenever the
open set is empty. Each step below is what the actor or the store does between
two suspension points, so the steps of several calls interleave freely.
-/

namespace Subconscious.OriginEffectLog

open Runs

/-- Where a call of `claimMutationAndCommitIntent` is suspended. -/
inductive Phase where
  | idle
  /-- On the waiter list, or taken off it and not yet resumed. -/
  | waiting
  /-- The lane is claimed and the cancellation not yet checked. -/
  | acquired
  | readingUnsettled
  /-- The store answered whether every effect is settled, or failed. -/
  | answered (settled : Option Bool)
  | reserving
  /-- The store committed the intent under a sequence, or failed. -/
  | reserved (seq : Option Nat)
  | returned
  | threw
  deriving DecidableEq, Repr

/-- The call has taken the lane and not yet joined the open set or given up. -/
def Phase.claims : Phase → Bool
  | acquired | readingUnsettled | answered _ | reserving | reserved _ => true
  | _ => false

/-- The store told the call that no effect is unsettled, and the call has not
committed its own. -/
def Phase.cleared : Phase → Bool
  | answered (some true) | reserving => true
  | _ => false

/-- The state of the actor and its calls. -/
structure Log where
  laneClaimed : Bool
  laneWaiters : List Nat
  openMutatingSequences : List Nat
  cancelled : Bool
  /-- The calls, by an arbitrary number. -/
  phase : Nat → Phase
  /-- Terminals that the store wrote and whose commit has not resumed. -/
  written : List Nat
  /-- The rows of the store without a terminal. -/
  unsettled : List Nat
  nextSeq : Nat
  /-- The rows claimed here that are unsettled and were not given up as lost. -/
  pending : List Nat

/-- A log over a store with rows of earlier sessions. -/
def initial (unsettled : List Nat) (nextSeq : Nat) : Log :=
  { laneClaimed := false, laneWaiters := [], openMutatingSequences := [], cancelled := false,
    phase := fun _ => .idle, written := [], unsettled, nextSeq, pending := [] }

/-- One section of the actor between two awaits. -/
inductive Step where
  /-- A call starts, or a waiter that was resumed tries again. -/
  | acquireLane (call : Nat)
  | checkCancelled (call : Nat)
  | unsettledEffects (call : Nat) (fails : Bool)
  | resumeUnsettled (call : Nat)
  | reserveAndCommitIntent (call : Nat) (fails : Bool)
  | resumeReserved (call : Nat)
  | commitTerminal (seq : Nat) (fails : Bool)
  | resumeTerminal (seq : Nat)
  | noteIndeterminateLoss (seq : Nat)
  | shutdown
  | resetForReconnect
  deriving DecidableEq, Repr

section

variable (log : Log)

/-- A call goes on to a phase. -/
def Log.setPhase (call : Nat) (phase : Phase) : Log :=
  { log with phase := Function.update log.phase call phase }

/-- The flag is cleared and the first waiter resumed. -/
def releaseLane : Log :=
  { log with laneClaimed := false, laneWaiters := log.laneWaiters.tail }

/-- A call claims the lane, waits for it or is cancelled. -/
def acquireLane (call : Nat) : Log :=
  if log.cancelled then log.setPhase call .threw
  else if log.laneClaimed then
    { log.setPhase call .waiting with laneWaiters := log.laneWaiters ++ [call] }
  else { log.setPhase call .acquired with laneClaimed := true }

/-- The `catch` of a claim. -/
def failClaim (call : Nat) : Log :=
  let thrown := log.setPhase call .threw
  if log.laneClaimed && log.openMutatingSequences.isEmpty then releaseLane thrown else thrown

/-- An effect leaves the open set, and the lane with the last one. -/
def closeSequence (seq : Nat) : Log :=
  let closed := { log with openMutatingSequences := log.openMutatingSequences.filter (· != seq) }
  if closed.openMutatingSequences.isEmpty then releaseLane closed else closed

/-- Every waiter is thrown out and nothing is open any more. -/
def shutdown : Log :=
  let released := releaseLane { log with cancelled := true, openMutatingSequences := [] }
  { released with
    laneWaiters := []
    phase := fun call =>
      if call ∈ released.laneWaiters ∧ log.phase call = .waiting then .threw else log.phase call }

/-- One section. A store call that fails leaves no row behind. -/
def step : Step → Log
  | .acquireLane call =>
    if log.phase call = .idle ∨ log.phase call = .waiting ∧ call ∉ log.laneWaiters then
      acquireLane log call
    else log
  | .checkCancelled call =>
    if log.phase call = .acquired then
      if log.cancelled then failClaim (releaseLane log) call else log.setPhase call .readingUnsettled
    else log
  | .unsettledEffects call fails =>
    if log.phase call = .readingUnsettled then
      log.setPhase call (.answered (if fails then none else some log.unsettled.isEmpty))
    else log
  | .resumeUnsettled call =>
    match log.phase call with
    | .answered none => failClaim log call
    | .answered (some false) => failClaim (releaseLane log) call
    | .answered (some true) => log.setPhase call .reserving
    | _ => log
  | .reserveAndCommitIntent call fails =>
    if log.phase call = .reserving then
      if fails then log.setPhase call (.reserved none)
      else { log.setPhase call (.reserved (some log.nextSeq)) with
        unsettled := log.nextSeq :: log.unsettled
        pending := log.nextSeq :: log.pending
        nextSeq := log.nextSeq + 1 }
    else log
  | .resumeReserved call =>
    match log.phase call with
    | .reserved none => failClaim log call
    | .reserved (some seq) =>
      { log.setPhase call .returned with
        openMutatingSequences := seq :: log.openMutatingSequences }
    | _ => log
  | .commitTerminal seq fails =>
    if fails then log
    else { log with
      unsettled := log.unsettled.filter (· != seq)
      pending := log.pending.filter (· != seq)
      written := seq :: log.written }
  | .resumeTerminal seq =>
    if seq ∈ log.written then closeSequence { log with written := log.written.erase seq } seq
    else log
  | .noteIndeterminateLoss seq =>
    closeSequence { log with pending := log.pending.filter (· != seq) } seq
  | .shutdown => shutdown log
  | .resetForReconnect => { log with cancelled := false }

end

/-- The log after some sections. -/
def run (unsettled : List Nat) (nextSeq : Nat) (steps : List Step) : Log :=
  steps.foldl step (initial unsettled nextSeq)

/-- The lane has one holder at a time, no intent is committed beside a pending
effect, and the lane is claimed only for a claimant or an open effect. -/
structure Exclusive (log : Log) : Prop where
  claimants : ∀ call call', (log.phase call).claims → (log.phase call').claims → call = call'
  openAlone : log.openMutatingSequences ≠ [] → ∀ call, (log.phase call).claims = false
  openOne : log.openMutatingSequences.length ≤ 1
  pendingOne : log.pending.length ≤ 1
  notStranded : log.laneClaimed = true →
    (∃ call, (log.phase call).claims) ∨ log.openMutatingSequences ≠ []

/-- No effect is closed while a claim has the lane and is not yet open. -/
def Unhurried (log : Log) : Step → Prop
  | .resumeTerminal _ | .noteIndeterminateLoss _ | .shutdown =>
    ∀ call, (log.phase call).claims = false
  | _ => True

/-- The lane is free, claimed by one call, or held by one open effect. -/
inductive Lane (flag : Bool) (openSequences : List Nat) (phase : Nat → Phase) : Prop where
  | free (hflag : flag = false) (hopen : openSequences = [])
      (hnone : ∀ call, (phase call).claims = false)
  | claimed (call : Nat) (hflag : flag = true) (hopen : openSequences = [])
      (hcall : (phase call).claims = true)
      (honly : ∀ other, (phase other).claims = true → other = call)
  | opened (seq : Nat) (hflag : flag = true) (hopen : openSequences = [seq])
      (hnone : ∀ call, (phase call).claims = false)

variable {phase : Nat → Phase}

section

variable (h : Lane flag openSequences phase)
include h

/-- Only who has the lane matters, not how far a call got. -/
theorem Lane.congr (hsame : ∀ other, (moved other).claims = (phase other).claims) :
    Lane flag openSequences moved := by
  cases h with
  | free hflag hopen hnone => exact .free hflag hopen fun other => (hsame other).trans (hnone other)
  | claimed holder hflag hopen hholder honly =>
    exact .claimed holder hflag hopen ((hsame holder).trans hholder)
      fun other hother => honly other ((hsame other).symm.trans hother)
  | opened seq hflag hopen hnone =>
    exact .opened seq hflag hopen fun other => (hsame other).trans (hnone other)

theorem Lane.move (hnext : next.claims = (phase call).claims) :
    Lane flag openSequences (Function.update phase call next) := by
  refine h.congr fun other => ?_
  by_cases heq : other = call
  · rw [heq, Function.update_self, hnext]
  · rw [Function.update_of_ne heq]

/-- The holder leaves, and no call has the lane. -/
theorem Lane.leave (hcall : (phase call).claims = true) (hnext : next.claims = false) :
    flag = true ∧ openSequences = [] ∧
      ∀ other, (Function.update phase call next other).claims = false := by
  cases h with
  | claimed holder hflag hopen hholder honly =>
    refine ⟨hflag, hopen, fun other => ?_⟩
    by_cases heq : other = call
    · rw [heq, Function.update_self, hnext]
    rw [Function.update_of_ne heq, Bool.eq_false_iff]
    intro hother
    exact heq ((honly other hother).trans (honly call hcall).symm)
  | free _ _ hnone | opened _ _ _ hnone =>
    rw [hnone call] at hcall
    cases hcall

end

variable {log : Log}

/-- The log's lane, and its rows: the store has no unsettled row from the moment
it said so to a claim until the claim's own intent. -/
structure LaneInv (log : Log) : Prop where
  lane : Lane log.laneClaimed log.openMutatingSequences log.phase
  clear : ∀ call, (log.phase call).cleared = true → log.unsettled = []
  pendingOne : log.pending.length ≤ 1
  pendingRows : ∀ seq ∈ log.pending, seq ∈ log.unsettled

theorem LaneInv.exclusive (h : LaneInv log) : Exclusive log := by
  obtain ⟨hlane, -, hpending, -⟩ := h
  cases hlane with
  | free hflag hopen hnone =>
    exact ⟨by simp [hnone], by simp [hopen], by simp [hopen], hpending, by simp [hflag]⟩
  | claimed holder hflag hopen hholder honly =>
    refine ⟨?_, by simp [hopen], by simp [hopen], hpending, fun _ => .inl ⟨holder, hholder⟩⟩
    intro call call' hcall hcall'
    exact (honly call hcall).trans (honly call' hcall').symm
  | opened seq hflag hopen hnone =>
    exact ⟨by simp [hnone], fun _ => hnone, by simp [hopen], hpending,
      fun _ => .inr (by simp [hopen])⟩

/-- A call moves to a phase that the store's answer does not matter to. -/
theorem clear_update (hclear : ∀ call, (phase call).cleared = true → log.unsettled = [])
    (hnext : next.cleared = true → log.unsettled = []) (other : Nat)
    (hother : (Function.update phase call next other).cleared = true) : log.unsettled = [] := by
  by_cases heq : other = call
  · rw [heq, Function.update_self] at hother
    exact hnext hother
  · rw [Function.update_of_ne heq] at hother
    exact hclear other hother

section

variable (h : LaneInv log)
include h

theorem LaneInv.move (hsame : next.claims = (log.phase call).claims)
    (hnext : next.cleared = true → log.unsettled = []) : LaneInv (log.setPhase call next) :=
  ⟨h.lane.move hsame, clear_update h.clear hnext, h.pendingOne, h.pendingRows⟩

/-- A claim that fails frees the lane, whether or not it did so before throwing. -/
theorem LaneInv.failClaim (hcall : (log.phase call).claims = true) :
    LaneInv (failClaim log call) ∧ LaneInv (failClaim (releaseLane log) call) := by
  obtain ⟨hflag, hopen, hnone⟩ := h.lane.leave hcall (rfl : Phase.threw.claims = false)
  have hclear : ∀ other, (Function.update log.phase call .threw other).cleared = true →
      log.unsettled = [] := clear_update h.clear nofun
  constructor
  · simp only [OriginEffectLog.failClaim, hflag, hopen]
    exact ⟨.free rfl hopen hnone, hclear, h.pendingOne, h.pendingRows⟩
  · exact ⟨.free rfl hopen hnone, hclear, h.pendingOne, h.pendingRows⟩

theorem LaneInv.acquireLane (hcall : (log.phase call).claims = false) :
    LaneInv (acquireLane log call) := by
  unfold OriginEffectLog.acquireLane
  split
  case isTrue => exact h.move hcall.symm nofun
  split
  case isTrue =>
    have hmoved : LaneInv (log.setPhase call .waiting) := h.move hcall.symm nofun
    exact ⟨hmoved.lane, hmoved.clear, h.pendingOne, h.pendingRows⟩
  case isFalse hflag =>
    refine ⟨?_, clear_update h.clear nofun, h.pendingOne, h.pendingRows⟩
    cases h.lane with
    | free _ hopen hnone =>
      refine .claimed call rfl hopen (by simp [Log.setPhase, Phase.claims]) fun other hother => ?_
      by_contra hne
      simp [Log.setPhase, Function.update_of_ne hne, hnone other] at hother
    | claimed _ hset | opened _ hset => exact absurd hset hflag

theorem LaneInv.closeSequence (hnone : ∀ call, (log.phase call).claims = false) (seq : Nat) :
    LaneInv (closeSequence log seq) := by
  simp only [OriginEffectLog.closeSequence]
  split
  case isTrue hempty =>
    exact { h with lane := .free rfl (List.isEmpty_iff.mp hempty) hnone }
  case isFalse hrest =>
    refine { h with lane := ?_ }
    cases h.lane with
    | opened kept hflag hopen =>
      refine .opened kept hflag ?_ hnone
      grind
    | free _ hopen | claimed _ _ hopen => simp [hopen] at hrest

/-- Rows that settle or are given up leave the rest as it was. -/
theorem LaneInv.settle (written : List Nat) (seq : Nat) :
    LaneInv { log with
      unsettled := log.unsettled.filter (· != seq)
      pending := log.pending.filter (· != seq)
      written := written } where
  lane := h.lane
  clear call hcall := by rw [h.clear call hcall, List.filter_nil]
  pendingOne := Nat.le_trans (List.length_filter_le _ _) h.pendingOne
  pendingRows other hother := by
    rw [List.mem_filter] at hother ⊢
    exact ⟨h.pendingRows other hother.1, hother.2⟩

theorem LaneInv.lose (seq : Nat) :
    LaneInv { log with pending := log.pending.filter (· != seq) } where
  lane := h.lane
  clear := h.clear
  pendingOne := Nat.le_trans (List.length_filter_le _ _) h.pendingOne
  pendingRows other hother := h.pendingRows other (List.mem_of_mem_filter hother)

theorem LaneInv.shutdown (hnone : ∀ call, (log.phase call).claims = false) :
    LaneInv (shutdown log) where
  lane := by
    refine .free rfl rfl fun call => ?_
    simp only [OriginEffectLog.shutdown]
    split
    · rfl
    · exact hnone call
  clear call hcall := by
    simp only [OriginEffectLog.shutdown] at hcall
    split at hcall
    · cases hcall
    · exact h.clear call hcall
  pendingOne := h.pendingOne
  pendingRows := h.pendingRows

/-- The only claimant was told that no row is unsettled, so its intent is alone. -/
theorem LaneInv.commitIntent (hcall : log.phase call = .reserving) :
    LaneInv { log.setPhase call (.reserved (some log.nextSeq)) with
      unsettled := log.nextSeq :: log.unsettled
      pending := log.nextSeq :: log.pending
      nextSeq := log.nextSeq + 1 } := by
  have hempty : log.unsettled = [] := h.clear call (by rw [hcall]; rfl)
  have hpending : log.pending = [] := List.eq_nil_iff_forall_not_mem.mpr fun seq hseq => by
      have hrow := h.pendingRows seq hseq
      rw [hempty] at hrow
      cases hrow
  have hclaims : (log.phase call).claims = true := by rw [hcall]; rfl
  have hmoved : Lane log.laneClaimed log.openMutatingSequences
      (Function.update log.phase call (.reserved (some log.nextSeq))) :=
    h.lane.move hclaims.symm
  obtain ⟨-, -, hnone⟩ := h.lane.leave hclaims (rfl : Phase.threw.claims = false)
  refine ⟨hmoved, fun other hother => ?_, by simp [hpending], by simp [hpending]⟩
  have hfree := hnone other
  simp only [Log.setPhase] at hother
  by_cases heq : other = call
  · rw [heq, Function.update_self] at hother
    cases hother
  rw [Function.update_of_ne heq] at hother hfree
  generalize log.phase other = phase at hother hfree
  cases phase <;> simp_all [Phase.cleared, Phase.claims]

theorem LaneInv.step (op : Step) (hunhurried : Unhurried log op) : LaneInv (step log op) := by
  cases op with
  | acquireLane call =>
    simp only [OriginEffectLog.step]
    split
    case isTrue henabled =>
      refine h.acquireLane ?_
      rcases henabled with hidle | ⟨hwaiting, -⟩
      · rw [hidle]; rfl
      · rw [hwaiting]; rfl
    case isFalse => exact h
  | checkCancelled call =>
    simp only [OriginEffectLog.step]
    split
    case isTrue hphase =>
      split
      · exact (h.failClaim (by rw [hphase]; rfl)).2
      · exact h.move (by rw [hphase]; rfl) nofun
    case isFalse => exact h
  | unsettledEffects call fails =>
    simp only [OriginEffectLog.step]
    split
    case isTrue hphase =>
      refine h.move (by rw [hphase]; rfl) fun hcleared => ?_
      cases fails with
      | true => cases hcleared
      | false =>
        cases hrows : log.unsettled with
        | nil => rfl
        | cons => simp [hrows, Phase.cleared] at hcleared
    case isFalse => exact h
  | resumeUnsettled call =>
    simp only [OriginEffectLog.step]
    split
    case h_1 hphase => exact (h.failClaim (by rw [hphase]; rfl)).1
    case h_2 hphase => exact (h.failClaim (by rw [hphase]; rfl)).2
    case h_3 hphase =>
      exact h.move (by rw [hphase]; rfl) fun _ => h.clear call (by rw [hphase]; rfl)
    case h_4 => exact h
  | reserveAndCommitIntent call fails =>
    simp only [OriginEffectLog.step]
    split
    case isTrue hphase =>
      split
      · exact h.move (by rw [hphase]; rfl) nofun
      · exact h.commitIntent hphase
    case isFalse => exact h
  | resumeReserved call =>
    simp only [OriginEffectLog.step]
    split
    case h_1 hphase => exact (h.failClaim (by rw [hphase]; rfl)).1
    case h_2 seq hphase =>
      have hclaims : (log.phase call).claims = true := by rw [hphase]; rfl
      obtain ⟨hflag, hopen, hnone⟩ := h.lane.leave hclaims (rfl : Phase.returned.claims = false)
      have hadded : seq :: log.openMutatingSequences = [seq] := by rw [hopen]
      exact ⟨.opened seq hflag hadded hnone, clear_update h.clear nofun, h.pendingOne,
        h.pendingRows⟩
    case h_3 => exact h
  | commitTerminal seq fails =>
    simp only [OriginEffectLog.step]
    split
    · exact h
    · exact h.settle _ seq
  | resumeTerminal seq =>
    simp only [OriginEffectLog.step]
    split
    · have hresumed : LaneInv { log with written := log.written.erase seq } := { h with }
      exact hresumed.closeSequence hunhurried seq
    · exact h
  | noteIndeterminateLoss seq => exact (h.lose seq).closeSequence hunhurried seq
  | shutdown => exact h.shutdown hunhurried
  | resetForReconnect => exact { h with }

end

/-- In every run in which no effect is closed while a claim is not yet open, the
lane is exclusive in every state. -/
theorem run_lane_exclusive (unsettled : List Nat) (nextSeq : Nat) (steps : List Step)
    (h : Throughout step Unhurried (initial unsettled nextSeq) steps) :
    Exclusive (run unsettled nextSeq steps) := by
  have hinv : LaneInv (run unsettled nextSeq steps) :=
    h.induction LaneInv (fun _ op hop hinv => hinv.step op hop)
      ⟨.free rfl rfl fun _ => rfl, nofun, Nat.zero_le 1, nofun⟩
  exact hinv.exclusive

/-- A claim up to its wait for the store to commit the intent. -/
def claimSteps (call : Nat) : List Step :=
  [.acquireLane call, .checkCancelled call, .unsettledEffects call false, .resumeUnsettled call]

/-- One mutation settles before the next one is claimed. -/
theorem run_lane_exclusive_sequence :
    Exclusive (run [] 0 (claimSteps 0 ++ [.reserveAndCommitIntent 0 false, .resumeReserved 0,
      .commitTerminal 0 false, .resumeTerminal 0] ++ claimSteps 1)) := by
  refine run_lane_exclusive _ _ _ ⟨trivial, trivial, trivial, trivial, trivial, trivial, trivial,
    fun call => ?_, trivial, trivial, trivial, trivial, trivial⟩
  by_cases h : call = 0
  · subst h
    rfl
  · simp [step, acquireLane, initial, Log.setPhase, Function.update_of_ne h, Phase.claims]

/-- The terminal of an earlier session's row, which reconciliation settles while
a call waits for its intent, frees the lane: two intents are committed. -/
theorem reconciled_terminal_frees_claimed_lane :
    ¬ Exclusive (run [7] 8 (.commitTerminal 7 false :: claimSteps 0 ++ .resumeTerminal 7 ::
      claimSteps 1 ++ [.reserveAndCommitIntent 1 false, .reserveAndCommitIntent 0 false])) := by
  intro h
  have htwo := h.pendingOne
  revert htwo
  decide

end Subconscious.OriginEffectLog
