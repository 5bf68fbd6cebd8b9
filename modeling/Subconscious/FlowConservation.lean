import Subconscious.RequestCredits

/-!
# Conservation of request credits

While a flow is open its permits are never created or lost: each is free, out
in the ledger, or in the hands of a call that has not recorded it. Once the
flow is closed nothing enters the ledger, so what a drain waits on only falls.
-/

namespace Subconscious.FlowConservation

open HashMaps HashMap Semaphores Semaphore RequestCredits List

/-- Credits that hold a permit of the watch lane. -/
def watchCredits (ledger : CreditLedger) : Nat :=
  (ledger.credits.filter fun credit => credit.watchCredit).length

variable {Sem : Type} [Semaphore Sem] (ledger : CreditLedger) (w : FlowWorld Sem)

/-- The credits in flight are all that are out. -/
theorem inFlight_eq : ledger.inFlight = ledger.credits.length := by
  unfold CreditLedger.inFlight CreditLedger.credits
  rw [length_flatten]

/-- An acquired credit joins those that are out. -/
theorem acquire_perm :
    (ledger.acquire corr subscription watchCredit).credits.Perm
      (⟨subscription, watchCredit, false⟩ :: ledger.credits) := by
  unfold CreditLedger.acquire CreditLedger.credits
  rw [values_insert, flatten_cons]
  cases hget : ledger.byCorr.get corr with
  | none =>
    rw [remove_of_get_none hget]
    exact List.Perm.refl _
  | some credits =>
    have hout : ledger.byCorr.values.flatten.Perm
        (credits ++ (ledger.byCorr.remove corr).values.flatten) :=
      (values_perm_remove hget).flatten
    rw [Option.getD_some, append_assoc, singleton_append]
    exact perm_middle.trans (hout.symm.cons _)

/-- A released credit leaves the others out. -/
theorem release_perm {ledger : CreditLedger} (h : ledger.release corr = (ledger', some released)) :
    ledger.credits.Perm (released :: ledger'.credits) := by
  unfold CreditLedger.release at h
  cases hget : ledger.byCorr.get corr with
  | none =>
    rw [hget] at h
    cases h
  | some credits =>
    rw [hget] at h
    obtain ⟨hledger, hlast⟩ := Prod.mk.inj h
    have hsplit : credits = credits.dropLast ++ [released] :=
      (dropLast_append_getLast? released hlast).symm
    have hout : ledger.credits.Perm (credits ++ (ledger.byCorr.remove corr).values.flatten) :=
      (values_perm_remove hget).flatten
    have hleft : ledger'.credits =
        credits.dropLast ++ (ledger.byCorr.remove corr).values.flatten := by
      rw [← hledger]
      unfold CreditLedger.credits
      split
      case isTrue hempty => rw [isEmpty_iff.mp hempty, nil_append]
      case isFalse => rw [values_insert, flatten_cons]
    rw [hleft]
    refine hout.trans ?_
    conv_lhs => rw [hsplit]
    rw [append_assoc, singleton_append]
    exact perm_middle

/-- A drain excludes every credit of a subscription. -/
theorem capture_credits :
    ledger.captureSubscriptionExclusions.1.credits = ledger.credits.map RequestCredit.exclude := by
  unfold CreditLedger.captureSubscriptionExclusions CreditLedger.credits
  rw [values_mapValues, map_flatten]

section

variable (corr : UInt64) (subscription watchCredit : Bool)

theorem inFlight_acquire :
    (ledger.acquire corr subscription watchCredit).inFlight = ledger.inFlight + 1 := by
  rw [inFlight_eq, inFlight_eq]
  exact (acquire_perm ledger).length_eq

theorem watchCredits_acquire :
    watchCredits (ledger.acquire corr subscription watchCredit) =
      watchCredits ledger + if watchCredit then 1 else 0 := by
  unfold watchCredits
  rw [((acquire_perm ledger).filter _).length_eq, filter_cons]
  cases watchCredit <;> rfl

end

section

variable {ledger : CreditLedger} (h : ledger.release corr = (ledger', some released))
include h

theorem inFlight_release : ledger.inFlight = ledger'.inFlight + 1 := by
  rw [inFlight_eq, inFlight_eq]
  exact (release_perm h).length_eq

theorem watchCredits_release :
    watchCredits ledger = watchCredits ledger' + if released.watchCredit then 1 else 0 := by
  unfold watchCredits
  rw [((release_perm h).filter _).length_eq, filter_cons]
  cases released.watchCredit <;> rfl

theorem drainInFlight_release : ledger'.drainInFlight ≤ ledger.drainInFlight := by
  unfold CreditLedger.drainInFlight
  rw [((release_perm h).filter _).length_eq, filter_cons]
  split
  case isTrue => exact Nat.le_succ _
  case isFalse => exact Nat.le_refl _

end

@[simp] theorem exclude_watchCredit (credit : RequestCredit) :
    credit.exclude.watchCredit = credit.watchCredit := by
  unfold RequestCredit.exclude
  split <;> rfl

@[simp] theorem exclude_subscription (credit : RequestCredit) :
    credit.exclude.subscription = credit.subscription := by
  unfold RequestCredit.exclude
  split <;> rfl

theorem inFlight_capture : ledger.captureSubscriptionExclusions.1.inFlight = ledger.inFlight := by
  rw [inFlight_eq, inFlight_eq, capture_credits, length_map]

theorem watchCredits_capture :
    watchCredits ledger.captureSubscriptionExclusions.1 = watchCredits ledger := by
  unfold watchCredits
  rw [capture_credits, filter_map, length_map]
  simp only [Function.comp_def, exclude_watchCredit]

theorem drainInFlight_capture :
    ledger.captureSubscriptionExclusions.1.drainInFlight ≤ ledger.drainInFlight := by
  unfold CreditLedger.drainInFlight
  rw [capture_credits, filter_map, length_map]
  refine (monotone_filter_right _ ?_).length_le
  intro credit hcounted
  unfold Function.comp RequestCredit.exclude at hcounted
  split at hcounted
  case isTrue => cases hcounted
  case isFalse => exact hcounted

/-- Acquirers that have a permit they have not recorded. -/
def holders (w : FlowWorld Sem) : Nat :=
  (w.acquirers.values.filter fun acquirer => acquirer.holding).length

/-- Every permit in the hands of a call. -/
def held (w : FlowWorld Sem) : Nat := holders w + if w.admitting.isSome then 1 else 0

/-- One acquirer's part of the holders. -/
theorem holders_split {acquirers : HashMap AcquirerId Acquirer}
    (h : acquirers.get task = some acquirer) :
    (acquirers.values.filter fun acquirer => acquirer.holding).length =
      ((acquirers.remove task).values.filter fun acquirer => acquirer.holding).length +
        if acquirer.holding then 1 else 0 := by
  rw [((values_perm_remove h).filter _).length_eq, filter_cons]
  cases acquirer.holding <;> rfl

/-- The holders once an acquirer is set. -/
theorem holders_insert (acquirers : HashMap AcquirerId Acquirer) :
    ((acquirers.insert task acquirer).values.filter fun acquirer => acquirer.holding).length =
      ((acquirers.remove task).values.filter fun acquirer => acquirer.holding).length +
        if acquirer.holding then 1 else 0 := by
  rw [values_insert, filter_cons]
  cases acquirer.holding <;> rfl

variable {sem : Sem}

/-- What an event makes of a flow and the calls on it. -/
inductive FlowStep (w : FlowWorld Sem) : FlowEvent → FlowWorld Sem → Option FlowAnswer → Prop
  | same (event : FlowEvent) (answer : Option FlowAnswer)
      (hrefused : ∀ a ∈ answer, a.admits = false) : FlowStep w event w answer
  | waiting (task : AcquirerId) (corr : UInt64) (subscription : Bool)
      (hfree : w.acquirers.get task = none) :
      FlowStep w (.acquire task corr subscription)
        { w with acquirers := w.acquirers.insert task ⟨corr, subscription, false⟩ } none
  | served (task : AcquirerId) (acquirer : Acquirer) (sem : Sem)
      (hget : w.acquirers.get task = some acquirer) (hwaits : acquirer.holding = false)
      (hsem : tryAcquire w.flow.sem = some sem) :
      FlowStep w (.poll task)
        { w with
          flow := { w.flow with sem := sem }
          acquirers := w.acquirers.insert task { acquirer with holding := true } } none
  | dropped (event : FlowEvent) (task : AcquirerId) (acquirer : Acquirer)
      (answer : Option FlowAnswer)
      (hevent : event = .poll task ∨ event = .record task ∨ event = .cancel task)
      (hget : w.acquirers.get task = some acquirer)
      (hrefused : ∀ a ∈ answer, a.admits = false) :
      FlowStep w event (w.dropAcquirer task acquirer) answer
  | recorded (task : AcquirerId) (acquirer : Acquirer) (hlock : w.admitting = none)
      (hget : w.acquirers.get task = some acquirer) (hholds : acquirer.holding = true)
      (hopen : w.flow.closed = false) :
      FlowStep w (.record task)
        { w with
          flow := { w.flow with
            credits := w.flow.credits.acquire acquirer.corr acquirer.subscription false }
          acquirers := w.acquirers.remove task } (some .acquired)
  | begun (corr : UInt64) (subscription : Bool) (sem : Sem) (hlock : w.admitting = none)
      (hopen : w.flow.closed = false) (hsem : tryAcquire w.flow.sem = some sem) :
      FlowStep w (.tryAcquire corr subscription)
        { w with flow := { w.flow with sem := sem }, admitting := some (corr, subscription) } none
  | refused (corr : UInt64) (subscription : Bool)
      (hlock : w.admitting = some (corr, subscription)) :
      FlowStep w .finish
        { w with flow := { w.flow with sem := addPermits w.flow.sem 1 }, admitting := none }
        (some (.admission w.flow.busy))
  | finished (corr : UInt64) (subscription : Bool) (watchSem : Option Sem)
      (watchCredit : Bool) (hlock : w.admitting = some (corr, subscription))
      (hwatch : w.flow.takeWatch subscription = some (watchSem, watchCredit)) :
      FlowStep w .finish
        { w with
          flow := { w.flow with
            watchSem := watchSem
            credits := w.flow.credits.acquire corr subscription watchCredit }
          admitting := none } (some (.admission .admitted))
  | released (corr : UInt64) (credits : CreditLedger) (released : RequestCredit)
      (hlock : w.admitting = none)
      (hrelease : w.flow.credits.release corr = (credits, some released)) :
      FlowStep w (.releaseCorr corr)
        { w with
          flow := { w.flow with
            credits := credits
            sem := restorePermit w.flow.sem
            watchSem := if released.watchCredit then w.flow.watchSem.map restorePermit
              else w.flow.watchSem } } none
  | drained (hlock : w.admitting = none) :
      FlowStep w .beginDrain { w with flow := w.flow.beginDrain.1 }
        (some (.drained w.flow.beginDrain.2))
  | closed (hlock : w.admitting = none) : FlowStep w .close { w with flow := w.flow.close } none

/-- Nothing happens. -/
theorem FlowStep.idle (event : FlowEvent) : FlowStep w event w none := .same event none nofun

/-- A step under the lock happens only while the lock is free. -/
theorem FlowStep.locked {w : FlowWorld Sem} (h : w.admitting = none → FlowStep w event call.1 call.2) :
    FlowStep w event (w.locked call).1 (w.locked call).2 := by
  unfold FlowWorld.locked
  cases hlock : w.admitting with
  | none => exact h hlock
  | some => exact .idle w event

/-- A poll is served, dropped or idle. -/
theorem poll_step : FlowStep w (.poll task) (w.poll task).1 (w.poll task).2 := by
  unfold FlowWorld.poll
  cases hget : w.acquirers.get task with
  | none => exact .idle w _
  | some acquirer =>
    dsimp only
    by_cases hclosed : closed w.flow.sem = true
    · rw [if_pos hclosed]
      refine .dropped _ task acquirer _ (.inl rfl) hget ?_
      rintro a ⟨⟩
      rfl
    rw [if_neg hclosed]
    cases hholds : acquirer.holding with
    | true => exact .idle w _
    | false =>
      rw [if_neg Bool.false_ne_true]
      cases hsem : tryAcquire w.flow.sem with
      | none => exact .idle w _
      | some sem => exact .served task acquirer sem hget hholds hsem

/-- A holder records its permit, or the flow was closed meanwhile. -/
theorem record_step (hlock : w.admitting = none) :
    FlowStep w (.record task) (w.record task).1 (w.record task).2 := by
  unfold FlowWorld.record
  cases hget : w.acquirers.get task with
  | none => exact .idle w _
  | some acquirer =>
    dsimp only
    cases hholds : acquirer.holding with
    | false => exact .idle w _
    | true =>
      rw [if_pos rfl]
      unfold ChannelFlow.recordAcquired
      by_cases hclosed : w.flow.closed = true
      · have hstep : FlowStep w (.record task) (w.dropAcquirer task acquirer)
            (some .flowClosed) := by
          refine .dropped _ task acquirer _ (.inr (.inl rfl)) hget ?_
          rintro a ⟨⟩
          rfl
        unfold FlowWorld.dropAcquirer at hstep
        rw [hholds, if_pos rfl] at hstep
        rw [if_pos hclosed]
        exact hstep
      · rw [if_neg hclosed]
        exact .recorded task acquirer hlock hget hholds (Bool.not_eq_true _ ▸ hclosed)

theorem tryAcquire_step
    (hlock : w.admitting = none) {call : FlowWorld Sem × Option FlowAnswer}
    (hcall : call = match w.flow.takeTotal with
      | .error refusal => (w, some (.admission refusal))
      | .ok held => ({ w with flow := held, admitting := some (corr, subscription) }, none)) :
    FlowStep w (.tryAcquire corr subscription) call.1 call.2 := by
  subst hcall
  unfold ChannelFlow.takeTotal
  by_cases hclosed : w.flow.closed = true
  · rw [if_pos hclosed]
    refine .same _ _ ?_
    rintro a ⟨⟩
    rfl
  rw [if_neg hclosed]
  cases hsem : tryAcquire w.flow.sem with
  | none =>
    refine .same _ _ ?_
    rintro a ⟨⟩
    rfl
  | some sem =>
    exact .begun corr subscription sem hlock (Bool.not_eq_true _ ▸ hclosed) hsem

/-- An admission in progress is refused by its lane or finishes. -/
theorem finish_step : FlowStep w .finish (w.step .finish).1 (w.step .finish).2 := by
  unfold FlowWorld.step
  cases hlock : w.admitting with
  | none =>
    exact .idle w _
  | some request =>
    rcases request with ⟨corr, subscription⟩
    dsimp only
    unfold ChannelFlow.finishAdmission
    cases hwatch : w.flow.takeWatch subscription with
    | none => exact .refused corr subscription hlock
    | some lane =>
      rcases lane with ⟨watchSem, watchCredit⟩
      exact .finished corr subscription watchSem watchCredit hlock hwatch

/-- Every event makes one of the steps. -/
theorem step_flowStep (event : FlowEvent) : FlowStep w event (w.step event).1 (w.step event).2 := by
  cases event with
  | acquire task corr subscription =>
    unfold FlowWorld.step
    dsimp only
    cases hget : w.acquirers.get task with
    | none =>
      rw [contains_eq, hget]
      exact .waiting task corr subscription hget
    | some =>
      rw [contains_eq, hget]
      exact .idle w _
  | poll task => exact poll_step w
  | record task => exact .locked (record_step w)
  | cancel task =>
    unfold FlowWorld.step
    dsimp only
    cases hget : w.acquirers.get task with
    | none => exact .idle w _
    | some acquirer =>
      exact .dropped _ task acquirer none (.inr (.inr rfl)) hget nofun
  | tryAcquire corr subscription =>
    exact .locked fun hlock => tryAcquire_step w hlock rfl
  | finish => exact finish_step w
  | releaseCorr corr =>
    refine .locked fun hlock => ?_
    unfold ChannelFlow.releaseCorr
    cases hrelease : w.flow.credits.release corr with
    | mk credits taken =>
      cases taken with
      | none => exact .idle w _
      | some released => exact .released corr credits released hlock hrelease
  | beginDrain => exact .locked .drained
  | close => exact .locked .closed

/-- What a flow and the calls on it keep. -/
structure FlowInv (window : Nat) (watchWindow : Option Nat) (w : FlowWorld Sem) : Prop where
  semClosed : closed w.flow.sem = w.flow.closed
  watchClosed : ∀ sem ∈ w.flow.watchSem, closed sem = w.flow.closed
  /-- An admission in progress keeps the flow open. -/
  admittingOpen : w.admitting.isSome = true → w.flow.closed = false
  total : w.flow.closed = false → permits w.flow.sem + w.flow.credits.inFlight + held w = window
  watch : w.flow.closed = false →
    w.flow.watchSem.map (fun sem => permits sem + watchCredits w.flow.credits) = watchWindow
  bounded : w.flow.credits.inFlight ≤ window
  watchBounded : watchCredits w.flow.credits ≤ watchWindow.getD 0

/-- A new flow has all its permits. -/
theorem new_flowInv :
    FlowInv window watchWindow (.new window busyRefusals watchWindow : FlowWorld Sem) where
  semClosed := closed_new window
  watchClosed := by
    intro sem hsem
    obtain ⟨n, -, rfl⟩ := Option.map_eq_some_iff.mp hsem
    exact closed_new n
  admittingOpen := fun _ => rfl
  total := fun _ => permits_new window
  watch := by
    intro _
    cases watchWindow with
    | none => rfl
    | some n => exact congrArg some (permits_new n)
  bounded := Nat.zero_le _
  watchBounded := Nat.zero_le _

theorem restore_open (h : closed sem = false) :
    restorePermit sem = addPermits sem 1 := by
  unfold restorePermit
  rw [h]
  rfl

theorem restore_closed : closed (restorePermit sem) = closed sem := by
  unfold restorePermit
  split
  case isTrue => rfl
  case isFalse => exact closed_addPermits sem 1

/-- A subscription's watch permit comes from the lane, and no other request
touches it. -/
theorem takeWatch_cases {flow : ChannelFlow Sem}
    (h : flow.takeWatch subscription = some (watchSem, watchCredit)) :
    (watchSem = flow.watchSem ∧ watchCredit = false) ∨
      ∃ sem sem', flow.watchSem = some sem ∧ tryAcquire sem = some sem' ∧ watchSem = some sem' ∧
        watchCredit = true := by
  unfold ChannelFlow.takeWatch at h
  cases subscription with
  | false =>
    cases h
    exact .inl ⟨rfl, rfl⟩
  | true =>
    rw [if_pos rfl] at h
    cases hsem : flow.watchSem with
    | none =>
      rw [hsem] at h
      cases h
      exact .inl ⟨rfl, rfl⟩
    | some sem =>
      rw [hsem] at h
      obtain ⟨sem', htaken, heq⟩ := Option.map_eq_some_iff.mp h
      cases heq
      exact .inr ⟨sem, sem', rfl, htaken, rfl, rfl⟩

/-- What an admission in progress finds unchanged when it goes on. -/
structure Untouched (w w' : FlowWorld Sem) : Prop where
  admitting : w'.admitting = w.admitting
  credits : w'.flow.credits = w.flow.credits
  watchSem : w'.flow.watchSem = w.flow.watchSem
  free : permits w'.flow.sem + holders w' = permits w.flow.sem + holders w

/-- What is untouched twice is untouched. -/
theorem Untouched.trans {a b c : FlowWorld Sem} (hab : Untouched a b) (hbc : Untouched b c) :
    Untouched a c :=
  ⟨hbc.admitting.trans hab.admitting, hbc.credits.trans hab.credits,
    hbc.watchSem.trans hab.watchSem, hbc.free.trans hab.free⟩

variable {w : FlowWorld Sem}

/-- A new acquirer waits without a permit. -/
theorem waiting_untouched (hfree : w.acquirers.get task = none) :
    Untouched w
      { w with acquirers := w.acquirers.insert task ⟨corr, subscription, false⟩ } := by
  refine ⟨rfl, rfl, rfl, ?_⟩
  unfold holders
  rw [holders_insert, remove_of_get_none hfree]
  rfl

/-- A permit goes from the semaphore to an acquirer. -/
theorem served_untouched (hget : w.acquirers.get task = some acquirer)
    (hwaits : acquirer.holding = false) (hsem : tryAcquire w.flow.sem = some sem) :
    Untouched w
      { w with
        flow := { w.flow with sem := sem }
        acquirers := w.acquirers.insert task { acquirer with holding := true } } := by
  obtain ⟨-, -, hpermits⟩ := of_tryAcquire hsem
  refine ⟨rfl, rfl, rfl, ?_⟩
  unfold holders
  rw [holders_insert, holders_split hget, hwaits]
  dsimp only
  rw [if_pos rfl, if_neg Bool.false_ne_true]
  omega

/-- An acquirer that goes gives its permit back. -/
theorem dropAcquirer_untouched (hget : w.acquirers.get task = some acquirer) :
    Untouched w (w.dropAcquirer task acquirer) := by
  have hsplit := holders_split hget
  unfold FlowWorld.dropAcquirer
  cases hholds : acquirer.holding with
  | false =>
    rw [hholds] at hsplit
    refine ⟨rfl, rfl, rfl, ?_⟩
    unfold holders
    rw [hsplit]
    rfl
  | true =>
    rw [hholds, if_pos rfl] at hsplit
    refine ⟨rfl, rfl, rfl, ?_⟩
    unfold holders
    rw [hsplit]
    change permits (addPermits w.flow.sem 1) + _ = _
    rw [permits_addPermits]
    dsimp only
    omega

/-- An acquirer that goes leaves the flow as open as it was. -/
theorem dropAcquirer_closed :
    (w.dropAcquirer task acquirer).flow.closed = w.flow.closed ∧
      closed (w.dropAcquirer task acquirer).flow.sem = closed w.flow.sem := by
  unfold FlowWorld.dropAcquirer
  split
  case isTrue => exact ⟨rfl, closed_addPermits _ 1⟩
  case isFalse => exact ⟨rfl, rfl⟩

section

variable (hinv : FlowInv window watchWindow w)
include hinv

/-- Permits that only change hands keep the invariant. -/
theorem Untouched.flowInv {w' : FlowWorld Sem} (h : Untouched w w')
    (hclosed : w'.flow.closed = w.flow.closed) (hsem : closed w'.flow.sem = closed w.flow.sem) :
    FlowInv window watchWindow w' := by
  have hfree := h.free
  obtain ⟨hadmitting, hcredits, hwatch, -⟩ := h
  constructor
  all_goals simp only [hclosed, hsem, hadmitting, hcredits, hwatch]
  case total =>
    intro hopen
    have htotal := hinv.total hopen
    unfold held at htotal ⊢
    rw [hadmitting]
    omega
  exacts [hinv.semClosed, hinv.watchClosed, hinv.admittingOpen, hinv.watch, hinv.bounded,
    hinv.watchBounded]

/-- A finished admission turns its permit into a credit. -/
theorem finished_flowInv (hlock : w.admitting = some (corr, subscription))
    (hwatch : w.flow.takeWatch subscription = some (watchSem, watchCredit)) :
    FlowInv window watchWindow
      { w with
        flow := { w.flow with
          watchSem := watchSem
          credits := w.flow.credits.acquire corr subscription watchCredit }
        admitting := none } := by
  have hopen : w.flow.closed = false := hinv.admittingOpen (by rw [hlock]; rfl)
  have htotal := hinv.total hopen
  have hlane := hinv.watch hopen
  have hcount := inFlight_acquire w.flow.credits corr subscription watchCredit
  have hwatched := watchCredits_acquire w.flow.credits corr subscription watchCredit
  unfold held at htotal
  rw [hlock] at htotal
  dsimp only [Option.isSome] at htotal
  rw [if_pos rfl] at htotal
  have hrecorded : permits w.flow.sem +
      (w.flow.credits.acquire corr subscription watchCredit).inFlight + holders w = window := by
    omega
  rcases takeWatch_cases hwatch with ⟨rfl, rfl⟩ | ⟨sem, sem', hsem, htaken, rfl, rfl⟩
  · rw [if_neg Bool.false_ne_true, Nat.add_zero] at hwatched
    refine ⟨hinv.semClosed, hinv.watchClosed, nofun, fun _ => hrecorded, ?_, ?_, ?_⟩
    · intro _
      rw [hwatched]
      exact hlane
    · dsimp only
      omega
    rw [hwatched]
    exact hinv.watchBounded
  · obtain ⟨-, hsemOpen, hpermits⟩ := of_tryAcquire htaken
    rw [if_pos rfl] at hwatched
    rw [hsem, Option.map_some] at hlane
    refine ⟨hinv.semClosed, ?_, nofun, fun _ => hrecorded, ?_, ?_, ?_⟩
    · rintro other ⟨⟩
      exact hsemOpen.trans hopen.symm
    · intro _
      rw [Option.map_some, hwatched, ← hlane, hpermits]
      congr 1
      omega
    · dsimp only
      omega
    rw [hwatched, ← hlane, hpermits, Option.getD_some]
    omega

/-- A released credit turns into free permits. -/
theorem released_flowInv (hrelease : w.flow.credits.release corr = (credits, some released)) :
    FlowInv window watchWindow
      { w with
        flow := { w.flow with
          credits := credits
          sem := restorePermit w.flow.sem
          watchSem := if released.watchCredit then w.flow.watchSem.map restorePermit
            else w.flow.watchSem } } := by
  have hcount := inFlight_release hrelease
  have hwatched := watchCredits_release hrelease
  have hbounded := hinv.bounded
  have hwatchBounded := hinv.watchBounded
  refine ⟨(restore_closed).trans hinv.semClosed, ?_, hinv.admittingOpen, ?_, ?_, ?_, ?_⟩
  · intro sem hsem
    split at hsem
    case isTrue =>
      obtain ⟨old, hold, rfl⟩ := Option.map_eq_some_iff.mp hsem
      exact (restore_closed).trans (hinv.watchClosed old hold)
    case isFalse => exact hinv.watchClosed sem hsem
  · intro hopen
    have htotal := hinv.total hopen
    have hsem : permits (restorePermit w.flow.sem) = permits w.flow.sem + 1 := by
      rw [restore_open (hinv.semClosed.trans hopen), permits_addPermits]
    change permits (restorePermit w.flow.sem) + credits.inFlight + held w = window
    omega
  · intro hopen
    have hlane := hinv.watch hopen
    dsimp only
    cases hcredit : released.watchCredit with
    | false =>
      rw [hcredit, if_neg Bool.false_ne_true, Nat.add_zero] at hwatched
      rw [if_neg Bool.false_ne_true, ← hwatched]
      exact hlane
    | true =>
      rw [hcredit, if_pos rfl] at hwatched
      rw [if_pos rfl, ← hlane]
      cases hsem : w.flow.watchSem with
      | none => rfl
      | some sem =>
        have hsemOpen := (hinv.watchClosed sem hsem).trans hopen
        rw [Option.map_some, Option.map_some, Option.map_some, restore_open hsemOpen, hwatched,
          permits_addPermits]
        congr 1
        omega
  · dsimp only
    omega
  · dsimp only
    omega

/-- Every event keeps the invariant. -/
theorem step_flowInv : FlowInv window watchWindow (w.step event).1 := by
  have hstep := step_flowStep w event
  generalize (w.step event).1 = w' at hstep
  generalize (w.step event).2 = answer at hstep
  cases hstep with
  | same => exact hinv
  | waiting _ _ _ hfree => exact (waiting_untouched hfree).flowInv hinv rfl rfl
  | served _ _ _ hget hwaits hsem =>
    obtain ⟨hclosed, hclosed', -⟩ := of_tryAcquire hsem
    exact (served_untouched hget hwaits hsem).flowInv hinv rfl (hclosed'.trans hclosed.symm)
  | dropped _ _ _ _ _ hget =>
    exact (dropAcquirer_untouched hget).flowInv hinv dropAcquirer_closed.1 dropAcquirer_closed.2
  | recorded task acquirer hlock hget hholds hopen =>
    have hcount := inFlight_acquire w.flow.credits acquirer.corr acquirer.subscription false
    have hwatched := watchCredits_acquire w.flow.credits acquirer.corr acquirer.subscription false
    rw [if_neg Bool.false_ne_true, Nat.add_zero] at hwatched
    have htotal := hinv.total hopen
    unfold held holders at htotal
    rw [holders_split hget, hholds, if_pos rfl] at htotal
    refine ⟨hinv.semClosed, hinv.watchClosed, hinv.admittingOpen, ?_, ?_, ?_, ?_⟩
    · intro _
      unfold held holders
      dsimp only
      omega
    · intro _
      rw [hwatched]
      exact hinv.watch hopen
    · dsimp only
      omega
    rw [hwatched]
    exact hinv.watchBounded
  | begun corr subscription sem hlock hopen hsem =>
    obtain ⟨hclosed, hclosed', hpermits⟩ := of_tryAcquire hsem
    refine { hinv with
      semClosed := hclosed'.trans hopen.symm, admittingOpen := fun _ => hopen, total := ?_ }
    intro _
    have htotal := hinv.total hopen
    unfold held at htotal ⊢
    rw [hlock] at htotal
    change permits sem + w.flow.credits.inFlight + (holders w + 1) = window
    change permits w.flow.sem + w.flow.credits.inFlight + (holders w + 0) = window at htotal
    omega
  | refused corr subscription hlock =>
    have hopen : w.flow.closed = false := hinv.admittingOpen (by rw [hlock]; rfl)
    refine { hinv with
      semClosed := (closed_addPermits _ 1).trans hinv.semClosed
      admittingOpen := nofun
      total := ?_ }
    intro _
    have htotal := hinv.total hopen
    unfold held at htotal ⊢
    rw [hlock] at htotal
    change permits (addPermits w.flow.sem 1) + w.flow.credits.inFlight +
      (holders w + 0) = window
    rw [permits_addPermits]
    change permits w.flow.sem + w.flow.credits.inFlight + (holders w + 1) = window at htotal
    omega
  | finished corr subscription watchSem watchCredit hlock hwatch =>
    exact finished_flowInv hinv hlock hwatch
  | released corr credits released hlock hrelease => exact released_flowInv hinv hrelease
  | drained hlock =>
    refine ⟨closed_close _, ?_, (fun h => by rw [hlock] at h; cases h), nofun, nofun, ?_, ?_⟩
    · intro sem hsem
      obtain ⟨old, -, rfl⟩ := Option.map_eq_some_iff.mp hsem
      exact closed_close old
    · exact (inFlight_capture _).le.trans hinv.bounded
    · exact (watchCredits_capture _).le.trans hinv.watchBounded
  | closed hlock =>
    refine ⟨closed_close _, ?_, (fun h => by rw [hlock] at h; cases h), nofun, nofun, hinv.bounded,
      hinv.watchBounded⟩
    intro sem hsem
    obtain ⟨old, -, rfl⟩ := Option.map_eq_some_iff.mp hsem
    exact closed_close old

/-- Every run keeps the invariant. -/
theorem runFrom_flowInv (events : List FlowEvent) :
    FlowInv window watchWindow (w.runFrom events) := by
  exact List.foldlRecOn (motive := FlowInv window watchWindow) _ _ hinv
    fun _ h event _ => step_flowInv h

end

end Subconscious.FlowConservation
