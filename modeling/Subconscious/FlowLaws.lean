import Subconscious.FlowConservation

/-!
# The law of a route's flow

A flow never lets out more than its windows, keeps its permits while it is
open, and refuses without a trace. Once a drain or a close has shut it nothing
is admitted, and the drain waits on exactly the requests that were out when it
began and are not subscriptions.
-/

namespace Subconscious.FlowLaws

open HashMaps HashMap Semaphores Semaphore RequestCredits FlowConservation List

variable {Sem : Type} [Semaphore Sem]

/-- An immediate admission that is refused leaves the flow as it was. -/
theorem tryAcquireTagged_refused (flow : ChannelFlow Sem) (corr : UInt64) (subscription : Bool)
    (h : (flow.tryAcquireTagged corr subscription).2 ≠ .admitted) :
    (flow.tryAcquireTagged corr subscription).1 = flow := by
  unfold ChannelFlow.tryAcquireTagged at h ⊢
  cases htotal : flow.takeTotal with
  | error => rfl
  | ok taken =>
    rw [htotal] at h
    dsimp only at h ⊢
    unfold ChannelFlow.finishAdmission at h ⊢
    cases hwatch : taken.takeWatch subscription with
    | some =>
      rw [hwatch] at h
      exact absurd rfl h
    | none =>
      unfold ChannelFlow.takeTotal at htotal
      split at htotal
      case isTrue => cases htotal
      cases hsem : tryAcquire flow.sem with
      | none =>
        rw [hsem] at htotal
        cases htotal
      | some sem =>
        rw [hsem] at htotal
        cases htotal
        rw [addPermits_of_tryAcquire hsem]

variable {w : FlowWorld Sem}

/-- While an admission holds the lock, only the semaphore moves. -/
theorem step_untouched (hlock : w.admitting.isSome = true) (hevent : event ≠ .finish) :
    Untouched w (w.step event).1 := by
  have hbusy : w.admitting ≠ none := Option.isSome_iff_ne_none.mp hlock
  have hstep := step_flowStep w event
  generalize (w.step event).1 = w' at hstep
  generalize (w.step event).2 = answer at hstep
  cases hstep with
  | same => exact ⟨rfl, rfl, rfl, rfl⟩
  | waiting _ _ _ hfree => exact waiting_untouched hfree
  | served _ _ _ hget hwaits hsem => exact served_untouched hget hwaits hsem
  | dropped _ _ _ _ _ hget => exact dropAcquirer_untouched hget
  | recorded _ _ hnone | begun _ _ _ hnone => exact absurd hnone hbusy
  | refused | finished => exact absurd rfl hevent
  | released _ _ _ hnone | drained hnone | closed hnone => exact absurd hnone hbusy

/-- So it is until the admission finishes. -/
theorem runFrom_untouched (hlock : w.admitting.isSome = true)
    (hevents : ∀ event ∈ events, event ≠ .finish) : Untouched w (w.runFrom events) :=
  List.foldlRecOn (motive := Untouched w) _ _ ⟨rfl, rfl, rfl, rfl⟩ fun _ h event hmem =>
    h.trans (step_untouched (h.admitting ▸ hlock) (hevents event hmem))

/-- An admission that begins takes one permit and nothing else. -/
theorem tryAcquire_begun (hlock : w.admitting = none)
    (hbegun : (w.step (.tryAcquire corr subscription)).2 = none) :
    ∃ sem, tryAcquire w.flow.sem = some sem ∧
      (w.step (.tryAcquire corr subscription)).1 =
        { w with flow := { w.flow with sem := sem }, admitting := some (corr, subscription) } := by
  unfold FlowWorld.step FlowWorld.locked at hbegun ⊢
  rw [hlock] at hbegun ⊢
  dsimp only [Option.isSome] at hbegun ⊢
  rw [if_neg Bool.false_ne_true] at hbegun ⊢
  unfold ChannelFlow.takeTotal at hbegun ⊢
  by_cases hclosed : w.flow.closed = true
  · rw [if_pos hclosed] at hbegun
    cases hbegun
  rw [if_neg hclosed] at hbegun ⊢
  cases hsem : tryAcquire w.flow.sem with
  | none =>
    rw [hsem] at hbegun
    cases hbegun
  | some sem => exact ⟨sem, rfl, rfl⟩

/-- An admission that ends busy gives its permit back. -/
theorem finish_busy (hanswer : (w.step .finish).2 = some (.admission (.busy detail))) :
    (w.step .finish).1 =
      { w with flow := { w.flow with sem := addPermits w.flow.sem 1 }, admitting := none } := by
  unfold FlowWorld.step at hanswer ⊢
  cases hlock : w.admitting with
  | none =>
    rw [hlock] at hanswer
    cases hanswer
  | some request =>
    rcases request with ⟨corr, subscription⟩
    rw [hlock] at hanswer
    dsimp only at hanswer ⊢
    unfold ChannelFlow.finishAdmission at hanswer ⊢
    cases hwatch : w.flow.takeWatch subscription with
    | none => rfl
    | some =>
      rw [hwatch] at hanswer
      cases hanswer

/-- A refused admission leaves both lanes as it found them, whatever the
semaphore did meanwhile. -/
theorem refused_untouched (w : FlowWorld Sem) (corr : UInt64) (subscription : Bool)
    (between : List FlowEvent) (hlock : w.admitting = none)
    (hbegun : (w.step (.tryAcquire corr subscription)).2 = none)
    (hbetween : ∀ event ∈ between, event ≠ .finish) (detail : RouteBusyDetail)
    (hanswer : ((w.runFrom (.tryAcquire corr subscription :: between)).step .finish).2 =
      some (.admission (.busy detail))) :
    Untouched w (w.runFrom (.tryAcquire corr subscription :: between ++ [.finish])) := by
  obtain ⟨sem, hsem, htaken⟩ := tryAcquire_begun hlock hbegun
  obtain ⟨-, -, hpermits⟩ := of_tryAcquire hsem
  set begun := (w.step (.tryAcquire corr subscription)).1 with hb
  have hmiddle : Untouched begun (begun.runFrom between) := by
    refine runFrom_untouched ?_ hbetween
    rw [htaken]
    rfl
  have hrun : w.runFrom (.tryAcquire corr subscription :: between) = begun.runFrom between := rfl
  rw [FlowWorld.runFrom_snoc, finish_busy hanswer, hrun]
  have hcredits : begun.flow.credits = w.flow.credits := by rw [htaken]
  have hwatch : begun.flow.watchSem = w.flow.watchSem := by rw [htaken]
  have hfree : permits begun.flow.sem + 1 + holders begun = permits w.flow.sem + holders w := by
    rw [htaken]
    change permits sem + 1 + holders w = _
    omega
  refine ⟨hlock.symm, hmiddle.credits.trans hcredits, hmiddle.watchSem.trans hwatch, ?_⟩
  have hkept := hmiddle.free
  change permits (addPermits (begun.runFrom between).flow.sem 1) +
    holders (begun.runFrom between) = _
  rw [permits_addPermits]
  omega

/-- What is out under a correlation id, the oldest first. -/
def outOf (ledger : CreditLedger) (corr : UInt64) : List RequestCredit :=
  (ledger.byCorr.get corr).getD []

variable {credit : RequestCredit}

theorem mem_credits_of_outOf (h : credit ∈ outOf ledger corr) : credit ∈ ledger.credits := by
  unfold outOf at h
  cases hget : ledger.byCorr.get corr with
  | none =>
    rw [hget] at h
    cases h
  | some credits =>
    rw [hget] at h
    exact mem_flatten.mpr ⟨credits, (mem_values _).mpr ⟨corr, hget⟩, h⟩

/-- A release takes the newest credit of its id and no other. -/
theorem outOf_release (h : ledger.release corr = (ledger', taken)) (other : UInt64) :
    outOf ledger' other <+: outOf ledger other := by
  unfold CreditLedger.release at h
  cases hget : ledger.byCorr.get corr with
  | none =>
    rw [hget] at h
    cases h
    exact prefix_rfl
  | some credits =>
    rw [hget] at h
    obtain ⟨hledger, -⟩ := Prod.mk.inj h
    rw [← hledger]
    unfold outOf
    by_cases hother : other = corr
    · rw [hother, hget]
      split
      case isTrue =>
        rw [get_remove, if_pos rfl]
        exact nil_prefix
      case isFalse =>
        rw [get_insert, if_pos rfl]
        exact dropLast_prefix credits
    · split
      case isTrue => rw [get_remove, if_neg hother]
      case isFalse => rw [get_insert, if_neg hother]

/-- A drain excludes the subscriptions under each id. -/
theorem outOf_capture :
    outOf ledger.captureSubscriptionExclusions.1 corr =
      (outOf ledger corr).map RequestCredit.exclude := by
  unfold outOf CreditLedger.captureSubscriptionExclusions
  rw [get_mapValues]
  cases ledger.byCorr.get corr <;> rfl

section

variable (hinv : FlowInv window watchWindow w) (hclosed : w.flow.closed = true)
include hinv hclosed

/-- No admission is in progress on a shut flow. -/
theorem idle_of_closed : w.admitting = none := by
  by_contra hbusy
  have hopen := hinv.admittingOpen (Option.isSome_iff_ne_none.mpr hbusy)
  rw [hclosed] at hopen
  cases hopen

/-- A shut flow stays shut, admits nothing, and its drain waits on no more. -/
theorem step_shut (event : FlowEvent) :
    (w.step event).1.flow.closed = true ∧ (∀ a ∈ (w.step event).2, a.admits = false) ∧
      (w.step event).1.flow.credits.drainInFlight ≤ w.flow.credits.drainInFlight := by
  have hidle := idle_of_closed hinv hclosed
  have hstep := step_flowStep w event
  generalize (w.step event).1 = w' at hstep
  generalize (w.step event).2 = answer at hstep
  cases hstep with
  | same _ _ hrefused => exact ⟨hclosed, hrefused, Nat.le_refl _⟩
  | waiting => exact ⟨hclosed, nofun, Nat.le_refl _⟩
  | served _ _ sem _ _ hsem =>
    have hopen := hinv.semClosed.symm.trans (of_tryAcquire hsem).1
    rw [hclosed] at hopen
    cases hopen
  | dropped _ task acquirer _ _ hget hrefused =>
    have hsame := (dropAcquirer_untouched hget).credits
    exact ⟨dropAcquirer_closed.1.trans hclosed, hrefused, by rw [hsame]⟩
  | recorded _ _ _ _ _ hopen | begun _ _ _ _ hopen =>
    rw [hclosed] at hopen
    cases hopen
  | refused _ _ hlock | finished _ _ _ _ hlock =>
    rw [hidle] at hlock
    cases hlock
  | released _ _ _ _ hrelease =>
    exact ⟨hclosed, nofun, drainInFlight_release hrelease⟩
  | drained =>
    refine ⟨rfl, ?_, drainInFlight_capture _⟩
    rintro a ⟨⟩
    rfl
  | closed => exact ⟨rfl, nofun, Nat.le_refl _⟩

/-- So it is for the rest of a run. -/
theorem runFrom_shut :
    (w.runFrom events).flow.closed = true ∧
      (w.runFrom events).flow.credits.drainInFlight ≤ w.flow.credits.drainInFlight := by
  induction events using List.reverseRecOn with
  | nil => exact ⟨hclosed, Nat.le_refl _⟩
  | append_singleton events event ih =>
    have hstep := step_shut (runFrom_flowInv hinv events) ih.1 event
    rw [FlowWorld.runFrom_snoc]
    exact ⟨hstep.1, hstep.2.2.trans ih.2⟩

end

/-- Only subscriptions are excluded from a drain. -/
def OnlySubscriptions (w : FlowWorld Sem) : Prop :=
  ∀ credit ∈ w.flow.credits.credits, credit.excludedFromDrain = true → credit.subscription = true

/-- Exactly the subscriptions are. -/
def Marked (w : FlowWorld Sem) : Prop :=
  ∀ credit ∈ w.flow.credits.credits, credit.excludedFromDrain = credit.subscription

/-- A step leaves the credits, adds one that is not excluded, takes one away
or begins a drain. -/
theorem step_credits (w : FlowWorld Sem) (event : FlowEvent) :
    (w.step event).1.flow.credits = w.flow.credits ∨
      (w.flow.closed = false ∨ w.admitting ≠ none) ∧ (∃ corr subscription watchCredit,
        (w.step event).1.flow.credits = w.flow.credits.acquire corr subscription watchCredit) ∨
      (∃ corr released,
        w.flow.credits.release corr = ((w.step event).1.flow.credits, some released)) ∨
      event = .beginDrain ∧ w.admitting = none ∧
        (w.step event).1.flow.credits = w.flow.credits.captureSubscriptionExclusions.1 := by
  have hstep := step_flowStep w event
  generalize (w.step event).1 = w' at hstep
  generalize (w.step event).2 = answer at hstep
  cases hstep with
  | same | waiting | served | begun | refused | closed => exact .inl rfl
  | dropped _ task acquirer _ _ hget => exact .inl (dropAcquirer_untouched hget).credits
  | recorded task acquirer _ _ _ hopen => exact .inr (.inl ⟨.inl hopen, _, _, _, rfl⟩)
  | finished _ _ _ _ hlock =>
    exact .inr (.inl ⟨.inr (by rw [hlock]; exact Option.some_ne_none _), _, _, _, rfl⟩)
  | released corr _ released _ hrelease => exact .inr (.inr (.inl ⟨corr, released, hrelease⟩))
  | drained hlock => exact .inr (.inr (.inr ⟨rfl, hlock, rfl⟩))

/-- Every event excludes only subscriptions. -/
theorem step_onlySubscriptions (h : OnlySubscriptions w) : OnlySubscriptions (w.step event).1 := by
  intro credit hmem hexcluded
  rcases step_credits w event with hsame | ⟨-, corr, subscription, watchCredit, hadded⟩ |
    ⟨corr, released, hrelease⟩ | ⟨-, -, hcaptured⟩
  · rw [hsame] at hmem
    exact h credit hmem hexcluded
  · rw [hadded] at hmem
    rcases mem_cons.mp ((acquire_perm _).mem_iff.mp hmem) with rfl | hold
    · cases hexcluded
    · exact h credit hold hexcluded
  · exact h credit ((release_perm hrelease).mem_iff.mpr (mem_cons_of_mem _ hmem)) hexcluded
  rw [hcaptured, capture_credits] at hmem
  obtain ⟨old, hold, rfl⟩ := mem_map.mp hmem
  unfold RequestCredit.exclude at hexcluded ⊢
  split
  case isTrue hsubscription => exact hsubscription
  case isFalse hplain =>
    rw [if_neg hplain] at hexcluded
    exact absurd (h old hold hexcluded) hplain

theorem runFrom_onlySubscriptions (h : OnlySubscriptions w)
    (events : List FlowEvent) : OnlySubscriptions (w.runFrom events) :=
  List.foldlRecOn (motive := OnlySubscriptions) _ _ h fun _ h _ _ => step_onlySubscriptions h

/-- A marked credit is excluded already. -/
theorem exclude_of_marked (h : credit.excludedFromDrain = credit.subscription) :
    credit.exclude = credit := by
  unfold RequestCredit.exclude
  split
  case isTrue hsubscription =>
    rw [hsubscription] at h
    rw [← h]
  case isFalse => rfl

theorem step_beginDrain (hlock : w.admitting = none) :
    (w.step .beginDrain).1 = { w with flow := w.flow.beginDrain.1 } := by
  unfold FlowWorld.step FlowWorld.locked
  rw [hlock]
  rfl

/-- A drain marks exactly the subscriptions that are out. -/
theorem drained_marked (h : OnlySubscriptions w) (hlock : w.admitting = none) :
    Marked (w.step .beginDrain).1 := by
  intro credit hmem
  rw [step_beginDrain hlock] at hmem
  change credit ∈ w.flow.credits.captureSubscriptionExclusions.1.credits at hmem
  rw [capture_credits] at hmem
  obtain ⟨old, hold, rfl⟩ := mem_map.mp hmem
  rw [exclude_subscription]
  unfold RequestCredit.exclude
  split
  case isTrue hsubscription => exact hsubscription.symm
  case isFalse hplain =>
    rw [Bool.not_eq_true] at hplain
    rw [hplain]
    by_contra hexcluded
    rw [Bool.not_eq_false] at hexcluded
    rw [h old hold hexcluded] at hplain
    cases hplain

section

variable (hinv : FlowInv window watchWindow w) (hclosed : w.flow.closed = true) (hmarked : Marked w)
include hinv hclosed hmarked

/-- After it, what is out only shrinks, mark by mark. -/
theorem step_marked (event : FlowEvent) :
    Marked (w.step event).1 ∧
      ∀ corr, outOf (w.step event).1.flow.credits corr <+: outOf w.flow.credits corr := by
  rcases step_credits w event with hsame | ⟨hadmits, -⟩ | ⟨corr, released, hrelease⟩ |
    ⟨-, -, hcaptured⟩
  · unfold Marked
    rw [hsame]
    exact ⟨hmarked, fun corr => prefix_rfl⟩
  · rcases hadmits with hopen | hbusy
    · rw [hclosed] at hopen
      cases hopen
    · exact absurd (idle_of_closed hinv hclosed) hbusy
  · refine ⟨fun credit hmem => hmarked credit ?_, outOf_release hrelease⟩
    exact (release_perm hrelease).mem_iff.mpr (mem_cons_of_mem _ hmem)
  constructor
  · intro credit hmem
    rw [hcaptured, capture_credits] at hmem
    obtain ⟨old, hold, rfl⟩ := mem_map.mp hmem
    rw [exclude_of_marked (hmarked old hold)]
    exact hmarked old hold
  intro corr
  rw [hcaptured, outOf_capture]
  have hsame : (outOf w.flow.credits corr).map RequestCredit.exclude =
      outOf w.flow.credits corr := by
    conv_rhs => rw [← map_id (outOf w.flow.credits corr)]
    exact map_congr_left fun credit hmem =>
      exclude_of_marked (hmarked credit (mem_credits_of_outOf hmem))
  rw [hsame]

/-- So it is for the rest of a run. -/
theorem runFrom_marked :
    Marked (w.runFrom events) ∧
      ∀ corr, outOf (w.runFrom events).flow.credits corr <+: outOf w.flow.credits corr := by
  induction events using List.reverseRecOn with
  | nil => exact ⟨hmarked, fun corr => prefix_rfl⟩
  | append_singleton events event ih =>
    have hstep := step_marked (runFrom_flowInv hinv events) (runFrom_shut hinv hclosed).1 ih.1 event
    rw [FlowWorld.runFrom_snoc]
    exact ⟨hstep.1, fun corr => (hstep.2 corr).trans (ih.2 corr)⟩

end

/-- Before the first drain nothing is excluded. -/
theorem runFrom_unmarked (h : ∀ credit ∈ w.flow.credits.credits, credit.excludedFromDrain = false)
    (events : List FlowEvent)
    (hevents : ∀ p q, events = p ++ .beginDrain :: q → (w.runFrom p).admitting ≠ none) :
    ∀ credit ∈ (w.runFrom events).flow.credits.credits, credit.excludedFromDrain = false := by
  induction events using List.reverseRecOn with
  | nil => exact h
  | append_singleton events event ih =>
    have hbefore := ih fun p q heq => hevents p (q ++ [event]) (by rw [heq]; simp)
    rw [FlowWorld.runFrom_snoc]
    intro credit hmem
    rcases step_credits (w.runFrom events) event with hsame |
      ⟨-, corr, subscription, watchCredit, hadded⟩ | ⟨corr, released, hrelease⟩ |
      ⟨rfl, hlock, -⟩
    · rw [hsame] at hmem
      exact hbefore credit hmem
    · rw [hadded] at hmem
      rcases mem_cons.mp ((acquire_perm _).mem_iff.mp hmem) with rfl | hold
      · rfl
      · exact hbefore credit hold
    · exact hbefore credit ((release_perm hrelease).mem_iff.mpr (mem_cons_of_mem _ hmem))
    · exact absurd hlock (hevents events [] rfl)

/-- An event that shuts the flow, made while the lock is free. -/
def Shuts (w : FlowWorld Sem) (event : FlowEvent) : Prop :=
  (event = .beginDrain ∨ event = .close) ∧ w.admitting = none

/-- The flow is shut then. -/
theorem shuts_closed (h : Shuts w event) : (w.step event).1.flow.closed = true := by
  obtain ⟨rfl | rfl, hlock⟩ := h
  · rw [step_beginDrain hlock]
    rfl
  · unfold FlowWorld.step FlowWorld.locked
    rw [hlock]
    rfl

/-- What every interleaving of a flow keeps, from its first state `start`. -/
structure FlowLaw (window : Nat) (watchWindow : Option Nat) (start : FlowWorld Sem)
    (events : List FlowEvent) : Prop where
  /-- No more is out than the windows allow. -/
  bounded : ∀ p q, events = p ++ q →
    (start.runFrom p).flow.credits.inFlight ≤ window ∧
      watchCredits (start.runFrom p).flow.credits ≤ watchWindow.getD 0
  /-- While the flow is open both lanes keep their permits. -/
  conserved : ∀ p q, events = p ++ q → (start.runFrom p).flow.closed = false →
    permits (start.runFrom p).flow.sem + (start.runFrom p).flow.credits.inFlight +
        held (start.runFrom p) = window ∧
      (start.runFrom p).flow.watchSem.map
        (fun sem => permits sem + watchCredits (start.runFrom p).flow.credits) = watchWindow
  /-- A request refused at once changes nothing. -/
  refusedAtOnce : ∀ p corr subscription q refusal,
    events = p ++ .tryAcquire corr subscription :: q →
    ((start.runFrom p).step (.tryAcquire corr subscription)).2 = some refusal →
    start.runFrom (p ++ [.tryAcquire corr subscription]) = start.runFrom p
  /-- A watch refused by its lane leaves both lanes as it found them. -/
  refusedByLane : ∀ p corr subscription between q detail,
    events = p ++ .tryAcquire corr subscription :: between ++ .finish :: q →
    (start.runFrom p).admitting = none →
    ((start.runFrom p).step (.tryAcquire corr subscription)).2 = none →
    (∀ event ∈ between, event ≠ .finish) →
    ((start.runFrom (p ++ .tryAcquire corr subscription :: between)).step .finish).2 =
      some (.admission (.busy detail)) →
    Untouched (start.runFrom p)
      (start.runFrom (p ++ .tryAcquire corr subscription :: between ++ [.finish]))
  /-- Once shut, a flow admits nothing. -/
  shut : ∀ p shutting q event r, events = p ++ shutting :: q ++ event :: r →
    Shuts (start.runFrom p) shutting →
    ∀ answer ∈ ((start.runFrom (p ++ shutting :: q)).step event).2, answer.admits = false
  /-- Once shut, the count a drain waits on never increases. -/
  falls : ∀ p shutting q more r, events = p ++ shutting :: q ++ more ++ r →
    Shuts (start.runFrom p) shutting →
    (start.runFrom (p ++ shutting :: q ++ more)).flow.credits.drainInFlight ≤
      (start.runFrom (p ++ shutting :: q)).flow.credits.drainInFlight
  /-- Before a drain the count leaves nothing out. -/
  undrained : ∀ p q, events = p ++ q →
    (∀ p₁ p₂, p = p₁ ++ .beginDrain :: p₂ → (start.runFrom p₁).admitting ≠ none) →
    (start.runFrom p).flow.credits.drainInFlight = (start.runFrom p).flow.credits.inFlight
  /-- After it, what is out was out when the drain began, and the count leaves
  out exactly the subscriptions. -/
  excludes : ∀ p q r, events = p ++ .beginDrain :: q ++ r → (start.runFrom p).admitting = none →
    (∀ corr, outOf (start.runFrom (p ++ .beginDrain :: q)).flow.credits corr <+:
      (outOf (start.runFrom p).flow.credits corr).map RequestCredit.exclude) ∧
    (start.runFrom (p ++ .beginDrain :: q)).flow.credits.drainInFlight =
      ((start.runFrom (p ++ .beginDrain :: q)).flow.credits.credits.filter
        fun credit => !credit.subscription).length

theorem runFrom_cons : w.runFrom (event :: events) = (w.step event).1.runFrom events := rfl

/-- Every interleaving of calls on a new flow keeps its law. -/
theorem flow_keepsItsLaw (window : Nat) (busyRefusals : Bool) (watchWindow : Option Nat)
    (events : List FlowEvent) :
    FlowLaw window watchWindow (.new window busyRefusals watchWindow : FlowWorld Sem) events := by
  set start : FlowWorld Sem := .new window busyRefusals watchWindow with hstart
  have hinv : ∀ p, FlowInv window watchWindow (start.runFrom p) := runFrom_flowInv new_flowInv
  have hshut : ∀ p shutting q, Shuts (start.runFrom p) shutting →
      (start.runFrom (p ++ shutting :: q)).flow.closed = true := by
    intro p shutting q hshuts
    rw [FlowWorld.runFrom_append, runFrom_cons]
    exact (runFrom_shut (step_flowInv (hinv p)) (shuts_closed hshuts)).1
  constructor
  · intro p q _
    exact ⟨(hinv p).bounded, (hinv p).watchBounded⟩
  · intro p q _ hopen
    exact ⟨(hinv p).total hopen, (hinv p).watch hopen⟩
  · intro p corr subscription q refusal _ hanswer
    have hstep := step_flowStep (start.runFrom p) (.tryAcquire corr subscription)
    rw [hanswer] at hstep
    rw [FlowWorld.runFrom_snoc]
    generalize ((start.runFrom p).step (.tryAcquire corr subscription)).1 = w' at hstep
    cases hstep with
    | same => rfl
    | dropped _ _ _ _ hevent =>
      rcases hevent with hpoll | hrecord | hcancel
      · cases hpoll
      · cases hrecord
      · cases hcancel
  · intro p corr subscription between q detail _ hlock hbegun hbetween hanswer
    rw [FlowWorld.runFrom_append] at hanswer
    rw [append_assoc, FlowWorld.runFrom_append]
    exact refused_untouched _ corr subscription between hlock hbegun hbetween detail hanswer
  · intro p shutting q event r _ hshuts
    exact (step_shut (hinv _) (hshut p shutting q hshuts) event).2.1
  · intro p shutting q more r _ hshuts
    rw [FlowWorld.runFrom_append _ (p ++ shutting :: q)]
    exact (runFrom_shut (hinv _) (hshut p shutting q hshuts)).2
  · intro p q _ hnone
    have hunmarked := runFrom_unmarked (w := start) (fun credit h => by cases h) p hnone
    unfold CreditLedger.drainInFlight
    rw [inFlight_eq, filter_eq_self.mpr]
    intro credit hmem
    rw [hunmarked credit hmem]
    rfl
  · intro p q r _ hlock
    have honly : OnlySubscriptions (start.runFrom p) :=
      runFrom_onlySubscriptions (fun credit h => by cases h) p
    have hdrained := drained_marked honly hlock
    have hclosed := shuts_closed (w := start.runFrom p) ⟨.inl rfl, hlock⟩
    obtain ⟨hmarked, hshrunk⟩ := runFrom_marked (step_flowInv (hinv p)) hclosed hdrained
    rw [FlowWorld.runFrom_append, runFrom_cons]
    constructor
    · intro corr
      have hshrunk := hshrunk corr
      rw [step_beginDrain hlock] at hshrunk ⊢
      rw [← outOf_capture]
      exact hshrunk
    · unfold CreditLedger.drainInFlight
      refine congrArg List.length (filter_congr ?_)
      intro credit hmem
      rw [hmarked credit hmem]

end Subconscious.FlowLaws
