import Subconscious.ForwardingState
import Subconscious.Runs
import Mathlib.Data.List.Induction

/-!
# The circuit breaker around the bind relay

Each target module has a breaker that opens after a number of relay timeouts
with no accepted bind in between. When the cooldown is over one open is let
through as the probe. Every admitted open holds a guard that is settled exactly
once, at the latest when it is dropped, and a new module connection or a
promotion discards what was learned. Guards outlive both, so the state they
settle against may not be the one that admitted them.
-/

namespace Subconscious.RouteBindBreakers

open HashMaps HashMap ForwardingState Runs

/-- Identity of one admitted open. A probe's token is allocated with its guard
and is named by it. -/
abbrev GuardId := Nat

/-- What is known about one module. -/
structure ModuleBreakerState where
  /-- Relay timeouts observed with no accepted relay in between. -/
  consecutiveTimeouts : Nat
  /-- While the breaker is open, when the next arrival may probe. -/
  cooldownUntil : Option Instant
  /-- The probe that was admitted and has not settled. -/
  probeInFlight : Option GuardId
  deriving DecidableEq, Repr

/-- The state of a module without an entry. -/
def ModuleBreakerState.default : ModuleBreakerState := ⟨0, none, none⟩

/-- An outstanding admission. -/
structure RouteBindBreakerGuard where
  moduleId : String
  probeToken : Option GuardId
  deriving DecidableEq, Repr

/-- What the breaker decided for one route.open. -/
inductive RouteBindAdmission where
  | admitted (guard : RouteBindBreakerGuard) (probe : Bool)
  | refused (consecutiveTimeouts : Nat) (retryIn : Nat) (probeInFlight : Bool)
  deriving DecidableEq, Repr

/-- The breaker moved to open. -/
structure BreakerOpened where
  consecutiveTimeouts : Nat
  reopenedAfterProbe : Bool
  deriving DecidableEq, Repr

/-- The breakers of all modules. -/
abbrev Breakers := HashMap String ModuleBreakerState

section

variable (modules : Breakers) (moduleId : String)

/-- Decide whether a route.open may attempt its relay; `token` is the identity
a probe would get. -/
def admitBind (now : Instant) (token : GuardId) : Breakers × RouteBindAdmission :=
  match modules.get moduleId with
  | none => (modules, .admitted ⟨moduleId, none⟩ false)
  | some state =>
    match state.cooldownUntil with
    | none => (modules, .admitted ⟨moduleId, none⟩ false)
    | some cooldownUntil =>
      if state.probeInFlight.isSome then
        (modules, .refused state.consecutiveTimeouts 0 true)
      else if now < cooldownUntil then
        (modules, .refused state.consecutiveTimeouts (cooldownUntil - now) false)
      else
        (modules.insert moduleId { state with probeInFlight := some token },
          .admitted ⟨moduleId, some token⟩ true)

/-- The module took the bind: its entry goes. Answers whether this closed an
open breaker. -/
def recordAccepted : Breakers × Bool :=
  (modules.remove moduleId, (modules.get moduleId).any fun state => state.cooldownUntil.isSome)

section

variable (state : ModuleBreakerState) (token : Option GuardId)

/-- Only the guard whose token is the active probe may release it. -/
def ownsProbe : Bool :=
  match state.probeInFlight, token with
  | some active, some token => active = token
  | _, _ => false

/-- Release the probe slot when the token owns it. -/
def releaseProbe : ModuleBreakerState :=
  if ownsProbe state token then { state with probeInFlight := none } else state

end

/-- The relay burned its budget with no answer. The count saturates. -/
def recordTimeout (token : Option GuardId) (threshold cooldown : Nat) (now : Instant) :
    Breakers × Option BreakerOpened :=
  let state := (modules.get moduleId).getD .default
  let counted := { releaseProbe state token with
    consecutiveTimeouts := min (state.consecutiveTimeouts + 1) 0xFFFFFFFF }
  if counted.consecutiveTimeouts < threshold then (modules.insert moduleId counted, none)
  else
    (modules.insert moduleId { counted with cooldownUntil := some (now + cooldown) },
      some ⟨counted.consecutiveTimeouts, state.cooldownUntil.isSome && ownsProbe state token⟩)

/-- Every other end of a relay only releases a probe slot. -/
def recordInconclusive (token : Option GuardId) : Breakers :=
  modules.modify moduleId fun state => releaseProbe state token

/-- Discard what was learned about a module. Answers the discarded count. -/
def resetForNewModuleConnection : Breakers × Option Nat :=
  (modules.remove moduleId,
    ((modules.get moduleId).map ModuleBreakerState.consecutiveTimeouts).filter fun count =>
      0 < count)

end

/-- How a guard is settled; dropping an unsettled one is inconclusive. -/
inductive Settlement where
  | accepted
  | timeout
  | inconclusive
  | dropped
  deriving DecidableEq, Repr

/-- One step of the daemon on the breakers. -/
inductive Event where
  | admitBind (moduleId : String) (now : Instant)
  | settle (guard : GuardId) (settlement : Settlement) (now : Instant)
  | reset (moduleId : String)
  deriving DecidableEq, Repr

/-- What happened in a run, in order. -/
inductive Entry where
  | admitted (moduleId : String) (guard : GuardId)
  | timedOut (moduleId : String) (guard : GuardId)
  | accepted (moduleId : String)
  | reset (moduleId : String)
  deriving DecidableEq, Repr

/-- The breakers, the unsettled guards and what happened so far. -/
structure World where
  modules : Breakers
  guards : HashMap GuardId RouteBindBreakerGuard
  nextGuard : GuardId
  log : List Entry

/-- A daemon that just started. -/
def World.new : World := ⟨.empty, .empty, 0, []⟩

section

variable (threshold cooldown : Nat)

/-- Settle a guard. It is consumed by this. -/
def World.settle (w : World) (id : GuardId) (guard : RouteBindBreakerGuard)
    (settlement : Settlement) (now : Instant) : World :=
  let consumed := { w with guards := w.guards.remove id }
  match settlement with
  | .accepted =>
    { consumed with
      modules := (recordAccepted w.modules guard.moduleId).1
      log := w.log ++ [.accepted guard.moduleId] }
  | .timeout =>
    { consumed with
      modules := (recordTimeout w.modules guard.moduleId guard.probeToken threshold cooldown now).1
      log := w.log ++ [.timedOut guard.moduleId id] }
  | .inconclusive =>
    { consumed with modules := recordInconclusive w.modules guard.moduleId guard.probeToken }
  | .dropped =>
    { consumed with modules := recordInconclusive w.modules guard.moduleId guard.probeToken }

/-- One step. A guard that does not exist any more settles nothing. -/
def World.step (w : World) : Event → World
  | .admitBind moduleId now =>
    match admitBind w.modules moduleId now w.nextGuard with
    | (modules, .admitted guard _) =>
      ⟨modules, w.guards.insert w.nextGuard guard, w.nextGuard + 1,
        w.log ++ [.admitted moduleId w.nextGuard]⟩
    | (modules, .refused _ _ _) => { w with modules := modules }
  | .settle id settlement now =>
    match w.guards.get id with
    | none => w
    | some guard => w.settle threshold cooldown id guard settlement now
  | .reset moduleId =>
    { w with
      modules := (resetForNewModuleConnection w.modules moduleId).1
      log := w.log ++ [.reset moduleId] }

/-- The state after a run. -/
def run (events : List Event) : World :=
  events.foldl (World.step threshold cooldown) .new

/-- The last event of a run is one step. -/
theorem run_snoc (events : List Event) (event : Event) :
    run threshold cooldown (events ++ [event]) =
      (run threshold cooldown events).step threshold cooldown event := by
  unfold run
  rw [List.foldl_append]
  rfl

end

/-- A timeout of a module counts until its next accepted bind or reset. -/
def countTimeout (moduleId : String) (counted : List GuardId) : Entry → List GuardId
  | .timedOut other guard => if other = moduleId then counted ++ [guard] else counted
  | .accepted other => if other = moduleId then [] else counted
  | .reset other => if other = moduleId then [] else counted
  | .admitted _ _ => counted

/-- The guards whose timeouts count for a module. -/
def countedTimeouts (log : List Entry) (moduleId : String) : List GuardId :=
  log.foldl (countTimeout moduleId) []

/-- An admission of a module is current until its next reset. -/
def admitEntry (moduleId : String) (admitted : List GuardId) : Entry → List GuardId
  | .admitted other guard => if other = moduleId then admitted ++ [guard] else admitted
  | .reset other => if other = moduleId then [] else admitted
  | _ => admitted

/-- The guards admitted for a module since its last reset. -/
def admittedSinceReset (log : List Entry) (moduleId : String) : List GuardId :=
  log.foldl (admitEntry moduleId) []

section

variable (log : List Entry) (entry : Entry) (moduleId : String)

/-- The last entry of a log counts last. -/
theorem countedTimeouts_snoc :
    countedTimeouts (log ++ [entry]) moduleId =
      countTimeout moduleId (countedTimeouts log moduleId) entry := by
  unfold countedTimeouts
  rw [List.foldl_append]
  rfl

/-- The last entry of a log is the most recent. -/
theorem admittedSinceReset_snoc :
    admittedSinceReset (log ++ [entry]) moduleId =
      admitEntry moduleId (admittedSinceReset log moduleId) entry := by
  unfold admittedSinceReset
  rw [List.foldl_append]
  rfl

end

/-- A timeout of a relay that was admitted before the last reset of its module,
or an accepted bind of a relay while another one probes. -/
def stale (w : World) : Event → Bool
  | .settle id .timeout _ =>
    (w.guards.get id).any fun guard => id ∉ admittedSinceReset w.log guard.moduleId
  | .settle id .accepted _ =>
    (w.guards.get id).any fun guard => (w.modules.get guard.moduleId).any fun state =>
      state.probeInFlight.any fun token => guard.probeToken ≠ some token
  | _ => false

/-- No step of a run is a stale settlement. -/
abbrev SettlesCurrent (threshold cooldown : Nat) (events : List Event) : Prop :=
  Throughout (World.step threshold cooldown) (fun w event => stale w event = false) .new events

section

variable (state : ModuleBreakerState) (token : Option GuardId)

/-- Releasing a slot forgets no timeout. -/
@[simp] theorem releaseProbe_consecutiveTimeouts :
    (releaseProbe state token).consecutiveTimeouts = state.consecutiveTimeouts := by
  unfold releaseProbe
  split <;> rfl

/-- Releasing a slot closes no breaker. -/
@[simp] theorem releaseProbe_cooldownUntil :
    (releaseProbe state token).cooldownUntil = state.cooldownUntil := by
  unfold releaseProbe
  split <;> rfl

end

variable {guard : RouteBindBreakerGuard} {id : GuardId} {w : World}

/-- A slot is released by its own token and by no other. -/
theorem releaseProbe_probe :
    (releaseProbe state token).probeInFlight = some probe ↔
      state.probeInFlight = some probe ∧ token ≠ some probe := by
  unfold releaseProbe ownsProbe
  cases hprobe : state.probeInFlight with
  | none => simp [hprobe]
  | some active =>
    cases token with
    | none => simp [hprobe]
    | some token =>
      by_cases heq : active = token
      · simp only [heq, decide_true, if_true]
        constructor
        · nofun
        rintro ⟨h, hne⟩
        cases h
        exact absurd rfl hne
      · simp only [heq, decide_false, Bool.false_eq_true, if_false, hprobe, Option.some.injEq]
        constructor
        · rintro rfl
          exact ⟨rfl, fun h => heq (Option.some.inj h).symm⟩
        · exact fun h => h.1

/-- What a settlement leaves of the entry of its guard's module. -/
def settledEntry (threshold cooldown : Nat) (entry : Option ModuleBreakerState)
    (token : Option GuardId) (now : Instant) : Settlement → Option ModuleBreakerState
  | .accepted => none
  | .timeout =>
    let state := entry.getD .default
    let counted := { releaseProbe state token with
      consecutiveTimeouts := min (state.consecutiveTimeouts + 1) 0xFFFFFFFF }
    some (if counted.consecutiveTimeouts < threshold then counted
      else { counted with cooldownUntil := some (now + cooldown) })
  | .inconclusive => entry.map fun state => releaseProbe state token
  | .dropped => entry.map fun state => releaseProbe state token

/-- A settlement moves no other module's entry. -/
theorem settle_get (cooldown : Nat)
    (guard : RouteBindBreakerGuard) :
    (w.settle threshold cooldown id guard settlement now).modules.get moduleId =
      if moduleId = guard.moduleId then
        settledEntry threshold cooldown (w.modules.get guard.moduleId) guard.probeToken now settlement
      else w.modules.get moduleId := by
  cases settlement with
  | accepted => exact get_remove _ _ _
  | timeout =>
    simp only [World.settle, recordTimeout, settledEntry]
    split <;> exact get_insert _ _ _ _
  | inconclusive | dropped => exact get_modify _ _ _ _

/-- A slot that is held after a settlement was held before, by another token. -/
theorem settledEntry_probe
    (h : settledEntry threshold cooldown entry token now settlement = some state)
    (hprobe : state.probeInFlight = some probe) :
    (∃ old, entry = some old ∧ old.probeInFlight = some probe) ∧ token ≠ some probe := by
  have hreleased : ∀ old, (releaseProbe old token).probeInFlight = some probe → entry = some old →
      (∃ old, entry = some old ∧ old.probeInFlight = some probe) ∧ token ≠ some probe := by
    intro old hold hentry
    rw [releaseProbe_probe] at hold
    exact ⟨⟨old, hentry, hold.1⟩, hold.2⟩
  cases settlement with
  | accepted => cases h
  | timeout =>
    have hslot : (releaseProbe (entry.getD .default) token).probeInFlight = some probe := by
      cases h
      rw [← hprobe]
      split <;> rfl
    cases entry with
    | none => cases (releaseProbe_probe.mp hslot).1
    | some old => exact hreleased old hslot rfl
  | inconclusive | dropped =>
    obtain ⟨old, hold, rfl⟩ := Option.map_eq_some_iff.mp h
    exact hreleased old hprobe hold

/-- What an admission does: a plain guard, one probe on a free slot of an open
breaker, or a refusal. -/
theorem admit_cases (modules : Breakers) (moduleId : String) (now : Instant) (token : GuardId) :
    admitBind modules moduleId now token = (modules, .admitted ⟨moduleId, none⟩ false) ∨
      (∃ state, modules.get moduleId = some state ∧ state.probeInFlight = none ∧
        state.cooldownUntil.isSome ∧
        admitBind modules moduleId now token =
          (modules.insert moduleId { state with probeInFlight := some token },
            .admitted ⟨moduleId, some token⟩ true)) ∨
      ∃ count retryIn probing,
        admitBind modules moduleId now token = (modules, .refused count retryIn probing) := by
  unfold admitBind
  cases hstate : modules.get moduleId with
  | none => exact .inl rfl
  | some state =>
    dsimp only
    cases hcooldown : state.cooldownUntil with
    | none => exact .inl rfl
    | some =>
      dsimp only
      split
      case isTrue => exact .inr (.inr ⟨_, _, _, rfl⟩)
      case isFalse hprobe =>
        split
        case isTrue => exact .inr (.inr ⟨_, _, _, rfl⟩)
        refine .inr (.inl ⟨state, rfl, Option.not_isSome_iff_eq_none.mp hprobe, ?_, ?_⟩)
        · rw [hcooldown]
          rfl
        · rw [hcooldown]

/-- What a settlement makes of the timeouts that count for its guard's module. -/
def settledTimeouts (counted : List GuardId) (id : GuardId) : Settlement → List GuardId
  | .accepted => []
  | .timeout => counted ++ [id]
  | .inconclusive => counted
  | .dropped => counted

/-- A settlement counts for no other module. -/
theorem settle_timeouts :
    countedTimeouts (w.settle threshold cooldown id guard settlement now).log moduleId =
      if moduleId = guard.moduleId then
        settledTimeouts (countedTimeouts w.log guard.moduleId) id settlement
      else countedTimeouts w.log moduleId := by
  by_cases heq : moduleId = guard.moduleId
  · subst heq
    cases settlement <;> simp [World.settle, countedTimeouts_snoc, countTimeout, settledTimeouts]
  · cases settlement <;>
      simp [World.settle, countedTimeouts_snoc, countTimeout, heq, Ne.symm heq]

/-- An entry counts the timeouts, up to where the count saturates. -/
def Counts (entry : Option ModuleBreakerState) (counted : List GuardId) : Prop :=
  (entry.getD .default).consecutiveTimeouts = min counted.length 0xFFFFFFFF

/-- A settlement keeps the count. -/
theorem settledEntry_counts (h : Counts entry counted) :
    Counts (settledEntry threshold cooldown entry token now settlement)
      (settledTimeouts counted id settlement) := by
  unfold Counts at h ⊢
  cases settlement with
  | accepted => rfl
  | timeout =>
    have hsplit : (settledEntry threshold cooldown entry token now .timeout).getD .default =
        if min ((entry.getD .default).consecutiveTimeouts + 1) 0xFFFFFFFF < threshold then
          { releaseProbe (entry.getD .default) token with
            consecutiveTimeouts := min ((entry.getD .default).consecutiveTimeouts + 1) 0xFFFFFFFF }
        else
          { releaseProbe (entry.getD .default) token with
            consecutiveTimeouts := min ((entry.getD .default).consecutiveTimeouts + 1) 0xFFFFFFFF
            cooldownUntil := some (now + cooldown) } := rfl
    rw [hsplit, settledTimeouts, List.length_append, List.length_singleton]
    split <;> dsimp only <;> omega
  | inconclusive | dropped =>
    cases entry with
    | none => exact h
    | some state => exact (releaseProbe_consecutiveTimeouts state token).trans h

/-- A settlement opens a breaker only at the threshold. -/
theorem settledEntry_opened
    (hold : ∀ old, entry = some old → old.cooldownUntil.isSome → threshold ≤ old.consecutiveTimeouts)
    (hbound : ∀ old, entry = some old → old.consecutiveTimeouts ≤ 0xFFFFFFFF)
    (h : settledEntry threshold cooldown entry token now settlement = some state)
    (hopen : state.cooldownUntil.isSome) : threshold ≤ state.consecutiveTimeouts := by
  cases settlement with
  | accepted => cases h
  | timeout =>
    simp only [settledEntry, Option.some.injEq] at h
    subst h
    split at hopen
    case isFalse hlow =>
      rw [if_neg hlow]
      exact Nat.le_of_not_lt hlow
    case isTrue hlow =>
      rw [releaseProbe_cooldownUntil] at hopen
      cases hentry : entry with
      | none => simp [hentry, ModuleBreakerState.default] at hopen
      | some old =>
        rw [hentry] at hopen hlow
        have hthreshold := hold old hentry hopen
        have hle := hbound old hentry
        simp only [Option.getD_some] at hlow
        omega
  | inconclusive | dropped =>
    obtain ⟨old, hget, rfl⟩ := Option.map_eq_some_iff.mp h
    rw [releaseProbe_cooldownUntil] at hopen
    rw [releaseProbe_consecutiveTimeouts]
    exact hold old hget hopen

/-- Slots are held by their guards, a count is of timeouts of distinct settled
guards, and an open breaker has its timeouts. -/
structure BreakerInv (threshold : Nat) (w : World) : Prop where
  tokens : ∀ id guard, w.guards.get id = some guard →
    id < w.nextGuard ∧ ∀ token, guard.probeToken = some token → token = id
  held : ∀ moduleId state token, w.modules.get moduleId = some state →
    state.probeInFlight = some token →
    ∃ guard, w.guards.get token = some guard ∧ guard.moduleId = moduleId ∧
      guard.probeToken = some token
  counts : ∀ moduleId, Counts (w.modules.get moduleId) (countedTimeouts w.log moduleId)
  distinct : ∀ moduleId, (countedTimeouts w.log moduleId).Nodup
  settled : ∀ moduleId id, id ∈ countedTimeouts w.log moduleId →
    id < w.nextGuard ∧ w.guards.get id = none
  opened : ∀ moduleId state, w.modules.get moduleId = some state →
    state.cooldownUntil.isSome → threshold ≤ state.consecutiveTimeouts

/-- A daemon that just started has counted nothing. -/
theorem breakerInv_new : BreakerInv threshold .new := by
  constructor <;> simp [World.new, Counts, countedTimeouts, ModuleBreakerState.default]

section

variable (h : BreakerInv threshold w)
include h

/-- No count is above where it saturates. -/
theorem BreakerInv.bounded (hget : w.modules.get moduleId = some state) :
    state.consecutiveTimeouts = min (countedTimeouts w.log moduleId).length 0xFFFFFFFF := by
  have hcount := h.counts moduleId
  rw [hget] at hcount
  exact hcount

/-- An admitted guard is the newest one. -/
theorem BreakerInv.admitted (moduleId : String)
    (htoken : ∀ token, guard.probeToken = some token → token = w.nextGuard)
    (hheld : ∀ other state token, modules.get other = some state →
      state.probeInFlight = some token →
      (∃ old, w.modules.get other = some old ∧ old.probeInFlight = some token) ∨
        token = w.nextGuard ∧ guard.moduleId = other ∧ guard.probeToken = some token)
    (hcounts : ∀ other, (modules.get other).map (fun state => (state.consecutiveTimeouts,
      state.cooldownUntil)) = (w.modules.get other).map fun state => (state.consecutiveTimeouts,
      state.cooldownUntil)) :
    BreakerInv threshold ⟨modules, w.guards.insert w.nextGuard guard, w.nextGuard + 1,
      w.log ++ [.admitted moduleId w.nextGuard]⟩ := by
  have hlog : ∀ other, countedTimeouts (w.log ++ [.admitted moduleId w.nextGuard]) other =
      countedTimeouts w.log other := fun other => countedTimeouts_snoc _ _ _
  constructor
  case tokens =>
    refine forall_insert ⟨Nat.lt_succ_self _, htoken⟩ ?_
    intro id other hget
    obtain ⟨hlt, hown⟩ := h.tokens id other hget
    exact ⟨Nat.lt_succ_of_lt hlt, hown⟩
  case held =>
    intro other state token hget hprobe
    rcases hheld other state token hget hprobe with ⟨old, hold, hslot⟩ | ⟨rfl, hmodule, hown⟩
    · obtain ⟨holder, hholder, hmodule, hown⟩ := h.held other old token hold hslot
      have hlt := (h.tokens token holder hholder).1
      refine ⟨holder, ?_, hmodule, hown⟩
      rw [get_insert, if_neg (Nat.ne_of_lt hlt)]
      exact hholder
    · refine ⟨guard, ?_, hmodule, hown⟩
      rw [get_insert, if_pos rfl]
  case counts =>
    intro other
    rw [Counts, hlog, ← h.counts other]
    have hsame := hcounts other
    cases hnew : modules.get other <;> cases hold : w.modules.get other <;> simp_all
  case distinct => exact fun other => (hlog other).symm ▸ h.distinct other
  case settled =>
    intro other id hmem
    rw [hlog] at hmem
    obtain ⟨hlt, hnone⟩ := h.settled other id hmem
    refine ⟨Nat.lt_succ_of_lt hlt, ?_⟩
    rw [get_insert, if_neg (Nat.ne_of_lt hlt)]
    exact hnone
  case opened =>
    intro other state hget hopen
    have hsame := hcounts other
    rw [hget] at hsame
    obtain ⟨old, hold, heq⟩ := Option.map_eq_some_iff.mp hsame.symm
    obtain ⟨hcount, hcooldown⟩ := Prod.mk.inj heq
    rw [← hcount]
    exact h.opened other old hold (hcooldown ▸ hopen)

/-- A settlement consumes its guard; what it leaves of a slot belongs to
another guard. -/
theorem BreakerInv.settle (hguard : w.guards.get id = some guard) (settlement : Settlement)
    (now : Instant) :
    BreakerInv threshold (w.settle threshold cooldown id guard settlement now) := by
  have hguards : (w.settle threshold cooldown id guard settlement now).guards =
      w.guards.remove id := by cases settlement <;> rfl
  have hnext : (w.settle threshold cooldown id guard settlement now).nextGuard = w.nextGuard := by
    cases settlement <;> rfl
  have hfresh : ∀ moduleId, id ∉ countedTimeouts w.log moduleId := by
    intro moduleId hmem
    rw [(h.settled moduleId id hmem).2] at hguard
    cases hguard
  have hmember : ∀ moduleId other,
      other ∈ countedTimeouts (w.settle threshold cooldown id guard settlement now).log moduleId →
      other ∈ countedTimeouts w.log moduleId ∨ other = id := by
    intro moduleId other hmem
    rw [settle_timeouts] at hmem
    split at hmem
    case isFalse => exact .inl hmem
    case isTrue heq =>
      subst heq
      cases settlement with
      | accepted => cases hmem
      | timeout => exact (List.mem_append.mp hmem).imp_right List.mem_singleton.mp
      | inconclusive | dropped => exact .inl hmem
  constructor
  case tokens =>
    intro other found hget
    rw [hguards] at hget
    rw [hnext]
    exact h.tokens other found (of_get_remove hget).2
  case held =>
    intro moduleId state token hget hprobe
    have hbefore : ∃ old, w.modules.get moduleId = some old ∧ old.probeInFlight = some token ∧
        (moduleId = guard.moduleId → guard.probeToken ≠ some token) := by
      rw [settle_get] at hget
      split at hget
      case isTrue heq =>
        obtain ⟨⟨old, hold, hslot⟩, hother⟩ := settledEntry_probe hget hprobe
        exact ⟨old, heq ▸ hold, hslot, fun _ => hother⟩
      case isFalse hne => exact ⟨state, hget, hprobe, fun heq => absurd heq hne⟩
    obtain ⟨old, hold, hslot, hother⟩ := hbefore
    obtain ⟨holder, hholder, hmodule, hown⟩ := h.held moduleId old token hold hslot
    have hne : token ≠ id := by
      rintro rfl
      rw [hguard] at hholder
      cases hholder
      exact hother hmodule.symm hown
    refine ⟨holder, ?_, hmodule, hown⟩
    rw [hguards, get_remove, if_neg hne]
    exact hholder
  case counts =>
    intro moduleId
    rw [settle_get, settle_timeouts]
    split
    case isTrue => exact settledEntry_counts (h.counts guard.moduleId)
    case isFalse => exact h.counts moduleId
  case distinct =>
    intro moduleId
    rw [settle_timeouts]
    split
    case isFalse => exact h.distinct moduleId
    case isTrue =>
      cases settlement with
      | accepted => exact List.nodup_nil
      | timeout => exact (h.distinct _).append (List.nodup_singleton id) (by simpa using hfresh _)
      | inconclusive | dropped => exact h.distinct _
  case settled =>
    intro moduleId other hmem
    rw [hnext, hguards, get_remove]
    rcases hmember moduleId other hmem with hold | rfl
    · obtain ⟨hlt, hnone⟩ := h.settled moduleId other hold
      exact ⟨hlt, by rw [hnone, ite_self]⟩
    · exact ⟨(h.tokens other guard hguard).1, if_pos rfl⟩
  case opened =>
    intro moduleId state hget
    rw [settle_get] at hget
    split at hget
    case isTrue =>
      refine settledEntry_opened (h.opened guard.moduleId) ?_ hget
      intro old hold
      rw [h.bounded hold]
      exact Nat.min_le_right _ _
    case isFalse => exact h.opened moduleId state hget

/-- A reset discards what was learned of its module. -/
theorem BreakerInv.reset (moduleId : String) :
    BreakerInv threshold { w with
      modules := (resetForNewModuleConnection w.modules moduleId).1
      log := w.log ++ [.reset moduleId] } := by
  have hget : ∀ other state, (w.modules.remove moduleId).get other = some state →
      w.modules.get other = some state := fun other state hstate => (of_get_remove hstate).2
  have hlog : ∀ other, countedTimeouts (w.log ++ [.reset moduleId]) other =
      if moduleId = other then [] else countedTimeouts w.log other :=
    fun other => countedTimeouts_snoc _ _ _
  constructor
  case tokens => exact h.tokens
  case held => exact fun other state token hstate => h.held other state token (hget other state hstate)
  case counts =>
    intro other
    change Counts ((w.modules.remove moduleId).get other) _
    rw [hlog, get_remove]
    by_cases heq : other = moduleId
    · rw [if_pos heq, if_pos heq.symm]
      rfl
    · rw [if_neg heq, if_neg (Ne.symm heq)]
      exact h.counts other
  case distinct =>
    intro other
    rw [hlog]
    split
    case isTrue => exact List.nodup_nil
    case isFalse => exact h.distinct other
  case settled =>
    intro other id hmem
    rw [hlog] at hmem
    split at hmem
    case isTrue => cases hmem
    case isFalse => exact h.settled other id hmem
  case opened => exact fun other state hstate => h.opened other state (hget other state hstate)

/-- An admission gives out a guard, a probe on a free slot, or nothing. -/
theorem BreakerInv.admitBind (moduleId : String) (now : Instant) :
    BreakerInv threshold (w.step threshold cooldown (.admitBind moduleId now)) := by
  rcases admit_cases w.modules moduleId now w.nextGuard with
    hplain | ⟨state, hstate, hfree, -, hprobe⟩ | ⟨count, retryIn, probing, hrefused⟩
  · simp only [World.step, hplain]
    refine h.admitted moduleId nofun ?_ fun _ => rfl
    intro other state token hget hslot
    exact .inl ⟨state, hget, hslot⟩
  · simp only [World.step, hprobe]
    refine h.admitted moduleId (fun token htoken => (Option.some.inj htoken).symm) ?_ ?_
    · intro other found token hget hslot
      rcases of_get_insert hget with ⟨heq, rfl⟩ | ⟨-, hget⟩
      · cases hslot
        exact .inr ⟨rfl, heq.symm, rfl⟩
      · exact .inl ⟨found, hget, hslot⟩
    · intro other
      rw [get_insert]
      split
      case isTrue heq =>
        rw [heq, hstate]
        rfl
      case isFalse => rfl
  · simp only [World.step, hrefused]
    exact h

omit h in
/-- Every step keeps the invariant. -/
theorem World.step_inv {w : World} (h : BreakerInv threshold w)
    (event : Event) : BreakerInv threshold (w.step threshold cooldown event) := by
  cases event with
  | admitBind moduleId now => exact h.admitBind moduleId now
  | reset moduleId => exact h.reset moduleId
  | settle id settlement now =>
    simp only [World.step]
    cases hguard : w.guards.get id with
    | none => exact h
    | some => exact h.settle hguard settlement now

omit h in
/-- Every run keeps the invariant. -/
theorem run_breakerInv : BreakerInv threshold (run threshold cooldown events) := by
  induction events using List.reverseRecOn with
  | nil => exact breakerInv_new
  | append_singleton events event ih =>
    rw [run_snoc]
    exact World.step_inv ih event

omit h in
/-- A settlement of another guard leaves the slot, unless it is stale. -/
theorem settle_other (hguard : w.guards.get id = some guard)
    (hcurrent : stale w (.settle id settlement now) = false)
    (hstate : w.modules.get moduleId = some state)
    (hslot : state.probeInFlight = some token) (hother : guard.probeToken ≠ some token) :
    ∃ state', (w.settle threshold cooldown id guard settlement now).modules.get moduleId =
      some state' ∧ state'.probeInFlight = some token := by
  rw [settle_get]
  by_cases heq : moduleId = guard.moduleId
  · subst heq
    rw [if_pos rfl, hstate]
    have hkept : (releaseProbe state guard.probeToken).probeInFlight = some token :=
      releaseProbe_probe.mpr ⟨hslot, hother⟩
    cases settlement with
    | accepted => simp [stale, hguard, hstate, hslot, hother] at hcurrent
    | timeout =>
      refine ⟨_, rfl, ?_⟩
      rw [← hkept]
      split <;> rfl
    | inconclusive | dropped => exact ⟨_, rfl, hkept⟩
  · rw [if_neg heq]
    exact ⟨state, hstate, hslot⟩

/-- A settlement of the probe itself frees its slot. -/
theorem settle_own (hguard : w.guards.get id = some guard)
    (hstate : (w.settle threshold cooldown id guard settlement now).modules.get moduleId =
      some state) : state.probeInFlight ≠ some id := by
  intro hslot
  have hinv := @World.step_inv threshold cooldown w h (.settle id settlement now)
  simp only [World.step, hguard] at hinv
  obtain ⟨holder, hholder, -⟩ := hinv.held moduleId state id hstate hslot
  have hgone : (w.settle threshold cooldown id guard settlement now).guards.get id = none := by
    cases settlement <;> simp [World.settle]
  rw [hgone] at hholder
  cases hholder

end

/-- Every counted timeout is of a relay admitted since the last reset. -/
def CountsCurrent (w : World) : Prop :=
  ∀ moduleId guard, guard ∈ countedTimeouts w.log moduleId →
    guard ∈ admittedSinceReset w.log moduleId

/-- One entry keeps this when a timeout is of a current relay. -/
theorem countsCurrent_snoc
    (h : ∀ guard ∈ countedTimeouts log moduleId, guard ∈ admittedSinceReset log moduleId)
    (hentry : ∀ guard, entry = .timedOut moduleId guard → guard ∈ admittedSinceReset log moduleId) :
    ∀ guard ∈ countedTimeouts (log ++ [entry]) moduleId,
      guard ∈ admittedSinceReset (log ++ [entry]) moduleId := by
  intro guard hmem
  rw [countedTimeouts_snoc] at hmem
  rw [admittedSinceReset_snoc]
  cases entry with
  | admitted =>
    simp only [countTimeout, admitEntry] at hmem ⊢
    split
    case isTrue => exact List.mem_append_left _ (h guard hmem)
    case isFalse => exact h guard hmem
  | timedOut other late =>
    simp only [countTimeout, admitEntry] at hmem ⊢
    split at hmem
    case isTrue heq =>
      rcases List.mem_append.mp hmem with hold | hnew
      · exact h guard hold
      · rw [List.mem_singleton.mp hnew]
        exact hentry late (by rw [heq])
    case isFalse => exact h guard hmem
  | accepted =>
    simp only [countTimeout, admitEntry] at hmem ⊢
    split at hmem
    case isTrue => cases hmem
    case isFalse => exact h guard hmem
  | reset =>
    simp only [countTimeout, admitEntry] at hmem ⊢
    split at hmem
    case isTrue => cases hmem
    case isFalse hne =>
      rw [if_neg hne]
      exact h guard hmem

/-- A step that is not stale keeps this. -/
theorem World.step_countsCurrent (h : CountsCurrent w) (hevent : stale w event = false) :
    CountsCurrent (w.step threshold cooldown event) := by
  cases event with
  | admitBind moduleId now =>
    rcases admit_cases w.modules moduleId now w.nextGuard with
      hplain | ⟨state, -, -, -, hprobe⟩ | ⟨count, retryIn, probing, hrefused⟩
    · simp only [World.step, hplain]
      exact fun other => countsCurrent_snoc (h other) nofun
    · simp only [World.step, hprobe]
      exact fun other => countsCurrent_snoc (h other) nofun
    · simp only [World.step, hrefused]
      exact h
  | reset => exact fun other => countsCurrent_snoc (h other) nofun
  | settle id settlement =>
    simp only [World.step]
    cases hguard : w.guards.get id with
    | none => exact h
    | some guard =>
      cases settlement with
      | accepted =>
        exact fun other => countsCurrent_snoc (h other) nofun
      | timeout =>
        intro other
        refine countsCurrent_snoc (h other) ?_
        intro late heq
        cases heq
        simp only [stale, hguard, Option.any_some, decide_eq_false_iff_not, not_not]
          at hevent
        exact hevent
      | inconclusive | dropped => exact h

/-- In a run without stale settlements every counted timeout is current. -/
theorem run_countsCurrent (h : SettlesCurrent threshold cooldown events) :
    CountsCurrent (run threshold cooldown events) :=
  h.induction CountsCurrent (fun _ _ hevent h => World.step_countsCurrent h hevent) nofun

/-- What holds of the breakers in every state of a run, and of every settlement. -/
structure BreakerLaw (threshold cooldown : Nat) (events : List Event) : Prop where
  /-- A held slot belongs to exactly one unsettled guard. -/
  held : ∀ p q moduleId state token, events = p ++ q →
    (run threshold cooldown p).modules.get moduleId = some state →
    state.probeInFlight = some token →
    ∃! id, ∃ guard, (run threshold cooldown p).guards.get id = some guard ∧
      guard.moduleId = moduleId ∧ guard.probeToken = some token
  /-- However that guard is settled, the slot is free. -/
  freed : ∀ p id settlement now q guard moduleId state,
    events = p ++ .settle id settlement now :: q →
    (run threshold cooldown p).guards.get id = some guard → guard.probeToken = some id →
    (run threshold cooldown (p ++ [.settle id settlement now])).modules.get moduleId = some state →
    state.probeInFlight ≠ some id
  /-- A settlement of another guard leaves the slot. -/
  late : ∀ p id settlement now q guard moduleId state token,
    events = p ++ .settle id settlement now :: q →
    (run threshold cooldown p).guards.get id = some guard →
    (run threshold cooldown p).modules.get moduleId = some state →
    state.probeInFlight = some token → guard.probeToken ≠ some token →
    ∃ state', (run threshold cooldown (p ++ [.settle id settlement now])).modules.get moduleId =
      some state' ∧ state'.probeInFlight = some token
  /-- The count of a module is of distinct relays that timed out since its last
  accepted bind or reset, each of them admitted since its last reset. -/
  counted : ∀ p q moduleId state, events = p ++ q →
    (run threshold cooldown p).modules.get moduleId = some state →
    ∃ relays : List GuardId, relays.Nodup ∧
      state.consecutiveTimeouts = min relays.length 0xFFFFFFFF ∧
      ∀ id ∈ relays, id ∈ countedTimeouts (run threshold cooldown p).log moduleId ∧
        id ∈ admittedSinceReset (run threshold cooldown p).log moduleId
  /-- An open breaker has counted its threshold. -/
  opened : ∀ p q moduleId state, events = p ++ q →
    (run threshold cooldown p).modules.get moduleId = some state → state.cooldownUntil.isSome →
    threshold ≤ state.consecutiveTimeouts

/-- In every run in which no relay times out after a reset that its admission
came before, and none is accepted while another one probes, the breakers keep
their law. -/
theorem run_breakerLaw (threshold cooldown : Nat) (events : List Event)
    (h : SettlesCurrent threshold cooldown events) :
    BreakerLaw threshold cooldown events := by
  constructor
  case held =>
    intro p q moduleId state token _ hstate hslot
    have hinv := @run_breakerInv threshold cooldown p
    refine ⟨token, hinv.held moduleId state token hstate hslot, ?_⟩
    rintro id ⟨guard, hguard, -, hown⟩
    exact ((hinv.tokens id guard hguard).2 token hown).symm
  case freed =>
    intro p id settlement now q guard moduleId state _ hguard _ hstate
    rw [run_snoc] at hstate
    simp only [World.step, hguard] at hstate
    exact settle_own run_breakerInv hguard hstate
  case late =>
    intro p id settlement now q guard moduleId state token hsplit hguard hstate hslot hother
    subst hsplit
    rw [run_snoc]
    simp only [World.step, hguard]
    exact settle_other hguard ((throughout_append _ _).mp h).2.1 hstate hslot hother
  case counted =>
    rintro p q moduleId state rfl hstate
    have hinv := @run_breakerInv threshold cooldown p
    refine ⟨_, hinv.distinct moduleId, hinv.bounded hstate, ?_⟩
    exact fun id hmem => ⟨hmem, run_countsCurrent ((throughout_append _ _).mp h).1 moduleId id hmem⟩
  case opened => exact fun p q moduleId state _ => run_breakerInv.opened moduleId state

/-- Three relays time out, the cooldown passes and one probe is let through. -/
def probeAfterCooldown : List Event :=
  [.admitBind "m" 0, .admitBind "m" 0, .admitBind "m" 0, .settle 0 .timeout 12, .settle 1 .timeout 12,
    .settle 2 .timeout 12, .admitBind "m" 20, .admitBind "m" 40, .settle 3 .timeout 52]

/-- The run keeps the law, with four timeouts counted and the slot free again. -/
theorem probeAfterCooldown_breakerLaw :
    SettlesCurrent 3 20 probeAfterCooldown ∧
      (run 3 20 probeAfterCooldown).modules.get "m" = some ⟨4, some 72, none⟩ ∧
      BreakerLaw 3 20 probeAfterCooldown :=
  ⟨by decide, by decide, run_breakerLaw 3 20 probeAfterCooldown (by decide)⟩

/-- Three relays are admitted, a promotion resets the breaker, and then they
time out. -/
def timeoutsAcrossReset : List Event :=
  [.admitBind "m" 0, .admitBind "m" 0, .admitBind "m" 0, .reset "m", .settle 0 .timeout 12,
    .settle 1 .timeout 12, .settle 2 .timeout 12]

/-- The breaker opens on three of four relays; the fourth is accepted while a probe
is in flight. -/
def acceptedLate : List Event :=
  [.admitBind "m" 0, .admitBind "m" 0, .admitBind "m" 0, .admitBind "m" 0, .settle 0 .timeout 12,
    .settle 1 .timeout 12, .settle 2 .timeout 12, .admitBind "m" 40, .settle 3 .accepted 41]

/-- The breaker of the new process is open, on timeouts of the old one only, and
a late acceptance takes the slot of a newer probe that is not settled. -/
theorem stale_settlements_break_law :
    ((run 3 20 timeoutsAcrossReset).modules.get "m" = some ⟨3, some 32, none⟩ ∧
      countedTimeouts (run 3 20 timeoutsAcrossReset).log "m" = [0, 1, 2] ∧
      admittedSinceReset (run 3 20 timeoutsAcrossReset).log "m" = []) ∧
    (run 3 20 acceptedLate.dropLast).modules.get "m" = some ⟨3, some 32, some 4⟩ ∧
      (run 3 20 acceptedLate).modules.get "m" = none ∧
      (run 3 20 acceptedLate).guards.get 4 = some ⟨"m", some 4⟩ := by
  decide

end Subconscious.RouteBindBreakers
