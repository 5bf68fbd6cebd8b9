import Subconscious.Runs
import Subconscious.SpawnEvents

/-!
# The spawn consumer of the bus

The bus keeps a census with one entry for each module, which names the
credential it issued and the generation of the process that asked for it. The
spawn consumer revokes the entry of a process that exited, on the exit event or
when a reconciliation finds no live process at the entry's generation. Swaps,
daemon restarts and issuance go on while it lists, judges and revokes.
-/

namespace Subconscious.SpawnConsumer

open Runs HashMaps HashMap SpawnEvents

/-- One entry of the census. -/
structure CensusValue where
  spawnGeneration : Nat
  /-- The credential, which no two issues share. -/
  credential : Nat
  /-- The daemon incarnation of the process that it was issued to; the entry
  itself does not carry it. -/
  incarnation : Nat
  deriving DecidableEq, Repr

/-- Which census entries a revocation may take, compared by generation only. -/
inductive Fence where
  | exited (generation : Nat)
  | notLive (generation : Nat)
  deriving DecidableEq, Repr

/-- The fence lets an entry of the generation be revoked. -/
def Fence.admits : Fence → Nat → Bool
  | exited generation, entryGeneration => entryGeneration ≤ generation
  | notLive generation, entryGeneration => entryGeneration = generation

/-- A reconciliation after its snapshot. -/
structure Round where
  /-- The next credential when the keys of the census were listed. -/
  since : Nat
  listed : List (String × CensusValue)
  snapshot : SpawnSnapshot
  /-- The incarnation that answered the snapshot. -/
  incarnation : Nat
  /-- The listed entries not yet judged. -/
  todo : List (String × CensusValue)
  /-- Every entry was judged so far. -/
  complete : Bool
  /-- Every revocation requested so far was carried out. -/
  succeeded : Bool
  deriving DecidableEq

/-- Where the consumer's task stands. -/
inductive Task where
  | idle
  /-- The entries of some keys are still to be read. -/
  | listing (keys : List String) (since : Nat) (listed : List (String × CensusValue))
  | judging (round : Round)
  /-- A revocation runs, of an exit event or of a reconciliation. -/
  | revoking (moduleId : String) (value : CensusValue) (round : Option Round)
  deriving DecidableEq

/-- The entry that is being revoked. -/
def Task.target : Task → Option (String × CensusValue)
  | .revoking moduleId value _ => some (moduleId, value)
  | _ => none

/-- The reconciliation that is under way. -/
def Task.round : Task → Option Round
  | .judging round => some round
  | .revoking _ _ round => round
  | _ => none

/-- The keys to be read, the next credential at the start and the entries listed
of the reconciliation under way. -/
def Task.reads : Task → List String × Nat × List (String × CensusValue)
  | .listing keys since listed => (keys, since, listed)
  | .judging round => ([], round.since, round.listed)
  | .revoking _ _ (some round) => ([], round.since, round.listed)
  | _ => ([], 0, [])

/-- What the revocation area answers. -/
inductive Outcome where
  | revoked
  /-- Recorded durably, with the census entry deleted or not. -/
  | deferred (deleted : Bool)
  | failed (deleted : Bool)
  deriving DecidableEq, Repr

/-- The daemon as far as the feed shows it. -/
structure Daemon where
  feed : SpawnEventState
  /-- How often the daemon was restarted. -/
  incarnation : Nat
  /-- The processes that run, by module and generation. -/
  running : List (String × Nat)

/-- One step of the daemon. -/
inductive DaemonOp where
  /-- A process of the module starts, beside an older one when it is a swap. -/
  | spawn (moduleId : String) (pid spawnedAtMs : Nat)
  | die (moduleId : String) (generation : Nat)
  | exited (moduleId : String) (exitCode exitSignal : Option Int)
  | supersededExited (moduleId : String) (generation pid : Nat) (exitCode exitSignal : Option Int)
  | restart (daemonIncarnation : String)

/-- The bus: its census, its issues in progress and its spawn consumer. -/
structure Bus where
  census : HashMap String CensusValue
  /-- The generation and the incarnation that issues in progress have read. -/
  issuing : List (String × Nat × Nat)
  /-- The next credential. -/
  minted : Nat
  task : Task

/-- One step of the bus. -/
inductive BusOp where
  /-- An issue reads the live generation of its module. -/
  | readGeneration (moduleId : String)
  /-- An issue writes its census entry. -/
  | censusPut (index : Nat)
  | reconcile
  /-- The entry of the next key is read, if the census can be read. -/
  | list (readable : Bool)
  | takeSnapshot (answered : Bool)
  /-- The next listed entry is judged, with a census that can be read or not. -/
  | judge (readable : Bool)
  | handle (event : SpawnEvent) (readable : Bool)
  | finishRevoke (outcome : Outcome)
  | finishReconcile

section steps

variable (ownModuleId : String)

/-- The snapshot lists a process of the module at the generation. -/
def liveIn (snapshot : SpawnSnapshot) (moduleId : String) (generation : Nat) : Bool :=
  snapshot.live.any fun spawn => spawn.moduleId = moduleId && spawn.spawnGeneration = generation

/-- The task after a revocation or without one. -/
def resume : Option Round → Task
  | none => .idle
  | some round => .judging round

/-- Read the entry of a module again and start to revoke it if the fence admits it. -/
def revoke (census : HashMap String CensusValue) (moduleId : String) (fence : Fence)
    (readable : Bool) (round : Option Round) : Task :=
  if readable then
    match census.get moduleId with
    | none => resume round
    | some value =>
      if fence.admits value.spawnGeneration then .revoking moduleId value round else resume round
  else resume (round.map fun round => { round with complete := false })

/-- Judge the next entry of a reconciliation. -/
def judgeNext (census : HashMap String CensusValue) (readable : Bool) (round : Round) : Task :=
  match round.todo with
  | [] => .judging round
  | (moduleId, value) :: rest =>
    if moduleId = ownModuleId || liveIn round.snapshot moduleId value.spawnGeneration then
      .judging { round with todo := rest }
    else
      revoke census moduleId (.notLive value.spawnGeneration) readable
        (some { round with todo := rest })

/-- What an answer of the revocation area means for the reconciliation. -/
def Outcome.note (outcome : Outcome) (round : Round) : Round :=
  match outcome with
  | .revoked => round
  | .deferred _ => { round with succeeded := false }
  | .failed _ => { round with complete := false, succeeded := false }

/-- The answer comes with the entry deleted. -/
def Outcome.deletes : Outcome → Bool
  | .revoked => true
  | .deferred deleted => deleted
  | .failed deleted => deleted

/-- The census after an answer: the entry goes if it is the one that was judged. -/
def Outcome.settle (outcome : Outcome) (moduleId : String) (value : CensusValue)
    (census : HashMap String CensusValue) : HashMap String CensusValue :=
  if outcome.deletes ∧ census.get moduleId = some value then census.remove moduleId else census

/-- A step of the daemon. An exit is also reported when waiting for the process
failed, so its process may still run. -/
def DaemonOp.apply (op : DaemonOp) (daemon : Daemon) : Daemon :=
  match op with
  | .spawn moduleId pid spawnedAtMs =>
    { daemon with
      feed := emitSpawned moduleId pid spawnedAtMs daemon.feed
      running := (moduleId, nextGeneration daemon.feed moduleId) :: daemon.running }
  | .die moduleId generation =>
    { daemon with running := daemon.running.filter (· ≠ (moduleId, generation)) }
  | .exited moduleId exitCode exitSignal =>
    { daemon with feed := emitExited moduleId exitCode exitSignal daemon.feed }
  | .supersededExited moduleId generation pid exitCode exitSignal =>
    { daemon with
      feed := emitSupersededExited moduleId generation pid exitCode exitSignal daemon.feed }
  | .restart daemonIncarnation =>
    { daemon with
      feed := configureIncarnation daemonIncarnation
      incarnation := daemon.incarnation + 1 }

/-- A step of the bus, which does nothing when its task stands elsewhere. -/
def BusOp.apply (op : BusOp) (daemon : Daemon) (bus : Bus) : Bus :=
  match op, bus.task with
  | .readGeneration moduleId, _ =>
    match daemon.feed.live.get moduleId with
    | none => bus
    | some live =>
      { bus with issuing := bus.issuing ++ [(moduleId, live.spawnGeneration, daemon.incarnation)] }
  | .censusPut index, _ =>
    match bus.issuing[index]? with
    | none => bus
    | some (moduleId, generation, incarnation) =>
      { bus with
        issuing := bus.issuing.eraseIdx index
        census := bus.census.insert moduleId ⟨generation, bus.minted, incarnation⟩
        minted := bus.minted + 1 }
  | .reconcile, .idle => { bus with task := .listing bus.census.keys bus.minted [] }
  | .list readable, .listing (moduleId :: keys) since listed =>
    if readable then
      match bus.census.get moduleId with
      | none => { bus with task := .listing keys since listed }
      | some value => { bus with task := .listing keys since (listed ++ [(moduleId, value)]) }
    else { bus with task := .idle }
  | .takeSnapshot answered, .listing [] since listed =>
    if answered then
      { bus with
        task := .judging
          ⟨since, listed, snapshot daemon.feed, daemon.incarnation, listed, true, true⟩ }
    else { bus with task := .idle }
  | .judge readable, .judging round =>
    { bus with task := judgeNext ownModuleId bus.census readable round }
  | .handle event readable, .idle =>
    if event ∈ daemon.feed.emitted ∧ event.moduleId ≠ ownModuleId ∧ event.kind = .exited then
      { bus with
        task := revoke bus.census event.moduleId (.exited event.spawnGeneration) readable none }
    else bus
  | .finishRevoke outcome, .revoking moduleId value round =>
    { bus with
      task := resume (round.map outcome.note)
      census := outcome.settle moduleId value bus.census }
  | .finishReconcile, .judging round =>
    if round.todo.isEmpty then { bus with task := .idle } else bus
  | _, _ => bus

/-- The daemon and the bus. -/
structure World where
  daemon : Daemon
  bus : Bus

/-- A step of either. -/
inductive Op where
  | daemon (op : DaemonOp)
  | bus (op : BusOp)

/-- One step of the interleaving. -/
def Op.apply (op : Op) (world : World) : World :=
  match op with
  | .daemon op => { world with daemon := op.apply world.daemon }
  | .bus op => { world with bus := op.apply ownModuleId world.daemon world.bus }

/-- The daemon and the bus before the first spawn. -/
def initial (daemonIncarnation : String) : World :=
  ⟨⟨configureIncarnation daemonIncarnation, 0, []⟩, ⟨.empty, [], 0, .idle⟩⟩

/-- An interleaving of the daemon and the bus. -/
def run (daemonIncarnation : String) (ops : List Op) : World :=
  ops.foldl (fun world op => op.apply ownModuleId world) (initial daemonIncarnation)

end steps

section entries

/-- A snapshot lists the live process of each module. -/
theorem liveIn_snapshot {moduleId : String} (hnamed : Named feed.live) :
    liveIn (snapshot feed) moduleId generation = true ↔
      ∃ live, feed.live.get moduleId = some live ∧ live.spawnGeneration = generation := by
  simp only [liveIn, snapshot, List.any_eq_true, Bool.and_eq_true, decide_eq_true_eq,
    List.mem_mergeSort, mem_values]
  constructor
  · rintro ⟨live, ⟨key, hget⟩, rfl, hgeneration⟩
    exact ⟨live, (hnamed key live hget).symm ▸ hget, hgeneration⟩
  · rintro ⟨live, hget, hgeneration⟩
    exact ⟨live, ⟨moduleId, hget⟩, hnamed moduleId live hget, hgeneration⟩

variable (ownModuleId : String) (daemon : Daemon) (bus : Bus)

/-- How the consumer's task moves on, apart from the end of a revocation. -/
inductive Moved : Task → Task → Prop where
  | stopped (task : Task) : Moved task .idle
  | started : Moved .idle (.listing bus.census.keys bus.minted [])
  | passed (moduleId : String) (keys : List String) (since : Nat)
      (listed : List (String × CensusValue)) (hnone : bus.census.get moduleId = none) :
      Moved (.listing (moduleId :: keys) since listed)
        (.listing keys since listed)
  | read (moduleId : String) (keys : List String) (since : Nat)
      (listed : List (String × CensusValue)) (value : CensusValue)
      (hvalue : bus.census.get moduleId = some value) :
      Moved (.listing (moduleId :: keys) since listed)
        (.listing keys since (listed ++ [(moduleId, value)]))
  | shown (since : Nat) (listed : List (String × CensusValue)) :
      Moved (.listing [] since listed)
        (.judging ⟨since, listed, snapshot daemon.feed, daemon.incarnation, listed, true, true⟩)
  | unread (round : Round) (entry : String × CensusValue) (rest : List (String × CensusValue))
      (htodo : round.todo = entry :: rest) :
      Moved (.judging round)
        (.judging { round with todo := rest, complete := false })
  | spared (round : Round) (entry : String × CensusValue) (rest : List (String × CensusValue))
      (htodo : round.todo = entry :: rest)
      (hspared : entry.1 = ownModuleId ∨
        liveIn round.snapshot entry.1 entry.2.spawnGeneration = true ∨
        bus.census.get entry.1 ≠ some entry.2) :
      Moved (.judging round) (.judging { round with todo := rest })
  | revoked (round : Round) (entry : String × CensusValue) (rest : List (String × CensusValue))
      (value : CensusValue) (htodo : round.todo = entry :: rest)
      (hgone : liveIn round.snapshot entry.1 entry.2.spawnGeneration = false)
      (hvalue : bus.census.get entry.1 = some value)
      (hfence : value.spawnGeneration = entry.2.spawnGeneration) :
      Moved (.judging round)
        (.revoking entry.1 value (some { round with todo := rest }))
  | handled (event : SpawnEvent) (value : CensusValue) (hevent : event ∈ daemon.feed.emitted)
      (hkind : event.kind = .exited) (hvalue : bus.census.get event.moduleId = some value)
      (hfence : value.spawnGeneration ≤ event.spawnGeneration) :
      Moved .idle (.revoking event.moduleId value none)

/-- What a step of the bus does. -/
inductive Stepped : Bus → Prop where
  | same : Stepped bus
  | asked (moduleId : String) (live : LiveSpawn)
      (hlive : daemon.feed.live.get moduleId = some live) :
      Stepped { bus with
        issuing := bus.issuing ++ [(moduleId, live.spawnGeneration, daemon.incarnation)] }
  | put (index : Nat) (moduleId : String) (generation incarnation : Nat)
      (hissue : (moduleId, generation, incarnation) ∈ bus.issuing) :
      Stepped { bus with
        issuing := bus.issuing.eraseIdx index
        census := bus.census.insert moduleId ⟨generation, bus.minted, incarnation⟩
        minted := bus.minted + 1 }
  | moved (task : Task) (hmoved : Moved ownModuleId daemon bus bus.task task) :
      Stepped { bus with task := task }
  | finished (outcome : Outcome) (moduleId : String) (value : CensusValue) (round : Option Round)
      (htask : bus.task = .revoking moduleId value round) :
      Stepped { bus with
        task := resume (round.map outcome.note)
        census := outcome.settle moduleId value bus.census }

/-- What an answer leaves in the census was there, and the entry that it deletes is gone. -/
theorem Outcome.of_settle {outcome : Outcome} {census : HashMap String CensusValue}
    (h : (outcome.settle moduleId value census).get other = some found) :
    census.get other = some found ∧ ¬(outcome.deletes ∧ (other, found) = (moduleId, value)) := by
  unfold Outcome.settle at h
  split at h
  case isTrue =>
    obtain ⟨hne, hold⟩ := of_get_remove h
    exact ⟨hold, fun hgone => hne (congrArg Prod.fst hgone.2)⟩
  case isFalse hnot =>
    refine ⟨h, ?_⟩
    rintro ⟨hdeletes, ⟨⟩⟩
    exact hnot ⟨hdeletes, h⟩

variable {ownModuleId daemon bus} {round : Round}

/-- A judged entry is spared, or its revocation starts. -/
theorem judgeNext_moved (htodo : round.todo = entry :: rest) (readable : Bool) :
    Moved ownModuleId daemon bus (.judging round)
      (judgeNext ownModuleId bus.census readable round) := by
  unfold judgeNext
  rw [htodo]
  obtain ⟨moduleId, value⟩ := entry
  dsimp only
  split
  case isTrue hspared =>
    rw [Bool.or_eq_true, decide_eq_true_eq] at hspared
    exact .spared round _ rest htodo (hspared.imp_right .inl)
  case isFalse hgone =>
    rw [Bool.or_eq_true, not_or, Bool.not_eq_true (liveIn _ _ _)] at hgone
    unfold revoke
    cases readable with
    | false => exact .unread round _ rest htodo
    | true =>
      rw [if_pos rfl]
      cases hvalue : bus.census.get moduleId with
      | none => exact .spared round _ rest htodo (.inr (.inr (by simp [hvalue])))
      | some found =>
        dsimp only
        split
        case isTrue hfence =>
          exact .revoked round _ rest found htodo hgone.2 hvalue (of_decide_eq_true hfence)
        case isFalse hfence =>
          refine .spared round _ rest htodo (.inr (.inr fun hsame => hfence ?_))
          rw [hvalue] at hsame
          cases hsame
          exact decide_eq_true rfl

/-- An exit event revokes the entry it admits, or nothing. -/
theorem handle_moved (hevent : event ∈ daemon.feed.emitted) (hkind : event.kind = .exited)
    (readable : Bool) :
    Moved ownModuleId daemon bus .idle
      (revoke bus.census event.moduleId (.exited event.spawnGeneration) readable none) := by
  unfold revoke
  split
  case isFalse => exact .stopped _
  case isTrue =>
    cases hvalue : bus.census.get event.moduleId with
    | none => exact .stopped _
    | some value =>
      dsimp only
      split
      case isTrue hfence => exact .handled event value hevent hkind hvalue (of_decide_eq_true hfence)
      case isFalse => exact .stopped _

/-- Every step of the bus is one of these. -/
theorem stepped (op : BusOp) :
    Stepped ownModuleId daemon bus (op.apply ownModuleId daemon bus) := by
  unfold BusOp.apply
  split
  case h_1 moduleId =>
    split
    case h_1 => exact .same
    case h_2 live hlive => exact .asked moduleId live hlive
  case h_2 index =>
    split
    case h_1 => exact .same
    case h_2 hissue => exact .put index _ _ _ (List.mem_of_getElem? hissue)
  case h_3 htask => exact .moved _ (htask ▸ .started)
  case h_4 moduleId keys since listed htask =>
    split
    case isFalse => exact .moved _ (.stopped _)
    case isTrue =>
      split
      case h_1 hnone => exact .moved _ (htask ▸ .passed moduleId keys since listed hnone)
      case h_2 value hvalue => exact .moved _ (htask ▸ .read moduleId keys since listed value hvalue)
  case h_5 since listed htask =>
    split
    case isTrue => exact .moved _ (htask ▸ .shown since listed)
    case isFalse => exact .moved _ (.stopped _)
  case h_6 readable round htask =>
    cases htodo : round.todo with
    | nil =>
      have hsame : judgeNext ownModuleId bus.census readable round = bus.task := by
        rw [judgeNext, htodo, htask]
      rw [hsame]
      exact .same
    | cons entry rest => exact .moved _ (htask ▸ judgeNext_moved htodo readable)
  case h_7 event readable htask =>
    split
    case isTrue h => exact .moved _ (htask ▸ handle_moved h.1 h.2.2 readable)
    case isFalse => exact .same
  case h_8 outcome moduleId value round htask => exact .finished outcome moduleId value round htask
  case h_9 =>
    split
    case isTrue => exact .moved _ (.stopped _)
    case isFalse => exact .same
  case h_10 => exact .same

end entries

section apart

variable {bus : Bus}

/-- The process of a generation was started once and runs no more. -/
def Dead (daemon : Daemon) (moduleId : String) (generation : Nat) : Prop :=
  (moduleId, generation) ∉ daemon.running ∧ generation < nextGeneration daemon.feed moduleId

/-- A process starts only when no process of its module runs, an exit is reported
only of a process that ran and runs no more, and the daemon is not restarted. -/
def apart (daemon : Daemon) : DaemonOp → Bool
  | .spawn moduleId _ _ => daemon.running.all fun process => process.1 ≠ moduleId
  | .die _ _ => true
  | .exited moduleId _ _ => (daemon.feed.live.get moduleId).all fun live =>
      (moduleId, live.spawnGeneration) ∉ daemon.running
  | .supersededExited moduleId generation _ _ _ => (moduleId, generation) ∉ daemon.running &&
      generation < nextGeneration daemon.feed moduleId
  | .restart _ => false

/-- The feed against the processes. -/
structure Supervised (daemon : Daemon) : Prop where
  /-- A running process is the live one of its module. -/
  running : ∀ moduleId generation, (moduleId, generation) ∈ daemon.running →
    ∃ live, daemon.feed.live.get moduleId = some live ∧ live.spawnGeneration = generation
  /-- A live process is the latest of its module. -/
  latest : ∀ moduleId live, daemon.feed.live.get moduleId = some live →
    live.spawnGeneration + 1 = nextGeneration daemon.feed moduleId
  named : Named daemon.feed.live
  /-- Up to a generation whose exit was reported, every process is dead. -/
  exits : ∀ event ∈ daemon.feed.emitted, event.kind = .exited →
    ∀ generation ≤ event.spawnGeneration, Dead daemon event.moduleId generation

section

variable (h : Supervised daemon)
include h

/-- A reported exit of a dead process. -/
theorem Supervised.exit (hdead : Dead daemon moduleId generation)
    (hexit : Exit moduleId generation daemon.feed feed) :
    Supervised { daemon with feed := feed } := by
  have hnext : nextGeneration feed = nextGeneration daemon.feed := by
    unfold nextGeneration
    rw [hexit.generations]
  have hkept : ∀ other, Dead daemon other = Dead { daemon with feed := feed } other := by
    intro other
    unfold Dead
    rw [hnext]
  constructor
  case running =>
    intro other earlier hin
    obtain ⟨live, hlive, rfl⟩ := h.running other earlier hin
    refine ⟨live, (hexit.live other live).mpr ⟨hlive, ?_⟩, rfl⟩
    rintro rfl rfl
    exact hdead.1 hin
  case latest =>
    intro other live hlive
    rw [hnext]
    exact h.latest other live ((hexit.live other live).mp hlive).1
  case named => exact fun other live hlive => h.named other live ((hexit.live other live).mp hlive).1
  case exits =>
    obtain ⟨event, hemitted, rfl, rfl⟩ := hexit.emitted
    rw [hemitted]
    intro found hfound hkind earlier hle
    rw [← hkept]
    rcases List.mem_append.mp hfound with hold | hnew
    · exact h.exits found hold hkind earlier hle
    cases List.mem_singleton.mp hnew
    refine ⟨fun hin => ?_, Nat.lt_of_le_of_lt hle hdead.2⟩
    obtain ⟨live, hlive, rfl⟩ := h.running _ _ hin
    have hlatest := h.latest _ live hlive
    have hsame : live.spawnGeneration = event.spawnGeneration := by
      have hlt := hdead.2
      omega
    exact hdead.1 (hsame ▸ hin)

/-- A process starts where none of its module runs. -/
theorem Supervised.spawn (hnone : ∀ process ∈ daemon.running, process.1 ≠ moduleId) :
    Supervised ((DaemonOp.spawn moduleId pid spawnedAtMs).apply daemon) := by
  constructor
  case running =>
    intro other generation hin
    dsimp only [DaemonOp.apply, emitSpawned, emitLocked]
    rw [get_insert]
    rcases List.mem_cons.mp hin with heq | hold
    · cases heq
      exact ⟨_, if_pos rfl, rfl⟩
    · rw [if_neg (hnone _ hold)]
      exact h.running other generation hold
  case latest =>
    intro other live hlive
    rw [DaemonOp.apply, nextGeneration_emitSpawned]
    rcases of_get_insert hlive with ⟨rfl, rfl⟩ | ⟨hne, hold⟩
    · rw [if_pos rfl]
    · rw [if_neg hne]
      exact h.latest other live hold
  case named => exact forall_insert rfl h.named
  case exits =>
    intro event hevent hkind generation hle
    rcases List.mem_append.mp hevent with hold | hnew
    · obtain ⟨hrunning, hlt⟩ := h.exits event hold hkind generation hle
      refine ⟨fun hin => (List.mem_cons.mp hin).elim (fun heq => ?_) hrunning, ?_⟩
      · cases heq
        exact Nat.lt_irrefl _ hlt
      · rw [DaemonOp.apply, nextGeneration_emitSpawned]
        exact Nat.lt_add_right _ hlt
    · cases List.mem_singleton.mp hnew
      cases hkind

/-- The feed stays in step with the processes, and the dead stay dead. -/
theorem Supervised.step (op : DaemonOp) (hapart : apart daemon op = true) :
    Supervised (op.apply daemon) ∧
      ∀ moduleId generation, (generation < nextGeneration daemon.feed moduleId →
        generation < nextGeneration (op.apply daemon).feed moduleId) ∧
        (Dead daemon moduleId generation → Dead (op.apply daemon) moduleId generation) := by
  cases op with
  | spawn moduleId pid spawnedAtMs =>
    simp only [apart, List.all_eq_true, decide_eq_true_eq] at hapart
    have hlater : ∀ other generation, generation < nextGeneration daemon.feed other →
        generation < nextGeneration (emitSpawned moduleId pid spawnedAtMs daemon.feed) other := by
      intro other generation hlt
      rw [nextGeneration_emitSpawned]
      exact Nat.lt_add_right _ hlt
    refine ⟨h.spawn hapart, fun other generation => ⟨hlater other generation, fun hdead => ?_⟩⟩
    refine ⟨fun hin => (List.mem_cons.mp hin).elim (fun heq => ?_) hdead.1, hlater _ _ hdead.2⟩
    cases heq
    exact Nat.lt_irrefl _ hdead.2
  | die moduleId generation =>
    have hless : ∀ process, process ∈ (DaemonOp.apply (.die moduleId generation) daemon).running →
        process ∈ daemon.running := fun process hin => (List.mem_filter.mp hin).1
    refine ⟨⟨fun other later hin => h.running other later (hless _ hin), h.latest, h.named, ?_⟩,
      fun other later => ⟨id, fun hdead => ⟨fun hin => hdead.1 (hless _ hin), hdead.2⟩⟩⟩
    intro event hevent hkind later hle
    obtain ⟨hrunning, hlt⟩ := h.exits event hevent hkind later hle
    exact ⟨fun hin => hrunning (hless _ hin), hlt⟩
  | exited moduleId =>
    cases hlive : daemon.feed.live.get moduleId with
    | none =>
      simp only [DaemonOp.apply, emitExited, hlive]
      exact ⟨h, fun _ _ => ⟨id, id⟩⟩
    | some live =>
      simp only [apart, hlive, Option.all_some, decide_eq_true_eq] at hapart
      have hlatest := h.latest moduleId live hlive
      refine ⟨h.exit ⟨hapart, by omega⟩ (emitExited_exit hlive), fun _ _ => ?_⟩
      simp only [DaemonOp.apply, emitExited, hlive]
      exact ⟨id, id⟩
  | supersededExited moduleId generation =>
    simp only [apart, Bool.and_eq_true, decide_eq_true_eq] at hapart
    exact ⟨h.exit hapart emitSupersededExited_exit, fun _ _ => ⟨id, id⟩⟩
  | restart => cases hapart

end

/-- What a reconciliation may still revoke is dead. -/
def RoundJudged (daemon : Daemon) (round : Round) : Prop :=
  ∀ entry ∈ round.todo, liveIn round.snapshot entry.1 entry.2.spawnGeneration = false →
    Dead daemon entry.1 entry.2.spawnGeneration

/-- What the consumer's task holds against the processes. -/
def TaskJudged (daemon : Daemon) : Task → Prop
  | .idle => True
  | .listing _ _ listed => ∀ entry ∈ listed,
      entry.2.spawnGeneration < nextGeneration daemon.feed entry.1
  | .judging round => RoundJudged daemon round
  | .revoking moduleId value round => Dead daemon moduleId value.spawnGeneration ∧
      ∀ judged, round = some judged → RoundJudged daemon judged

/-- What the bus holds against the processes. -/
structure Judged (daemon : Daemon) (bus : Bus) : Prop where
  census : ∀ moduleId value, bus.census.get moduleId = some value →
    value.spawnGeneration < nextGeneration daemon.feed moduleId
  issuing : ∀ moduleId generation incarnation, (moduleId, generation, incarnation) ∈ bus.issuing →
    generation < nextGeneration daemon.feed moduleId
  task : TaskJudged daemon bus.task

section

variable (h : Judged daemon bus)
include h

/-- A step of the daemon leaves the dead dead. -/
theorem Judged.daemonStep (hsupervised : Supervised daemon) (op : DaemonOp)
    (hapart : apart daemon op = true) : Judged (op.apply daemon) bus := by
  have hlater := fun moduleId generation => ((hsupervised.step op hapart).2 moduleId generation).1
  have hdead := fun moduleId generation => ((hsupervised.step op hapart).2 moduleId generation).2
  have hround : ∀ round, RoundJudged daemon round → RoundJudged (op.apply daemon) round :=
    fun round hjudged entry hentry hgone => hdead _ _ (hjudged entry hentry hgone)
  refine ⟨fun moduleId value hvalue => hlater _ _ (h.census moduleId value hvalue),
    fun moduleId generation incarnation hin => hlater _ _ (h.issuing _ _ incarnation hin), ?_⟩
  have htask := h.task
  cases hstate : bus.task with
  | idle => trivial
  | listing keys since listed =>
    rw [hstate] at htask
    exact fun entry hentry => hlater _ _ (htask entry hentry)
  | judging round =>
    rw [hstate] at htask
    exact hround round htask
  | revoking moduleId value round =>
    rw [hstate] at htask
    exact ⟨hdead _ _ htask.1, fun judged hjudged => hround judged (htask.2 judged hjudged)⟩

/-- The consumer starts to revoke dead processes only. -/
theorem Judged.moved {start task : Task} (hsupervised : Supervised daemon)
    (hstart : TaskJudged daemon start) (hmoved : Moved ownModuleId daemon bus start task) :
    TaskJudged daemon task := by
  cases hmoved with
  | stopped => trivial
  | started => exact nofun
  | passed => exact hstart
  | read moduleId keys since listed value hvalue =>
    exact List.forall_mem_append.mpr
      ⟨hstart, List.forall_mem_singleton.mpr (h.census moduleId value hvalue)⟩
  | shown since listed =>
    intro entry hentry hgone
    refine ⟨fun hin => ?_, hstart entry hentry⟩
    have hlive := (liveIn_snapshot hsupervised.named).mpr (hsupervised.running _ _ hin)
    exact absurd hlive (Bool.eq_false_iff.mp hgone)
  | unread round entry rest htodo | spared round entry rest htodo =>
    exact fun later hlater => hstart later (htodo ▸ List.mem_cons_of_mem _ hlater)
  | revoked round entry rest value htodo hgone hvalue hfence =>
    refine ⟨hfence ▸ hstart entry (htodo ▸ List.mem_cons_self) hgone, ?_⟩
    rintro _ ⟨⟩ later hlater
    exact hstart later (htodo ▸ List.mem_cons_of_mem _ hlater)
  | handled event value hevent hkind hvalue hfence =>
    exact ⟨hsupervised.exits event hevent hkind _ hfence, nofun⟩

/-- A step of the bus starts to revoke dead processes only. -/
theorem Judged.busStep (hsupervised : Supervised daemon) (op : BusOp) :
    Judged daemon (op.apply ownModuleId daemon bus) := by
  have hstep := @stepped ownModuleId daemon bus op
  generalize op.apply ownModuleId daemon bus = bus' at hstep ⊢
  cases hstep with
  | same => exact h
  | asked moduleId live hlive =>
    refine { h with issuing := ?_ }
    intro other generation incarnation hin
    rcases List.mem_append.mp hin with hold | hnew
    · exact h.issuing other generation incarnation hold
    · cases List.mem_singleton.mp hnew
      have hlatest := hsupervised.latest moduleId live hlive
      omega
  | put index moduleId generation incarnation hissue =>
    refine { h with census := ?_, issuing := ?_ }
    · exact forall_insert (h.issuing _ _ _ hissue) h.census
    · exact fun other earlier later hin => h.issuing _ _ later (List.mem_of_mem_eraseIdx hin)
  | moved task hmoved => exact { h with task := h.moved hsupervised h.task hmoved }
  | finished outcome moduleId value round htask =>
    have hjudged := h.task
    rw [htask] at hjudged
    refine { h with census := ?_, task := ?_ }
    · exact fun other found hfound => h.census other found (Outcome.of_settle hfound).1
    · cases round with
      | none => trivial
      | some round => cases outcome <;> exact hjudged.2 round rfl

end

end apart

section runs

variable (ownModuleId incarnation : String)

/-- The condition `apart` on the daemon's steps. -/
def noOverlap (world : World) : Op → Bool
  | .daemon op => apart world.daemon op
  | .bus _ => true

/-- While the processes of a module do not overlap and no exit is reported of a
running process, the consumer revokes only the entries of processes that run no more. -/
theorem run_revokes_dead (ops : List Op)
    (hapart : Throughout (fun world op => op.apply ownModuleId world)
      (fun world op => noOverlap world op) (initial incarnation) ops) (moduleId : String)
    (value : CensusValue)
    (hrevoking : (run ownModuleId incarnation ops).bus.task.target = some (moduleId, value)) :
    (moduleId, value.spawnGeneration) ∉ (run ownModuleId incarnation ops).daemon.running := by
  have hinv := hapart.induction (fun world => Supervised world.daemon ∧ Judged world.daemon world.bus)
    (by
      rintro world (op | op) hcondition ⟨hsupervised, hjudged⟩
      · exact ⟨(hsupervised.step op hcondition).1, hjudged.daemonStep hsupervised op hcondition⟩
      · exact ⟨hsupervised, hjudged.busStep hsupervised op⟩)
    ⟨⟨nofun, nofun, nofun, nofun⟩, ⟨nofun, nofun, trivial⟩⟩
  have htask := hinv.2.task
  change TaskJudged _ (run ownModuleId incarnation ops).bus.task at htask
  generalize (run ownModuleId incarnation ops).bus.task = task at htask hrevoking
  cases task with
  | revoking target found round =>
    cases hrevoking
    exact htask.1.1
  | _ => cases hrevoking

/-- A module exits and starts again; the entry of the old process is revoked while
the new one runs. -/
theorem run_revokes_dead_exit :
    let ops : List Op := [.daemon (.spawn "aft" 31 5), .bus (.readGeneration "aft"),
      .bus (.censusPut 0), .daemon (.die "aft" 1), .daemon (.exited "aft" none none),
      .daemon (.spawn "aft" 32 6), .bus (.handle ⟨⟨"d1", 2⟩, .exited, "aft", 1, 31, none, none⟩ true)]
    (run "ck-bus" "d1" ops).bus.task.target = some ("aft", ⟨1, 0, 0⟩) ∧
      (run "ck-bus" "d1" ops).daemon.running = [("aft", 2)] ∧
      ("aft", 1) ∉ (run "ck-bus" "d1" ops).daemon.running :=
  ⟨by decide +kernel, by decide +kernel,
    run_revokes_dead _ _ _ (by decide +kernel) "aft" ⟨1, 0, 0⟩ (by decide +kernel)⟩

/-- A swap: the census entry of the old process is listed, the snapshot shows
only the new process, and the revocation starts while the old one runs. Or waiting
for a process fails: its exit is reported and revokes it while it runs. -/
theorem swap_revokes_running :
    let issued : List Op :=
      [.daemon (.spawn "aft" 31 5), .bus (.readGeneration "aft"), .bus (.censusPut 0)]
    let swapped := run "ck-bus" "d1" (issued ++ [.daemon (.spawn "aft" 32 6), .bus .reconcile,
      .bus (.list true), .bus (.takeSnapshot true), .bus (.judge true)])
    let unwaited := run "ck-bus" "d1" (issued ++ [.daemon (.exited "aft" none none),
      .bus (.handle ⟨⟨"d1", 2⟩, .exited, "aft", 1, 31, none, none⟩ true)])
    (swapped.bus.task.target = some ("aft", ⟨1, 0, 0⟩) ∧ ("aft", 1) ∈ swapped.daemon.running) ∧
      unwaited.bus.task.target = some ("aft", ⟨1, 0, 0⟩) ∧ ("aft", 1) ∈ unwaited.daemon.running := by
  decide +kernel

/-- No process starts at a generation that the census or an issue in progress
has for its module. -/
def unreused (world : World) : Op → Bool
  | .daemon (.spawn moduleId _ _) =>
    ((world.bus.census.get moduleId).all fun value =>
      value.spawnGeneration ≠ nextGeneration world.daemon.feed moduleId) &&
    world.bus.issuing.all fun issue =>
      issue.1 ≠ moduleId || issue.2.1 ≠ nextGeneration world.daemon.feed moduleId
  | _ => true

/-- What a reconciliation has found out about an entry that it listed and that
is still there; `pending` is the entry being revoked. -/
def RoundTraced (census : HashMap String CensusValue) (pending : Option (String × CensusValue))
    (round : Round) : Prop :=
  ∀ entry ∈ round.listed, census.get entry.1 = some entry.2 →
    (liveIn round.snapshot entry.1 entry.2.spawnGeneration = true →
      entry.2.incarnation = round.incarnation) ∧
    (entry.1 ≠ ownModuleId → round.complete = true → round.succeeded = true →
      entry ∈ round.todo ∨ liveIn round.snapshot entry.1 entry.2.spawnGeneration = true ∨
        pending = some entry)

/-- What the reconciliation under way has found out. -/
def TaskTraced (census : HashMap String CensusValue) (task : Task) : Prop :=
  ∀ round, task.round = some round → RoundTraced ownModuleId census task.target round

/-- What the reconciliation under way has read of the census. -/
structure Reading (bus : Bus) : Prop where
  minted : ∀ moduleId value, bus.census.get moduleId = some value → value.credential < bus.minted
  since : bus.task.reads.2.1 ≤ bus.minted
  listed : ∀ entry ∈ bus.task.reads.2.2, entry.2.credential < bus.minted
  /-- Of the entries that were there, every one is read or to be read. -/
  covered : ∀ moduleId value, bus.census.get moduleId = some value →
    value.credential < bus.task.reads.2.1 →
      moduleId ∈ bus.task.reads.1 ∨ (moduleId, value) ∈ bus.task.reads.2.2

/-- The entries and issues of the bus against the incarnations of the daemon. -/
structure Traced (daemon : Daemon) (bus : Bus) : Prop where
  named : Named daemon.feed.live
  census : ∀ moduleId value live, bus.census.get moduleId = some value →
    daemon.feed.live.get moduleId = some live → live.spawnGeneration = value.spawnGeneration →
      value.incarnation = daemon.incarnation
  issuing : ∀ moduleId generation incarnation live,
    (moduleId, generation, incarnation) ∈ bus.issuing →
    daemon.feed.live.get moduleId = some live → live.spawnGeneration = generation →
      incarnation = daemon.incarnation
  reading : Reading bus
  task : TaskTraced ownModuleId bus.census bus.task

section traced

variable {ownModuleId} {bus : Bus} {start task : Task} {round : Round}

/-- A live process was live before, in the same incarnation, or is the one that
was spawned. -/
theorem live_of_apply {op : DaemonOp}
    (hlive : (op.apply daemon).feed.live.get moduleId = some live) :
    daemon.feed.live.get moduleId = some live ∧
        (op.apply daemon).incarnation = daemon.incarnation ∨
      (∃ pid spawnedAtMs, op = .spawn moduleId pid spawnedAtMs) ∧ live.moduleId = moduleId ∧
        live.spawnGeneration = nextGeneration daemon.feed moduleId := by
  cases op with
  | spawn other pid spawnedAtMs =>
    rcases of_get_insert hlive with ⟨rfl, rfl⟩ | ⟨-, hold⟩
    · exact .inr ⟨⟨pid, spawnedAtMs, rfl⟩, rfl, rfl⟩
    · exact .inl ⟨hold, rfl⟩
  | die => exact .inl ⟨hlive, rfl⟩
  | exited other =>
    cases hother : daemon.feed.live.get other with
    | none =>
      simp only [DaemonOp.apply, emitExited, hother] at hlive
      exact .inl ⟨hlive, rfl⟩
    | some => exact .inl ⟨((emitExited_exit hother).live _ _ |>.mp hlive).1, rfl⟩
  | supersededExited => exact .inl ⟨(emitSupersededExited_exit.live _ _ |>.mp hlive).1, rfl⟩
  | restart => cases hlive

/-- A spawn at an unused generation takes no entry of an earlier incarnation for its own. -/
theorem Traced.daemonStep (h : Traced ownModuleId daemon bus) (op : DaemonOp)
    (hunreused : unreused ⟨daemon, bus⟩ (.daemon op) = true) :
    Traced ownModuleId (op.apply daemon) bus := by
  refine { h with named := ?_, census := ?_, issuing := ?_ }
  · intro moduleId live hlive
    rcases live_of_apply hlive with ⟨hold, -⟩ | ⟨-, hname, -⟩
    · exact h.named moduleId live hold
    · exact hname
  · intro moduleId value live hvalue hlive hgeneration
    rcases live_of_apply hlive with ⟨hold, hsame⟩ | ⟨⟨pid, spawnedAtMs, rfl⟩, -, hnext⟩
    · rw [hsame]
      exact h.census moduleId value live hvalue hold hgeneration
    · simp only [unreused, hvalue, Option.all_some, Bool.and_eq_true, decide_eq_true_eq] at hunreused
      exact absurd (hgeneration.symm.trans hnext) hunreused.1
  · intro moduleId generation incarnation live hissue hlive hgeneration
    rcases live_of_apply hlive with ⟨hold, hsame⟩ | ⟨⟨pid, spawnedAtMs, rfl⟩, -, hnext⟩
    · rw [hsame]
      exact h.issuing moduleId generation incarnation live hissue hold hgeneration
    · simp only [unreused, Bool.and_eq_true, List.all_eq_true] at hunreused
      have hfresh := hunreused.2 _ hissue
      simp only [ne_eq, not_true_eq_false, decide_false, Bool.false_or, decide_not,
        Bool.not_eq_true', decide_eq_false_iff_not] at hfresh
      exact absurd (hgeneration.symm.trans hnext) hfresh

/-- What was found out stays so of the entries that are still there. -/
theorem RoundTraced.kept (h : RoundTraced ownModuleId census pending round)
    (hkept : ∀ entry ∈ round.listed, census'.get entry.1 = some entry.2 →
      census.get entry.1 = some entry.2) : RoundTraced ownModuleId census' pending round :=
  fun entry hentry hget => h entry hentry (hkept entry hentry hget)

/-- Judging an entry takes it off the list: it is the consumer's own, live, gone
or about to be revoked. -/
theorem RoundTraced.judge (h : RoundTraced ownModuleId census none round)
    (htodo : round.todo = entry :: rest)
    (hjudged : census.get entry.1 = some entry.2 → entry.1 ≠ ownModuleId →
      liveIn round.snapshot entry.1 entry.2.spawnGeneration = true ∨ pending = some entry) :
    RoundTraced ownModuleId census pending { round with todo := rest } := by
  intro later hlater hget
  obtain ⟨horigin, hfate⟩ := h later hlater hget
  refine ⟨horigin, fun hown hcomplete hsucceeded => ?_⟩
  rcases hfate hown hcomplete hsucceeded with hin | hlive | hnone
  · rw [htodo] at hin
    rcases List.mem_cons.mp hin with rfl | hrest
    · exact .inr (hjudged hget hown)
    · exact .inl hrest
  · exact .inr (.inl hlive)
  · cases hnone

/-- A judged entry is live, gone, being revoked, or the round is not complete. -/
theorem Traced.moved (h : Traced ownModuleId daemon bus)
    (hstart : TaskTraced ownModuleId bus.census start)
    (hmoved : Moved ownModuleId daemon bus start task) :
    TaskTraced ownModuleId bus.census task := by
  cases hmoved with
  | stopped | started | passed | read | handled => exact nofun
  | shown since listed =>
    rintro _ ⟨⟩ entry hentry hget
    refine ⟨fun hlive => ?_, fun _ _ _ => .inl hentry⟩
    obtain ⟨live, hlive, hgeneration⟩ := (liveIn_snapshot h.named).mp hlive
    exact h.census entry.1 entry.2 live hget hlive hgeneration
  | unread round entry rest htodo =>
    rintro _ ⟨⟩ later hlater hget
    exact ⟨(hstart round rfl later hlater hget).1, nofun⟩
  | spared round entry rest htodo hspared =>
    rintro _ ⟨⟩
    refine (hstart round rfl).judge htodo fun hget hown => ?_
    exact (hspared.resolve_left hown).imp_right (absurd hget)
  | revoked round entry rest value htodo hgone hvalue =>
    rintro _ ⟨⟩
    refine (hstart round rfl).judge htodo fun hget _ => ?_
    cases hvalue.symm.trans hget
    exact .inr rfl

/-- A revocation that was carried out has taken its entry. -/
theorem RoundTraced.finish
    (h : RoundTraced ownModuleId census (some (moduleId, value)) round) (outcome : Outcome) :
    RoundTraced ownModuleId (outcome.settle moduleId value census) none (outcome.note round) := by
  intro entry hentry hget
  obtain ⟨hold, hnot⟩ := Outcome.of_settle hget
  cases outcome with
  | revoked =>
    obtain ⟨horigin, hfate⟩ := h entry hentry hold
    refine ⟨horigin, fun hown hcomplete hsucceeded => ?_⟩
    rcases hfate hown hcomplete hsucceeded with hin | hlive | hpending
    · exact .inl hin
    · exact .inr (.inl hlive)
    · exact absurd ⟨rfl, (Option.some.inj hpending).symm⟩ hnot
  | deferred | failed => exact ⟨(h entry hentry hold).1, nofun⟩

/-- A move of the task reads every entry that was there. -/
theorem Reading.moved (h : Reading { bus with task := start })
    (hmoved : Moved ownModuleId daemon bus start task) : Reading { bus with task := task } := by
  cases hmoved with
  | stopped => exact ⟨h.minted, Nat.zero_le _, nofun, nofun⟩
  | started =>
    refine ⟨h.minted, Nat.le_refl _, nofun, ?_⟩
    exact fun moduleId value hvalue _ => .inl ((mem_keys _).mpr ⟨value, hvalue⟩)
  | passed moduleId keys since listed hnone =>
    refine ⟨h.minted, h.since, h.listed, ?_⟩
    intro other value hvalue hbefore
    refine (h.covered other value hvalue hbefore).imp_left fun hin => ?_
    refine (List.mem_cons.mp hin).resolve_left ?_
    rintro rfl
    cases hnone.symm.trans hvalue
  | read moduleId keys since listed found hfound =>
    refine ⟨h.minted, h.since, ?_, ?_⟩
    · exact List.forall_mem_append.mpr
        ⟨h.listed, List.forall_mem_singleton.mpr (h.minted moduleId found hfound)⟩
    · intro other value hvalue hbefore
      rcases h.covered other value hvalue hbefore with hin | hread
      · rcases List.mem_cons.mp hin with rfl | hrest
        · cases hfound.symm.trans hvalue
          exact .inr (List.mem_append_right _ List.mem_cons_self)
        · exact .inl hrest
      · exact .inr (List.mem_append_left _ hread)
  | shown | unread | spared | revoked | handled =>
    exact ⟨h.minted, h.since, h.listed, h.covered⟩

/-- A step of the bus writes entries of the incarnation it has read, and loses
sight of none that was there. -/
theorem Traced.busStep (h : Traced ownModuleId daemon bus) (op : BusOp) :
    Traced ownModuleId daemon (op.apply ownModuleId daemon bus) := by
  have hstep := @stepped ownModuleId daemon bus op
  generalize op.apply ownModuleId daemon bus = bus' at hstep ⊢
  have hround : ∀ round, bus.task.round = some round → bus.task.reads.2.2 = round.listed := by
    intro round hround
    cases htask : bus.task <;> rw [htask] at hround <;> cases hround
    case judging => rfl
    case revoking => rfl
  cases hstep with
  | same => exact h
  | asked moduleId live hlive =>
    refine ⟨h.named, h.census, ?_, ⟨h.reading.minted, h.reading.since, h.reading.listed,
      h.reading.covered⟩, h.task⟩
    intro other generation incarnation found hin hfound hgeneration
    rcases List.mem_append.mp hin with hold | hnew
    · exact h.issuing other generation incarnation found hold hfound hgeneration
    · cases List.mem_singleton.mp hnew
      rfl
  | put index moduleId generation incarnation hissue =>
    constructor
    case named => exact h.named
    case census =>
      intro other value live hvalue hlive hgeneration
      rcases of_get_insert hvalue with ⟨rfl, rfl⟩ | ⟨-, hold⟩
      · exact h.issuing other generation incarnation live hissue hlive hgeneration
      · exact h.census other value live hold hlive hgeneration
    case issuing =>
      exact fun other earlier later live hin =>
        h.issuing other earlier later live (List.mem_of_mem_eraseIdx hin)
    case reading =>
      have hread := h.reading
      refine ⟨?_, Nat.le_succ_of_le hread.since, ?_, ?_⟩
      · refine forall_insert (Nat.lt_succ_self _) fun other value hvalue => ?_
        exact Nat.lt_succ_of_lt (hread.minted other value hvalue)
      · exact fun entry hentry => Nat.lt_succ_of_lt (hread.listed entry hentry)
      · intro other value hvalue hbefore
        rcases of_get_insert hvalue with ⟨-, rfl⟩ | ⟨-, hold⟩
        · exact absurd hbefore (Nat.not_lt.mpr hread.since)
        · exact hread.covered other value hold hbefore
    case task =>
      intro round hjudged
      refine (h.task round hjudged).kept fun entry hentry hvalue => ?_
      rcases of_get_insert hvalue with ⟨-, hnew⟩ | ⟨-, hold⟩
      · have hlisted := h.reading.listed entry (hround round hjudged ▸ hentry)
        rw [← hnew] at hlisted
        exact absurd hlisted (Nat.lt_irrefl _)
      · exact hold
  | moved task hmoved =>
    exact { h with reading := h.reading.moved hmoved, task := h.moved h.task hmoved }
  | finished outcome moduleId value round htask =>
    have hold : ∀ other found, (outcome.settle moduleId value bus.census).get other = some found →
        bus.census.get other = some found := fun other found hfound => (Outcome.of_settle hfound).1
    have hreads : (resume (round.map outcome.note)).reads = bus.task.reads := by
      rw [htask]
      cases round with
      | none => rfl
      | some => cases outcome <;> rfl
    have hread := h.reading
    refine ⟨h.named, fun other found live hfound => h.census other found live (hold _ _ hfound),
      h.issuing, ?_, ?_⟩
    · refine ⟨fun other found hfound => hread.minted other found (hold _ _ hfound), ?_, ?_, ?_⟩ <;>
        rw [hreads]
      · exact hread.since
      · exact hread.listed
      · exact fun other found hfound => hread.covered other found (hold _ _ hfound)
    · have htraced := h.task
      rw [htask] at htraced
      cases round with
      | none => exact nofun
      | some round =>
        rintro _ ⟨⟩
        exact (htraced round rfl).finish outcome

end traced

/-- While no generation is used again, a complete reconciliation whose
revocations were all carried out leaves, of the entries that it listed or that
were there before it, only those of processes that its snapshot shows live. -/
theorem run_reconciles (ops : List Op)
    (hunreused : Throughout (fun world op => op.apply ownModuleId world)
      (fun world op => unreused world op) (initial incarnation) ops) (round : Round)
    (htask : (run ownModuleId incarnation ops).bus.task = .judging round)
    (hdone : round.todo = []) (hcomplete : round.complete = true)
    (hsucceeded : round.succeeded = true) :
    ∀ moduleId value, moduleId ≠ ownModuleId →
      (run ownModuleId incarnation ops).bus.census.get moduleId = some value →
      (moduleId, value) ∈ round.listed ∨ value.credential < round.since →
      liveIn round.snapshot moduleId value.spawnGeneration = true ∧
        value.incarnation = round.incarnation := by
  have hinv := hunreused.induction (fun world => Traced ownModuleId world.daemon world.bus) (by
      rintro world (op | op) hcondition htraced
      · exact htraced.daemonStep op hcondition
      · exact htraced.busStep op)
    ⟨nofun, nofun, nofun, ⟨nofun, Nat.le_refl 0, nofun, nofun⟩, nofun⟩
  intro moduleId value hown hremains hthere
  have hround := hinv.task
  change TaskTraced ownModuleId (run ownModuleId incarnation ops).bus.census
    (run ownModuleId incarnation ops).bus.task at hround
  have hcovered := hinv.reading.covered moduleId value hremains
  change value.credential < (run ownModuleId incarnation ops).bus.task.reads.2.1 →
    moduleId ∈ (run ownModuleId incarnation ops).bus.task.reads.1 ∨
      (moduleId, value) ∈ (run ownModuleId incarnation ops).bus.task.reads.2.2 at hcovered
  rw [htask] at hround hcovered
  have hlisted : (moduleId, value) ∈ round.listed :=
    hthere.elim id fun hbefore => (hcovered hbefore).resolve_left List.not_mem_nil
  obtain ⟨horigin, hfate⟩ := hround round rfl (moduleId, value) hlisted hremains
  rcases hfate hown hcomplete hsucceeded with hin | hlive | hnone
  · rw [hdone] at hin
    cases hin
  · exact ⟨hlive, horigin hlive⟩
  · cases hnone

/-- The daemon restarts and spawns a module at another generation than its entry
has, which is issued anew; a reconciliation revokes the entry of a module that is gone. -/
def reconciled : List Op :=
  [.daemon (.spawn "aft" 31 5), .daemon (.spawn "aft" 32 6), .daemon (.spawn "bot" 33 7),
    .bus (.readGeneration "aft"), .bus (.censusPut 0), .bus (.readGeneration "bot"),
    .bus (.censusPut 0), .daemon (.restart "d2"), .daemon (.spawn "aft" 44 9),
    .bus (.readGeneration "aft"), .bus (.censusPut 0), .bus .reconcile, .bus (.list true),
    .bus (.list true), .bus (.takeSnapshot true), .bus (.judge true), .bus (.judge true),
    .bus (.finishRevoke .revoked)]

/-- The run keeps one entry, of a process that is live in the snapshot. -/
theorem run_reconciles_settled :
    ∃ round, (run "ck-bus" "d1" reconciled).bus.task = .judging round ∧
      round.listed = [("aft", ⟨1, 2, 1⟩), ("bot", ⟨1, 1, 0⟩)] ∧
      (run "ck-bus" "d1" reconciled).bus.census.toList = [("aft", ⟨1, 2, 1⟩)] ∧
      ∀ moduleId value, moduleId ≠ "ck-bus" →
        (run "ck-bus" "d1" reconciled).bus.census.get moduleId = some value →
        (moduleId, value) ∈ round.listed ∨ value.credential < round.since →
        liveIn round.snapshot moduleId value.spawnGeneration = true ∧
          value.incarnation = round.incarnation := by
  have htask : (run "ck-bus" "d1" reconciled).bus.task =
      .judging ⟨3, [("aft", ⟨1, 2, 1⟩), ("bot", ⟨1, 1, 0⟩)],
        ⟨⟨"d2", 1⟩, 4096, [⟨"aft", 1, 44, 9⟩]⟩, 1, [], true, true⟩ := by
    decide +kernel
  exact ⟨_, htask, rfl, by decide +kernel,
    run_reconciles _ _ reconciled (by decide +kernel) _ htask rfl rfl rfl⟩

/-- The daemon restarts and spawns the module again at generation 1: the entry of
the old process passes for the new one and stays. -/
theorem restarted_daemon_keeps_entry :
    let ops : List Op := [.daemon (.spawn "aft" 31 5), .bus (.readGeneration "aft"),
      .bus (.censusPut 0), .daemon (.restart "d2"), .daemon (.spawn "aft" 44 9), .bus .reconcile,
      .bus (.list true), .bus (.takeSnapshot true), .bus (.judge true)]
    let world := run "ck-bus" "d1" ops
    world.bus.census.get "aft" = some ⟨1, 0, 0⟩ ∧ world.daemon.incarnation = 1 ∧
      world.bus.task = .judging
        ⟨1, [("aft", ⟨1, 0, 0⟩)], ⟨⟨"d2", 1⟩, 4096, [⟨"aft", 1, 44, 9⟩]⟩, 1, [], true, true⟩ := by
  decide +kernel

end runs

end Subconscious.SpawnConsumer
