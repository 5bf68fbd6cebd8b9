import Subconscious.HashMaps

/-!
# The spawn events of the supervisor

The supervisor numbers the processes of each module and emits one event for
every spawn and every exit. A snapshot lists the live processes with the cursor
of the last event.
-/

namespace Subconscious.SpawnEvents

open HashMaps HashMap

/-- The ring keeps this many events. -/
def spawnEventRingCapacity : Nat := 4096

/-- What an event reports of a process. -/
inductive SpawnEventKind where
  | spawned
  | exited
  deriving DecidableEq, Repr

/-- The position of an event in the feed of an incarnation. -/
structure SpawnCursor where
  daemonIncarnation : String
  seq : Nat
  deriving DecidableEq, Repr

/-- A spawn or an exit. -/
structure SpawnEvent where
  cursor : SpawnCursor
  kind : SpawnEventKind
  moduleId : String
  spawnGeneration : Nat
  pid : Nat
  exitCode : Option Int
  exitSignal : Option Int
  deriving DecidableEq, Repr

/-- A process that was spawned and whose exit was not reported. -/
structure LiveSpawn where
  moduleId : String
  spawnGeneration : Nat
  pid : Nat
  spawnedAtMs : Nat
  deriving DecidableEq, Repr

/-- The feed, with one live process for each module. -/
structure SpawnEventState where
  daemonIncarnation : String
  /-- As the generations, a count of 64 bits at whose end the daemon panics. -/
  seq : Nat
  capacity : Nat
  live : HashMap String LiveSpawn
  generations : HashMap String Nat
  events : List SpawnEvent
  /-- Every event emitted so far, of which `events` is the ring. -/
  emitted : List SpawnEvent

/-- The feed of a daemon incarnation before its first event. -/
def configureIncarnation (daemonIncarnation : String) : SpawnEventState where
  daemonIncarnation := daemonIncarnation
  seq := 0
  capacity := spawnEventRingCapacity
  live := .empty
  generations := .empty
  events := []
  emitted := []

/-- The position of the last event. -/
def cursor (state : SpawnEventState) : SpawnCursor := ⟨state.daemonIncarnation, state.seq⟩

/-- The live processes at a position. -/
structure SpawnSnapshot where
  cursor : SpawnCursor
  ringBound : Nat
  live : List LiveSpawn
  deriving DecidableEq

/-- The live processes now, in the order of their modules. -/
def snapshot (state : SpawnEventState) : SpawnSnapshot where
  cursor := cursor state
  ringBound := state.capacity
  live := state.live.values.mergeSort fun left right => left.moduleId ≤ right.moduleId

/-- Append an event; the ring drops its oldest ones. -/
def emitLocked (kind : SpawnEventKind) (moduleId : String) (spawnGeneration pid : Nat)
    (exitCode exitSignal : Option Int) (state : SpawnEventState) : SpawnEventState :=
  let event : SpawnEvent :=
    ⟨⟨state.daemonIncarnation, state.seq + 1⟩, kind, moduleId, spawnGeneration, pid, exitCode,
      exitSignal⟩
  let events := state.events ++ [event]
  { state with
    seq := state.seq + 1
    events := events.drop (events.length - state.capacity)
    emitted := state.emitted ++ [event] }

/-- The generation that the next process of a module gets. -/
def nextGeneration (state : SpawnEventState) (moduleId : String) : Nat :=
  (state.generations.get moduleId).getD 0 + 1

/-- Report a spawn, which takes the place of the module's live process. -/
def emitSpawned (moduleId : String) (pid spawnedAtMs : Nat) (state : SpawnEventState) :
    SpawnEventState :=
  let generation := nextGeneration state moduleId
  emitLocked .spawned moduleId generation pid none none
    { state with
      generations := state.generations.insert moduleId generation
      live := state.live.insert moduleId ⟨moduleId, generation, pid, spawnedAtMs⟩ }

/-- Report the exit of the module's live process. -/
def emitExited (moduleId : String) (exitCode exitSignal : Option Int) (state : SpawnEventState) :
    SpawnEventState :=
  match state.live.get moduleId with
  | none => state
  | some live =>
    emitLocked .exited moduleId live.spawnGeneration live.pid exitCode exitSignal
      { state with live := state.live.remove moduleId }

/-- The exit of a process that a swap has replaced. -/
def emitSupersededExited (moduleId : String) (spawnGeneration pid : Nat)
    (exitCode exitSignal : Option Int) (state : SpawnEventState) : SpawnEventState :=
  emitLocked .exited moduleId spawnGeneration pid exitCode exitSignal
    { state with
      live :=
        if (state.live.get moduleId).any fun live => live.spawnGeneration = spawnGeneration then
          state.live.remove moduleId
        else state.live }

/-- Every live process stands under its module. -/
def Named (live : HashMap String LiveSpawn) : Prop :=
  ∀ moduleId spawn, live.get moduleId = some spawn → spawn.moduleId = moduleId

/-- A spawn uses up a generation of its module. -/
theorem nextGeneration_emitSpawned :
    nextGeneration (emitSpawned moduleId pid spawnedAtMs state) other =
      nextGeneration state other + if other = moduleId then 1 else 0 := by
  simp only [nextGeneration, emitSpawned, emitLocked, get_insert]
  split
  case isTrue heq => rw [heq, Option.getD_some]
  case isFalse => rfl

/-- A report of the exit of one process of a module. -/
structure Exit (moduleId : String) (generation : Nat) (state state' : SpawnEventState) : Prop where
  generations : state'.generations = state.generations
  emitted : ∃ event, state'.emitted = state.emitted ++ [event] ∧ event.moduleId = moduleId ∧
    event.spawnGeneration = generation
  live : ∀ other spawn, state'.live.get other = some spawn ↔ state.live.get other = some spawn ∧
    (other = moduleId → spawn.spawnGeneration ≠ generation)

section

variable {state : SpawnEventState}

/-- Without its entry a module has no live process of that generation. -/
theorem get_remove_live (hlive : state.live.get moduleId = some live) (other : String)
    (spawn : LiveSpawn) : (state.live.remove moduleId).get other = some spawn ↔
      state.live.get other = some spawn ∧
        (other = moduleId → spawn.spawnGeneration ≠ live.spawnGeneration) := by
  rw [get_remove]
  by_cases heq : other = moduleId
  · subst heq
    rw [if_pos rfl, hlive]
    refine ⟨nofun, fun h => absurd ?_ (h.2 rfl)⟩
    rw [Option.some.inj h.1]
  · rw [if_neg heq]
    exact ⟨fun hget => ⟨hget, fun h => absurd h heq⟩, fun hget => hget.1⟩

/-- The live process of a module exits. -/
theorem emitExited_exit (hlive : state.live.get moduleId = some live) :
    Exit moduleId live.spawnGeneration state (emitExited moduleId exitCode exitSignal state) := by
  unfold emitExited
  rw [hlive]
  exact ⟨rfl, ⟨_, rfl, rfl, rfl⟩, get_remove_live hlive⟩

/-- A replaced process exits. -/
theorem emitSupersededExited_exit : Exit moduleId generation state
    (emitSupersededExited moduleId generation pid exitCode exitSignal state) := by
  refine ⟨rfl, ⟨_, rfl, rfl, rfl⟩, ?_⟩
  intro other spawn
  dsimp only [emitSupersededExited, emitLocked]
  split
  case isTrue hcurrent =>
    obtain ⟨live, hlive, hgeneration⟩ := Option.any_eq_true _ _ |>.mp hcurrent
    rw [← of_decide_eq_true hgeneration]
    exact get_remove_live hlive other spawn
  case isFalse hother =>
    refine ⟨fun hget => ⟨hget, ?_⟩, fun hget => hget.1⟩
    rintro rfl hgeneration
    rw [hget] at hother
    exact hother (decide_eq_true hgeneration)

end

end Subconscious.SpawnEvents
