import Subconscious.HashMaps
import Subconscious.Runs

/-!
# The roster of live children and its record

The daemon keeps every child process it started in a roster and mirrors the
roster in a record file, which the next boot sweeps for processes that outlived
the daemon. An admission is published in memory first and written under the
write gate afterwards; every other change is made and written inside the gate.
A write replaces the file atomically or leaves it, and a failed write of a
release or a retention is ignored. A crash loses the memory and keeps the file,
so what the next boot finds is the record of some state of a run. An entry of
the record has all the data the sweep matches a process by; a confirmation
whose write failed leaves the image of before in it.
-/

namespace Subconscious.ChildRoster

open HashMaps HashMap Runs List

/-- A child as the record lists it. -/
structure LiveChild (Rest : Type) where
  moduleId : String
  pid : Nat
  startTime : Option Nat
  executable : Option Nat
  /-- The protocol, the cgroup name and the container. -/
  rest : Rest
  deriving DecidableEq, Repr

/-- The start time and the executable of a child's process. -/
abbrev Image := Option Nat × Option Nat

/-- The image a child is listed with. -/
def LiveChild.image (child : LiveChild Rest) : Image := (child.startTime, child.executable)

/-- The same child with another image. -/
def LiveChild.withImage (child : LiveChild Rest) (image : Image) : LiveChild Rest :=
  { child with startTime := image.1, executable := image.2 }

/-- The file at the record's path. -/
inductive RecordFile (Rest : Type) where
  | missing
  | children (listed : List (LiveChild Rest))
  /-- A file that does not parse, or has an unknown version. -/
  | unusable

/-- How a file replacement or a rename ends. -/
inductive Write where
  | replaced
  /-- The rename took effect and the sync of the directory after it failed. -/
  | unsynced
  | failed
  deriving DecidableEq, Repr

/-- A child as the daemon holds it. -/
structure HeldChild (Rest : Type) where
  recorded : LiveChild Rest
  /-- The images it was admitted or confirmed with before; the daemon does not store them. -/
  earlier : List Image
  deriving DecidableEq

/-- A child in the roster. -/
structure RosterEntry (Rest : Type) where
  child : HeldChild Rest
  /-- The admission returned the child's guard; the daemon does not store it. -/
  admitted : Bool
  deriving DecidableEq

/-- What the daemon knows of its children, and the file that mirrors it. -/
structure RosterInner (Rest : Type) where
  nextKey : Nat
  live : HashMap Nat (RosterEntry Rest)
  retained : List (HeldChild Rest)
  /-- The record is evidence that must not be overwritten. -/
  unquarantinedRecord : Bool
  record : RecordFile Rest

/-- The children a file lists. -/
def RecordFile.listed : RecordFile Rest → List (LiveChild Rest)
  | children listed => listed
  | _ => []

/-- The record has the child's entry, with its image or one it had before. -/
def RecordFile.Lists (record : RecordFile Rest) (child : HeldChild Rest) : Prop :=
  ∃ image ∈ child.recorded.image :: child.earlier, child.recorded.withImage image ∈ record.listed

/-- The children a write lists: the live ones in the order of their keys, then
the retained ones. -/
def RosterInner.snapshot (inner : RosterInner Rest) : List (LiveChild Rest) :=
  let entries := inner.live.toList.mergeSort fun a b => a.1 ≤ b.1
  entries.map (fun entry => entry.2.child.recorded) ++ inner.retained.map HeldChild.recorded

/-- Replace the record, unless it is evidence; whether that succeeded. -/
def writeRecord (inner : RosterInner Rest) (write : Write) : RosterInner Rest × Bool :=
  if inner.unquarantinedRecord then (inner, false) else
    match write with
    | .replaced => ({ inner with record := .children inner.snapshot }, true)
    | .unsynced => ({ inner with record := .children inner.snapshot }, false)
    | .failed => (inner, false)

/-- One atomic step: an admission's publication, or a section under the write gate. -/
inductive Op (Rest : Type) where
  | publish (child : LiveChild Rest)
  | recordAdmission (key : Nat) (write : Write)
  | drop (key : Nat) (write : Write)
  | releaseDurably (key : Nat) (write : Write)
  | retain (key : Nat) (write : Write)
  | confirmExecutable (key startTime : Nat) (executable : Option Nat) (write : Write)
  | flushAdmissions (write : Write)
  /-- `keep` is what the probes of the retained processes say, `updated` whether
  a reason changed. -/
  | recheckRetained (keep : LiveChild Rest → Bool) (updated : Bool) (write : Write)
  | quarantineFailedAdmission (rename : Write)

section

variable (inner : RosterInner Rest)

/-- The first half of an admission, before the write gate is taken. -/
def publish (child : LiveChild Rest) : RosterInner Rest :=
  { inner with
    nextKey := inner.nextKey + 1
    live := inner.live.insert inner.nextKey ⟨⟨child, []⟩, false⟩ }

section

variable (key : Nat) (write : Write)

/-- The second half of an admission. A failed write hands the guard out in the error. -/
def recordAdmission : RosterInner Rest :=
  let written := writeRecord inner write
  if written.2 then
    { written.1 with
      live := written.1.live.modify key fun entry => { entry with admitted := true } }
  else written.1

/-- The entry of a guard leaves the roster. -/
def forget (key : Nat) : RosterInner Rest :=
  { inner with live := inner.live.remove key }

/-- A dropped guard releases its child. -/
def drop : RosterInner Rest :=
  match inner.live.get key with
  | some _ => (writeRecord (forget inner key) write).1
  | none => inner

/-- A guard is given up, and its caller learns whether that was written. -/
def releaseDurably : RosterInner Rest :=
  (writeRecord (forget inner key) write).1

/-- The entry of a guard moves to the retained list. -/
def keepRetained (key : Nat) (child : HeldChild Rest) : RosterInner Rest :=
  { forget inner key with retained := inner.retained ++ [child] }

/-- A guard whose process may have survived is retained. -/
def retain : RosterInner Rest :=
  match inner.live.get key with
  | some entry => (writeRecord (keepRetained inner key entry.child) write).1
  | none => inner

end

/-- The image that a child runs is observed. -/
def confirmed (startTime : Nat) (executable : Option Nat) (entry : RosterEntry Rest) :
    RosterEntry Rest :=
  { entry with child :=
    { recorded := entry.child.recorded.withImage (some startTime, executable)
      earlier := entry.child.recorded.image :: entry.child.earlier } }

/-- `confirm_executable`. -/
def confirmExecutable (key startTime : Nat) (executable : Option Nat) (write : Write) :
    RosterInner Rest :=
  match inner.live.get key with
  | some _ =>
    (writeRecord { inner with live := inner.live.modify key (confirmed startTime executable) }
      write).1
  | none => inner

/-- The record is written again only when the probes changed something. -/
def recheckRetained (keep : LiveChild Rest → Bool) (updated : Bool) (write : Write) :
    RosterInner Rest :=
  let kept := { inner with retained := inner.retained.filter fun child => keep child.recorded }
  if kept.retained.length ≠ inner.retained.length ∨ updated then (writeRecord kept write).1
  else kept

/-- The record is renamed away as evidence of a failed admission write; without
a record a marker is left in its place. -/
def quarantineFailedAdmission (rename : Write) : RosterInner Rest :=
  { inner with
    record := if rename = .failed then inner.record else .missing
    unquarantinedRecord := inner.unquarantinedRecord || rename != .replaced }

/-- What one step does. -/
def step : Op Rest → RosterInner Rest
  | .publish child => publish inner child
  | .recordAdmission key write => recordAdmission inner key write
  | .drop key write => drop inner key write
  | .releaseDurably key write => releaseDurably inner key write
  | .retain key write => retain inner key write
  | .confirmExecutable key startTime executable write =>
    confirmExecutable inner key startTime executable write
  | .flushAdmissions write => (writeRecord inner write).1
  | .recheckRetained keep updated write => recheckRetained inner keep updated write
  | .quarantineFailedAdmission rename => quarantineFailedAdmission inner rename

end

/-- The roster of a boot that finds a record. An unusable one is renamed away,
or marked when that fails; the entries of a usable one are retained. -/
def recordTo (found : RecordFile Rest) (rename : Write) : RosterInner Rest :=
  let boot : RosterInner Rest :=
    { nextKey := 0, live := .empty, retained := found.listed.map fun child => ⟨child, []⟩,
      unquarantinedRecord := false, record := found }
  match found with
  | .unusable =>
    { boot with
      record := if rename = .failed then found else .missing
      unquarantinedRecord := rename != .replaced }
  | _ => boot

/-- A run of the daemon from the record a boot finds. -/
def run (found : RecordFile Rest) (rename : Write) (ops : List (Op Rest)) : RosterInner Rest :=
  ops.foldl step (recordTo found rename)

/-- The record lists every child whose admission succeeded and that was not
released, and every retained one. -/
structure Covered (inner : RosterInner Rest) : Prop where
  live : ∀ key entry, inner.live.get key = some entry → entry.admitted = true →
    inner.record.Lists entry.child
  retained : ∀ child ∈ inner.retained, inner.record.Lists child

/-- The step moves no record away, and the write succeeds that retains a child
whose own admission write failed. -/
def Sheltered (inner : RosterInner Rest) : Op Rest → Prop
  | .retain key write =>
    (inner.live.get key).all RosterEntry.admitted = true ∨
      inner.unquarantinedRecord = false ∧ write ≠ .failed
  | .quarantineFailedAdmission rename => rename = .failed
  | _ => True

variable {inner : RosterInner Rest}

/-- A write lists every live child. -/
theorem mem_snapshot_of_live (h : inner.live.get key = some entry) :
    entry.child.recorded ∈ inner.snapshot := by
  have hmem : (key, entry) ∈ inner.live.toList := (mem_toList _ _ _).mpr h
  refine mem_append_left _ (mem_map.mpr ⟨(key, entry), ?_, rfl⟩)
  exact mem_mergeSort.mpr hmem

/-- A child that is listed as it is held. -/
theorem lists_of_mem (h : child.recorded ∈ listed) : (RecordFile.children listed).Lists child :=
  ⟨child.recorded.image, mem_cons_self, h⟩

/-- A write leaves the roster as it is and fails, or makes the record list all of it. -/
theorem writeRecord_cases :
    writeRecord inner write = (inner, false) ∧
        (inner.unquarantinedRecord = true ∨ write = .failed) ∨
      (writeRecord inner write).1 = { inner with record := .children inner.snapshot } := by
  unfold writeRecord
  split
  case isTrue h => exact .inl ⟨rfl, .inl h⟩
  cases write with
  | failed => exact .inl ⟨rfl, .inr rfl⟩
  | _ => exact .inr rfl

/-- A record that was just written covers the roster. -/
theorem covered_snapshot :
    Covered { inner with record := .children inner.snapshot } where
  live _ _ hentry _ := lists_of_mem (mem_snapshot_of_live hentry)
  retained _ hchild := lists_of_mem (mem_append_right _ (mem_map_of_mem hchild))

/-- What the old record covers, the record after a write covers. -/
theorem Covered.written (h : Covered inner) (write : Write) :
    Covered (writeRecord inner write).1 := by
  rcases writeRecord_cases with ⟨hkept, -⟩ | hwritten
  · rw [hkept]
    exact h
  · rw [hwritten]
    exact covered_snapshot

/-- A write that takes effect covers a roster that the old record did not. -/
theorem covered_written (hopen : inner.unquarantinedRecord = false) (hwrite : write ≠ .failed) :
    Covered (writeRecord inner write).1 := by
  rcases writeRecord_cases with ⟨-, hclosed | hfailed⟩ | hwritten
  · rw [hopen] at hclosed
    cases hclosed
  · exact absurd hfailed hwrite
  · rw [hwritten]
    exact covered_snapshot

section

variable (h : Covered inner)
include h

/-- A published child is not admitted yet. -/
theorem Covered.publish (child : LiveChild Rest) : Covered (publish inner child) where
  live := forall_insert nofun h.live
  retained := h.retained

/-- Only a write that took effect reports success, and it lists the new child. -/
theorem Covered.recordAdmission (key : Nat) (write : Write) :
    Covered (recordAdmission inner key write) := by
  simp only [ChildRoster.recordAdmission]
  split
  case isTrue hok =>
    rcases writeRecord_cases with ⟨hkept, -⟩ | hwritten
    · rw [hkept] at hok
      cases hok
    rw [hwritten]
    refine ⟨?_, (covered_snapshot).retained⟩
    intro other entry hentry _
    rcases of_get_modify hentry with ⟨-, old, hold, rfl⟩ | ⟨-, hold⟩
    · have hlisted := mem_snapshot_of_live hold
      exact lists_of_mem hlisted
    · exact lists_of_mem (mem_snapshot_of_live hold)
  case isFalse => exact h.written write

/-- A child that left the roster needs no entry. -/
theorem Covered.forget (key : Nat) : Covered (forget inner key) where
  live other entry hentry := h.live other entry (of_get_remove hentry).2
  retained := h.retained

/-- A retained child is listed already, or the write lists it. -/
theorem Covered.retain (hlive : inner.live.get key = some entry)
    (hsheltered : Sheltered inner (.retain key write)) :
    Covered (writeRecord (keepRetained inner key entry.child) write).1 := by
  rcases hsheltered with hadmitted | ⟨hopen, hwrite⟩
  · rw [hlive] at hadmitted
    have hlisted : inner.record.Lists entry.child := h.live key entry hlive hadmitted
    have hkept : Covered (keepRetained inner key entry.child) := by
      refine ⟨(h.forget key).live, ?_⟩
      exact forall_mem_append.mpr ⟨h.retained, forall_mem_singleton.mpr hlisted⟩
    exact hkept.written write
  · exact covered_written hopen hwrite

/-- A confirmed child is listed with the image it had before. -/
theorem Covered.confirm (key startTime : Nat) (executable : Option Nat) :
    Covered { inner with live := inner.live.modify key (confirmed startTime executable) } where
  live other entry hentry hadmitted := by
    rcases of_get_modify hentry with ⟨-, old, hold, rfl⟩ | ⟨-, hold⟩
    · obtain ⟨image, himage, hlisted⟩ := h.live other old hold hadmitted
      exact ⟨image, mem_cons_of_mem _ himage, hlisted⟩
    · exact h.live other entry hold hadmitted
  retained := h.retained

/-- A retained child that is gone needs no entry. -/
theorem Covered.filter (keep : HeldChild Rest → Bool) :
    Covered { inner with retained := inner.retained.filter keep } where
  live := h.live
  retained child hchild := h.retained child (mem_of_mem_filter hchild)

/-- Every sheltered step keeps the record covering. -/
theorem Covered.step (op : Op Rest) (hsheltered : Sheltered inner op) :
    Covered (step inner op) := by
  cases op with
  | publish child => exact h.publish child
  | recordAdmission key write => exact h.recordAdmission key write
  | drop key write =>
    simp only [ChildRoster.step, drop]
    split
    · exact (h.forget key).written write
    · exact h
  | releaseDurably key write => exact (h.forget key).written write
  | retain key write =>
    simp only [ChildRoster.step, ChildRoster.retain]
    split
    case h_1 entry hlive => exact h.retain hlive hsheltered
    case h_2 => exact h
  | confirmExecutable key startTime executable write =>
    simp only [ChildRoster.step, confirmExecutable]
    split
    · exact (h.confirm key startTime executable).written write
    · exact h
  | flushAdmissions write => exact h.written write
  | recheckRetained keep updated write =>
    simp only [ChildRoster.step, recheckRetained]
    split
    · exact (h.filter _).written write
    · exact h.filter _
  | quarantineFailedAdmission rename =>
    cases (show rename = .failed from hsheltered)
    exact ⟨h.live, h.retained⟩

end

/-- A boot retains what the record lists. -/
theorem recordTo_covered : Covered (recordTo found rename) := by
  cases found with
  | children listed =>
    refine ⟨nofun, ?_⟩
    intro child hchild
    obtain ⟨recorded, hrecorded, rfl⟩ := mem_map.mp hchild
    exact lists_of_mem hrecorded
  | _ => exact ⟨nofun, nofun⟩

/-- In every run of sheltered steps, wherever the daemon crashes, the record
lists every process that the next boot has to find. -/
theorem run_record_covers (found : RecordFile Rest) (rename : Write) (ops : List (Op Rest))
    (hsheltered : Throughout step Sheltered (recordTo found rename) ops) :
    Covered (run found rename ops) :=
  hsheltered.induction Covered (fun _ op hop h => h.step op hop) recordTo_covered

/-- A child that was admitted before its executable was known. -/
def sample (moduleId : String) (pid : Nat) : LiveChild Unit := ⟨moduleId, pid, some 3, none, ()⟩

/-- An admission that is confirmed, a failed one with its release, and a
retention whose write fails. -/
theorem run_record_covers_retained :
    let inner := run .missing .replaced
      [.publish (sample "left" 7), .recordAdmission 0 .replaced,
        .confirmExecutable 0 4 (some 5) .replaced, .publish (sample "right" 8),
        .recordAdmission 1 .failed, .drop 1 .failed, .retain 0 .failed]
    inner.retained = [⟨⟨"left", 7, some 4, some 5, ()⟩, [(some 3, none)]⟩] ∧ Covered inner :=
  ⟨by decide, run_record_covers _ _ _ ⟨trivial, trivial, trivial, trivial, trivial, trivial,
    .inl (by decide), trivial⟩⟩

/-- A failed admission write quarantines the record while another admitted child
runs: a crash then leaves no record at the path. -/
theorem quarantine_hides_live_child :
    ¬ Covered (run .missing .replaced
      [.publish (sample "left" 7), .recordAdmission 0 .replaced, .publish (sample "right" 8),
        .recordAdmission 1 .failed, .releaseDurably 1 .failed,
        .quarantineFailedAdmission .replaced]) := by
  intro h
  obtain ⟨_, -, hentry⟩ := h.live 0 ⟨⟨sample "left" 7, []⟩, true⟩ (by decide) rfl
  cases hentry

end Subconscious.ChildRoster
