import Mathlib.Data.List.Flatten
import Subconscious.Runs

/-!
# Sequence numbers of the activity ledger

The daemon appends activity entries to a file that rotates through a bounded
number of generations. Each daemon that opens the ledger recovers the next number
from the entries it can read, and keeps it in memory from then on. An append that
fails, after writing part of the line or all of it, closes the sink and leaves the
number as it is; a change of the retention opens a new sink and does not look at
the files again.
-/

namespace Subconscious.ActivityNumbers

open Runs List

/-- The retention of the ledger. -/
structure ActivityConfig where
  maxAgeDays : Nat
  maxTotalMb : Nat
  deriving DecidableEq, Repr

/-- The number of generations that are kept besides the active file. -/
def ActivityConfig.keep (config : ActivityConfig) : Nat :=
  let total := max config.maxTotalMb 1
  let fileMb := (total + 255) / 256
  total / fileMb - 1

/-- The files and the writer. A dead sink takes no entry. -/
structure Ledger where
  /-- The numbers of the readable lines of each generation, the active file first. -/
  files : List (List Nat) := []
  sink : Bool := false
  config : ActivityConfig := ⟨30, 64⟩
  nextSeq : Nat := 1
  /-- The numbers of the successful appends of all daemons, the last one first. -/
  appended : List Nat := []
  deriving DecidableEq, Repr

/-- A failed write may leave a readable line behind. -/
inductive Write where
  | written
  | failed (whole : Bool)
  deriving DecidableEq, Repr

/-- What happens to the ledger. -/
inductive Step where
  /-- A new daemon opens the ledger; the sink or a read may fail. -/
  | openWriter (config : ActivityConfig) (opened : Bool)
  | append (write : Write)
  | configure (config : ActivityConfig) (opened : Bool)
  /-- The sink starts a new active file, or removes its oldest generations. -/
  | rotate
  | discard (kept : Nat)
  deriving DecidableEq, Repr

/-- The number after which a ledger takes no entry. -/
def u64Max : Nat := 18446744073709551615

section

variable (ledger : Ledger)

section

variable (config : ActivityConfig)

/-- The numbers a daemon with the given retention can read. -/
def readable : List Nat :=
  (ledger.files.take (config.keep + 1)).flatten

/-- The highest of them. -/
def retainedMax : Nat := (readable ledger config).foldr max 0

/-- A daemon opens the ledger and recovers the next number. -/
def openWriter (opened : Bool) : Ledger :=
  let highest := retainedMax ledger config
  if opened ∧ highest < u64Max then
    { ledger with sink := true, config, nextSeq := highest + 1 }
  else { ledger with sink := false, config, nextSeq := 1 }

/-- The files with a line of the next number. -/
def writeLine : List (List Nat) :=
  match ledger.files with
  | [] => [[ledger.nextSeq]]
  | active :: rotated => (ledger.nextSeq :: active) :: rotated

/-- An append; a failed one closes the sink and keeps the number. -/
def append (write : Write) : Ledger :=
  if ledger.sink ∧ ledger.nextSeq ≠ u64Max then
    match write with
    | .written =>
      { ledger with
        files := writeLine ledger
        nextSeq := ledger.nextSeq + 1
        appended := ledger.nextSeq :: ledger.appended }
    | .failed whole =>
      { ledger with sink := false, files := if whole then writeLine ledger else ledger.files }
  else ledger

/-- A changed retention opens a new sink. -/
def configure (opened : Bool) : Ledger :=
  if config = ledger.config ∨ opened = false then ledger
  else { ledger with sink := true, config }

end

/-- What one step does. -/
def step : Step → Ledger
  | .openWriter config opened => openWriter ledger config opened
  | .append write => append ledger write
  | .configure config opened => configure ledger config opened
  | .rotate => { ledger with files := [] :: ledger.files }
  | .discard kept => { ledger with files := ledger.files.take kept }

end

/-- A history from an empty ledger. -/
def run (steps : List Step) : Ledger := steps.foldl step {}

/-- A reconfiguration opens no dead sink, and a daemon that opens the ledger reads
the highest number on the disk. -/
def Recovered (ledger : Ledger) : Step → Prop
  | .openWriter config true => ∀ seq ∈ ledger.files.flatten, seq ≤ retainedMax ledger config
  | .configure config true => config = ledger.config ∨ ledger.sink = true
  | _ => True

/-- An entry with a number as high as all appended ones is retained. -/
def Retained (ledger : Ledger) : Step → Prop
  | .openWriter config true => ∀ seq ∈ ledger.appended, seq ≤ retainedMax ledger config
  | _ => True

/-- Numbers that a live sink is past. -/
def Past (ledger : Ledger) (seqs : List Nat) : Prop :=
  ledger.sink = true → ∀ seq ∈ seqs, seq < ledger.nextSeq

variable {ledger : Ledger}

/-- A line adds its number. -/
theorem flatten_writeLine :
    (writeLine ledger).flatten = ledger.nextSeq :: ledger.files.flatten := by
  unfold writeLine
  split
  case h_1 hfiles | h_2 hfiles => rw [hfiles]; rfl

/-- After an append the next number is past the appended one too. -/
theorem past_cons (hpast : ∀ seq ∈ seqs, seq < ledger.nextSeq) :
    ∀ seq ∈ ledger.nextSeq :: seqs, seq < ledger.nextSeq + 1 := by
  refine forall_mem_cons.mpr ⟨Nat.lt_succ_self _, ?_⟩
  exact fun seq hold => Nat.lt_succ_of_lt (hpast seq hold)

/-- A sink that opens is past the numbers below the one it recovered, and a
reconfiguration leaves a live sink where it was. -/
theorem Past.step (h : Past ledger seqs) (next : Step) (hnext : Recovered ledger next)
    (hopen : ∀ config, next = .openWriter config true →
      ∀ seq ∈ seqs, seq ≤ retainedMax ledger config) : Past (step ledger next) seqs := by
  cases next with
  | openWriter config opened =>
    simp only [ActivityNumbers.step, openWriter]
    split
    case isTrue hopened =>
      rw [hopened.1] at hopen
      exact fun _ seq hseq => Nat.lt_succ_of_le (hopen config rfl seq hseq)
    case isFalse => exact nofun
  | append write =>
    simp only [ActivityNumbers.step, append]
    split
    case isTrue hlive =>
      cases write with
      | written => exact fun _ seq hseq => past_cons (h hlive.1) seq (mem_cons_of_mem _ hseq)
      | failed whole => exact nofun
    case isFalse => exact h
  | configure config opened =>
    simp only [ActivityNumbers.step, configure]
    split
    case isTrue => exact h
    case isFalse hnew =>
      obtain ⟨hconfig, hopened⟩ := not_or.mp hnew
      rw [eq_true_of_ne_false hopened] at hnext
      exact fun _ => h (hnext.resolve_left hconfig)
  | _ => exact h

/-- The entries on the disk are pairwise different, and a live sink is past them. -/
structure Numbered (ledger : Ledger) : Prop where
  nodup : ledger.files.flatten.Nodup
  past : Past ledger ledger.files.flatten

/-- An append of a live sink adds a number that no entry has. -/
theorem Numbered.append (h : Numbered ledger) (write : Write) : Numbered (append ledger write) := by
  unfold ActivityNumbers.append
  split
  case isTrue hlive =>
    have hpast := h.past hlive.1
    have hnodup : (writeLine ledger).flatten.Nodup := by
      rw [flatten_writeLine]
      exact nodup_cons.mpr ⟨fun hseq => Nat.lt_irrefl _ (hpast _ hseq), h.nodup⟩
    cases write with
    | written =>
      refine ⟨hnodup, fun _ => ?_⟩
      rw [flatten_writeLine]
      exact past_cons hpast
    | failed whole =>
      refine ⟨?_, nofun⟩
      cases whole with
      | true => exact hnodup
      | false => exact h.nodup
  case isFalse => exact h

/-- Only an append adds numbers. -/
theorem step_cases (ledger : Ledger) (next : Step) : (∃ write, next = .append write) ∨
    (step ledger next).files.flatten.Sublist ledger.files.flatten ∧
      (step ledger next).appended = ledger.appended := by
  cases next with
  | openWriter config opened =>
    simp only [step, openWriter]
    split <;> exact .inr ⟨.refl _, rfl⟩
  | append write => exact .inl ⟨write, rfl⟩
  | configure config opened =>
    simp only [step, configure]
    split <;> exact .inr ⟨.refl _, rfl⟩
  | rotate => exact .inr ⟨.refl _, rfl⟩
  | discard kept => exact .inr ⟨(take_sublist kept ledger.files).flatten, rfl⟩

/-- Every step that recovers its number keeps the numbers different. -/
theorem Numbered.step (h : Numbered ledger) (next : Step) (hnext : Recovered ledger next) :
    Numbered (step ledger next) := by
  rcases step_cases ledger next with ⟨write, rfl⟩ | ⟨hfiles, -⟩
  · exact h.append write
  · have hpast := h.past.step next hnext (by rintro config rfl; exact hnext)
    exact ⟨h.nodup.sublist hfiles, fun hlive seq hseq => hpast hlive seq (hfiles.subset hseq)⟩

/-- The numbers of the appended entries rise, and a live sink is past them. -/
structure Rising (ledger : Ledger) : Prop where
  sorted : ledger.appended.Pairwise (· > ·)
  past : Past ledger ledger.appended

/-- An append of a live sink adds the highest number. -/
theorem Rising.append (h : Rising ledger) (write : Write) : Rising (append ledger write) := by
  unfold ActivityNumbers.append
  split
  case isTrue hlive =>
    have hpast := h.past hlive.1
    cases write with
    | written => exact ⟨pairwise_cons.mpr ⟨hpast, h.sorted⟩, fun _ => past_cons hpast⟩
    | failed whole => exact ⟨h.sorted, nofun⟩
  case isFalse => exact h

/-- Every step that recovers and retains the highest number keeps them rising. -/
theorem Rising.step (h : Rising ledger) (next : Step) (hnext : Recovered ledger next)
    (hretained : Retained ledger next) : Rising (step ledger next) := by
  rcases step_cases ledger next with ⟨write, rfl⟩ | ⟨-, happended⟩
  · exact h.append write
  have hpast := h.past.step next hnext (by rintro config rfl; exact hretained)
  rw [← happended] at hpast
  exact ⟨happended ▸ h.sorted, hpast⟩

/-- In every history that recovers its numbers, the entries on the disk have
different numbers; and if the highest number is retained whenever a daemon opens
the ledger, the numbers of the appended entries rise. -/
theorem run_numbers (steps : List Step) (hrecovered : Throughout step Recovered {} steps) :
    (run steps).files.flatten.Nodup ∧
      (Throughout step (fun ledger next => Recovered ledger next ∧ Retained ledger next) {} steps →
        (run steps).appended.Pairwise (· > ·)) := by
  have hfiles := hrecovered.induction Numbered (fun _ next hnext h => h.step next hnext)
    ⟨nodup_nil, nofun⟩
  refine ⟨hfiles.nodup, fun hretained => ?_⟩
  have hrising := hretained.induction Rising (fun _ next hnext h => h.step next hnext.1 hnext.2)
    ⟨.nil, nofun⟩
  exact hrising.sorted

/-- An append that fails after it wrote its line. -/
def interrupted : List Step :=
  [.openWriter ⟨30, 64⟩ true, .append .written, .append (.failed true)]

/-- The next daemon continues after the line. -/
theorem run_numbers_restarted :
    let ledger := run (interrupted ++ [.openWriter ⟨30, 64⟩ true, .append .written])
    ledger.appended = [3, 1] ∧ ledger.files.flatten.Nodup ∧ ledger.appended.Pairwise (· > ·) := by
  have hrecovered : Throughout step Recovered {}
      (interrupted ++ [.openWriter ⟨30, 64⟩ true, .append .written]) := by
    refine ⟨nofun, trivial, trivial, ?_, trivial, trivial⟩
    unfold Recovered
    decide
  obtain ⟨hnodup, hrising⟩ := run_numbers _ hrecovered
  refine ⟨by decide, hnodup, hrising ?_⟩
  obtain ⟨hfirst, -, -, hsecond, -⟩ := hrecovered
  refine ⟨⟨hfirst, nofun⟩, ⟨trivial, trivial⟩, ⟨trivial, trivial⟩, ⟨hsecond, ?_⟩,
    ⟨trivial, trivial⟩, trivial⟩
  unfold Retained
  decide

/-- A change of the retention opens the sink again at the number of the line. -/
theorem reconfigured_number_repeats :
    ¬ (readable (run (interrupted ++ [.configure ⟨30, 32⟩ true, .append .written]))
      ⟨30, 32⟩).Nodup := by
  decide

end Subconscious.ActivityNumbers
