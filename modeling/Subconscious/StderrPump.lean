import Mathlib.Data.List.Induction
import Mathlib.Data.List.TakeWhile
import Mathlib.Data.List.TakeDrop

/-!
# Framing a child's output into lines

A pump reads the output of a child in pieces of any size and hands complete
lines to a sink. It keeps what follows the last newline, and three positions
in that buffer: up to which byte it was searched, up to which byte lines were
emitted, and its end. A buffer that reaches a ceiling without a newline is
handed over as it is. The lines of the whole output are defined on their own,
and one search of the buffer is shown to take lines off the front of them.
-/

namespace Subconscious.StderrPump

open List

/-- The ceiling of the buffer: 1 MiB. -/
def maxPendingLineBytes : Nat := 1024 * 1024

/-- The state of a pump. -/
structure Pump where
  pending : List UInt8 := []
  scannedUpto : Nat := 0
  /-- What the sink was given. -/
  writes : List (List UInt8) := []
  deriving DecidableEq, Repr

/-- The first newline. -/
def findNewline (haystack : List UInt8) : Option Nat := haystack.findIdx? (· == 10)

/-- A write to a sink that does not stamp lines. -/
def emitLine (raw : List UInt8) (terminated : Bool) : List UInt8 :=
  if terminated then raw ++ [10] else raw

theorem findNewline_some (h : findNewline haystack = some relative) :
    ∃ line rest, haystack = line ++ 10 :: rest ∧ line.length = relative ∧ 10 ∉ line := by
  obtain ⟨hlt, hnewline, hbefore⟩ := List.findIdx?_eq_some_iff_getElem.mp h
  refine ⟨haystack.take relative, haystack.drop (relative + 1), ?_, ?_, ?_⟩
  · rw [← beq_iff_eq.mp hnewline, ← drop_eq_getElem_cons hlt, take_append_drop]
  · exact length_take_of_le hlt.le
  · intro hmem
    obtain ⟨index, hindex, heq⟩ := List.mem_take_iff_getElem.mp hmem
    exact hbefore index (by omega) (beq_iff_eq.mpr heq)

theorem findNewline_none (h : findNewline haystack = none) : 10 ∉ haystack := by
  intro hmem
  exact absurd rfl (ne_of_beq_false (List.findIdx?_eq_none_iff.mp h 10 hmem))

/-- The search for newlines in the buffer: the lines it emits, and the byte
after the last of them. -/
def emitLines (pending : List UInt8) (scannedUpto cursor : Nat) (writes : List (List UInt8)) :
    Nat × List (List UInt8) :=
  match _hfound : findNewline (pending.drop scannedUpto) with
  | some relative =>
    let newline := scannedUpto + relative
    emitLines pending (newline + 1) (newline + 1)
      (writes ++ [emitLine ((pending.take newline).drop cursor) true])
  | none => (cursor, writes)
termination_by pending.length - scannedUpto
decreasing_by
  obtain ⟨line, rest, hdrop, hlength, -⟩ := findNewline_some _hfound
  have hle := congrArg List.length hdrop
  rw [length_drop, length_append, length_cons] at hle
  omega

/-- One read: its bytes are searched, the emitted lines leave the buffer, and
a buffer at the ceiling is flushed. -/
def Pump.read (pump : Pump) (chunk : List UInt8) : Pump :=
  let pending := pump.pending ++ chunk
  let (cursor, writes) := emitLines pending pump.scannedUpto 0 pump.writes
  let pending := pending.drop cursor
  if pending.length ≥ maxPendingLineBytes then
    { writes := writes ++ [emitLine pending false] }
  else { pending, scannedUpto := pending.length, writes }

/-- What the sink was given after all reads. A failed read loses the rest of
the buffer, a clean end hands it over. -/
def pumpLinesInto (chunks : List (List UInt8)) (failed : Bool) : List (List UInt8) :=
  let pump := chunks.foldl Pump.read {}
  if failed ∨ pump.pending = [] then pump.writes else pump.writes ++ [emitLine pump.pending false]

/-- Bytes put in front of the first line. -/
def startWith (start : List UInt8) : List (List UInt8) → List (List UInt8)
  | [] => [start]
  | line :: rest => (start ++ line) :: rest

/-- The lines of a text, each with its newline; only the last may lack one. -/
def lines : List UInt8 → List (List UInt8)
  | [] => []
  | byte :: bytes => if byte = 10 then [byte] :: lines bytes else startWith [byte] (lines bytes)

theorem flatten_startWith : (startWith start rest).flatten = start ++ rest.flatten := by
  cases rest with
  | nil => rfl
  | cons line rest => exact append_assoc _ _ _

theorem flatten_lines : (lines bytes).flatten = bytes := by
  induction bytes with
  | nil => rfl
  | cons byte bytes ih =>
    unfold lines
    split
    case isTrue => exact congrArg (byte :: ·) ih
    case isFalse =>
      rw [flatten_startWith, ih]
      rfl

/-- Bytes without a newline start one line. -/
theorem lines_start (h : 10 ∉ start) (hne : start ≠ []) (rest : List UInt8) :
    lines (start ++ rest) = startWith start (lines rest) := by
  induction start with
  | nil => exact absurd rfl hne
  | cons byte start ih =>
    rw [mem_cons, not_or] at h
    rw [cons_append, lines, if_neg (Ne.symm h.1)]
    cases start with
    | nil => rfl
    | cons next start =>
      rw [ih h.2 (cons_ne_nil _ _)]
      cases lines rest with
      | nil | cons => rfl

/-- The bytes up to a newline are the first line. -/
theorem lines_newline (h : 10 ∉ line) (rest : List UInt8) :
    lines (line ++ 10 :: rest) = (line ++ [10]) :: lines rest := by
  by_cases hne : line = []
  · rw [hne]
    rfl
  · rw [lines_start h hne]
    rfl

/-- The length of a line without its newline. -/
def textLength (line : List UInt8) : Nat := (line.takeWhile (· ≠ 10)).length

/-- Bytes without a newline are no longer than the line they start. -/
theorem length_start_lt (h : 10 ∉ start)
    (hlines : ∀ line ∈ lines (start ++ rest), textLength line < maxPendingLineBytes) :
    start.length < maxPendingLineBytes := by
  by_cases hne : start = []
  · rw [hne]
    exact Nat.zero_lt_succ _
  have htext (tail : List UInt8) : start.length ≤ textLength (start ++ tail) := by
    have hpos : ∀ byte ∈ start, decide (byte ≠ 10) = true := by
      intro byte hmem
      exact decide_eq_true fun heq => h (heq ▸ hmem)
    unfold textLength
    rw [takeWhile_append_of_pos hpos, length_append]
    exact Nat.le_add_right _ _
  rw [lines_start h hne] at hlines
  obtain ⟨tail, hmem⟩ : ∃ tail, start ++ tail ∈ startWith start (lines rest) := by
    cases lines rest with
    | nil => exact ⟨[], by rw [append_nil]; exact mem_singleton_self _⟩
    | cons line others => exact ⟨line, mem_cons_self⟩
  exact (htext tail).trans_lt (hlines _ hmem)

/-- One search takes the complete lines off the front of the unsent bytes,
whatever is read after them. -/
theorem emitLines_spec
    (hseen : 10 ∉ seen) : ∃ sent' rest new, sent ++ (seen ++ unseen) = sent' ++ rest ∧
    emitLines (sent ++ (seen ++ unseen)) (sent.length + seen.length) sent.length writes =
      (sent'.length, writes ++ new) ∧
    (∀ piece ∈ new, piece.getLast? = some 10) ∧ 10 ∉ rest ∧
    ∀ later, lines (seen ++ unseen ++ later) = new ++ lines (rest ++ later) := by
  have hdrop : (sent ++ (seen ++ unseen)).drop (sent.length + seen.length) = unseen := by
    rw [← append_assoc, ← length_append, drop_left]
  unfold emitLines
  rw [hdrop]
  split
  case h_1 relative hfound =>
    obtain ⟨line, rest, hunseen, rfl, hline⟩ := findNewline_some hfound
    have hshorter : rest.length < unseen.length := by
      rw [hunseen, length_append, length_cons]
      omega
    rw [hunseen]
    have hclean : 10 ∉ seen ++ line := fun hmem => (List.mem_append.mp hmem).elim hseen hline
    have hsplit : sent ++ (seen ++ (line ++ 10 :: rest)) =
        (sent ++ (seen ++ line ++ [10])) ++ ([] ++ rest) := by simp
    have hnewline : sent.length + seen.length + line.length + 1 =
        (sent ++ (seen ++ line ++ [10])).length := by simp; omega
    have hraw : ((sent ++ (seen ++ (line ++ 10 :: rest))).take
        (sent.length + seen.length + line.length)).drop sent.length = seen ++ line := by
      rw [← append_assoc seen, ← append_assoc, Nat.add_assoc, ← length_append,
        ← length_append, take_left, drop_left]
    obtain ⟨sent', rest', new, hsent, hemit, hpieces, hrest, hlines⟩ :=
      emitLines_spec not_mem_nil
    refine ⟨sent', rest', emitLine (seen ++ line) true :: new, hsplit.trans hsent, ?_, ?_, hrest, ?_⟩
    · dsimp only
      rw [hraw, hnewline, hsplit]
      refine hemit.trans ?_
      rw [append_assoc]
      rfl
    · exact List.forall_mem_cons.mpr ⟨List.getLast?_concat, hpieces⟩
    · intro later
      have hfirst := lines_newline hclean (rest ++ later)
      rw [← nil_append rest, hlines later] at hfirst
      simpa [emitLine] using hfirst
  case h_2 hnone =>
    refine ⟨sent, seen ++ unseen, [], rfl, ?_, forall_mem_nil _, ?_, fun _ => rfl⟩
    · rw [append_nil]
    · exact fun hmem => (List.mem_append.mp hmem).elim hseen (findNewline_none hnone)
termination_by unseen.length
decreasing_by exact hshorter

/-- The buffer was searched to its end, holds no newline and is below the
ceiling; every write so far ends at a newline or came from a full buffer. -/
structure Pumped (bytes : List UInt8) (pump : Pump) : Prop where
  whole : pump.writes.flatten ++ pump.pending = bytes
  searched : pump.scannedUpto = pump.pending.length
  clean : 10 ∉ pump.pending
  short : pump.pending.length < maxPendingLineBytes
  ends : ∀ piece ∈ pump.writes, piece.getLast? = some 10 ∨ maxPendingLineBytes ≤ piece.length

/-- What one read does: it emits complete lines, and then the rest of the
buffer if that is full. -/
theorem Pump.read_cases (h : Pumped bytes pump) (chunk : List UInt8) : ∃ rest new,
    (∀ piece ∈ new, piece.getLast? = some 10) ∧ 10 ∉ rest ∧
    (∀ later, lines (pump.pending ++ chunk ++ later) = new ++ lines (rest ++ later)) ∧
    pump.read chunk = if rest.length ≥ maxPendingLineBytes then
      { writes := pump.writes ++ new ++ [rest] }
    else ⟨rest, rest.length, pump.writes ++ new⟩ := by
  obtain ⟨sent, rest, new, hsent, hemit, hpieces, hrest, hlines⟩ := emitLines_spec h.clean
  rw [nil_append] at hsent hemit
  rw [length_nil, Nat.zero_add, ← h.searched] at hemit
  refine ⟨rest, new, hpieces, hrest, hlines, ?_⟩
  unfold Pump.read
  dsimp only
  rw [hemit, hsent, drop_left]
  rfl

theorem Pump.read_pumped (h : Pumped bytes pump) (chunk : List UInt8) :
    Pumped (bytes ++ chunk) (pump.read chunk) := by
  obtain ⟨rest, new, hpieces, hrest, hlines, hread⟩ := Pump.read_cases h chunk
  have hwhole : (pump.writes ++ new).flatten ++ rest = bytes ++ chunk := by
    have hflatten := congrArg List.flatten (hlines [])
    rw [flatten_append, flatten_lines, flatten_lines, append_nil, append_nil]
      at hflatten
    rw [flatten_append, append_assoc, ← hflatten, ← append_assoc, h.whole]
  have hends := List.forall_mem_append.mpr ⟨h.ends, fun piece hmem => .inl (hpieces piece hmem)⟩
  rw [hread]
  split
  case isTrue hfull =>
    refine ⟨?_, rfl, not_mem_nil, Nat.zero_lt_succ _, ?_⟩
    · rw [← hwhole]
      simp
    · exact List.forall_mem_append.mpr ⟨hends, List.forall_mem_singleton.mpr (.inr hfull)⟩
  case isFalse hfits => exact ⟨hwhole, rfl, hrest, Nat.lt_of_not_le hfits, hends⟩

theorem foldl_pumped (chunks : List (List UInt8)) :
    Pumped chunks.flatten (chunks.foldl Pump.read {}) := by
  induction chunks using reverseRecOn with
  | nil => exact ⟨rfl, rfl, not_mem_nil, Nat.zero_lt_succ _, forall_mem_nil _⟩
  | append_singleton chunks chunk ih =>
    rw [foldl_append, flatten_append, flatten_singleton]
    exact Pump.read_pumped ih chunk

/-- While no line reaches the ceiling, the writes are the lines. -/
theorem foldl_lines (h : Pumped bytes pump) {chunks : List (List UInt8)}
    (hshort : ∀ line ∈ lines (pump.pending ++ chunks.flatten),
      textLength line < maxPendingLineBytes) :
    (chunks.foldl Pump.read pump).writes ++ lines (chunks.foldl Pump.read pump).pending =
      pump.writes ++ lines (pump.pending ++ chunks.flatten) := by
  induction chunks generalizing pump bytes with
  | nil => rw [flatten_nil, append_nil]; rfl
  | cons chunk chunks ih =>
    obtain ⟨rest, new, -, hrest, hlines, hread⟩ := Pump.read_cases h chunk
    rw [flatten_cons, ← append_assoc, hlines] at hshort ⊢
    have hlater := fun line hmem => hshort line (mem_append_right new hmem)
    rw [if_neg (Nat.not_le_of_lt (length_start_lt hrest hlater))] at hread
    have hnext := Pump.read_pumped h chunk
    rw [foldl_cons]
    rw [hread] at hnext ⊢
    rw [ih hnext hlater, append_assoc]

/-- At a clean end the sink has the writes and the lines of the buffer, which are
at most one. -/
theorem pumpLinesInto_clean (h : 10 ∉ (chunks.foldl Pump.read {}).pending) :
    pumpLinesInto chunks false = (chunks.foldl Pump.read {}).writes ++
      lines (chunks.foldl Pump.read {}).pending ∧
    (pumpLinesInto chunks false).dropLast ⊆ (chunks.foldl Pump.read {}).writes := by
  unfold pumpLinesInto
  by_cases hempty : (chunks.foldl Pump.read {}).pending = []
  · simp [hempty, lines, dropLast_subset]
  · have hlast := lines_start h hempty []
    rw [append_nil] at hlast
    simp [hempty, hlast, emitLine, startWith, lines]

/-- The sink is given exactly the bytes that were read. Every piece but the last
ends at a newline or is a flushed buffer of at least 1 MiB, the pieces are the
lines if none of those reaches 1 MiB, and the buffer never holds more than that
and one read. -/
theorem pump_pieces (chunks : List (List UInt8)) :
    (pumpLinesInto chunks false).flatten = chunks.flatten ∧
    (∀ piece ∈ (pumpLinesInto chunks false).dropLast,
      piece.getLast? = some 10 ∨ maxPendingLineBytes ≤ piece.length) ∧
    ((∀ line ∈ lines chunks.flatten, textLength line < maxPendingLineBytes) →
      pumpLinesInto chunks false = lines chunks.flatten) ∧
    ∀ chunk, ((chunks.foldl Pump.read {}).pending ++ chunk).length <
      maxPendingLineBytes + chunk.length := by
  obtain ⟨hwhole, -, hclean, hshort, hends⟩ := foldl_pumped chunks
  obtain ⟨hpieces, hlast⟩ := pumpLinesInto_clean hclean
  refine ⟨?_, fun piece hmem => hends piece (hlast hmem), ?_, ?_⟩
  · rw [hpieces, flatten_append, flatten_lines, hwhole]
  · intro hlines
    rw [hpieces]
    exact foldl_lines (foldl_pumped []) hlines
  · intro chunk
    rw [length_append]
    omega

end Subconscious.StderrPump
