import Subconscious.Runs
import Subconscious.ReleaseJournal

/-!
# What a stream holds

A stream holds records when it is their lines, or their lines and an unfinished
one. Reading returns the records and leaves just their lines. Appending to
whole lines adds one line or the beginning of it, and appending after an
unfinished line adds nothing that is ever read.
-/

namespace Subconscious.ReleaseDurability

open Programs ReleaseRecords ReleaseStreams
open List (append_assoc append_nil length_append nil_append take_of_length_le)

section holds

variable (codec : Codec Byte Record)

/-- The lines of some records. -/
def lines (records : List Record) : List Byte := records.flatMap codec.line

theorem lines_append (first second : List Record) :
    lines codec (first ++ second) = lines codec first ++ lines codec second :=
  List.flatMap_append

theorem lines_singleton : lines codec [record] = codec.line record := by
  simp [lines]

variable [DecidableEq Byte]

variable (offset : Nat)

/-- Bytes without a line break go to the current line. -/
theorem decodeFrom_chars (line rest : List Byte) (h : codec.newline ∉ chars) :
    decodeFrom codec offset line (chars ++ rest) = decodeFrom codec offset (line ++ chars) rest := by
  induction chars generalizing line with
  | nil => rw [nil_append, append_nil]
  | cons byte chars ih =>
    have hbyte : byte ≠ codec.newline := fun heq => h (heq ▸ List.mem_cons_self)
    have hchars : codec.newline ∉ chars := fun hmem => h (List.mem_cons_of_mem _ hmem)
    rw [List.cons_append, decodeFrom, if_neg hbyte, ih _ hchars, append_assoc]
    rfl

/-- A line of a record is read as the record, final or not. -/
theorem decodeFrom_line :
    decodeFrom codec offset [] (codec.line record ++ rest) =
      (decodeFrom codec (offset + (codec.line record).length) [] rest).map (record :: ·) := by
  have hread : readLine codec offset (codec.encode record) rest.isEmpty = .ok record := by
    unfold readLine
    rw [if_neg, codec.decode_encode]
    rw [List.isEmpty_iff]
    exact codec.encode_nonempty record
  unfold Codec.line
  rw [append_assoc, decodeFrom_chars _ _ _ _ (codec.encode_newline record),
    nil_append, List.singleton_append, decodeFrom, if_pos rfl, hread, length_append,
    List.length_singleton, Nat.add_assoc]
  cases decodeFrom codec (offset + ((codec.encode record).length + 1)) [] rest <;> rfl

section

variable (records : List Record)

/-- Whole lines are read first. -/
theorem decodeFrom_lines (rest : List Byte) :
    decodeFrom codec offset [] (lines codec records ++ rest) =
      (decodeFrom codec (offset + (lines codec records).length) [] rest).map (records ++ ·) := by
  induction records generalizing offset with
  | nil =>
    change decodeFrom codec offset [] rest = (decodeFrom codec (offset + 0) [] rest).map _
    rw [Nat.add_zero]
    cases decodeFrom codec offset [] rest <;> rfl
  | cons record records ih =>
    have hcons : lines codec (record :: records) = codec.line record ++ lines codec records := rfl
    rw [hcons, append_assoc, decodeFrom_line, ih, length_append, Nat.add_assoc]
    cases decodeFrom codec
      (offset + ((codec.line record).length + (lines codec records).length)) [] rest <;> rfl

theorem decodeRecords_lines : decodeRecords codec (lines codec records) = .ok records := by
  have h := decodeFrom_lines codec 0 records []
  rw [append_nil] at h
  unfold decodeRecords
  rw [h]
  simp [decodeFrom, Except.map]

/-- Bytes that are cut off where they begin. -/
def Torn (tail : List Byte) : Prop :=
  ∀ offset, decodeFrom codec offset [] tail = .error (.tornTail offset)

/-- A line without its line break is unfinished. -/
theorem torn_of_open (hopen : codec.newline ∉ tail) (hne : tail ≠ []) : Torn codec tail := by
  intro offset
  have h := decodeFrom_chars codec offset [] [] hopen
  rw [append_nil, nil_append] at h
  rw [h, decodeFrom, if_neg]
  rw [List.isEmpty_iff]
  exact hne

/-- A line that began twice is cut off as a whole. -/
theorem torn_of_begun (hbegun : begun <+: codec.encode first) (hne : begun ≠ []) :
    Torn codec (begun ++ codec.line second) := by
  intro offset
  obtain ⟨error, hdecode⟩ := codec.decode_begun first second begun hbegun hne
  have hopen : codec.newline ∉ begun ++ codec.encode second := by
    rw [List.mem_append]
    rintro (hmem | hmem)
    · exact codec.encode_newline first (hbegun.subset hmem)
    · exact codec.encode_newline second hmem
  have hread : readLine codec offset (begun ++ codec.encode second) true =
      .error (.tornTail offset) := by
    unfold readLine
    rw [if_neg, hdecode]
    · rfl
    · rw [List.isEmpty_iff]
      exact List.append_ne_nil_of_left_ne_nil hne _
  unfold Codec.line
  rw [← append_assoc, decodeFrom_chars _ _ _ _ hopen, nil_append, decodeFrom, if_pos rfl]
  rw [List.isEmpty_nil, hread]

/-- The stream holds just these records, and perhaps an unfinished line. -/
def Holds (bytes : List Byte) : Prop :=
  ∃ tail, bytes = lines codec records ++ tail ∧ (tail = [] ∨ Torn codec tail)

/-- The records, and perhaps the beginning of one more line. -/
def Started (bytes : List Byte) : Prop :=
  ∃ begun record, bytes = lines codec records ++ begun ∧ begun <+: codec.encode record

end

variable {codec}

theorem holds_lines : Holds codec records (lines codec records) :=
  ⟨[], (append_nil _).symm, .inl rfl⟩

theorem Started.holds (h : Started codec records bytes) : Holds codec records bytes := by
  obtain ⟨begun, record, hbytes, hbegun⟩ := h
  refine ⟨begun, hbytes, ?_⟩
  by_cases hne : begun = []
  · exact .inl hne
  · refine .inr (torn_of_open codec ?_ hne)
    exact fun hmem => codec.encode_newline record (hbegun.subset hmem)

/-- What reading a stream yields. -/
theorem decodeRecords_of_holds (h : Holds codec records bytes) :
    (bytes = lines codec records ∧ decodeRecords codec bytes = .ok records) ∨
      (decodeRecords codec bytes = .error (.tornTail (lines codec records).length) ∧
        bytes.take (lines codec records).length = lines codec records) := by
  obtain ⟨tail, hbytes, htail⟩ := h
  by_cases hne : tail = []
  · left
    rw [hne, append_nil] at hbytes
    rw [hbytes]
    exact ⟨rfl, decodeRecords_lines codec records⟩
  right
  have htorn := htail.resolve_left hne
  rw [hbytes]
  refine ⟨?_, List.take_left⟩
  unfold decodeRecords
  rw [decodeFrom_lines, htorn]
  simp [Except.map]

/-- The records a read would return. -/
def recovered (codec : Codec Byte Record) (bytes : List Byte) : List Record :=
  match decodeRecords codec bytes with
  | .ok records => records
  | .error (.tornTail offset) =>
    match decodeRecords codec (bytes.take offset) with
    | .ok records => records
    | .error _ => []
  | .error _ => []

theorem recovered_of_holds (h : Holds codec records bytes) : recovered codec bytes = records := by
  unfold recovered
  rcases decodeRecords_of_holds h with ⟨-, hok⟩ | ⟨htorn, htake⟩
  · rw [hok]
  rw [htorn]
  dsimp only
  rw [htake, decodeRecords_lines]

omit [DecidableEq Byte] in
/-- A piece of a line after whole lines. -/
theorem started_take (records : List Record) (record : Record) (count : Nat) :
    Started codec records (lines codec records ++ (codec.line record).take count) ∨
      lines codec records ++ (codec.line record).take count =
        lines codec (records ++ [record]) := by
  by_cases hle : count ≤ (codec.encode record).length
  · left
    refine ⟨(codec.line record).take count, record, rfl, ?_⟩
    unfold Codec.line
    rw [List.take_append_of_le_length hle]
    exact List.take_prefix _ _
  · right
    rw [take_of_length_le, lines_append, lines_singleton]
    unfold Codec.line
    rw [length_append, List.length_singleton]
    omega

/-- A piece of a line, also after an unfinished one. -/
theorem holds_take (h : Started codec records bytes) :
    Holds codec records (bytes ++ (codec.line record).take count) ∨
      (bytes = lines codec records ∧ bytes ++ (codec.line record).take count =
        lines codec (records ++ [record])) := by
  obtain ⟨begun, first, rfl, hbegun⟩ := h
  by_cases hne : begun = []
  · subst hne
    rw [append_nil]
    rcases @started_take _ _ codec records record count with hstarted | hwhole
    · exact .inl hstarted.holds
    · exact .inr ⟨rfl, hwhole⟩
  left
  refine ⟨begun ++ (codec.line record).take count, by rw [append_assoc], .inr ?_⟩
  by_cases hle : count ≤ (codec.encode record).length
  · refine torn_of_open codec ?_ (List.append_ne_nil_of_left_ne_nil hne _)
    unfold Codec.line
    rw [List.take_append_of_le_length hle, List.mem_append]
    rintro (hmem | hmem)
    · exact codec.encode_newline first (hbegun.subset hmem)
    · exact codec.encode_newline record (List.mem_of_mem_take hmem)
  · rw [take_of_length_le]
    · exact torn_of_begun codec hbegun hne
    unfold Codec.line
    rw [length_append, List.length_singleton]
    omega

/-- A record is read back once its whole line follows whole lines. Behind the beginning of
another line it never is. -/
theorem recovered_append (codec : Codec Byte Record) (records : List Record)
    (first record : Record) (cut count : Nat) :
    recovered codec (lines codec records ++ (codec.encode first).take cut ++
        (codec.line record).take count) =
      if cut = 0 ∧ (codec.encode record).length < count then records ++ [record] else records := by
  split
  case isTrue h =>
    rw [h.1, List.take_zero, append_nil, take_of_length_le, ← lines_singleton,
      ← lines_append]
    · exact recovered_of_holds holds_lines
    · simp only [Codec.line, length_append, List.length_singleton]
      exact h.2
  case isFalse h =>
    rcases @holds_take _ _ codec _ records _ record count ⟨(codec.encode first).take cut, first,
      rfl, List.take_prefix _ _⟩ with hholds | ⟨hnone, hwhole⟩
    · exact recovered_of_holds hholds
    have hcut : cut = 0 := by simpa [codec.encode_nonempty first] using hnone
    have hlength := congrArg List.length hwhole
    simp [hnone, lines_append, lines_singleton, Codec.line] at hlength
    omega

end holds

/-- The durable state, with all calls so far. -/
abbrev Now (Byte : Type) := Logged (machine Byte) (World Byte)

/-- Calls that were made, in order. -/
abbrev Log (Byte : Type) := List (Step (machine Byte) (World Byte))

/-- Make a call of the machine and write it down. -/
abbrev perform (now : Now Byte) (made : Call Byte) (proposed : made.Answer) :
    Now Byte × made.Answer :=
  logging (I := machine Byte) act now made proposed

/-- Calls on one stream. -/
def OnStream (stream : Stream) : Call Byte → Prop
  | .read other | .openAppend other | .write other _ | .syncData other | .setLen other _
  | .syncAll other => other = stream
  | .syncDirectory => True
  | _ => False

variable (world : World Byte)

@[simp] theorem setFile_file (stream : Stream) :
    world.setFile stream (world.file stream) = world := by
  cases stream <;> rfl

@[simp] theorem file_setFile (stream : Stream) (bytes : List Byte) :
    (world.setFile stream bytes).file stream = bytes := by
  cases stream <;> rfl

@[simp] theorem setFile_setFile (stream : Stream) (first second : List Byte) :
    (world.setFile stream first).setFile stream second = world.setFile stream second := by
  cases stream <;> rfl

/-- Since a start, only calls on one stream were made, and only its file changed. -/
structure Since (stream : Stream) (start now : Now Byte) : Prop where
  log : ∃ steps, now.log = start.log ++ steps ∧ ∀ step ∈ steps, OnStream stream step.call
  state : now.state = start.state.setFile stream (now.state.file stream)

theorem Since.refl (stream : Stream) (start : Now Byte) : Since stream start start :=
  ⟨⟨[], (append_nil _).symm, List.forall_mem_nil _⟩, (setFile_file _ _).symm⟩

theorem Since.trans (h : Since stream first second)
    (h' : Since stream second third) : Since stream first third := by
  refine ⟨Runs.appended_trans h.log h'.log, ?_⟩
  have hstate := h'.state
  rw [h.state, setFile_setFile] at hstate
  exact hstate

/-- A call on the stream that leaves the file with the given bytes. -/
theorem Since.step (h : Since stream start now) (made : Call Byte)
    (hmade : OnStream stream made) (proposed : made.Answer) (bytes : List Byte)
    (hact : (act now.state made proposed).1 = now.state.setFile stream bytes) :
    Since stream start (perform now made proposed).1 ∧
      (perform now made proposed).1.state.file stream = bytes := by
  have hnext : Since stream now (perform now made proposed).1 := by
    refine ⟨⟨_, rfl, List.forall_mem_singleton.mpr hmade⟩, ?_⟩
    change (act now.state made proposed).1 =
      now.state.setFile stream ((act now.state made proposed).1.file stream)
    rw [hact, file_setFile]
  refine ⟨h.trans hnext, ?_⟩
  change (act now.state made proposed).1.file stream = bytes
  rw [hact, file_setFile]

section specs

/-- One call on a stream's file, by what it does to the file. -/
theorem fileCall_ensures {α : Type} {read : made.Answer → Except String α}
    {post : Except StateError α → Now Byte → Prop}
    (h : ∀ proposed, inv (perform now made proposed).1 ∧
      post ((read (perform now made proposed).2).mapError (.io (store.path stream)))
        (perform now made proposed).1) :
    Ensures perform Eq inv (fileCall store stream made read).run post now := by
  rintro now' rfl proposed
  exact h proposed

/-- While bytes are written, some of them are in the file. -/
def Written (stream : Stream) (start : Now Byte) (bytes : List Byte) (now : Now Byte) : Prop :=
  Since stream start now ∧
    ∃ count, now.state.file stream = start.state.file stream ++ bytes.take count

theorem writeAll_ensures (written : Nat)
    (hfuel : bytes.length ≤ fuel + written) (now : Now Byte) (hsince : Since stream start now)
    (hfile : now.state.file stream = start.state.file stream ++ bytes.take written) :
    Ensures perform Eq (Written stream start bytes)
      (writeAll store stream fuel (bytes.drop written)).run
      (fun result now => Written stream start bytes now ∧ (result = .ok () →
        now.state.file stream = start.state.file stream ++ bytes)) now := by
  induction fuel generalizing written now with
  | zero =>
    have hdone : bytes.drop written = [] := List.drop_eq_nil_of_le (by omega)
    rw [hdone]
    refine ⟨⟨hsince, written, hfile⟩, fun _ => ?_⟩
    rw [hfile, take_of_length_le (by omega)]
  | succ fuel ih =>
    cases hleft : bytes.drop written with
    | nil =>
      refine ⟨⟨hsince, written, hfile⟩, fun _ => ?_⟩
      rw [hfile, take_of_length_le (List.drop_eq_nil_iff.mp hleft)]
    | cons =>
      rw [← hleft]
      have hunfold : writeAll store stream (fuel + 1) (bytes.drop written) = (do
          let count ← fileCall store stream (.write stream (bytes.drop written)) id
          if count = 0 then
            decided (.error (.io (store.path stream) "failed to write whole buffer"))
          else writeAll store stream fuel ((bytes.drop written).drop count)) := by
        rw [hleft]
        rfl
      rw [hunfold]
      refine Ensures.attempt_bind (fileCall_ensures ?_)
      intro proposed
      cases proposed with
      | error error =>
        obtain ⟨hsince', hfile'⟩ := hsince.step (.write stream (bytes.drop written)) rfl
          (.error error) (now.state.file stream) (setFile_file _ _).symm
        rw [hfile] at hfile'
        have hwritten : Written stream start bytes _ := ⟨hsince', written, hfile'⟩
        exact ⟨hwritten, hwritten, nofun⟩
      | ok count =>
        have htake : bytes.take written ++ (bytes.drop written).take count =
            bytes.take (written + count) := List.take_add.symm
        obtain ⟨hsince', hfile'⟩ := hsince.step (.write stream (bytes.drop written)) rfl
          (.ok count) (now.state.file stream ++ (bytes.drop written).take count) rfl
        rw [hfile, append_assoc, htake] at hfile'
        have hwritten : Written stream start bytes _ := ⟨hsince', written + count, hfile'⟩
        refine ⟨hwritten, ?_⟩
        change Ensures (I := machine Byte) perform Eq _
          (ExceptT.run (if min count (bytes.drop written).length = 0 then _ else _)) _ _
        split
        case isTrue => exact ⟨hwritten, nofun⟩
        rename_i hsome
        rw [List.drop_drop]
        refine ih _ ?_ _ hsince' ?_
        · have hlen := List.length_drop (i := written) (l := bytes)
          omega
        rw [hfile']
        congr 1
        rcases Nat.le_total count (bytes.drop written).length with hle | hle
        · rw [Nat.min_eq_left hle]
        rw [Nat.min_eq_right hle]
        have hlen := List.length_drop (i := written) (l := bytes)
        rw [take_of_length_le (by omega), take_of_length_le (by omega)]

/-- Since a start, the stream was synchronized with the given bytes in its file. -/
def SyncedWith (stream : Stream) (start : Now Byte) (bytes : List Byte) (now : Now Byte) : Prop :=
  ∃ earlier later, now.log = start.log ++ (earlier ++ ⟨start.state.setFile stream bytes,
    .syncData stream, .ok (), start.state.setFile stream bytes⟩ :: later)

/-- An append adds its line or the beginning of it, and returns once the whole
line is synchronized. -/
theorem appendRecord_ensures {start : Now Byte} :
    Ensures perform Eq (Written stream start (codec.line record))
      (appendRecord store stream codec record).run
      (fun result now => Written stream start (codec.line record) now ∧ (result = .ok () →
        now.state.file stream = start.state.file stream ++ codec.line record ∧
          SyncedWith stream start (start.state.file stream ++ codec.line record) now)) start := by
  have hidle : ∀ (now : Now Byte) (made : Call Byte) (proposed : made.Answer),
      Since stream start now → OnStream stream made → (act now.state made proposed).1 = now.state →
      Since stream start (perform now made proposed).1 ∧
        (perform now made proposed).1.state.file stream = now.state.file stream := by
    intro now made proposed hsince hmade hact
    exact hsince.step made hmade proposed _ (hact.trans (setFile_file _ _).symm)
  unfold appendRecord
  refine Ensures.attempt_bind (fileCall_ensures ?_)
  intro opened
  obtain ⟨hsince, hfile⟩ := hidle start (.openAppend stream) opened (.refl stream start) rfl rfl
  have hnone : ∀ now : Now Byte, Since stream start now →
      now.state.file stream = start.state.file stream →
      Written stream start (codec.line record) now :=
    fun now hsince hfile => ⟨hsince, 0, by rw [hfile, List.take_zero, append_nil]⟩
  refine ⟨hnone _ hsince hfile, ?_⟩
  cases opened with
  | error => exact ⟨hnone _ hsince hfile, fun hno => by cases hno⟩
  | ok created =>
    refine Ensures.attempt_bind ((writeAll_ensures 0 (by omega) _ hsince ?_).mono ?_)
    · rw [hfile, List.take_zero, append_nil]
    rintro (error | ⟨⟩) now ⟨hwritten, hwhole⟩
    · exact ⟨hwritten, fun hno => by cases hno⟩
    have hfull := hwhole rfl
    have hstate := hwritten.1.state
    rw [hfull] at hstate
    refine Ensures.attempt_bind (fileCall_ensures ?_)
    intro synced
    obtain ⟨hsince', hfile'⟩ := hidle now (.syncData stream) synced hwritten.1 rfl rfl
    have hwhole' : ∀ now : Now Byte, Since stream start now →
        now.state.file stream = start.state.file stream ++ codec.line record →
        Written stream start (codec.line record) now :=
      fun now hsince hfile => ⟨hsince, (codec.line record).length, by rw [hfile, List.take_length]⟩
    refine ⟨hwhole' _ hsince' (hfile'.trans hfull), ?_⟩
    cases synced with
    | error => exact ⟨hwhole' _ hsince' (hfile'.trans hfull), fun hno => by cases hno⟩
    | ok nothing =>
      obtain ⟨steps, hlog, -⟩ := hwritten.1.log
      have hsynced : SyncedWith stream start (start.state.file stream ++ codec.line record)
          (perform now (.syncData stream) (.ok nothing)).1 := by
        refine ⟨steps, [], ?_⟩
        change now.log ++ [⟨now.state, .syncData stream, .ok (), now.state⟩] = _
        rw [hlog, hstate, append_assoc]
      cases created with
      | false =>
        exact ⟨hwhole' _ hsince' (hfile'.trans hfull), fun _ => ⟨hfile'.trans hfull, hsynced⟩⟩
      | true =>
        change Ensures (I := machine Byte) perform Eq _
          (fileCall store stream .syncDirectory id).run _ _
        refine fileCall_ensures ?_
        intro directory
        obtain ⟨hsince'', hfile''⟩ := hidle _ .syncDirectory directory hsince' trivial rfl
        have hlast := hfile''.trans (hfile'.trans hfull)
        refine ⟨hwhole' _ hsince'' hlast, hwhole' _ hsince'' hlast, fun _ => ⟨hlast, ?_⟩⟩
        obtain ⟨earlier, later, hlog'⟩ := hsynced
        refine ⟨earlier, later ++ [⟨now.state, .syncDirectory, directory, now.state⟩], ?_⟩
        change (perform now (.syncData stream) (.ok nothing)).1.log ++
          [⟨now.state, .syncDirectory, directory, now.state⟩] = _
        rw [hlog']
        simp

/-- While a stream is read, its file is as it was or cut back to whole lines. -/
def Recovering (codec : Codec Byte Record) (stream : Stream) (start : Now Byte)
    (records : List Record) (now : Now Byte) : Prop :=
  Since stream start now ∧ (now.state.file stream = start.state.file stream ∨
    now.state.file stream = lines codec records)

theorem Recovering.holds [DecidableEq Byte] {codec : Codec Byte Record}
    (hholds : Holds codec records (start.state.file stream))
    (h : Recovering codec stream start records now) :
    Holds codec records (now.state.file stream) := by
  rcases h.2 with hsame | hlines
  · rw [hsame]
    exact hholds
  · rw [hlines]
    exact holds_lines

/-- A read returns what the stream holds and leaves just that. -/
theorem recoverTornTail_ensures [DecidableEq Byte] {codec : Codec Byte Record}
    (h : Holds codec records (start.state.file stream)) :
    Ensures perform Eq (Recovering codec stream start records)
      (recoverTornTail store stream codec).run
      (fun result now => Recovering codec stream start records now ∧ ∀ found,
        result = .ok found → found = records ∧ now.state.file stream = lines codec records)
      start := by
  unfold recoverTornTail
  refine Ensures.attempt_bind (fileCall_ensures ?_)
  intro answered
  obtain ⟨hsince, hfile⟩ := (Since.refl stream start).step (.read stream) rfl answered
    (start.state.file stream) (setFile_file _ _).symm
  have hsame : Recovering codec stream start records (perform start (.read stream) answered).1 :=
    ⟨hsince, .inl hfile⟩
  refine ⟨hsame, ?_⟩
  cases answered with
  | error => exact ⟨hsame, fun _ hno => by cases hno⟩
  | ok =>
    change Ensures (I := machine Byte) perform Eq _
      (ExceptT.run (match decodeRecords codec (start.state.file stream) with
        | .ok records => pure records
        | .error (.tornTail offset) => _
        | .error error => _)) _ _
    rcases decodeRecords_of_holds h with ⟨hclean, hdecode⟩ | ⟨hdecode, htake⟩
    · rw [hdecode]
      refine ⟨hsame, ?_⟩
      rintro found ⟨⟩
      exact ⟨rfl, hfile.trans hclean⟩
    rw [hdecode]
    refine Ensures.attempt_bind (fileCall_ensures ?_)
    intro cut
    cases cut with
    | error error =>
      obtain ⟨hsince', hfile'⟩ := hsince.step (.setLen stream (lines codec records).length) rfl
        (.error error) _ (setFile_file _ stream).symm
      have hstill : Recovering codec stream start records _ :=
        ⟨hsince', .inl (hfile'.trans hfile)⟩
      exact ⟨hstill, hstill, fun _ hno => by cases hno⟩
    | ok nothing =>
      obtain ⟨hsince', hfile'⟩ := hsince.step (.setLen stream (lines codec records).length) rfl
        (.ok nothing) ((start.state.file stream).take (lines codec records).length) (by
          rw [← hfile]
          rfl)
      rw [htake] at hfile'
      have hcut : Recovering codec stream start records _ := ⟨hsince', .inr hfile'⟩
      refine ⟨hcut, ?_⟩
      refine Ensures.attempt_bind (fileCall_ensures ?_)
      intro synced
      obtain ⟨hsince'', hfile''⟩ := hsince'.step (.syncAll stream) rfl synced _
        (setFile_file _ stream).symm
      have hlast : Recovering codec stream start records _ :=
        ⟨hsince'', .inr (hfile''.trans hfile')⟩
      refine ⟨hlast, ?_⟩
      cases synced with
      | error => exact ⟨hlast, fun _ hno => by cases hno⟩
      | ok =>
        refine ⟨hlast, ?_⟩
        intro found hfound
        rw [htake, decodeRecords_lines] at hfound
        cases hfound
        exact ⟨rfl, hfile''.trans hfile'⟩

end specs

end Subconscious.ReleaseDurability
