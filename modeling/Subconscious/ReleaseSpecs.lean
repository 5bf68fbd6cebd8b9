import Subconscious.ReleaseDurability

/-!
# What reading and noting does to a train

Between two operations of a run the journal is whole lines. An operation that
only reads and notes makes quiet calls, keeps the approval and the intents, and
lets the journal grow. When it fails, an append may have broken off.
-/

namespace Subconscious.ReleaseSpecs

open Programs ReleaseRecords ReleaseStreams ReleaseJournal ReleaseDurability

/-- Calls on the streams. -/
def FileCall {Byte : Type} (made : Call Byte) : Prop := ∃ stream, OnStream stream made

/-- Since a start, only calls on the streams were made and the approval is the same. -/
structure Quietly {Byte : Type} (start now : Now Byte) : Prop where
  log : ∃ steps, now.log = start.log ++ steps ∧ ∀ step ∈ steps, FileCall step.call
  approval : now.state.approval = start.state.approval

/-- Records that leave the train's declaration and its end alone. -/
def IsNote : JournalRecord → Prop
  | .declarationPinned _ | .declarationRebound _ _ | .terminalized _ => False
  | _ => True

/-- A journal with notes added. -/
def Grown (js js' : List JournalRecord) : Prop :=
  ∃ notes, js' = js ++ notes ∧ ∀ note ∈ notes, IsNote note

section

variable (js : List JournalRecord)

/-- The rebinds in a journal. -/
def rebounds : List JournalRecord :=
  js.filter fun record => match record with
    | .declarationRebound _ _ => true
    | _ => false

/-- A journal has grown by nothing. -/
theorem Grown.refl : Grown js js := ⟨[], (List.append_nil _).symm, nofun⟩

/-- Growth after growth. -/
theorem Grown.trans (h : Grown first second) (h' : Grown second third) : Grown first third :=
  Runs.appended_trans h h'

/-- A journal grows by one note. -/
theorem Grown.snoc (h : IsNote record) : Grown js (js ++ [record]) :=
  ⟨[record], rfl, List.forall_mem_singleton.mpr h⟩

end

/-- What was there stays at the beginning. -/
theorem Grown.starts (h : Grown js js') : js <+: js' := by
  obtain ⟨notes, rfl, -⟩ := h
  exact List.prefix_append _ _

/-- What was there stays. -/
theorem Grown.subset (h : Grown js js') (hrecord : record ∈ js) : record ∈ js' :=
  h.starts.subset hrecord

/-- Notes are no rebinds. -/
theorem Grown.rebounds (h : Grown js js') : rebounds js' = rebounds js := by
  obtain ⟨notes, rfl, hnotes⟩ := h
  unfold ReleaseSpecs.rebounds
  rw [List.filter_append, List.append_right_eq_self, List.filter_eq_nil_iff]
  intro note hnote
  have hkind := hnotes note hnote
  cases note with
  | declarationRebound => exact hkind.elim
  | _ => exact Bool.false_ne_true

section specs

/-- Without a call everything is quiet. -/
theorem Quietly.refl (start : Now Byte) : Quietly start start :=
  ⟨⟨[], (List.append_nil _).symm, List.forall_mem_nil _⟩, rfl⟩

/-- Quiet calls after quiet calls. -/
theorem Quietly.trans (h : Quietly first second)
    (h' : Quietly second third) : Quietly first third :=
  ⟨Runs.appended_trans h.log h'.log, h'.approval.trans h.approval⟩

/-- Calls on one stream are quiet. -/
theorem Quietly.of_since (h : Since stream start now) : Quietly start now := by
  obtain ⟨steps, hlog, honly⟩ := h.log
  refine ⟨⟨steps, hlog, fun step hstep => ⟨stream, honly step hstep⟩⟩, ?_⟩
  rw [h.state]
  cases stream <;> rfl

/-- Calls on the journal leave the intents. -/
theorem Since.intents_eq (h : Since .journal start now) :
    now.state.intents = start.state.intents := by
  rw [h.state]
  rfl

/-- Calls on the intents leave the journal. -/
theorem Since.journal_eq (h : Since .intents start now) :
    now.state.journal = start.state.journal := by
  rw [h.state]
  rfl

/-- Quiet calls since a start: the journal has grown to records of which something holds. -/
def Noted (holds : List JournalRecord → Now Byte → Prop) (start : Now Byte)
    (js : List JournalRecord) (now : Now Byte) : Prop :=
  Quietly start now ∧ ∃ js', Grown js js' ∧ holds js' now

/-- Without a note it holds of the same records. -/
theorem Noted.same (hquiet : Quietly start now) (h : holds js now) : Noted holds start js now :=
  ⟨hquiet, js, Grown.refl js, h⟩

/-- Notes after notes. -/
theorem Noted.trans (hquiet : Quietly start now) (hgrown : Grown js js')
    (h : Noted holds now js' later) : Noted holds start js later := by
  obtain ⟨hlater, js'', hgrown', hholds⟩ := h
  exact ⟨hquiet.trans hlater, js'', hgrown.trans hgrown', hholds⟩

/-- Something weaker holds too. -/
theorem Noted.mono (h : Noted holds start js now)
    (himp : ∀ js' now, holds js' now → holds' js' now) : Noted holds' start js now := by
  obtain ⟨hquiet, js', hgrown, hholds⟩ := h
  exact ⟨hquiet, js', hgrown, himp js' now hholds⟩

variable [DecidableEq Byte] (codecs : Codecs Byte)

/-- Between two operations: the journal is whole lines. -/
structure At (js : List JournalRecord) (is : List IntentRecord) (now : Now Byte) : Prop where
  journal : now.state.journal = lines codecs.journal js
  intents : Holds codecs.intents is now.state.intents

/-- After an operation that failed: a line of the journal may be unfinished. -/
structure Failed (js : List JournalRecord) (is : List IntentRecord) (now : Now Byte) : Prop where
  journal : Started codecs.journal js now.state.journal
  intents : Holds codecs.intents is now.state.intents

/-- At any time: both streams hold records. -/
structure Disk (js : List JournalRecord) (is : List IntentRecord) (now : Now Byte) : Prop where
  journal : Holds codecs.journal js now.state.journal
  intents : Holds codecs.intents is now.state.intents

/-- A quiet operation on the way: the journal has grown, the intents have not. -/
abbrev Reach (start : Now Byte) (js : List JournalRecord) (is : List IntentRecord) :
    Now Byte → Prop :=
  Noted (fun js' now => Disk codecs js' is now) start js

/-- Where an operation starts, and what a failure of it leaves. Between two
operations the journal is whole lines, and a failure leaves at most an unfinished
line of a record. The first read of a command may find the unfinished line of an
earlier one, and cuts it off. -/
inductive Begins (js : List JournalRecord) (is : List IntentRecord) (start : Now Byte) :
    (List JournalRecord → List IntentRecord → Now Byte → Prop) → Prop where
  | whole (hat : At codecs js is start) : Begins js is start (Failed codecs)
  | torn (hdisk : Disk codecs js is start) : Begins js is start (Disk codecs)

variable {codecs}

omit [DecidableEq Byte] in
/-- Whole lines, before the first byte of another one. -/
theorem started_lines (records : List Record)
    (record : Record) : Started codec records (lines codec records) :=
  ⟨[], record, (List.append_nil _).symm, List.nil_prefix⟩

/-- Whole lines are no more than a failure may leave. -/
theorem At.failed (h : At codecs js is now) : Failed codecs js is now := by
  refine ⟨?_, h.intents⟩
  rw [h.journal]
  exact started_lines js (.phaseEntered "")

/-- An unfinished line does not hide the others. -/
theorem Failed.disk (h : Failed codecs js is now) : Disk codecs js is now :=
  ⟨h.journal.holds, h.intents⟩

/-- Whole lines can be read. -/
theorem At.disk (h : At codecs js is now) : Disk codecs js is now := h.failed.disk

/-- What follows may start at whole lines. -/
theorem Begins.next (h : Begins codecs js is start left) (hat : At codecs js' is' now) :
    Begins codecs js' is' now left := by
  cases h with
  | whole => exact .whole hat
  | torn => exact .torn hat.disk

/-- A failure at whole lines leaves what a failure may leave. -/
theorem Begins.failed (h : Begins codecs js is start left) (hat : At codecs js' is' now) :
    left js' is' now := by
  cases h with
  | whole => exact hat.failed
  | torn => exact hat.disk

/-- The shape of every quiet operation's specification: on success the journal
is whole lines again and the value says what it should. -/
def QuietOr {ε α : Type} (codecs : Codecs Byte)
    (left : List JournalRecord → List IntentRecord → Now Byte → Prop)
    (operation : Attempt (machine Byte) ε α) (start : Now Byte) (js : List JournalRecord)
    (is : List IntentRecord) (good : α → List JournalRecord → Now Byte → Prop) : Prop :=
  Attempts perform Eq (Reach codecs start js is) operation
    (fun value => Noted (fun js' now => At codecs js' is now ∧ good value js' now) start js)
    (Noted (fun js' now => left js' is now) start js) start

/-- Such an operation between two others. -/
abbrev Quiet {ε α : Type} (codecs : Codecs Byte) (operation : Attempt (machine Byte) ε α) :=
  QuietOr codecs (Failed codecs) operation

section rules

variable {ε ε' α β : Type}

/-- Compose two quiet operations. -/
theorem QuietOr.bind (h : QuietOr codecs left operation start js is good)
    (hrest : ∀ value js' now, Quietly start now → At codecs js' is now →
      good value js' now → QuietOr codecs left (rest value) now js' is last) :
    QuietOr codecs left (operation >>= rest) start js is last := by
  refine Attempts.bind h ?_
  rintro value now ⟨hquiet, js', hgrown, hat, hgood⟩
  exact Attempts.imp (hrest value js' now hquiet hat hgood) (fun _ => Noted.trans hquiet hgrown)
    (fun _ _ => Noted.trans hquiet hgrown) fun _ => Noted.trans hquiet hgrown

/-- A decision makes no call. -/
theorem QuietOr.decided {result : Except ε α} (h : At codecs js is start)
    (hleft : left js is start) (hgood : ∀ value, result = .ok value → good value js start) :
    QuietOr codecs left (decided result) start js is good :=
  Attempts.decided (fun value hvalue => .same (.refl start) ⟨h, hgood value hvalue⟩)
    (.same (.refl start) hleft)

/-- A value makes no call. -/
theorem QuietOr.pure (h : At codecs js is start) (hgood : good value js start) :
    QuietOr (ε := ε) codecs left (Pure.pure value) start js is good :=
  ⟨.refl start, js, Grown.refl js, h, hgood⟩

/-- Rewording errors makes no call. -/
theorem QuietOr.rephrase (h : QuietOr codecs left operation start js is good) :
    QuietOr codecs left (rephrase wrap operation) start js is good :=
  Attempts.rephrase h

/-- A value may say less than it should. -/
theorem QuietOr.mono (h : QuietOr codecs left operation start js is good)
    (hgood : ∀ value js' now, Grown js js' → good value js' now → good' value js' now) :
    QuietOr codecs left operation start js is good' := by
  refine Attempts.mono h ?_
  rintro value now ⟨hquiet, js', hgrown, hat, hvalue⟩
  exact ⟨hquiet, js', hgrown, hat, hgood value js' now hgrown hvalue⟩

end rules

/-- A read of the journal cuts an unfinished line off. -/
theorem readJournal_quiet (h : Begins codecs js is start left) :
    QuietOr codecs left (readJournal codecs store) start js is
      fun found js' _ => found = js ∧ js' = js := by
  have hholds : Holds codecs.journal js (start.state.file .journal) := by
    cases h with
    | whole hat => exact hat.disk.journal
    | torn hdisk => exact hdisk.journal
  have hintents : ∀ now, Since .journal start now → Holds codecs.intents is now.state.intents := by
    intro now hsince
    rw [Since.intents_eq hsince]
    cases h with
    | whole hat => exact hat.intents
    | torn hdisk => exact hdisk.intents
  have hleft : ∀ now, Recovering codecs.journal .journal start js now → left js is now := by
    intro now hnow
    cases h with
    | whole hat =>
      refine At.failed ⟨?_, hintents now hnow.1⟩
      exact hnow.2.elim (fun hsame => hsame.trans hat.journal) id
    | torn => exact ⟨hnow.holds hholds, hintents now hnow.1⟩
  refine ((recoverTornTail_ensures hholds).weaken fun now hnow =>
    .same (.of_since hnow.1) ⟨hnow.holds hholds, hintents now hnow.1⟩).mono ?_
  intro result now hresult
  have hquiet := Quietly.of_since hresult.1.1
  cases result with
  | error => exact .same hquiet (hleft now hresult.1)
  | ok found =>
    obtain ⟨hfound, hlines⟩ := hresult.2 found rfl
    exact .same hquiet ⟨⟨hlines, hintents now hresult.1.1⟩, hfound, rfl⟩

/-- The terminal state is read off the journal. -/
theorem terminalState_quiet (h : Begins codecs js is start left) :
    QuietOr codecs left (terminalState codecs store) start js is
      fun found js' _ => found = terminalOf js ∧ js' = js := by
  refine (readJournal_quiet h).bind ?_
  rintro found js' now - hat ⟨rfl, rfl⟩
  exact QuietOr.pure hat ⟨rfl, rfl⟩

/-- A train that goes on is active. -/
theorem ensureActive_quiet (h : Begins codecs js is start left) :
    QuietOr codecs left (ensureActive codecs store) start js is
      fun _ js' _ => terminalOf js = none ∧ js' = js := by
  refine (terminalState_quiet h).bind ?_
  rintro found js' now - hat ⟨hfound, rfl⟩
  cases found with
  | some =>
    refine QuietOr.decided hat (h.failed hat) ?_
    nofun
  | none => exact QuietOr.pure hat ⟨hfound.symm, rfl⟩

/-- The bound declaration is read off the journal. -/
theorem pinnedDeclaration_quiet (h : Begins codecs js is start left) :
    QuietOr codecs left (pinnedDeclaration codecs store) start js is
      fun found js' _ => found = boundDeclaration js ∧ js' = js := by
  refine (readJournal_quiet h).bind ?_
  rintro found js' now - hat ⟨rfl, rfl⟩
  exact QuietOr.pure hat ⟨rfl, rfl⟩

/-- A train that goes on has a declaration. -/
theorem requirePinned_quiet (h : Begins codecs js is start left) :
    QuietOr codecs left (requirePinned codecs store) start js is
      fun found js' _ => boundDeclaration js = some found ∧ js' = js := by
  refine (pinnedDeclaration_quiet h).bind ?_
  rintro found js' now - hat ⟨hfound, rfl⟩
  cases found with
  | some => exact QuietOr.pure hat ⟨hfound.symm, rfl⟩
  | none =>
    refine QuietOr.decided hat (h.failed hat) ?_
    nofun

section

variable (h : At codecs js is start)
include h

/-- A read of the intents cuts an unfinished line off. -/
theorem readIntents_quiet :
    Quiet codecs (readIntents codecs store) start js is
      fun found js' now => found = is ∧ js' = js ∧ now.state.intents = lines codecs.intents is := by
  have hholds : Holds codecs.intents is (start.state.file .intents) := h.intents
  have hat : ∀ now, Recovering codecs.intents .intents start is now → At codecs js is now := by
    intro now hnow
    refine ⟨?_, hnow.holds hholds⟩
    rw [Since.journal_eq hnow.1]
    exact h.journal
  refine ((recoverTornTail_ensures hholds).weaken fun now hnow =>
    .same (.of_since hnow.1) (hat now hnow).disk).mono ?_
  intro result now hresult
  have hquiet := Quietly.of_since hresult.1.1
  cases result with
  | error => exact .same hquiet (hat now hresult.1).failed
  | ok found =>
    obtain ⟨hfound, hfile⟩ := hresult.2 found rfl
    exact .same hquiet ⟨hat now hresult.1, hfound, rfl, hfile⟩

/-- While a record is appended to whole lines, the line is there or may be unfinished. -/
theorem appendJournal_ensures :
    Ensures perform Eq
      (fun now => Quietly start now ∧ (Failed codecs js is now ∨ At codecs (js ++ [record]) is now))
      (appendJournal codecs store record).run
      (fun result now => Quietly start now ∧
        (Failed codecs js is now ∨ At codecs (js ++ [record]) is now) ∧
        (result = .ok () → At codecs (js ++ [record]) is now)) start := by
  have hintents : ∀ now, Since .journal start now → Holds codecs.intents is now.state.intents := by
    intro now hsince
    rw [Since.intents_eq hsince]
    exact h.intents
  have hfile : ∀ now, Written .journal start (codecs.journal.line record) now →
      Quietly start now ∧ (Failed codecs js is now ∨ At codecs (js ++ [record]) is now) := by
    rintro now ⟨hsince, count, hwritten⟩
    change now.state.journal = start.state.journal ++ _ at hwritten
    rw [h.journal] at hwritten
    refine ⟨.of_since hsince, ?_⟩
    rcases @started_take _ _ codecs.journal js record count with hstarted | hwhole
    · exact .inl ⟨by rw [hwritten]; exact hstarted, hintents now hsince⟩
    · exact .inr ⟨hwritten.trans hwhole, hintents now hsince⟩
  refine ((appendRecord_ensures).weaken hfile).mono ?_
  rintro result now ⟨hwritten, hok⟩
  refine ⟨(hfile now hwritten).1, (hfile now hwritten).2, ?_⟩
  intro hresult
  obtain ⟨hwhole, -⟩ := hok hresult
  change now.state.journal = start.state.journal ++ _ at hwhole
  rw [h.journal, ← lines_singleton, ← lines_append] at hwhole
  exact ⟨hwhole, hintents now hwritten.1⟩

/-- A note is appended. -/
theorem appendJournal_quiet (record : JournalRecord) (hnote : IsNote record) :
    Quiet codecs (appendJournal codecs store record) start js is
      fun _ js' _ => js' = js ++ [record] := by
  have hbroke : ∀ now, Quietly start now →
      (Failed codecs js is now ∨ At codecs (js ++ [record]) is now) →
      Noted (fun js' now => Failed codecs js' is now) start js now := by
    rintro now hquiet (hfailed | hat)
    · exact .same hquiet hfailed
    · exact ⟨hquiet, js ++ [record], Grown.snoc js hnote, hat.failed⟩
  refine ((appendJournal_ensures h).weaken ?_).mono ?_
  · exact fun now hnow => (hbroke now hnow.1 hnow.2).mono fun _ _ => Failed.disk
  rintro (error | ⟨⟩) now ⟨hquiet, hfile, hok⟩
  · exact hbroke now hquiet hfile
  · exact ⟨hquiet, js ++ [record], Grown.snoc js hnote, hok rfl, rfl⟩

omit h in
/-- An append after a failure leaves both streams readable. -/
theorem appendJournal_failed (h : Failed codecs js is start) (record : JournalRecord)
    (hnote : IsNote record) :
    Ensures perform Eq (Reach codecs start js is) (appendJournal codecs store record).run
      (fun _ now => Reach codecs start js is now) start := by
  have hfile : ∀ now, Written .journal start (codecs.journal.line record) now →
      Reach codecs start js is now := by
    rintro now ⟨hsince, count, hwritten⟩
    have hintents : Holds codecs.intents is now.state.intents := by
      rw [Since.intents_eq hsince]
      exact h.intents
    change now.state.journal = start.state.journal ++ _ at hwritten
    rcases holds_take h.journal with hholds | ⟨-, hwhole⟩
    · exact .same (.of_since hsince) ⟨by rw [hwritten]; exact hholds, hintents⟩
    refine ⟨.of_since hsince, js ++ [record], Grown.snoc js hnote, ?_, hintents⟩
    rw [hwritten, hwhole]
    exact holds_lines
  refine ((appendRecord_ensures).weaken hfile).mono ?_
  exact fun _ now hresult => hfile now hresult.1

/-- A completion is a note on an active train. -/
theorem appendCompletion_quiet :
    Quiet codecs (appendCompletion codecs store intent evidence) start js is
      fun _ js' _ => js' = js ++ [.completion intent evidence] := by
  refine (ensureActive_quiet (.whole h)).bind ?_
  rintro - js' now - hat ⟨-, rfl⟩
  exact appendJournal_quiet hat (.completion intent evidence) trivial

/-- The pending intents are read off both streams. -/
theorem pendingIntents_quiet :
    Quiet codecs (pendingIntents codecs store) start js is
      fun found js' _ => found = pendingOf is js ∧ js' = js := by
  refine (readIntents_quiet h).bind ?_
  rintro found js' now - hat ⟨rfl, rfl, -⟩
  refine (readJournal_quiet (.whole hat)).bind ?_
  rintro completions js'' now' - hat' ⟨rfl, rfl⟩
  exact QuietOr.pure hat' ⟨rfl, rfl⟩

end

/-- The records pin a declaration with the digest and do not end the train. -/
def PinnedTo (js : List JournalRecord) (digest : DeclarationDigest) : Prop :=
  terminalOf js = none ∧ ∃ binding, boundDeclaration js = some binding ∧ binding.digest = digest

/-- A train that goes on is pinned to the digest. -/
theorem ensureDeclarationDigest_quiet (h : Begins codecs js is start left) :
    QuietOr codecs left (ensureDeclarationDigest codecs store digest) start js is
      fun _ js' _ => PinnedTo js digest ∧ js' = js := by
  refine (ensureActive_quiet h).bind ?_
  rintro - js' now - hat ⟨hactive, rfl⟩
  refine (requirePinned_quiet (h.next hat)).bind ?_
  rintro binding js'' now' - hat' ⟨hbound, rfl⟩
  split
  case isTrue =>
    refine QuietOr.decided hat' (h.failed hat') ?_
    nofun
  case isFalse hsame => exact QuietOr.pure hat' ⟨⟨hactive, binding, hbound, not_not.mp hsame⟩, rfl⟩

end specs

end Subconscious.ReleaseSpecs
