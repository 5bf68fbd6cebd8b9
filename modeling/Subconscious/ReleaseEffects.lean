import Mathlib.Data.List.Nodup
import Subconscious.ReleaseRuns

/-!
# One effect after the other

A present effect completes its pending intents. An absent effect is executed
under a new intent and then completed. Either way no intent of its operation is
pending afterwards, and none of another operation becomes pending.
-/

namespace Subconscious.ReleaseEffects

open Programs ReleaseRecords ReleaseStreams ReleaseJournal ReleaseOrchestrator ReleaseDurability
open List
open ReleaseSpecs ReleaseRuns

/-- An intent is pending until a record completes it. -/
theorem mem_pendingOf :
    intent ∈ pendingOf is js ↔ intent ∈ is.map IntentRecord.intent ∧
      ∀ record ∈ js, JournalRecord.completes record ≠ some intent := by
  unfold pendingOf
  rw [mem_filter, Bool.not_eq_true', any_eq_false]
  simp only [decide_eq_true_eq, ne_eq]

/-- Notes complete intents and never bring one back. -/
theorem pendingOf_grown (h : Grown js js') (hintent : intent ∈ pendingOf is js') :
    intent ∈ pendingOf is js := by
  rw [mem_pendingOf] at hintent ⊢
  exact ⟨hintent.1, fun record hrecord => hintent.2 record (h.subset hrecord)⟩

/-- Intents are compared by their operations. -/
theorem intentMatches_iff : intentMatches intent request = true ↔ intent.key = request.key := by
  unfold intentMatches PendingIntent.key EffectRequest.key
  simp only [Bool.and_eq_true, decide_eq_true_eq, OperationKey.mk.injEq, and_assoc]

section

variable (is : List IntentRecord) (js : List JournalRecord)

/-- The first intents were pending before, and the ones of a key no longer are. -/
def Settles (is' : List IntentRecord) (js' : List JournalRecord) (done : OperationKey → Prop) :
    Prop :=
  ∀ intent ∈ pendingOf is' js', intent ∈ pendingOf is js ∧ ¬ done intent.key

/-- Nothing is settled by nothing. -/
theorem Settles.refl : Settles is js is js fun _ => False := fun _ hintent => ⟨hintent, id⟩

end

/-- What is settled first stays settled. -/
theorem Settles.trans (h : Settles is js is' js' done) (h' : Settles is' js' is'' js'' done') :
    Settles is js is'' js'' fun key => done key ∨ done' key := by
  intro intent hintent
  obtain ⟨hmid, hnot'⟩ := h' intent hintent
  obtain ⟨hfirst, hnot⟩ := h intent hmid
  exact ⟨hfirst, fun hdone => hdone.elim hnot hnot'⟩

/-- Less may be settled than was. -/
theorem Settles.mono (h : Settles is js is' js' done) (hdone : ∀ key, done' key → done key) :
    Settles is js is' js' done' :=
  fun intent hintent => ⟨(h intent hintent).1, fun hno => (h intent hintent).2 (hdone _ hno)⟩

section effects

variable [DecidableEq Byte] {c : Course Byte} {start : Now Byte}

section

variable (h : At c.codecs js is start)
include h

/-- The plan's declaration is the one that is pinned. -/
theorem ensureMatchingDeclaration_quiet :
    Quiet c.codecs (ensureMatchingDeclaration c.codecs c.store c.plan) start js is
      fun _ js' _ => PinnedTo js c.plan.declarationDigest ∧ js' = js :=
  (ensureDeclarationDigest_quiet (.whole h)).rephrase

variable {request : EffectRequest}

/-- Without an attempt no intent of the operation is on disk. -/
theorem attemptedIntent_quiet :
    Quiet c.codecs (attemptedIntent c.codecs c.store request) start js is
      fun found js' _ => js' = js ∧
        (found = none → ∀ record ∈ is, record.intent.key ≠ request.key) := by
  refine (readIntents_quiet h).rephrase.bind ?_
  rintro intents js' now - hat ⟨rfl, rfl, -⟩
  refine QuietOr.pure hat ⟨rfl, ?_⟩
  intro hnone record hrecord hkey
  rw [List.find?_eq_none] at hnone
  exact hnone record.intent (mem_map_of_mem hrecord) (intentMatches_iff.mpr hkey)

/-- Without a completion none of the operation is on disk. -/
theorem completionExists_quiet :
    Quiet c.codecs (completionExists c.codecs c.store request) start js is
      fun found js' _ => js' = js ∧ (found = false → ∀ record ∈ js, ∀ other,
        JournalRecord.completes record = some other → other.key ≠ request.key) := by
  refine (readJournal_quiet (.whole h)).rephrase.bind ?_
  rintro records js' now - hat ⟨rfl, rfl⟩
  refine QuietOr.pure hat ⟨rfl, ?_⟩
  intro hnone record hrecord other hcompletes hkey
  rw [any_eq_false] at hnone
  refine hnone record hrecord ?_
  rw [hcompletes]
  exact intentMatches_iff.mpr hkey

/-- Every listed intent is completed. -/
theorem completeAll_quiet :
    Quiet c.codecs (completeAll c.codecs c.store evidence intents) start js is
      fun _ js' _ => ∀ intent ∈ intents, ∃ record ∈ js',
        JournalRecord.completes record = some intent := by
  induction intents generalizing js start with
  | nil => exact QuietOr.pure h nofun
  | cons intent intents ih =>
    refine (appendCompletion_quiet h).rephrase.bind ?_
    rintro - js' now - hat rfl
    refine (ih hat).mono ?_
    intro value final later hgrown hrest other hother
    rcases mem_cons.mp hother with rfl | hmem
    · refine ⟨.completion other evidence, hgrown.subset ?_, rfl⟩
      exact mem_append_right _ (mem_singleton_self _)
    · exact hrest other hmem

/-- A present effect completes its pending intents. -/
theorem reconcilePresent_quiet :
    Quiet c.codecs (reconcilePresent c.codecs c.store request expected evidence) start js is
      fun outcome js' _ => outcome = .reconciled evidence ∧
        Settles is js is js' fun key => key = request.key := by
  have hmatching : Quiet c.codecs (decided (ensureMatchingEvidence request expected evidence)) start
      js is fun _ js' _ => js' = js := QuietOr.decided h h.failed fun _ _ => rfl
  refine hmatching.bind ?_
  rintro - js' now - hat rfl
  refine (pendingIntents_quiet hat).rephrase.bind ?_
  rintro pending js'' now' - hat' ⟨rfl, rfl⟩
  refine ((completeAll_quiet hat').mono fun _ _ _ hgrown hdone =>
    And.intro hgrown hdone).bind ?_
  rintro - final now'' - hat'' ⟨hgrown, hdone⟩
  refine QuietOr.pure hat'' ⟨rfl, ?_⟩
  intro intent hintent
  have hbefore := pendingOf_grown hgrown hintent
  refine ⟨hbefore, ?_⟩
  intro hkey
  obtain ⟨record, hrecord, hcompletes⟩ :=
    hdone intent (mem_filter.mpr ⟨hbefore, intentMatches_iff.mpr hkey⟩)
  exact (mem_pendingOf.mp hintent).2 record hrecord hcompletes

end

/-- The call of an executor, for an operation that was not invoked before. -/
theorem Sound.execute (h : Sound c js is now) (intent : PendingIntent)
    (hnew : ∀ record ∈ is, record.intent.key ≠ admitted.effect.key)
    (hkey : intent.key = admitted.effect.key) (hpinned : PinnedTo js intent.declarationDigest)
    (hexecutes : Executes c now.log now.state admitted)
    (proposed : (Call.execute admitted : Call Byte).Answer) :
    Sound c js (is ++ [.pending intent]) (perform now (.execute admitted) proposed).1 := by
  have hinvoked : invoked (c.past ++ (perform now (.execute admitted) proposed).1.log) =
      invoked (c.past ++ now.log) ++ [admitted.effect.key] := by
    rw [logging_log, ← append_assoc, invoked_append]
    rfl
  have hfresh : admitted.effect.key ∉ invoked (c.past ++ now.log) := by
    intro hmem
    obtain ⟨record, hrecord, hsame⟩ := mem_map.mp (h.kept _ hmem)
    exact hnew record hrecord hsame
  have hintend : Sound c js (is ++ [.pending intent]) now :=
    h.intend (forall_mem_singleton.mpr hpinned)
  refine ⟨?_, ?_, ?_, ?_, h.grown, hintend.added⟩
  · rw [hinvoked, ← concat_eq_append]
    exact h.once.concat hfresh
  · rw [hinvoked]
    refine forall_mem_append.mpr ⟨hintend.kept, forall_mem_singleton.mpr ?_⟩
    rw [← hkey]
    exact mem_map_of_mem (mem_append_right is (mem_singleton_self _))
  · refine h.lawful.snoc ⟨?_, nofun⟩
    intro other hother
    cases hother
    exact hexecutes
  · rw [logging_log, ← append_assoc]
    exact h.confirmed.mono rfl

/-- The durable approval is one of the plan. -/
structure HasApproval (plan : ReleasePlan) (subject : ApprovalSubject) (now : Now Byte) : Prop where
  durable : ∃ token, now.state.approval = some ⟨subject, token⟩
  built : buildApprovalSubject plan = .ok subject

omit [DecidableEq Byte] in
/-- Quiet calls leave the approval. -/
theorem HasApproval.quietly (h : HasApproval c.plan subject start) (hquiet : Quietly start now) :
    HasApproval c.plan subject now := by
  refine ⟨?_, h.built⟩
  rw [hquiet.approval]
  exact h.durable

/-- What is known before an absent effect is executed. -/
structure Executable (c : Course Byte) (js : List JournalRecord) (is : List IntentRecord)
    (admitted : AdmittedEffect) (now : Now Byte) : Prop where
  probed : ∃ world evidence,
    ⟨world, .probe admitted.effect, .ok (.absent evidence), world⟩ ∈ now.log
  unattempted : ∀ record ∈ is, record.intent.key ≠ admitted.effect.key
  uncompleted : ∀ record ∈ js, ∀ other, JournalRecord.completes record = some other →
    other.key ≠ admitted.effect.key
  approval : HasApproval c.plan admitted.approval now
  inList : admitted.InList c.codecs.artifactDigest
  placed : Placed c now.log admitted.effect

/-- Once the intent is durable, the call of the executor is lawful. -/
theorem Executable.executes (h : Executable c js is admitted start) (hsound : Sound c js is later)
    (hintended : Intended c.codecs start js is admitted.effect intent later) :
    Executes c later.log later.state admitted := by
  obtain ⟨steps, hlog, -⟩ := hintended.quiet.log
  have hgrows : start.log <+: later.log := by
    rw [hlog]
    exact prefix_append _ _
  have hjournal : recovered c.codecs.journal later.state.journal = js := by
    rw [hintended.held.journal, recovered_of_holds holds_lines]
  refine ⟨⟨?_, ?_⟩, ⟨?_, h.approval.built, h.inList⟩, h.placed.mono hgrows, ?_, ?_⟩
  · obtain ⟨world, evidence, hprobed⟩ := h.probed
    exact ⟨world, evidence, hgrows.subset hprobed⟩
  · obtain ⟨world, hsynced, hintents, hworld⟩ := hintended.synced
    refine ⟨world, is, intent, hsynced, hintents, hintended.key, h.unattempted, ?_⟩
    rw [hworld, recovered_of_holds holds_lines]
    exact h.uncompleted
  · obtain ⟨token, hdurable⟩ := (h.approval.quietly hintended.quiet).durable
    obtain ⟨asked, hasked, hsame⟩ := hsound.confirmed _ hdurable
    refine ⟨token, hdurable, asked, hasked, ?_⟩
    rw [hjournal]
    exact hsame
  · rw [hjournal]
    exact hsound.grown
  · rw [hjournal]
    exact hintended.pinned

section

variable (hready : Ready c js is start)
include hready

/-- The executor is called once the intent is durable. -/
theorem executeWithIntent_safely (h : Executable c js is admitted start) :
    Safely c (executeWithIntent c.codecs c.store admitted) start
      fun value js' is' _ => js' = js ∧ is' = is ++ [.pending value.1] := by
  refine Safely.decided_bind hready fun _ _ => ?_
  have hsafe : ∀ later, Intending c.codecs start js is later → Safe c later := by
    rintro later ⟨hquiet, js', hgrown, more, hdisk, hmore⟩
    exact ⟨js', is ++ more, hdisk, (hready.sound.quietly hquiet hgrown).intend hmore⟩
  refine Ensures.attempt_bind (((appendIntent_ensures hready.whole).weaken hsafe).mono ?_)
  intro result later hresult
  cases result with
  | error =>
    obtain ⟨hquiet, js', hgrown, more, hfailed, hmore⟩ := hresult
    exact ⟨js', is ++ more, hfailed, (hready.sound.quietly hquiet hgrown).intend hmore⟩
  | ok intent =>
    have hlater := hready.sound.quietly hresult.quiet (Grown.refl _)
    have hpinned : PinnedTo js intent.declarationDigest := by
      rw [hresult.digest]
      exact hresult.pinned
    refine Ensures.attempt_bind ?_
    rintro later' rfl proposed
    have hready' : Ready c js (is ++ [.pending intent])
        (perform later (.execute admitted) proposed).1 :=
      ⟨At.of_files hresult.held rfl rfl, Sound.execute hlater intent h.unattempted hresult.key
        hpinned (h.executes hlater hresult) proposed⟩
    refine ⟨hready'.safe, ?_⟩
    cases proposed with
    | error => exact hready'.spoiled
    | ok => exact ⟨_, _, hready', rfl, rfl⟩

omit hready in
/-- A completed new intent leaves no intent of its operation pending. -/
theorem settles_executed {request : EffectRequest}
    (hnew : ∀ record ∈ is, record.intent.key ≠ request.key) :
    Settles is js (is ++ [.pending intent]) (js ++ [.completion intent evidence])
      fun key => key = request.key := by
  intro other hother
  obtain ⟨hmem, hopen⟩ := mem_pendingOf.mp hother
  rw [map_append] at hmem
  rcases mem_append.mp hmem with hold | hlast
  · refine ⟨mem_pendingOf.mpr ⟨hold, ?_⟩, ?_⟩
    · exact fun record hrecord => hopen record (mem_append_left _ hrecord)
    · obtain ⟨record, hrecord, rfl⟩ := mem_map.mp hold
      exact hnew record hrecord
  rw [map_singleton, mem_singleton] at hlast
  refine absurd ?_ (hopen (.completion intent evidence)
    (mem_append_right _ (mem_singleton_self _)))
  rw [hlast]
  rfl

/-- An absent effect without an attempt is executed and completed. -/
theorem executeAbsent_safely (happroval : HasApproval c.plan subject start)
    (hplaced : Placed c start.log (effectRequest c.plan effect))
    (hprobed : ∃ world evidence, ⟨world, .probe (effectRequest c.plan effect),
      .ok (.absent evidence), world⟩ ∈ start.log)
    (hattempted : attempted = none → ∀ record ∈ is,
      record.intent.key ≠ (effectRequest c.plan effect).key)
    (hcompleted : completed = false → ∀ record ∈ js, ∀ other,
      JournalRecord.completes record = some other → other.key ≠ (effectRequest c.plan effect).key) :
    Safely c (executeAbsent c.codecs c.store c.plan effect (effectRequest c.plan effect)
      expected attempted completed subject evidence) start fun outcome js' is' _ =>
        outcome ≠ .awaitingProbe ∧
          Settles is js is' js' fun key => key = (effectRequest c.plan effect).key := by
  unfold executeAbsent
  split
  case isTrue => exact Safely.decided hready nofun
  rename_i hopen
  split
  case isTrue => exact Safely.decided hready nofun
  rename_i hfirst
  have hnew := hattempted (Option.not_isSome_iff_eq_none.mp hfirst)
  refine Safely.decided_bind hready fun _ _ => Safely.decided_bind hready fun admitted hadmitted => ?_
  have hnewly : AdmittedEffect.new c.codecs.artifactDigest (effectRequest c.plan effect) effect
      (effect.artifact.bind c.plan.finalizedArtifact) subject = .ok admitted := by
    cases hresult : AdmittedEffect.new c.codecs.artifactDigest (effectRequest c.plan effect) effect
      (effect.artifact.bind c.plan.finalizedArtifact) subject with
    | error =>
      rw [hresult] at hadmitted
      cases hadmitted
    | ok =>
      rw [hresult] at hadmitted
      cases hadmitted
      rfl
  obtain ⟨heffect, hsubject, hlisted⟩ := AdmittedEffect.new_ok hnewly
  have hexecutable : Executable c js is admitted start := by
    refine ⟨?_, ?_, ?_, ?_, hlisted, ?_⟩
    · rw [heffect]
      exact hprobed
    · rw [heffect]
      exact hnew
    · rw [heffect]
      exact hcompleted (Bool.eq_false_iff.mpr hopen)
    · rw [hsubject]
      exact happroval
    · rw [heffect]
      exact hplaced
  refine (executeWithIntent_safely hready hexecutable).rephrase.bind ?_
  rintro executed js1 is1 now1 hready1 - ⟨rfl, rfl⟩
  refine Safely.decided_bind hready1 fun _ _ => ?_
  refine (Safely.of_quiet (appendCompletion_quiet hready1.whole) hready1.sound).rephrase.bind ?_
  rintro - js3 is3 now3 hready3 - ⟨rfl, -, -, rfl⟩
  exact LeadsOr.pure hready3 ⟨nofun, settles_executed hnew⟩

/-- One effect: executed, reconciled, or left waiting after a probe that could
not decide. -/
theorem reconcileEffect_safely
    (happroval : HasApproval c.plan subject start)
    (hplaced : Placed c start.log (effectRequest c.plan effect)) :
    Safely c (reconcileEffect c.codecs c.store c.plan effect subject) start
      fun outcome js' is' now => (outcome = .awaitingProbe → Undecided now.log) ∧
        Settles is js is' js' fun key =>
          outcome ≠ .awaitingProbe ∧ key = (effectRequest c.plan effect).key := by
  refine (Safely.of_quiet (ensureMatchingDeclaration_quiet hready.whole) hready.sound).bind ?_
  rintro - js1 is1 now1 hready1 hlog1 ⟨rfl, -, hquiet1, -, rfl⟩
  refine Safely.decided_bind hready1 fun expected _ => ?_
  refine (Safely.of_quiet (attemptedIntent_quiet hready1.whole) hready1.sound).bind ?_
  rintro attempted js3 is3 now3 hready3 hlog3 ⟨rfl, -, hquiet3, rfl, hattempted⟩
  refine (Safely.of_quiet (completionExists_quiet hready3.whole) hready3.sound).bind ?_
  rintro completed js4 is4 now4 hready4 hlog4 ⟨rfl, -, hquiet4, rfl, hcompleted⟩
  have happroval4 := happroval.quietly ((hquiet1.trans hquiet3).trans hquiet4)
  have hprobe : Steady c (attempt (I := machine Byte) (.probe (effectRequest c.plan effect))
      fun answer => answer.mapError OrchestrationError.seam) now4 js4 is4 fun probed now =>
        HasApproval c.plan subject now ∧
          ⟨now4.state, .probe (effectRequest c.plan effect), .ok probed, now4.state⟩ ∈ now.log := by
    refine Steady.idle hready4 trivial (fun _ => rfl) ?_
    intro proposed probed hread
    refine ⟨⟨happroval4.durable, happroval4.built⟩, ?_⟩
    cases proposed with
    | error => cases hread
    | ok =>
      cases hread
      exact mem_append_right _ (mem_singleton_self _)
  refine hprobe.safely.bind ?_
  rintro probed js5 is5 now5 hready5 hlog5 ⟨rfl, rfl, happroval5, hprobed⟩
  cases probed with
  | present evidence =>
    refine (Safely.of_quiet (reconcilePresent_quiet hready5.whole) hready5.sound).mono ?_
    rintro outcome js' is' now ⟨rfl, -, -, rfl, hsettles⟩
    exact ⟨nofun, hsettles.mono fun key hkey => hkey.2⟩
  | undecidable reason retry settle =>
    refine LeadsOr.pure hready5 ⟨fun _ => ⟨_, _, reason, retry, settle, hprobed⟩, ?_⟩
    exact (Settles.refl is5 js5).mono fun key hkey => hkey.1 rfl
  | absent evidence =>
    have hplaced5 := hplaced.mono (((hlog1.trans hlog3).trans hlog4).trans hlog5)
    refine (executeAbsent_safely hready5 happroval5 hplaced5 ⟨_, evidence, hprobed⟩ hattempted
      hcompleted).mono ?_
    rintro outcome js' is' now ⟨hdecided, hsettles⟩
    exact ⟨fun hno => absurd hno hdecided, hsettles.mono fun key hkey => hkey.2⟩

end

end effects

end Subconscious.ReleaseEffects
