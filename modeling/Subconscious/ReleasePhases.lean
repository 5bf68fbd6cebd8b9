import Subconscious.ReleaseEffects

/-!
# Phases and whole runs

A run asks for the approval of its plan before its irreversible phases and goes
through the effects of each. When a phase fails, the run notes it and ends. When
a run ends well, no operation of its plan has a pending intent, unless a probe
could not decide.
-/

namespace Subconscious.ReleasePhases

open Programs ReleaseRecords ReleaseStreams ReleaseJournal ReleaseOrchestrator ReleaseDurability
open ReleaseSpecs ReleaseRuns ReleaseEffects

variable [DecidableEq Byte] {c : Course Byte} {start : Now Byte}

/-- Without an approval there is nothing to trace. -/
theorem sound_remove (h : Sound c js is now) (proposed : (Call.removeApproval : Call Byte).Answer) :
    Sound c js is (perform now .removeApproval proposed).1 := by
  cases proposed with
  | error error => exact h.call .removeApproval (.error error) trivial rfl
  | ok =>
    refine h.harmless rfl (List.forall_mem_singleton.mpr trivial) ?_ (List.prefix_refl _)
    nofun

/-- The subject was just confirmed. -/
def JustConfirmed (c : Course Byte) (js : List JournalRecord) (subject : ApprovalSubject) (token : ApprovalToken)
    (now : Now Byte) : Prop :=
  ∃ world, ⟨world, .confirm subject, .ok token, world⟩ ∈ c.past ++ now.log ∧
    rebounds (recovered c.codecs.journal world.journal) = rebounds js

section approval

variable (hready : Ready c js is start)

include hready

/-- The loaded approval is the durable one. -/
theorem load_steady : Steady c load start js is fun found now => now.state.approval = found := by
  refine Steady.idle hready trivial (fun _ => rfl) ?_
  intro proposed value hread
  cases proposed with
  | error => cases hread
  | ok =>
    cases hread
    rfl

variable (subject : ApprovalSubject)

/-- A current approval is durable and of the subject. -/
theorem requireCurrent_steady : Steady c (requireCurrent subject) start js is fun record now =>
      record.subject = subject ∧ now.state.approval = some record := by
  refine (load_steady hready).bind ?_
  intro found now hready' hfound
  cases found with
  | none => exact Steady.decided hready' nofun
  | some record =>
    change Steady c (if record.subject ≠ subject then _ else _) now js is _
    split
    case isTrue => exact Steady.decided hready' nofun
    case isFalse hsame =>
      exact Steady.pure hready' ⟨not_not.mp hsame, hfound⟩

/-- A removed approval is gone. -/
theorem removeApproval_steady :
    Steady c (attempt (I := machine Byte) .removeApproval id) start js is
      fun _ now => now.state.approval = none := by
  refine Steady.call hready.whole ?_ (sound_remove hready.sound) ?_
  · rintro (error | removed) <;> exact ⟨rfl, rfl⟩
  intro proposed value hread
  cases proposed with
  | error => cases hread
  | ok => rfl

/-- A sync changes no approval. -/
theorem syncApproval_steady :
    Steady c (attempt (I := machine Byte) .syncApproval id) start js is
      fun _ now => now.state.approval = start.state.approval :=
  Steady.idle hready trivial (fun _ => rfl) fun _ _ _ => rfl

/-- A stale approval may be removed. -/
theorem invalidateIfStale_steady :
    Steady c (invalidateIfStale subject) start js is fun _ _ => True := by
  refine (load_steady hready).bind ?_
  rintro found now hready' -
  cases found with
  | none => exact Steady.pure hready' trivial
  | some record =>
    change Steady c (if record.subject = subject then _ else _) now js is _
    split
    case isTrue => exact Steady.pure hready' trivial
    refine (removeApproval_steady hready').bind ?_
    rintro removed now' hready'' -
    refine (syncApproval_steady hready'').bind ?_
    rintro synced later hlater -
    exact Steady.pure hlater trivial

/-- The gate confirms the subject between two records. -/
theorem confirm_steady : Steady c (attempt (I := machine Byte) (.confirm subject) fun answer =>
        answer.mapError OrchestrationError.seam) start js is fun token now =>
      JustConfirmed c js subject token now := by
  refine Steady.idle hready trivial (fun _ => rfl) ?_
  intro proposed token hread
  cases proposed with
  | error => cases hread
  | ok =>
    cases hread
    refine ⟨start.state, ?_, ?_⟩
    · exact List.mem_append_right c.past (List.mem_append_right _ (List.mem_singleton_self _))
    · rw [hready.whole.journal, recovered_of_holds holds_lines]

/-- What was just confirmed may be made durable. -/
theorem persistConfirmed_steady {subject : ApprovalSubject}
    (hconfirmed : JustConfirmed c js subject token start) :
    Steady c (persistConfirmed c.store subject token) start js is fun _ _ => True := by
  unfold persistConfirmed
  split
  case isTrue => exact Steady.decided hready fun _ _ => trivial
  have hreplace : Steady c (attempt (I := machine Byte)
      (.replaceApproval ⟨subject, token⟩) id) start js is fun _ _ => True := by
    refine Steady.call hready.whole ?_ ?_ fun _ _ _ => trivial
    · rintro (error | ⟨⟩) <;> exact ⟨rfl, rfl⟩
    rintro (error | ⟨⟩)
    · exact hready.sound.call (.replaceApproval ⟨subject, token⟩) (.error error)
        trivial rfl
    refine hready.sound.harmless rfl (List.forall_mem_singleton.mpr trivial) ?_ (List.prefix_refl _)
    rintro record ⟨⟩
    obtain ⟨world, hmem, hsame⟩ := hconfirmed
    refine ⟨world, ?_, hsame⟩
    change _ ∈ c.past ++ (start.log ++ [_])
    rw [← List.append_assoc]
    exact List.mem_append_left _ hmem
  refine hreplace.bind ?_
  rintro replaced now hready' -
  refine (syncApproval_steady hready').bind ?_
  rintro synced later hlater -
  exact Steady.pure hlater trivial

/-- An approval is there or is asked for. -/
theorem ensureApproved_steady :
    Steady c (ensureApproved c.store subject) start js is fun _ _ => True := by
  have hask : ∀ now, Ready c js is now →
      Steady c (do
        let _ ← rephrase OrchestrationError.approval (invalidateIfStale subject)
        let token ← attempt (I := machine Byte) (.confirm subject) fun answer =>
          answer.mapError OrchestrationError.seam
        let _ ← rephrase OrchestrationError.approval (persistConfirmed c.store subject token)
        pure ()) now js is fun _ _ => True := by
    intro now hready'
    refine (invalidateIfStale_steady hready' subject).rephrase.bind ?_
    rintro stale now1 hready1 -
    refine (confirm_steady hready1 subject).bind ?_
    intro token now2 hready2 hconfirmed
    refine (persistConfirmed_steady hready2 hconfirmed).rephrase.bind ?_
    rintro record now3 hready3 -
    exact Steady.pure hready3 trivial
  refine Attempts.settle (requireCurrent_steady hready subject) ?_ ?_
  · rintro record now ⟨hready', -⟩
    exact Steady.pure hready' trivial
  intro error now hready'
  cases error with
  | noCurrentApproval | subjectMismatch => exact hask now hready'
  | _ => exact Steady.decided hready' fun _ _ => trivial

end approval

/-- What a phase's runner does is quiet. -/
theorem runnerActions_quiet (h : At c.codecs js is start) :
    Quiet c.codecs (runnerActions c.codecs c.store actions) start js is fun _ _ _ => True := by
  induction actions generalizing js start with
  | nil => exact QuietOr.pure h trivial
  | cons action actions ih =>
    cases action with
    | readJournal =>
      refine (readJournal_quiet (.whole h)).rephrase.bind ?_
      rintro found js' now - hat -
      exact ih hat
    | append note =>
      have hnote : IsNote note.record := by cases note <;> exact trivial
      refine (appendJournal_quiet h _ hnote).rephrase.bind ?_
      rintro - js' now - hat -
      exact ih hat

/-- A local phase runs once the phases before it are done. -/
theorem runLocalPhase_safely (hready : Ready c js is start)
    (hphases : c.plan.phases = before ++ phase :: after)
    (hclass : classify phase.phaseType ≠ some .irreversible)
    (hreached : Reached c before [] start.log) :
    Safely c (runLocalPhase c.codecs c.store phase) start fun _ js' is' now =>
      Reached c (before ++ [phase]) [] now.log ∧ Settles is js is' js' fun _ => False := by
  have hrun : Steady c (attempt (I := machine Byte) (.runPhase phase)
      (Except.ok (ε := OrchestrationError))) start js is fun _ now => RanIn phase now.log := by
    refine Steady.call hready.whole (fun _ => ⟨rfl, rfl⟩) ?_ ?_
    · intro proposed
      refine hready.sound.step (.runPhase phase) proposed rfl ?_ rfl
      refine fun answer after' => ⟨nofun, ?_⟩
      rintro other ⟨⟩
      exact ⟨before, after, hphases, hreached⟩
    · intro proposed value hread
      exact ⟨start.state, proposed, List.mem_append_right _ (List.mem_singleton_self _)⟩
  refine hrun.safely.bind ?_
  rintro ran js1 is1 now1 hready1 hlog1 ⟨rfl, rfl, hran⟩
  refine (Safely.of_quiet (runnerActions_quiet hready1.whole) hready1.sound).rephrase.bind ?_
  rintro - js2 is2 now2 hready2 hlog2 ⟨rfl, hgrown, -, -⟩
  refine Safely.decided hready2 ?_
  rintro evidence -
  refine ⟨(hreached.mono (hlog1.trans hlog2)).snoc (fun _ => hran.mono hlog2)
    (if_neg hclass).symm, ?_⟩
  intro intent hintent
  exact ⟨pendingOf_grown hgrown hintent, id⟩

/-- The operations of effects. -/
def KeyOf (plan : ReleasePlan) (effects : List PublicEffect) (key : OperationKey) : Prop :=
  ∃ effect ∈ effects, key = (effectRequest plan effect).key

/-- No effect waits for a probe. -/
def Decided (outcomes : List EffectOutcome) : Prop := ∀ outcome ∈ outcomes, outcome ≠ .awaitingProbe

/-- The rest of a phase's effects, after some were settled. -/
theorem reconcileEffects_safely (hready : Ready c js is start)
    (hbuilt : buildApprovalSubject c.plan = .ok subject)
    (hphases : c.plan.phases = before ++ phase :: after)
    (hclass : classify phase.phaseType = some .irreversible) (settled : List PublicEffect)
    (heffects : effectsForPhase c.plan phase.instanceId = settled ++ effects)
    (hreached : Reached c before settled start.log) :
    Safely c (reconcileEffects c.codecs c.store c.plan subject effects) start
      fun outcomes js' is' now =>
        Reached c before (effectsForPhase c.plan phase.instanceId) now.log ∧
          Settles is js is' js' fun key => Decided outcomes ∧ KeyOf c.plan effects key := by
  induction effects generalizing js is start settled with
  | nil =>
    refine LeadsOr.pure hready ⟨?_, (Settles.refl is js).mono ?_⟩
    · rw [heffects, List.append_nil]
      exact hreached
    · rintro key ⟨-, effect, hno, -⟩
      cases hno
  | cons effect effects ih =>
    refine (requireCurrent_steady hready subject).rephrase.safely.bind ?_
    rintro record js1 is1 now1 hready1 hlog1 ⟨rfl, rfl, rfl, happroval⟩
    have hreached1 := hreached.mono hlog1
    have hplaced : Placed c now1.log (effectRequest c.plan effect) :=
      ⟨before, phase, after, settled, effect, effects, hphases, hclass, heffects, rfl, hreached1⟩
    refine (reconcileEffect_safely hready1 ⟨⟨record.token, happroval⟩, hbuilt⟩
      hplaced).reached.bind ?_
    rintro outcome js2 is2 now2 hready2 hlog2 ⟨⟨hwaits, hfirst⟩, hreaches⟩
    have hdone : Undecided now2.log ∨ SettledBy c.codecs c.store c.plan effect now2.log := by
      by_cases houtcome : outcome = .awaitingProbe
      · exact .inl (hwaits houtcome)
      · exact .inr ⟨now1, now2, record.subject, outcome, hreaches, houtcome, List.prefix_refl _⟩
    have hsplit : effectsForPhase c.plan phase.instanceId = (settled ++ [effect]) ++ effects := by
      rw [heffects, List.append_assoc]
      rfl
    refine (ih hready2 _ hsplit ((hreached1.mono hlog2).effect hdone)).bind ?_
    rintro outcomes js3 is3 now3 hready3 - ⟨hreached3, hrest⟩
    refine LeadsOr.pure hready3 ⟨hreached3, (hfirst.trans hrest).mono ?_⟩
    rintro key ⟨hdecided, other, hother, rfl⟩
    rcases List.mem_cons.mp hother with rfl | hmem
    · exact .inl ⟨hdecided outcome List.mem_cons_self, rfl⟩
    · exact .inr ⟨fun outcome houtcome => hdecided outcome (List.mem_cons_of_mem _ houtcome),
        other, hmem, rfl⟩

/-- The operations of a phase. -/
def PhaseKey (plan : ReleasePlan) (phase : PlannedPhase) (key : OperationKey) : Prop :=
  classify phase.phaseType = some .irreversible ∧
    KeyOf plan (effectsForPhase plan phase.instanceId) key

/-- A phase settles its operations, if it has any. -/
theorem runClassified_safely (hready : Ready c js is start)
    (hphases : c.plan.phases = before ++ phase :: after)
    (hclass : classify phase.phaseType = some phaseClass)
    (hreached : Reached c before [] start.log) :
    Safely c (runClassified c.codecs c.store c.plan phase phaseClass) start
      fun produced js' is' now => Reached c (before ++ [phase]) [] now.log ∧
        Settles is js is' js' fun key => Decided produced.1 ∧ PhaseKey c.plan phase key := by
  have hlocal : phaseClass ≠ .irreversible → Safely c (do
      let evidence ← runLocalPhase c.codecs c.store phase
      pure (([] : List EffectOutcome), evidence)) start
      fun produced js' is' now => Reached c (before ++ [phase]) [] now.log ∧
        Settles is js is' js' fun key => Decided produced.1 ∧ PhaseKey c.plan phase key := by
    intro hother
    have hnot : classify phase.phaseType ≠ some .irreversible := by
      rw [hclass]
      exact fun hsame => hother (Option.some.inj hsame)
    refine (runLocalPhase_safely hready hphases hnot hreached).bind ?_
    rintro evidence js1 is1 now1 hready1 - ⟨hreached1, hsettles⟩
    refine LeadsOr.pure hready1 ⟨hreached1, hsettles.mono ?_⟩
    rintro key ⟨-, hirreversible, -⟩
    exact hnot hirreversible
  cases phaseClass with
  | refusalCapable | postBoundary => exact hlocal nofun
  | irreversible =>
    have hphase : Safely c (runIrreversiblePhase c.codecs c.store c.plan phase) start
        fun outcomes js' is' now =>
          Reached c before (effectsForPhase c.plan phase.instanceId) now.log ∧
            Settles is js is' js' fun key =>
              Decided outcomes ∧ KeyOf c.plan (effectsForPhase c.plan phase.instanceId) key := by
      unfold runIrreversiblePhase
      cases hbuilt : buildApprovalSubject c.plan with
      | error => exact Safely.decided hready nofun
      | ok subject =>
        refine (ensureApproved_steady hready subject).safely.bind ?_
        rintro - js1 is1 now1 hready1 hlog1 ⟨rfl, rfl, -⟩
        exact reconcileEffects_safely hready1 hbuilt hphases hclass [] rfl
          (hreached.mono hlog1)
    refine hphase.bind ?_
    rintro outcomes js1 is1 now1 hready1 - ⟨hreached1, hsettles⟩
    refine LeadsOr.pure hready1 ⟨hreached1.snoc (absurd hclass)
      (if_pos hclass).symm, hsettles.mono ?_⟩
    rintro key ⟨hdecided, -, hkey⟩
    exact ⟨hdecided, hkey⟩

section

variable {α : Type} {good : α → List JournalRecord → List IntentRecord → Now Byte → Prop}

/-- A failed phase is noted, and both streams stay readable for what follows. -/
theorem noteRefused_leads {phase : PhaseInstanceId} {rest : Attempt (machine Byte) OrchestrationError α}
    (h : Spoiled c start) (hrest : ∀ later, Safe c later → Leads c rest later good) :
    Leads c (noteRefused c.codecs c.store phase error >>= fun _ => rest) start good := by
  obtain ⟨js, is, hfailed, hsound⟩ := h
  refine Ensures.attempt_bind (Ensures.rephrase (((appendJournal_failed hfailed
    (.refused phase error.text) trivial).weaken fun _ => safe_of_reach hsound).mono ?_))
  intro noted later hreach
  have hsafe := safe_of_reach hsound hreach
  cases noted with
  | error => exact hsafe
  | ok => exact hrest later hsafe

/-- A harmless call that changes nothing durable keeps the run safe. -/
theorem safe_idle (h : Safe c now) (made : Call Byte) (proposed : made.Answer)
    (hmade : Harmless made) (hact : (act now.state made proposed).1 = now.state) :
    Safe c (perform now made proposed).1 := by
  obtain ⟨js, is, hdisk, hsound⟩ := h
  have hstate : (perform now made proposed).1.state = now.state := hact
  refine ⟨js, is, ⟨?_, ?_⟩, hsound.call made proposed hmade (by rw [hact])⟩
  · rw [hstate]
    exact hdisk.journal
  · rw [hstate]
    exact hdisk.intents

/-- A run that ends with an error, after giving its lease back. -/
theorem releaseTrain_fails (h : Safe c start) :
    Leads c (do
      attempt (I := machine Byte) .releaseTrain fun answer =>
        answer.mapError OrchestrationError.lease
      decided (.error error)) start good := by
  refine Ensures.attempt_bind ?_
  rintro start' rfl proposed
  have hsafe := safe_idle h .releaseTrain proposed trivial rfl
  refine ⟨hsafe, ?_⟩
  cases proposed with
  | error | ok => exact hsafe

end

section

variable (hready : Ready c js is start)
include hready

/-- A phase that mutates the tree takes the repository first. -/
theorem takeRepository_leads :
    Leads c (takeRepository c.codecs c.store phase) start
      fun _ js' is' _ => js' = js ∧ is' = is := by
  unfold takeRepository
  split
  case isFalse => exact ⟨js, is, hready, rfl, rfl⟩
  refine Attempts.settle (Steady.unread .acquireRepository hready trivial fun _ => rfl) ?_ ?_
  · rintro nothing now ⟨hready', -⟩
    exact ⟨js, is, hready', rfl, rfl⟩
  intro error now hready'
  exact noteRefused_leads hready'.spoiled fun _ => releaseTrain_fails

/-- What a phase produced is noted and returned. -/
theorem finishPhase_leads :
    Leads c (finishPhase c.codecs c.store phase (.ok produced)) start
      fun outcomes js' is' _ => outcomes = produced.1 ∧ is' = is ∧ Grown js js' := by
  unfold finishPhase
  dsimp only
  split
  case isTrue => exact ⟨js, is, hready, rfl, rfl, Grown.refl _⟩
  refine Leads.of_safely ?_
  refine (Safely.of_quiet (appendJournal_quiet hready.whole (.phaseDone phase.instanceId _) trivial)
    hready.sound).rephrase.bind ?_
  rintro - js' is' now hready' - ⟨rfl, hgrown, -, -⟩
  exact LeadsOr.pure hready' ⟨rfl, rfl, hgrown⟩

end

/-- A phase that failed is noted, and the run ends. -/
theorem finishPhase_fails (h : Spoiled c start) :
    Leads c (finishPhase c.codecs c.store phase (.error error)) start good := by
  cases error with
  | panicked => exact h.safe
  | _ => exact noteRefused_leads h fun _ hsafe => hsafe

section

variable (hready : Ready c js is start)
include hready

/-- A phase is noted as entered, and its end is noted. -/
theorem runPhase_leads (hphases : c.plan.phases = before ++ phase :: after)
    (hreached : Reached c before [] start.log) :
    Leads c (runPhase c.codecs c.store c.plan phase) start fun outcomes js' is' now =>
      Reached c (before ++ [phase]) [] now.log ∧
        Settles is js is' js' fun key => Decided outcomes ∧ PhaseKey c.plan phase key := by
  unfold runPhase
  cases hclass : classify phase.phaseType with
  | none => exact ⟨js, is, hready.whole.disk, hready.sound⟩
  | some phaseClass =>
    refine (takeRepository_leads hready).bind ?_
    rintro - js1 is1 now1 hready1 hlog1 ⟨rfl, rfl⟩
    refine (Leads.of_safely (Safely.of_quiet (appendJournal_quiet hready1.whole
      (.phaseEntered phase.instanceId) trivial) hready1.sound).rephrase).bind ?_
    rintro - js2 is2 now2 hready2 hlog2 ⟨rfl, hgrown, -, -⟩
    have hreleased : Safely c (settle (runClassified c.codecs c.store c.plan phase phaseClass)
        (releaseAfter phase.treeMutating)) now2 fun produced js' is' now =>
          Reached c (before ++ [phase]) [] now.log ∧
            Settles is2 js2 is' js' fun key => Decided produced.1 ∧ PhaseKey c.plan phase key := by
      refine Attempts.settle (runClassified_safely hready2 hphases hclass
        (hreached.mono (hlog1.trans hlog2))) ?_ ?_
      · rintro produced now ⟨js', is', hready', hreached', hsettles⟩
        cases phase.treeMutating with
        | false => exact LeadsOr.pure hready' ⟨hreached', hsettles⟩
        | true =>
          refine (Steady.unread .releaseRepository hready' trivial fun _ => rfl).safely.bind ?_
          rintro - js'' is'' later hlater hlog ⟨rfl, rfl, -⟩
          exact LeadsOr.pure hlater ⟨hreached'.mono hlog, hsettles⟩
      · intro error now hspoiled
        cases phase.treeMutating with
        | false | true => exact hspoiled
    refine Attempts.settle hreleased ?_ fun error now hspoiled => finishPhase_fails hspoiled
    rintro produced now ⟨js', is', hready', hreached', hsettles⟩
    refine Attempts.mono (Attempts.reached (finishPhase_leads hready')) ?_
    rintro outcomes later ⟨⟨js'', is'', hlater, rfl, rfl, hgrown'⟩, hreaches⟩
    refine ⟨js'', is'', hlater, hreached'.mono hreaches.log, ?_⟩
    intro intent hintent
    obtain ⟨hbefore, hnot⟩ := hsettles intent (pendingOf_grown hgrown' hintent)
    exact ⟨pendingOf_grown hgrown hbefore, hnot⟩

/-- The rest of a plan's phases, after some are done. -/
theorem runPhases_leads (before : List PlannedPhase)
    (hphases : c.plan.phases = before ++ phases) (hreached : Reached c before [] start.log) :
    Leads c (runPhases c.codecs c.store c.plan phases) start
      fun outcomes js' is' _ => Settles is js is' js' fun key =>
        Decided outcomes ∧ ∃ phase ∈ phases, PhaseKey c.plan phase key := by
  induction phases generalizing js is start before with
  | nil =>
    refine ⟨js, is, hready, (Settles.refl is js).mono ?_⟩
    rintro key ⟨-, phase, hno, -⟩
    cases hno
  | cons phase phases ih =>
    refine (runPhase_leads hready hphases hreached).bind ?_
    rintro outcomes js1 is1 now1 hready1 - ⟨hreached1, hfirst⟩
    have hsplit : c.plan.phases = (before ++ [phase]) ++ phases := by
      rw [hphases, List.append_assoc]
      rfl
    refine (ih hready1 _ hsplit hreached1).bind ?_
    intro later js2 is2 now2 hready2 hlog2 hrest
    refine ⟨js2, is2, hready2, (hfirst.trans hrest).mono ?_⟩
    rintro key ⟨hdecided, other, hother, hkey⟩
    rcases List.mem_cons.mp hother with rfl | hmem
    · exact .inl ⟨fun outcome houtcome => hdecided outcome (List.mem_append_left _ houtcome),
        hkey⟩
    · exact .inr ⟨fun outcome houtcome => hdecided outcome (List.mem_append_right _ houtcome),
        other, hmem, hkey⟩

/-- A refused plan ends the run. -/
theorem refusePlan_leads : Leads c (refusePlan c.codecs c.store error) start good := by
  have hplain : Leads c (do
      attempt (I := machine Byte) .releaseTrain fun answer =>
        answer.mapError OrchestrationError.lease
      decided (.error error)) start good := releaseTrain_fails hready.safe
  cases error with
  | refusal code phase =>
    cases phase with
    | none => exact hplain
    | some phase => exact noteRefused_leads hready.spoiled fun _ => releaseTrain_fails
  | _ => exact hplain

end

/-- A whole run, from any readable streams. -/
theorem execute_leads (hdisk : Disk c.codecs js is start) (hsound : Sound c js is start) :
    Leads c (execute c.codecs c.store c.plan) start
      fun outcomes js' is' _ => Settles is js is' js' fun key =>
        Decided outcomes ∧ ∃ phase ∈ c.plan.phases, PhaseKey c.plan phase key := by
  refine (Leads.of_quiet (ensureDeclarationDigest_quiet (.torn hdisk)).rephrase hsound).bind ?_
  rintro - js' is' now hready - ⟨rfl, -, -, rfl⟩
  refine (Leads.of_safely (Steady.unread .acquireTrain hready trivial
    fun _ => rfl).safely).bind ?_
  rintro - js1 is1 now1 hready1 - ⟨rfl, rfl, -⟩
  cases hvalid : validatePlan c.plan with
  | error error => exact refusePlan_leads hready1
  | ok =>
    have hreached : Reached c [] [] now1.log := ⟨hvalid, nofun, .inr nofun⟩
    refine (runPhases_leads hready1 [] rfl hreached).bind ?_
    intro outcomes js2 is2 now2 hready2 hlog2 hsettles
    refine (Leads.of_safely (Steady.unread .releaseTrain hready2 trivial
      fun _ => rfl).safely).bind ?_
    rintro - js3 is3 now3 hready3 - ⟨rfl, rfl, -⟩
    exact ⟨js3, is3, hready3, hsettles⟩

end Subconscious.ReleasePhases
