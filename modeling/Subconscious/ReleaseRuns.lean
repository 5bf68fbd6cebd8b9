import Subconscious.ReleaseHistories
import Subconscious.ReleaseSpecs

/-!
# What a run keeps

Whatever is answered and wherever it stops, a run keeps both streams readable,
every operation it invoked among the intents, and every approval traceable to a
confirmation after the last rebind. An executor is called only for an operation
that was probed absent, has no earlier intent or completion on disk, and is part
of the approved plan.
-/

namespace Subconscious.ReleaseRuns

open Programs ReleaseRecords ReleaseStreams ReleaseJournal ReleaseOrchestrator ReleaseDurability
open List
open ReleaseSpecs

section log

/-- The operations that were invoked, in order. -/
def invoked (log : Log Byte) : List OperationKey :=
  log.filterMap fun step => match step.call with
    | .execute admitted => some admitted.effect.key
    | _ => none

/-- The operations of intents. -/
def keysOf (is : List IntentRecord) : List OperationKey := is.map fun record => record.intent.key

theorem invoked_append (first second : Log Byte) :
    invoked (first ++ second) = invoked first ++ invoked second :=
  filterMap_append

/-- Calls that invoke nothing and run no phase. -/
def Harmless : Call Byte → Prop
  | .execute _ | .runPhase _ => False
  | _ => True

variable {steps : Log Byte}

theorem invoked_harmless (h : ∀ step ∈ steps, Harmless step.call) : invoked steps = [] := by
  unfold invoked
  rw [filterMap_eq_nil_iff]
  intro step hstep
  have hcall := h step hstep
  split
  case h_1 admitted heq =>
    rw [heq] at hcall
    exact hcall.elim
  case h_2 => rfl

theorem harmless_of_fileCall (h : FileCall made) : Harmless made := by
  obtain ⟨stream, hcall⟩ := h
  cases made with
  | execute | runPhase => exact hcall.elim
  | _ => exact trivial

/-- Some probe could not decide. -/
def Undecided (log : Log Byte) : Prop :=
  ∃ world request reason retryAfterMs settleDeadlineMs, ⟨world, .probe request,
    .ok (.undecidable reason retryAfterMs settleDeadlineMs), world⟩ ∈ log

/-- The phase was run. -/
def RanIn (phase : PlannedPhase) (log : Log Byte) : Prop :=
  ∃ world answer, ⟨world, .runPhase phase, answer, world⟩ ∈ log

section mono

theorem RanIn.mono (h : RanIn phase log) (hlog : log <+: log') : RanIn phase log' := by
  obtain ⟨world, answer, hmem⟩ := h
  exact ⟨world, answer, hlog.subset hmem⟩

theorem Undecided.mono (h : Undecided log) (hlog : log <+: log') : Undecided log' := by
  obtain ⟨world, request, reason, retry, settle, hmem⟩ := h
  exact ⟨world, request, reason, retry, settle, hlog.subset hmem⟩

end mono

variable [DecidableEq Byte] (codecs : Codecs Byte) (store : JournalStore) (plan : ReleasePlan)

/-- Before a call, the operation was probed absent, and its intent was made
durable when neither an intent nor a completion of it was on disk. -/
structure Foregone (earlier : Log Byte) (admitted : AdmittedEffect) : Prop where
  probed : ∃ world evidence,
    ⟨world, .probe admitted.effect, .ok (.absent evidence), world⟩ ∈ earlier
  intended : ∃ world known intent,
    ⟨world, .syncData .intents, .ok (), world⟩ ∈ earlier ∧
      world.intents = lines codecs.intents (known ++ [.pending intent]) ∧
      intent.key = admitted.effect.key ∧
      (∀ record ∈ known, record.intent.key ≠ admitted.effect.key) ∧
      ∀ record ∈ recovered codecs.journal world.journal, ∀ other,
        JournalRecord.completes record = some other → other.key ≠ admitted.effect.key

/-- A call under the durable approval of the plan that is run, confirmed
through the gate after the last rebind. -/
structure Approved (log : Log Byte) (world : World Byte) (admitted : AdmittedEffect) : Prop where
  durable : ∃ token, world.approval = some ⟨admitted.approval, token⟩ ∧ ∃ asked,
    ⟨asked, .confirm admitted.approval, .ok token, asked⟩ ∈ log ∧
      rebounds (recovered codecs.journal asked.journal) =
        rebounds (recovered codecs.journal world.journal)
  built : buildApprovalSubject plan = .ok admitted.approval
  inList : admitted.InList codecs.artifactDigest

/-- The effect was executed or reconciled within the log. -/
def SettledBy (effect : PublicEffect) (log : Log Byte) : Prop :=
  ∃ (start final : Now Byte) (subject : ApprovalSubject) (outcome : EffectOutcome),
    Reaches (I := machine Byte) perform (reconcileEffect codecs store plan effect subject).run start
        (.ok outcome) final ∧
      outcome ≠ .awaitingProbe ∧ final.log <+: log

/-- The effects of the irreversible phases, in order. -/
def dueEffects (phases : List PlannedPhase) : List PublicEffect :=
  phases.flatMap fun phase =>
    if classify phase.phaseType = some .irreversible then effectsForPhase plan phase.instanceId
    else []

/-- What a command is about: how records are written, the plan it runs, and
what happened to the train before it. -/
structure Course (Byte : Type) where
  codecs : Codecs Byte
  store : JournalStore
  plan : ReleasePlan
  past : Log Byte
  journal : List JournalRecord
  intents : List IntentRecord

variable (c : Course Byte)

/-- How far a run has come: past some phases, and past some effects of the next one. -/
structure Reached (before : List PlannedPhase) (effects : List PublicEffect) (log : Log Byte) :
    Prop where
  valid : validatePlan c.plan = .ok ()
  ran : ∀ phase ∈ before, classify phase.phaseType ≠ some .irreversible → RanIn phase log
  settled : Undecided log ∨ ∀ effect ∈ dueEffects c.plan before ++ effects,
    SettledBy c.codecs c.store c.plan effect log

/-- The request is one of an irreversible phase, and the run has come to it. -/
def Placed (log : Log Byte) (request : EffectRequest) : Prop :=
  ∃ before phase after effects effect rest, c.plan.phases = before ++ phase :: after ∧
    classify phase.phaseType = some .irreversible ∧
    effectsForPhase c.plan phase.instanceId = effects ++ effect :: rest ∧
    request = effectRequest c.plan effect ∧ Reached c before effects log

/-- What has to hold when an executor is called. -/
structure Executes (earlier : Log Byte) (world : World Byte) (admitted : AdmittedEffect) :
    Prop where
  foregone : Foregone c.codecs earlier admitted
  approved : Approved c.codecs c.plan (c.past ++ earlier) world admitted
  placed : Placed c earlier admitted.effect
  grown : c.journal <+: recovered c.codecs.journal world.journal
  pinned : PinnedTo (recovered c.codecs.journal world.journal) admitted.effect.declarationDigest

/-- What has to hold of a step after the earlier ones of its run, and after the
history before the run. -/
structure Lawful (earlier : Log Byte) (step : Step (machine Byte) (World Byte)) : Prop where
  execute : ∀ admitted, step.call = .execute admitted → Executes c earlier step.before admitted
  runPhase : ∀ phase, step.call = .runPhase phase → ∃ before after,
    c.plan.phases = before ++ phase :: after ∧ Reached c before [] earlier

/-- The approval was confirmed through the gate, and no rebind came after. -/
def Confirmed (log : Log Byte) (approval : Option ApprovalRecord) (js : List JournalRecord) :
    Prop :=
  ∀ record, approval = some record → ∃ world,
    ⟨world, .confirm record.subject, .ok record.token, world⟩ ∈ log ∧
      rebounds (recovered codecs.journal world.journal) = rebounds js

/-- Intents are added while the journal pins their declaration. -/
def Added (js : List JournalRecord) (is : List IntentRecord) : Prop :=
  ∃ more, is = c.intents ++ more ∧ ∀ record ∈ more, ∃ records, c.journal <+: records ∧
    records <+: js ∧ PinnedTo records record.intent.declarationDigest

/-- What a run keeps, after the log of the history before it. -/
structure Sound (js : List JournalRecord) (is : List IntentRecord) (now : Now Byte) : Prop where
  once : (invoked (c.past ++ now.log)).Nodup
  kept : ∀ key ∈ invoked (c.past ++ now.log), key ∈ keysOf is
  lawful : Each (Lawful c) now.log
  confirmed : Confirmed c.codecs (c.past ++ now.log) now.state.approval js
  grown : c.journal <+: js
  added : Added c js is

/-- What holds after every single call of a run. -/
def Safe (now : Now Byte) : Prop := ∃ js is, Disk c.codecs js is now ∧ Sound c js is now

variable {codecs store plan c}

theorem SettledBy.mono (h : SettledBy codecs store plan effect log)
    (hlog : log <+: log') : SettledBy codecs store plan effect log' := by
  obtain ⟨start, final, subject, outcome, hreaches, hdecided, hfinal⟩ := h
  exact ⟨start, final, subject, outcome, hreaches, hdecided, hfinal.trans hlog⟩

/-- What a run has come past stays behind it. -/
theorem Reached.mono (h : Reached c before effects log) (hlog : log <+: log') :
    Reached c before effects log' where
  valid := h.valid
  ran := fun phase hphase hlocal => (h.ran phase hphase hlocal).mono hlog
  settled := h.settled.imp (Undecided.mono · hlog)
    fun hall effect heffect => (hall effect heffect).mono hlog

/-- The next phase is done. -/
theorem Reached.snoc (h : Reached c before effects log)
    (hran : classify phase.phaseType ≠ some .irreversible → RanIn phase log)
    (heffects : effects = if classify phase.phaseType = some .irreversible then
      effectsForPhase c.plan phase.instanceId else []) : Reached c (before ++ [phase]) [] log := by
  refine ⟨h.valid, forall_mem_append.mpr ⟨h.ran, forall_mem_singleton.mpr hran⟩, ?_⟩
  unfold dueEffects
  rw [flatMap_append, flatMap_singleton, append_nil, ← heffects]
  exact h.settled

/-- An effect was settled, or its probe could not decide. -/
theorem Reached.effect {effect : PublicEffect} (h : Reached c before effects log)
    (heffect : Undecided log ∨ SettledBy c.codecs c.store c.plan effect log) :
    Reached c before (effects ++ [effect]) log := by
  refine ⟨h.valid, h.ran, ?_⟩
  rcases h.settled, heffect with ⟨hundecided | hall, hundecided | hlast⟩
  · exact .inl hundecided
  · exact .inl hundecided
  · exact .inl hundecided
  rw [← append_assoc]
  exact .inr (forall_mem_append.mpr ⟨hall, forall_mem_singleton.mpr hlast⟩)

theorem Placed.mono (h : Placed c log request) (hlog : log <+: log') : Placed c log' request := by
  obtain ⟨before, phase, after, effects, effect, rest, hphases, hclass, heffects, hrequest,
    hreached⟩ := h
  exact ⟨before, phase, after, effects, effect, rest, hphases, hclass, heffects, hrequest,
    hreached.mono hlog⟩

theorem Confirmed.mono
    (h : Confirmed codecs log approval js) (hrebounds : rebounds js' = rebounds js) :
    Confirmed codecs (log ++ more) approval js' := by
  intro record hrecord
  obtain ⟨world, hmem, hsame⟩ := h record hrecord
  exact ⟨world, mem_append_left _ hmem, hsame.trans hrebounds.symm⟩

omit [DecidableEq Byte] in
theorem Added.mono (h : Added c js is) (hjs : js <+: js') : Added c js' is := by
  obtain ⟨more, his, hmore⟩ := h
  refine ⟨more, his, ?_⟩
  intro record hrecord
  obtain ⟨records, hstart, hrecords, hpinned⟩ := hmore record hrecord
  exact ⟨records, hstart, hrecords.trans hjs, hpinned⟩

/-- Lawful calls that invoke nothing. -/
theorem Sound.idle (h : Sound c js is now) (hlog : later.log = now.log ++ steps)
    (hidle : invoked steps = []) (hlawful : Each (Lawful c) later.log)
    (hconfirmed : Confirmed c.codecs (c.past ++ later.log) later.state.approval js')
    (hjs : js <+: js') : Sound c js' is later := by
  have hinvoked : invoked (c.past ++ later.log) = invoked (c.past ++ now.log) := by
    rw [hlog, ← append_assoc, invoked_append, hidle, append_nil]
  refine ⟨?_, ?_, hlawful, hconfirmed, h.grown.trans hjs, h.added.mono hjs⟩
  · rw [hinvoked]
    exact h.once
  · rw [hinvoked]
    exact h.kept

theorem lawful_of_harmless (h : Harmless step.call) : Lawful c earlier step := by
  refine ⟨?_, ?_⟩
  · intro admitted hcall
    rw [hcall] at h
    exact h.elim
  · intro phase hcall
    rw [hcall] at h
    exact h.elim

theorem Sound.harmless (h : Sound c js is now) (hlog : later.log = now.log ++ steps)
    (hsteps : ∀ step ∈ steps, Harmless step.call)
    (hconfirmed : Confirmed c.codecs (c.past ++ later.log) later.state.approval js')
    (hjs : js <+: js') : Sound c js' is later := by
  refine h.idle hlog (invoked_harmless hsteps) ?_ hconfirmed hjs
  rw [hlog]
  exact h.lawful.append fun earlier step hstep => lawful_of_harmless (hsteps step hstep)

theorem Sound.quietly (h : Sound c js is now) (hquiet : Quietly now later)
    (hgrown : Grown js js') : Sound c js' is later := by
  obtain ⟨steps, hlog, hsteps⟩ := hquiet.log
  refine h.harmless hlog (fun step hstep => harmless_of_fileCall (hsteps step hstep)) ?_
    hgrown.starts
  rw [hlog, ← append_assoc, hquiet.approval]
  exact h.confirmed.mono hgrown.rebounds

/-- One lawful call that invokes nothing and leaves the approval alone. -/
theorem Sound.step (h : Sound c js is now) (made : Call Byte) (proposed : made.Answer)
    (hidle : invoked [(⟨now.state, made, (act now.state made proposed).2,
      (act now.state made proposed).1⟩ : Step (machine Byte) (World Byte))] = [])
    (hlawful : ∀ answer after, Lawful c now.log ⟨now.state, made, answer, after⟩)
    (happroval : (act now.state made proposed).1.approval = now.state.approval) :
    Sound c js is (perform now made proposed).1 := by
  refine h.idle rfl hidle (h.lawful.snoc (hlawful _ _)) ?_ (prefix_refl _)
  rw [logging_state, happroval, logging_log, ← append_assoc]
  exact h.confirmed.mono rfl

/-- One harmless call that leaves the approval alone. -/
theorem Sound.call (h : Sound c js is now) (made : Call Byte) (proposed : made.Answer)
    (hmade : Harmless made)
    (happroval : (act now.state made proposed).1.approval = now.state.approval) :
    Sound c js is (perform now made proposed).1 := by
  exact h.step made proposed (invoked_harmless (forall_mem_singleton.mpr hmade))
    (fun _ _ => lawful_of_harmless hmade) happroval

/-- Intents are added under the declaration the journal pins. -/
theorem Sound.intend (h : Sound c js is now)
    (hmore : ∀ record ∈ more, PinnedTo js record.intent.declarationDigest) :
    Sound c js (is ++ more) now := by
  refine ⟨h.once, ?_, h.lawful, h.confirmed, h.grown, ?_⟩
  · intro key hkey
    unfold keysOf
    rw [map_append]
    exact mem_append_left _ (h.kept key hkey)
  obtain ⟨known, rfl, hknown⟩ := h.added
  refine ⟨known ++ more, append_assoc _ _ _, forall_mem_append.mpr ⟨hknown, ?_⟩⟩
  exact fun record hmem => ⟨js, h.grown, prefix_refl _, hmore record hmem⟩

end log

section operations

variable [DecidableEq Byte] (c : Course Byte)

/-- Between two operations of a run. -/
structure Ready (js : List JournalRecord) (is : List IntentRecord) (now : Now Byte) : Prop where
  whole : At c.codecs js is now
  sound : Sound c js is now

/-- After an operation of a run that failed. -/
def Spoiled (now : Now Byte) : Prop :=
  ∃ js is, Failed c.codecs js is now ∧ Sound c js is now

/-- The shape of every specification of an operation of a run. -/
def LeadsOr {ε α : Type} (left : Now Byte → Prop) (operation : Attempt (machine Byte) ε α)
    (start : Now Byte) (good : α → List JournalRecord → List IntentRecord → Now Byte → Prop) :
    Prop :=
  Attempts perform Eq (Safe c) operation
    (fun value now => ∃ js is, Ready c js is now ∧ good value js is now) left start

/-- After a failure at most a line of the journal is unfinished. -/
abbrev Safely {ε α : Type} (operation : Attempt (machine Byte) ε α) :=
  LeadsOr c (Spoiled c) operation

/-- After a failure both streams are readable. -/
abbrev Leads {ε α : Type} (operation : Attempt (machine Byte) ε α) := LeadsOr c (Safe c) operation

variable {c}

/-- The streams of a run can be read between its operations. -/
theorem Ready.safe (h : Ready c js is now) : Safe c now := ⟨js, is, h.whole.disk, h.sound⟩

/-- A run may go on with a read. -/
theorem Ready.torn (h : Ready c js is now) : Begins c.codecs js is now (Disk c.codecs) :=
  .torn h.whole.disk

/-- A failure between the operations of a run leaves whole lines. -/
theorem Ready.spoiled (h : Ready c js is now) : Spoiled c now := ⟨js, is, h.whole.failed, h.sound⟩

/-- After a failure the streams can be read. -/
theorem Spoiled.safe (h : Spoiled c now) : Safe c now := by
  obtain ⟨js, is, hfailed, hsound⟩ := h
  exact ⟨js, is, hfailed.disk, hsound⟩

section rules

variable {ε ε' α β : Type} {operation : Attempt (machine Byte) ε α}
  {good : α → List JournalRecord → List IntentRecord → Now Byte → Prop}

section

variable (h : LeadsOr c left operation start good)
include h

/-- The rest follows a success. -/
theorem LeadsOr.bind
    (hrest : ∀ value js is now, Ready c js is now → start.log <+: now.log →
      good value js is now → LeadsOr c left (rest value) now last) :
    LeadsOr c left (operation >>= rest) start last := by
  refine Attempts.bind (Attempts.reached h) ?_
  rintro value now ⟨⟨js, is, hready, hgood⟩, hreaches⟩
  exact hrest value js is now hready hreaches.log hgood

/-- A value may say less than it should. -/
theorem LeadsOr.mono (hgood : ∀ value js is now, good value js is now → good' value js is now) :
    LeadsOr c left operation start good' := by
  refine Attempts.mono h ?_
  rintro value now ⟨js, is, hready, hvalue⟩
  exact ⟨js, is, hready, hgood value js is now hvalue⟩

/-- Rewording errors changes no outcome. -/
theorem LeadsOr.rephrase : LeadsOr c left (rephrase wrap operation) start good :=
  Attempts.rephrase h

/-- A success was led to by answers. -/
theorem LeadsOr.reached :
    LeadsOr c left operation start fun value js is now => good value js is now ∧
      Reaches (I := machine Byte) perform operation.run start (.ok value) now := by
  refine Attempts.mono (Attempts.reached h) ?_
  rintro value now ⟨⟨js, is, hready, hgood⟩, hreaches⟩
  exact ⟨js, is, hready, hgood, hreaches⟩

end

section

variable (hready : Ready c js is start)
include hready

/-- A value is there at once. -/
theorem LeadsOr.pure (hgood : good value js is start) :
    LeadsOr (ε := ε) c left (Pure.pure value) start good :=
  ⟨js, is, hready, hgood⟩

/-- A decision that fails leaves whole lines. -/
theorem Safely.decided {result : Except ε α} (hgood : ∀ value, result = .ok value →
    good value js is start) : Safely c (decided result) start good :=
  Attempts.decided (fun value hvalue => ⟨js, is, hready, hgood value hvalue⟩) hready.spoiled

/-- After a decision the run goes on where it was. -/
theorem Safely.decided_bind {result : Except ε β} {rest : β → Attempt (machine Byte) ε α}
    (hrest : ∀ value, result = .ok value → Safely c (rest value) start good) :
    Safely c (Programs.decided result >>= rest) start good := by
  cases result with
  | error => exact hready.spoiled
  | ok value => exact hrest value rfl

/-- A refusal leaves whole lines. -/
theorem Leads.refused : Leads c (Programs.decided (.error error)) start good := hready.safe

end

omit operation in
/-- Quiet calls keep a run safe. -/
theorem safe_of_reach (hsound : Sound c js is start) (h : Reach c.codecs start js is now) :
    Safe c now := by
  obtain ⟨hquiet, js', hgrown, hdisk⟩ := h
  exact ⟨js', is, hdisk, hsound.quietly hquiet hgrown⟩

/-- A quiet operation is safe. -/
theorem Safely.of_quiet {good : α → List JournalRecord → Now Byte → Prop}
    (h : Quiet c.codecs operation start js is good) (hsound : Sound c js is start) :
    Safely c operation start fun value js' is' now =>
      is' = is ∧ Grown js js' ∧ Quietly start now ∧ good value js' now := by
  refine Attempts.imp h (fun _ => safe_of_reach hsound) ?_ ?_
  · rintro value now ⟨hquiet, js', hgrown, hat, hgood⟩
    exact ⟨js', is, ⟨hat, hsound.quietly hquiet hgrown⟩, rfl, hgrown, hquiet, hgood⟩
  · rintro now ⟨hquiet, js', hgrown, hfailed⟩
    exact ⟨js', is, hfailed, hsound.quietly hquiet hgrown⟩

/-- What leaves an unfinished line leaves readable streams. -/
theorem Leads.of_safely (h : Safely c operation start good) : Leads c operation start good :=
  Attempts.imp h (fun _ => id) (fun _ _ => id) fun _ => Spoiled.safe

/-- A quiet operation from readable streams. -/
theorem Leads.of_quiet {good : α → List JournalRecord → Now Byte → Prop}
    (h : QuietOr c.codecs (Disk c.codecs) operation start js is good)
    (hsound : Sound c js is start) :
    Leads c operation start fun value js' is' now =>
      is' = is ∧ Quietly start now ∧ good value js' now := by
  refine Attempts.imp h (fun _ => safe_of_reach hsound) ?_ fun _ => safe_of_reach hsound
  rintro value now ⟨hquiet, js', hgrown, hat, hgood⟩
  exact ⟨js', is, ⟨hat, hsound.quietly hquiet hgrown⟩, rfl, hquiet, hgood⟩

end rules

/-- The files are as they were. -/
theorem At.of_files (h : At c.codecs js is start)
    (hjournal : now.state.journal = start.state.journal)
    (hintents : now.state.intents = start.state.intents) : At c.codecs js is now :=
  ⟨hjournal.trans h.journal, by rw [hintents]; exact h.intents⟩

/-- An operation that leaves both streams alone, whether it succeeds or not. -/
def Steady {ε α : Type} (c : Course Byte) (operation : Attempt (machine Byte) ε α)
    (start : Now Byte) (js : List JournalRecord) (is : List IntentRecord)
    (good : α → Now Byte → Prop) : Prop :=
  Attempts perform Eq (Safe c) operation (fun value now => Ready c js is now ∧ good value now)
    (Ready c js is) start

section steady

variable {ε ε' α β : Type}

/-- The rest follows a success. -/
theorem Steady.bind (h : Steady c operation start js is good)
    (hrest : ∀ value now, Ready c js is now → good value now →
      Steady c (rest value) now js is last) :
    Steady c (operation >>= rest) start js is last := by
  refine Attempts.bind h ?_
  rintro value now ⟨hready, hgood⟩
  exact hrest value now hready hgood

/-- A decision touches no stream. -/
theorem Steady.decided {result : Except ε α} (hready : Ready c js is start)
    (hgood : ∀ value, result = .ok value → good value start) :
    Steady c (decided result) start js is good :=
  Attempts.decided (fun value hvalue => ⟨hready, hgood value hvalue⟩) hready

/-- A value touches no stream. -/
theorem Steady.pure (hready : Ready c js is start) (hgood : good value start) :
    Steady (ε := ε) c (Pure.pure value) start js is good :=
  ⟨hready, hgood⟩

/-- Rewording errors changes no outcome. -/
theorem Steady.rephrase (h : Steady c operation start js is good) :
    Steady c (rephrase wrap operation) start js is good :=
  Attempts.rephrase h

/-- A steady operation is safe. -/
theorem Steady.safely (h : Steady c operation start js is good) :
    Safely c operation start fun value js' is' now =>
      js' = js ∧ is' = is ∧ good value now :=
  Attempts.imp h (fun _ => id) (fun _ _ hnow => ⟨js, is, hnow.1, rfl, rfl, hnow.2⟩)
    fun _ => Ready.spoiled

end steady

section

variable {ε α : Type} {made : Call Byte} {read : made.Answer → Except ε α}

/-- A call that leaves both streams alone. -/
theorem Steady.call (hat : At c.codecs js is start)
    (hfiles : ∀ proposed, (act start.state made proposed).1.journal = start.state.journal ∧
      (act start.state made proposed).1.intents = start.state.intents)
    (hsound : ∀ proposed, Sound c js is (perform start made proposed).1)
    (hgood : ∀ proposed value, read (act start.state made proposed).2 = .ok value →
      good value (perform start made proposed).1) :
    Steady c (attempt (I := machine Byte) made read) start js is good := by
  rintro start' rfl proposed
  have hready : Ready c js is (perform start made proposed).1 :=
    ⟨At.of_files hat (hfiles proposed).1 (hfiles proposed).2, hsound proposed⟩
  exact ⟨hready.safe, Steady.decided hready (hgood proposed)⟩

variable (hready : Ready c js is start)
include hready

/-- A harmless call that changes nothing durable. -/
theorem Steady.idle (hmade : Harmless made)
    (hact : ∀ proposed, (act start.state made proposed).1 = start.state)
    (hgood : ∀ proposed value, read (act start.state made proposed).2 = .ok value →
      good value (perform start made proposed).1) :
    Steady c (attempt (I := machine Byte) made read) start js is good := by
  refine Steady.call hready.whole ?_ ?_ hgood
  · intro proposed
    rw [hact]
    exact ⟨rfl, rfl⟩
  · intro proposed
    exact hready.sound.call made proposed hmade (by rw [hact])

variable (made) in
/-- A harmless call whose answer carries nothing. -/
theorem Steady.unread (hmade : Harmless made)
    (hact : ∀ proposed, (act start.state made proposed).1 = start.state) :
    Steady c (attempt (I := machine Byte) made read) start js is fun _ _ => True :=
  Steady.idle hready hmade hact fun _ _ _ => trivial

end

end operations

section intents

variable [DecidableEq Byte] {start : Now Byte}

/-- Some intents may be added to those before, under the declaration that is pinned. -/
def Adding (left : List JournalRecord → List IntentRecord → Now Byte → Prop)
    (is : List IntentRecord) (js : List JournalRecord) (now : Now Byte) : Prop :=
  ∃ more, left js (is ++ more) now ∧ ∀ record ∈ more, PinnedTo js record.intent.declarationDigest

/-- While an intent is appended. -/
abbrev Intending (codecs : Codecs Byte) (start : Now Byte) (js : List JournalRecord)
    (is : List IntentRecord) : Now Byte → Prop :=
  Noted (Adding (Disk codecs) is) start js

/-- An append of an intent that failed. -/
abbrev Unintended (codecs : Codecs Byte) (start : Now Byte) (js : List JournalRecord)
    (is : List IntentRecord) : Now Byte → Prop :=
  Noted (Adding (Failed codecs) is) start js

/-- An appended intent is durable, is the last one, and was made under the
declaration that is pinned. -/
structure Intended (codecs : Codecs Byte) (start : Now Byte) (js : List JournalRecord)
    (is : List IntentRecord) (request : EffectRequest) (intent : PendingIntent) (now : Now Byte) :
    Prop where
  quiet : Quietly start now
  held : At codecs js (is ++ [.pending intent]) now
  key : intent.key = request.key
  digest : intent.declarationDigest = request.declarationDigest
  pinned : PinnedTo js request.declarationDigest
  synced : ∃ world, ⟨world, .syncData .intents, .ok (), world⟩ ∈ now.log ∧
    world.intents = lines codecs.intents (is ++ [.pending intent]) ∧
    world.journal = lines codecs.journal js

omit [DecidableEq Byte] in
/-- None may be added. -/
theorem Adding.none {left : List JournalRecord → List IntentRecord → Now Byte → Prop}
    (h : left js is now) : Adding left is js now :=
  ⟨[], by rw [append_nil]; exact h, nofun⟩

/-- After a failed append the streams can be read. -/
theorem Unintended.intending (h : Unintended codecs start js is now) :
    Intending codecs start js is now :=
  h.mono fun _ _ ⟨more, hfailed, hmore⟩ => ⟨more, hfailed.disk, hmore⟩

/-- A quiet operation on the way to an intent. -/
theorem intending_of_quiet {ε α β : Type} {first : Attempt (machine Byte) ε α}
    {rest : α → Attempt (machine Byte) ε β} {good : α → List JournalRecord → Now Byte → Prop}
    {post : Except ε β → Now Byte → Prop} (h : Quiet codecs first start js is good)
    (hpost : ∀ error now, Unintended codecs start js is now → post (.error error) now)
    (hrest : ∀ value js' now, Quietly start now → At codecs js' is now → good value js' now →
      Ensures perform Eq (Intending codecs start js is) (rest value).run post now) :
    Ensures perform Eq (Intending codecs start js is) (first >>= rest).run post start := by
  refine Ensures.attempt_bind ((Ensures.weaken h fun now hnow =>
    hnow.mono fun _ _ => Adding.none).mono ?_)
  intro result now hresult
  cases result with
  | error error => exact hpost error now (hresult.mono fun _ _ => Adding.none)
  | ok value =>
    obtain ⟨hquiet, js', -, hat, hgood⟩ := hresult
    exact hrest value js' now hquiet hat hgood

/-- Append a record to intents that are whole lines. -/
theorem appendIntents_ensures (h : At codecs js is start)
    (hwhole : start.state.intents = lines codecs.intents is)
    (hpinned : PinnedTo js record.intent.declarationDigest) :
    Ensures perform Eq (Intending codecs start js is)
      (appendRecord store .intents codecs.intents record).run
      (fun result now => Unintended codecs start js is now ∧ (result = .ok () →
        At codecs js (is ++ [record]) now ∧ ∃ world,
          ⟨world, .syncData .intents, .ok (), world⟩ ∈ now.log ∧
            world.intents = lines codecs.intents (is ++ [record]) ∧
            world.journal = lines codecs.journal js)) start := by
  have hlines : start.state.intents ++ codecs.intents.line record =
      lines codecs.intents (is ++ [record]) := by
    rw [hwhole, lines_append, lines_singleton]
  have hjournal : ∀ now, Since .intents start now →
      now.state.journal = lines codecs.journal js := by
    intro now hsince
    rw [Since.journal_eq hsince]
    exact h.journal
  have hfile : ∀ now, Written .intents start (codecs.intents.line record) now →
      Unintended codecs start js is now := by
    rintro now ⟨hsince, count, hwritten⟩
    change now.state.intents = start.state.intents ++ _ at hwritten
    rw [hwhole] at hwritten
    rcases @started_take _ _ codecs.intents is record count with hstarted | hdone
    · have hat : At codecs js is now :=
        ⟨hjournal now hsince, by rw [hwritten]; exact hstarted.holds⟩
      exact .same (.of_since hsince) (.none hat.failed)
    have hat : At codecs js (is ++ [record]) now :=
      ⟨hjournal now hsince, by rw [hwritten, hdone]; exact holds_lines⟩
    exact .same (.of_since hsince) ⟨[record], hat.failed, forall_mem_singleton.mpr hpinned⟩
  refine ((appendRecord_ensures).weaken fun now hnow =>
    Unintended.intending (hfile now hnow)).mono ?_
  rintro result now ⟨hwritten, hok⟩
  refine ⟨hfile now hwritten, ?_⟩
  intro hresult
  obtain ⟨hdone, earlier, later, hlog⟩ := hok hresult
  change now.state.intents = start.state.intents ++ _ at hdone
  rw [hlines] at hdone
  refine ⟨⟨hjournal now hwritten.1, by rw [hdone]; exact holds_lines⟩,
    start.state.setFile .intents (start.state.intents ++ codecs.intents.line record), ?_, hlines,
    h.journal⟩
  rw [hlog]
  exact mem_append_right _ (mem_append_right _ mem_cons_self)

/-- An intent is appended to readable intents, under the declaration that is pinned. -/
theorem appendIntent_ensures (h : At codecs js is start) :
    Ensures perform Eq (Intending codecs start js is)
      (appendIntent codecs store request subject).run
      (fun result now => match result with
        | .ok intent => Intended codecs start js is request intent now
        | .error _ => Unintended codecs start js is now) start := by
  refine intending_of_quiet (ensureDeclarationDigest_quiet (.whole h)) (fun _ _ hno => hno) ?_
  rintro - js' now hquiet hat ⟨hpinned, rfl⟩
  split
  case isTrue => exact .same hquiet (.none hat.failed)
  refine (Ensures.weaken ?_ fun later => Noted.trans hquiet (Grown.refl _))
  refine intending_of_quiet (readIntents_quiet hat)
    (fun _ _ hno => hno.trans hquiet (Grown.refl _)) ?_
  rintro found js'' now' hquiet' hat' ⟨rfl, rfl, hwhole⟩
  refine Ensures.attempt_bind ?_
  refine ((appendIntents_ensures hat' hwhole ?_).weaken
    fun later => Noted.trans hquiet' (Grown.refl _)).mono ?_
  · exact hpinned
  rintro (error | ⟨⟩) later ⟨hlater, hok⟩
  · exact hlater.trans (hquiet.trans hquiet') (Grown.refl _)
  · obtain ⟨hheld, hsynced⟩ := hok rfl
    exact ⟨(hquiet.trans hquiet').trans hlater.1, hheld, rfl, rfl, hpinned, hsynced⟩

end intents

end Subconscious.ReleaseRuns
