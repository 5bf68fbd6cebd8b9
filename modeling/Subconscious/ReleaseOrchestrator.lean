import Subconscious.ReleaseJournal

/-!
# Running a release plan

The phases of a plan run in order under the train's lease. A phase that may
refuse comes before the first irreversible one. An irreversible phase needs the
operator's approval, and each of its effects is probed first: one that is
present is reconciled, one that is absent and was never attempted is executed,
and one that cannot be decided waits for the next run.
-/

namespace Subconscious.ReleaseOrchestrator

open Programs ReleaseRecords ReleaseStreams ReleaseJournal

/-- Where a phase stands to publication. -/
inductive PhaseClass where
  /-- May refuse, and runs first before publication. -/
  | refusalCapable
  | irreversible
  /-- Follows publication. -/
  | postBoundary
  deriving DecidableEq, Repr

/-- The class of a registered phase type. -/
def classify : String → Option PhaseClass
  | "preflight" | "gates_local" | "ci_watch" | "build" | "stamp" | "precheck-format-dirty"
  | "precheck-stale-residue" | "precheck-sibling-drift" | "precheck-context-fitness"
  | "precheck-tool-pinning" | "precheck-residue-sweep" => some .refusalCapable
  | "tag" | "publish" | "assets" => some .irreversible
  | "verify_readback" | "stage" | "notify" => some .postBoundary
  | _ => none

/-- Why a run is refused. -/
inductive OrchestrationRefusalCode where
  | unknownPhase
  | phaseNotImplemented
  | unsafeOrdering
  | attemptedIntentAbsent
  | contradictoryEvidence
  | missingPublicEffect
  | declarationDigestMismatch
  deriving DecidableEq, Repr

/-- The name of a code. -/
def OrchestrationRefusalCode.text : OrchestrationRefusalCode → String
  | .unknownPhase => "UnknownPhase"
  | .phaseNotImplemented => "PhaseNotImplemented"
  | .unsafeOrdering => "UnsafeOrdering"
  | .attemptedIntentAbsent => "AttemptedIntentAbsent"
  | .contradictoryEvidence => "ContradictoryEvidence"
  | .missingPublicEffect => "MissingPublicEffect"
  | .declarationDigestMismatch => "DeclarationDigestMismatch"

/-- How a run fails. -/
inductive OrchestrationError where
  | refusal (code : OrchestrationRefusalCode) (phase : Option PhaseInstanceId) (message : String)
  | lease (error : LeaseError)
  | state (error : StateError)
  | approval (error : ApprovalError)
  | executor (error : ExecutorError)
  | precheckRefusal (code : PrecheckRefusalCode) (phase : PhaseInstanceId) (message : String)
  | seam (error : SeamError)
  /-- The plan has an irreversible phase without a public trigger, and the
  process ends on the spot. -/
  | panicked
  deriving DecidableEq, Repr

/-- What an error says. -/
def OrchestrationError.text : OrchestrationError → String
  | .refusal code _ message =>
    let named := code.text
    s!"{named}: {message}"
  | .lease error =>
    let reason := error.message
    s!"lease failure: {reason}"
  | .state error =>
    let reason := error.text
    s!"journal failure: {reason}"
  | .approval error =>
    let reason := error.text
    s!"approval failure: {reason}"
  | .executor error =>
    let reason := error.text
    s!"publication admission failed: {reason}"
  | .precheckRefusal code _ message =>
    let named := code.text
    s!"{named}: {message}"
  | .seam error =>
    let reason := error.message
    s!"phase or provider seam failed: {reason}"
  | .panicked => "a plan with an irreversible phase has a public trigger"

/-- Check phases one after the other, with the first irreversible one seen so far. -/
def validatePhases (irreversiblePhase : Option PhaseInstanceId) :
    List PlannedPhase → Except OrchestrationError Unit
  | [] => .ok ()
  | phase :: phases =>
    match classify phase.phaseType with
    | none =>
      let phaseType := phase.phaseType
      .error (.refusal .unknownPhase (some phase.instanceId)
        s!"phase type `{phaseType}` is not registered")
    | some phaseClass =>
      match irreversiblePhase, phaseClass with
      | some earlier, .refusalCapable =>
        let refused := phase.instanceId
        .error (.refusal .unsafeOrdering (some phase.instanceId)
          s!"refusal-capable phase `{refused}` first executes after irreversible phase `{earlier}`")
      | none, .irreversible => validatePhases (some phase.instanceId) phases
      | _, _ => validatePhases irreversiblePhase phases

/-- Check the phases of a plan. -/
def validatePlan (plan : ReleasePlan) : Except OrchestrationError Unit :=
  validatePhases none plan.phases

/-- How an effect ends. -/
inductive EffectOutcome where
  | executed (evidence : ProbeEvidence)
  | reconciled (evidence : ProbeEvidence)
  | awaitingProbe
  deriving DecidableEq, Repr

/-- The evidence of an effect that is done. -/
def EffectOutcome.evidence : EffectOutcome → Option ProbeEvidence
  | .executed evidence | .reconciled evidence => some evidence
  | .awaitingProbe => none

/-- The effects of a phase. -/
def effectsForPhase (plan : ReleasePlan) (phase : PhaseInstanceId) : List PublicEffect :=
  plan.publicEffects.filter fun effect => effect.phase = phase

/-- The request for an effect of the plan. -/
def effectRequest (plan : ReleasePlan) (effect : PublicEffect) : EffectRequest where
  repository := plan.repository
  train := plan.train
  phase := effect.phase
  artifact := effect.artifact.getD "tag"
  operation := effect.operation
  intendedCommit := plan.intendedCommit
  declarationDigest := plan.declarationDigest

/-- The identity that evidence of an effect must show. -/
def expectedIdentity (plan : ReleasePlan) (effect : PublicEffect) :
    Except OrchestrationError String :=
  match effect.artifact with
  | some artifact =>
    match plan.artifacts.find? fun candidate => candidate.artifact = artifact with
    | some artifact => .ok artifact.identity
    | none =>
      let operation := effect.operation
      .error (.refusal .missingPublicEffect (some effect.phase)
        s!"public effect `{operation}` references an unknown artifact")
  | none => .ok plan.intendedCommit

/-- Whether an intent is one of the request, whatever declaration it was made under. -/
def intentMatches (intent : PendingIntent) (request : EffectRequest) : Bool :=
  decide (intent.train = request.train) && decide (intent.phase = request.phase)
    && decide (intent.artifact = request.artifact) && decide (intent.operation = request.operation)
    && decide (intent.intendedCommit = request.intendedCommit)

/-- Refuse evidence of another identity. -/
def ensureMatchingEvidence (request : EffectRequest) (expected : String)
    (evidence : ProbeEvidence) : Except OrchestrationError Unit :=
  if evidence.identity = expected then .ok ()
  else
    let operation := request.operation
    let observed := evidence.identity
    .error (.refusal .contradictoryEvidence (some request.phase)
      s!"operation `{operation}` expected identity `{expected}`, observed `{observed}`")

/-- How a failed call under an intent is reported. -/
def executionFailure : StateError → OrchestrationError
  | .executor error => .seam error
  | .executorAdmission error => .executor error
  | error => .state error

section run

variable [DecidableEq Byte] (codecs : Codecs Byte) (store : JournalStore)

/-- The refusal of a run whose declaration is not the pinned one. -/
def declarationFailure : StateError → OrchestrationError
  | .declarationDigestMismatch pinned active =>
    let trainName := store.train
    .refusal .declarationDigestMismatch none
      s!"active declaration digest `{active}` differs from pinned digest `{pinned}`; run `ck-release abandon {trainName}` or `ck-release rebind {trainName}` before resuming"
  | error => .state error

section

variable (plan : ReleasePlan)

/-- Refuse a plan of another declaration. -/
def ensureMatchingDeclaration : Attempt (machine Byte) OrchestrationError Unit :=
  rephrase (declarationFailure store) (ensureDeclarationDigest codecs store plan.declarationDigest)

section

variable (request : EffectRequest)

/-- The first intent of the request on disk. -/
def attemptedIntent :
    Attempt (machine Byte) OrchestrationError (Option PendingIntent) := do
  let intents ← rephrase .state (readIntents codecs store)
  pure ((intents.map IntentRecord.intent).find? fun intent => intentMatches intent request)

/-- The request was completed before. -/
def completionExists :
    Attempt (machine Byte) OrchestrationError Bool := do
  let records ← rephrase .state (readJournal codecs store)
  pure (records.any fun record =>
    (JournalRecord.completes record).any fun intent => intentMatches intent request)

/-- Complete intents one after the other. -/
def completeAll (evidence : ProbeEvidence) :
    List PendingIntent → Attempt (machine Byte) OrchestrationError Unit
  | [] => pure ()
  | intent :: intents => do
    rephrase .state (appendCompletion codecs store intent evidence)
    completeAll evidence intents

/-- A present effect completes every pending intent of its key. -/
def reconcilePresent (expected : String) (evidence : ProbeEvidence) :
    Attempt (machine Byte) OrchestrationError EffectOutcome := do
  decided (ensureMatchingEvidence request expected evidence)
  let pending ← rephrase .state (pendingIntents codecs store)
  completeAll codecs store evidence (pending.filter fun intent => intentMatches intent request)
  pure (.reconciled evidence)

end

/-- An absent effect is executed, unless it was attempted before. -/
def executeAbsent (effect : PublicEffect) (request : EffectRequest) (expected : String)
    (attempted : Option PendingIntent) (completed : Bool) (approvalSubject : ApprovalSubject)
    (evidence : ProbeEvidence) :
    Attempt (machine Byte) OrchestrationError EffectOutcome :=
  let operation := request.operation
  if completed then
    decided (.error (.refusal .contradictoryEvidence (some request.phase)
      s!"done-probe reports `{operation}` absent although journal records its completion"))
  else if attempted.isSome then
    decided (.error (.refusal .attemptedIntentAbsent (some request.phase)
      s!"attempted operation `{operation}` is authoritatively absent; operator recovery is required"))
  else do
    decided (ensureMatchingEvidence request expected evidence)
    let finalizedArtifact := effect.artifact.bind plan.finalizedArtifact
    let admitted ← decided ((AdmittedEffect.new codecs.artifactDigest request effect
      finalizedArtifact approvalSubject).mapError .executor)
    let executed ← rephrase executionFailure (executeWithIntent codecs store admitted)
    decided (ensureMatchingEvidence request expected executed.2)
    rephrase .state (appendCompletion codecs store executed.1 executed.2)
    pure (.executed executed.2)

/-- Reconcile or execute exactly one effect. -/
def reconcileEffect (effect : PublicEffect) (approvalSubject : ApprovalSubject) :
    Attempt (machine Byte) OrchestrationError EffectOutcome := do
  ensureMatchingDeclaration codecs store plan
  let request := effectRequest plan effect
  let expected ← decided (expectedIdentity plan effect)
  let attempted ← attemptedIntent codecs store request
  let completed ← completionExists codecs store request
  let probed ← attempt (I := machine Byte) (.probe request) fun answer => answer.mapError .seam
  match probed with
  | .present evidence => reconcilePresent codecs store request expected evidence
  | .undecidable _ _ _ => pure .awaitingProbe
  | .absent evidence =>
    executeAbsent codecs store plan effect request expected attempted completed approvalSubject
      evidence

/-- Do what a runner does with the journal, up to a failure. -/
def runnerActions : List RunnerAction → Attempt (machine Byte) SeamError Unit
  | [] => pure ()
  | .readJournal :: actions => do
    let _ ← rephrase (fun error => ⟨error.text⟩) (readJournal codecs store)
    runnerActions actions
  | .append note :: actions => do
    rephrase (fun error => ⟨error.text⟩) (appendJournal codecs store note.record)
    runnerActions actions

/-- The error of a phase that fails. -/
def phaseFailure : PhaseExecutionError → OrchestrationError
  | .notImplemented phase phaseType => .refusal .phaseNotImplemented (some phase)
      s!"phase_not_implemented: phase type `{phaseType}` has no execution implementation; no completion was recorded"
  | .refusal code phase message => .precheckRefusal code phase message
  | .seam error => .seam error

section

variable (phase : PlannedPhase)

/-- Run a phase without public effects. -/
def runLocalPhase :
    Attempt (machine Byte) OrchestrationError (List ProbeEvidence) := do
  let ran ← attempt (I := machine Byte) (.runPhase phase) Except.ok
  rephrase .seam (runnerActions codecs store ran.1)
  decided (ran.2.mapError phaseFailure)

/-- Have the durable approval of the subject, asking the operator if need be. -/
def ensureApproved (subject : ApprovalSubject) : Attempt (machine Byte) OrchestrationError Unit :=
  settle (requireCurrent subject) fun current => match current with
    | .ok _ => pure ()
    | .error .noCurrentApproval | .error .subjectMismatch => do
      let _ ← rephrase .approval (invalidateIfStale subject)
      let token ← attempt (I := machine Byte) (.confirm subject) fun answer =>
        answer.mapError OrchestrationError.seam
      let _ ← rephrase .approval (persistConfirmed store subject token)
      pure ()
    | .error error => decided (.error (.approval error))

/-- The effects of a phase one after the other. -/
def reconcileEffects (plan : ReleasePlan) (subject : ApprovalSubject) :
    List PublicEffect → Attempt (machine Byte) OrchestrationError (List EffectOutcome)
  | [] => pure []
  | effect :: effects => do
    let durableApproval ← rephrase .approval (requireCurrent subject)
    let outcome ← reconcileEffect codecs store plan effect durableApproval.subject
    let outcomes ← reconcileEffects plan subject effects
    pure (outcome :: outcomes)

/-- Run an irreversible phase. -/
def runIrreversiblePhase : Attempt (machine Byte) OrchestrationError (List EffectOutcome) :=
  match buildApprovalSubject plan with
  | .error _ => decided (.error .panicked)
  | .ok subject => do
    ensureApproved store subject
    reconcileEffects codecs store plan subject (effectsForPhase plan phase.instanceId)

/-- Run a phase of any class, with the outcomes and the evidence it produced. -/
def runClassified (phaseClass : PhaseClass) :
    Attempt (machine Byte) OrchestrationError (List EffectOutcome × List ProbeEvidence) :=
  match phaseClass with
  | .refusalCapable | .postBoundary => do
    let evidence ← runLocalPhase codecs store phase
    pure ([], evidence)
  | .irreversible => do
    let outcomes ← runIrreversiblePhase codecs store plan phase
    pure (outcomes, [])

/-- Release the repository's lease after a phase that took it. -/
def releaseAfter {α : Type} (held : Bool) (result : Except OrchestrationError α) :
    Attempt (machine Byte) OrchestrationError α :=
  match held, result with
  | true, .ok value => do
    attempt (I := machine Byte) .releaseRepository fun answer => answer.mapError .lease
    pure value
  | _, result => decided result

/-- Note that a phase refused. -/
def noteRefused (phase : PhaseInstanceId) (error : OrchestrationError) :
    Attempt (machine Byte) OrchestrationError Unit :=
  rephrase .state (appendJournal codecs store (.refused phase error.text))

/-- The repository's lease, for a phase that changes the tree. -/
def takeRepository : Attempt (machine Byte) OrchestrationError Unit :=
  if phase.treeMutating then
    settle (attempt (I := machine Byte) .acquireRepository fun answer =>
      answer.mapError OrchestrationError.lease) fun acquired => match acquired with
      | .ok () => pure ()
      | .error error => do
        noteRefused codecs store phase.instanceId error
        attempt (I := machine Byte) .releaseTrain fun answer => answer.mapError .lease
        decided (.error error)
  else pure ()

/-- What follows a phase. A phase with an effect that waits is not done. -/
def finishPhase (result : Except OrchestrationError (List EffectOutcome × List ProbeEvidence)) :
    Attempt (machine Byte) OrchestrationError (List EffectOutcome) :=
  match result with
  | .ok (outcomes, evidence) =>
    if outcomes.contains .awaitingProbe then pure outcomes
    else do
      rephrase .state (appendJournal codecs store
        (.phaseDone phase.instanceId (evidence ++ outcomes.filterMap EffectOutcome.evidence)))
      pure outcomes
  | .error .panicked => decided (.error .panicked)
  | .error error => do
    noteRefused codecs store phase.instanceId error
    decided (.error error)

/-- Run one phase. -/
def runPhase : Attempt (machine Byte) OrchestrationError (List EffectOutcome) :=
  match classify phase.phaseType with
  | none => decided (.error .panicked)
  | some phaseClass => do
    takeRepository codecs store phase
    rephrase .state (appendJournal codecs store (.phaseEntered phase.instanceId))
    settle (settle (runClassified codecs store plan phase phaseClass)
      (releaseAfter phase.treeMutating)) (finishPhase codecs store phase)

end

/-- Run the phases of a plan in order. -/
def runPhases (plan : ReleasePlan) :
    List PlannedPhase → Attempt (machine Byte) OrchestrationError (List EffectOutcome)
  | [] => pure []
  | phase :: phases => do
    let outcomes ← runPhase codecs store plan phase
    let later ← runPhases plan phases
    pure (outcomes ++ later)

/-- Refuse a plan, with a note of the phase that is at fault. -/
def refusePlan (error : OrchestrationError) :
    Attempt (machine Byte) OrchestrationError (List EffectOutcome) := do
  match error with
  | .refusal _ (some phase) _ => noteRefused codecs store phase error
  | _ => pure ()
  attempt (I := machine Byte) .releaseTrain fun answer => answer.mapError .lease
  decided (.error error)

/-- Run a plan while holding the train's lease. -/
def execute :
    Attempt (machine Byte) OrchestrationError (List EffectOutcome) := do
  ensureMatchingDeclaration codecs store plan
  attempt (I := machine Byte) .acquireTrain fun answer => answer.mapError .lease
  match validatePlan plan with
  | .error error => refusePlan codecs store error
  | .ok () => do
    let outcomes ← runPhases codecs store plan plan.phases
    attempt (I := machine Byte) .releaseTrain fun answer => answer.mapError .lease
    pure outcomes

end

end run

end Subconscious.ReleaseOrchestrator
