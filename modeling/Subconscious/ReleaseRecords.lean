import Mathlib.Data.List.Basic

/-!
# Records of the release machine

A release train has a plan, an approval of the plan's public effects, and two
streams of records: the journal and the write-ahead intents. Identifiers are
opaque texts.
-/

namespace Subconscious.ReleaseRecords

/-- A repository. -/
abbrev RepositoryId := String
/-- A release train. -/
abbrev TrainId := String
/-- One parameterized phase of a train. -/
abbrev PhaseInstanceId := String
/-- A published artifact. -/
abbrev ArtifactId := String
/-- An operation of a phase. -/
abbrev OperationId := String
/-- A commit. -/
abbrev CommitId := String
/-- The digest of a declaration. -/
abbrev DeclarationDigest := String
/-- What the gate gives out. -/
abbrev ApprovalToken := String

/-- A request for one irreversible operation. -/
structure EffectRequest where
  repository : RepositoryId
  train : TrainId
  phase : PhaseInstanceId
  artifact : ArtifactId
  operation : OperationId
  intendedCommit : CommitId
  declarationDigest : DeclarationDigest
  deriving DecidableEq, Repr

/-- What a probe or an executor saw. -/
structure ProbeEvidence where
  reference : String
  identity : String
  deriving DecidableEq, Repr

/-- Absence and delay are two answers. -/
inductive ProbeResult where
  | present (evidence : ProbeEvidence)
  | absent (evidence : ProbeEvidence)
  | undecidable (reason : String) (retryAfterMs settleDeadlineMs : Nat)
  deriving DecidableEq, Repr

/-- A failure of a phase, a provider or the operator's gate. -/
structure SeamError where
  message : String
  deriving DecidableEq, Repr

/-- The version of a tagged release, or the run of one without a tag. -/
inductive ReleaseIdentity where
  | version (value : String)
  | runId (value : String)
  deriving DecidableEq, Repr

/-- An artifact of a plan. -/
structure PlannedArtifact where
  artifact : ArtifactId
  identityChannel : String
  identity : String
  digest : String
  deriving DecidableEq, Repr

/-- A phase in declaration order. -/
structure PlannedPhase where
  instanceId : PhaseInstanceId
  phaseType : String
  treeMutating : Bool
  deriving DecidableEq, Repr

/-- An effect of a plan. -/
structure PublicEffect where
  phase : PhaseInstanceId
  operation : OperationId
  artifact : Option ArtifactId
  deriving DecidableEq, Repr

/-- The final bytes of an artifact. -/
structure FinalizedArtifact where
  artifact : ArtifactId
  identity : String
  bytes : List UInt8
  deriving DecidableEq, Repr

/-- The plan of one release train. -/
structure ReleasePlan where
  repository : RepositoryId
  train : TrainId
  intendedCommit : CommitId
  declarationDigest : DeclarationDigest
  releaseIdentity : ReleaseIdentity
  phases : List PlannedPhase
  artifacts : List PlannedArtifact
  firstPublicTrigger : Option PublicEffect
  publicEffects : List PublicEffect
  finalizedArtifacts : List FinalizedArtifact
  deriving DecidableEq, Repr

/-- The final bytes of an artifact of the plan. -/
def ReleasePlan.finalizedArtifact (plan : ReleasePlan) (artifact : ArtifactId) :
    Option FinalizedArtifact :=
  plan.finalizedArtifacts.find? fun candidate => candidate.artifact = artifact

/-- An artifact as it was approved. -/
structure ApprovedArtifact where
  artifact : ArtifactId
  identity : String
  digest : String
  deriving DecidableEq, Repr

/-- What an operator confirms at the first public trigger. -/
structure ApprovalSubject where
  repository : RepositoryId
  train : TrainId
  intendedCommit : CommitId
  declarationDigest : DeclarationDigest
  artifacts : List ApprovedArtifact
  versionOrRunId : ReleaseIdentity
  publicEffects : List PublicEffect
  deriving DecidableEq, Repr

/-- A durable approval. -/
structure ApprovalRecord where
  subject : ApprovalSubject
  token : ApprovalToken
  deriving DecidableEq, Repr

/-- Why an approval cannot be built, read or written. -/
inductive ApprovalError where
  | noPublicTrigger (train : String)
  | inconsistentPublicTrigger (train : String)
  | subjectDoesNotMatchStore
  | noCurrentApproval
  | subjectMismatch
  | unsupportedFormatVersion (version : Nat)
  | corruptRecord (reason : String)
  | io (path source : String)
  | unsupportedDurability (path source : String)
  deriving DecidableEq, Repr

/-- What an error says. -/
def ApprovalError.text : ApprovalError → String
  | .noPublicTrigger train => s!"train `{train}` has no public trigger and cannot request approval"
  | .inconsistentPublicTrigger train => s!"train `{train}` has an inconsistent first public trigger"
  | .subjectDoesNotMatchStore => "approval subject does not belong to this repository and train"
  | .noCurrentApproval => "no durable approval exists for the current plan"
  | .subjectMismatch =>
    "durable approval does not match the current plan; fresh approval is required"
  | .unsupportedFormatVersion version => s!"unsupported approval format version {version}"
  | .corruptRecord reason => s!"approval record is corrupt: {reason}"
  | .io path source => s!"unable to access approval state at {path}: {source}"
  | .unsupportedDurability path source =>
    s!"filesystem at {path} cannot provide the required approval durability: {source}"

/-- The one subject of a plan. -/
def buildApprovalSubject (plan : ReleasePlan) : Except ApprovalError ApprovalSubject :=
  match plan.publicEffects.head? with
  | none => .error (.noPublicTrigger plan.train)
  | some firstEffect =>
    if plan.firstPublicTrigger ≠ some firstEffect then
      .error (.inconsistentPublicTrigger plan.train)
    else
      .ok
        { repository := plan.repository
          train := plan.train
          intendedCommit := plan.intendedCommit
          declarationDigest := plan.declarationDigest
          artifacts := plan.artifacts.map fun artifact =>
            ⟨artifact.artifact, artifact.identity, artifact.digest⟩
          versionOrRunId := plan.releaseIdentity
          publicEffects := plan.publicEffects }

/-- The subject as an intent keeps it. -/
structure DurableSubject where
  repository : RepositoryId
  train : TrainId
  intendedCommit : CommitId
  declarationDigest : DeclarationDigest
  artifactDigests : List (ArtifactId × String)
  publicEffects : List OperationId
  deriving DecidableEq, Repr

/-- What is durable before an irreversible call. -/
structure PendingIntent where
  sequence : Nat
  train : TrainId
  phase : PhaseInstanceId
  artifact : ArtifactId
  operation : OperationId
  intendedCommit : CommitId
  declarationDigest : DeclarationDigest
  approvalSubject : DurableSubject
  deriving DecidableEq, Repr

/-- The stable key of an operation. -/
structure OperationKey where
  train : TrainId
  phase : PhaseInstanceId
  artifact : ArtifactId
  operation : OperationId
  intendedCommit : CommitId
  deriving DecidableEq, Repr

/-- The operation of an intent. -/
def PendingIntent.key (intent : PendingIntent) : OperationKey :=
  ⟨intent.train, intent.phase, intent.artifact, intent.operation, intent.intendedCommit⟩

/-- The operation of a request. -/
def EffectRequest.key (request : EffectRequest) : OperationKey :=
  ⟨request.train, request.phase, request.artifact, request.operation, request.intendedCommit⟩

/-- A declaration, with its normalized text. -/
structure DeclarationBinding where
  digest : DeclarationDigest
  normalized : String
  deriving DecidableEq, Repr

/-- How a train ends. -/
inductive TrainTerminalState where
  | abandoned (declarationDigest : DeclarationDigest)
  deriving DecidableEq, Repr

/-- A line of the journal. -/
inductive JournalRecord where
  | declarationPinned (binding : DeclarationBinding)
  | phaseEntered (phase : PhaseInstanceId)
  | phaseDone (phase : PhaseInstanceId) (evidence : List ProbeEvidence)
  | refused (phase : PhaseInstanceId) (reason : String)
  | localCommandAttempt (phase : PhaseInstanceId) (attempt : Nat) (exitCode : Option Int)
      (outputPath loadClass : String)
  | workingTreeMutation (phase : PhaseInstanceId) (paths : List String)
  | residueSwept (phase : PhaseInstanceId) (paths : List String)
  | declarationRebound (previousDigest : DeclarationDigest) (replacement : DeclarationBinding)
  | terminalized (state : TrainTerminalState)
  | completion (intent : PendingIntent) (evidence : ProbeEvidence)
  deriving DecidableEq, Repr

/-- A line of the intent stream. -/
inductive IntentRecord where
  | pending (intent : PendingIntent)
  deriving DecidableEq, Repr

/-- The intent of a line. -/
def IntentRecord.intent : IntentRecord → PendingIntent
  | .pending intent => intent

/-- Why an effect is not admitted. -/
inductive ExecutorError where
  | approvalBinding (reason : String)
  | missingFinalizedArtifact (artifact : String)
  | unexpectedFinalizedArtifact (artifact : String)
  deriving DecidableEq, Repr

/-- What an error says. -/
def ExecutorError.text : ExecutorError → String
  | .approvalBinding reason => s!"approval binding is invalid: {reason}"
  | .missingFinalizedArtifact artifact =>
    s!"public effect references finalized artifact `{artifact}` that is absent from the plan"
  | .unexpectedFinalizedArtifact artifact =>
    s!"public effect without an artifact received unexpected finalized artifact `{artifact}`"

/-- A publication with its final bytes and its approval. -/
structure PublicationRequest where
  effect : EffectRequest
  artifact : FinalizedArtifact
  approval : ApprovalSubject
  deriving DecidableEq, Repr

/-- An effect whose irreversible call is allowed. -/
structure AdmittedEffect where
  effect : EffectRequest
  approval : ApprovalSubject
  publication : Option PublicationRequest
  deriving DecidableEq, Repr

/-- The approval is for the train of the effect. -/
def validateEffectIdentity (effect : EffectRequest) (approval : ApprovalSubject) :
    Except ExecutorError Unit :=
  if approval.repository = effect.repository ∧ approval.train = effect.train
      ∧ approval.intendedCommit = effect.intendedCommit
      ∧ approval.declarationDigest = effect.declarationDigest then .ok ()
  else .error (.approvalBinding "approval subject does not match the publication effect identity")

/-- The effect is on the approved list. -/
def validatePublicEffect (approvedEffects : List PublicEffect) (effect : EffectRequest)
    (artifact : Option ArtifactId) : Except ExecutorError Unit :=
  if approvedEffects.any fun approved => approved.phase = effect.phase
      ∧ approved.operation = effect.operation ∧ approved.artifact = artifact then .ok ()
  else
    let operation := effect.operation
    let named := artifact.getD "<none>"
    .error (.approvalBinding
      s!"approval subject does not include public operation `{operation}` for artifact `{named}`")

/-- The artifact is approved as it is. -/
def validateApprovedArtifact (approvedArtifacts : List ApprovedArtifact) (artifact : ArtifactId)
    (expectedIdentity expectedDigest : String) : Except ExecutorError Unit :=
  match approvedArtifacts.filter fun approved => approved.artifact = artifact with
  | [approved] =>
    let identity := approved.identity
    let digest := approved.digest
    if identity ≠ expectedIdentity then
      .error (.approvalBinding
        s!"approval identity `{identity}` does not match finalized identity `{expectedIdentity}`")
    else if digest ≠ expectedDigest then
      .error (.approvalBinding
        s!"approval digest `{digest}` does not describe finalized digest `{expectedDigest}`")
    else .ok ()
  | _ => .error (.approvalBinding
      s!"approval must contain exactly one binding for finalized artifact `{artifact}`")

section admission

variable (artifactDigest : List UInt8 → String)

/-- Check the approval against the bytes to publish. -/
def PublicationRequest.validateApprovalBinding (request : PublicationRequest) :
    Except ExecutorError Unit := do
  let artifactId := request.artifact.artifact
  let wanted := request.effect.artifact
  if wanted ≠ artifactId then
    .error (.approvalBinding
      s!"effect artifact `{wanted}` does not match finalized artifact `{artifactId}`")
  validateEffectIdentity request.effect request.approval
  validateApprovedArtifact request.approval.artifacts artifactId request.artifact.identity
    (artifactDigest request.artifact.bytes)
  validatePublicEffect request.approval.publicEffects request.effect (some artifactId)

/-- A publication the approval covers. -/
def PublicationRequest.new (effect : EffectRequest) (artifact : FinalizedArtifact)
    (approval : ApprovalSubject) : Except ExecutorError PublicationRequest := do
  let request : PublicationRequest := ⟨effect, artifact, approval⟩
  request.validateApprovalBinding artifactDigest
  .ok request

/-- Admit an effect of the plan under an approval. -/
def AdmittedEffect.new (effect : EffectRequest) (plannedEffect : PublicEffect)
    (artifact : Option FinalizedArtifact) (approval : ApprovalSubject) :
    Except ExecutorError AdmittedEffect := do
  validateEffectIdentity effect approval
  validatePublicEffect approval.publicEffects effect plannedEffect.artifact
  match plannedEffect.artifact, artifact with
  | some _, some artifact =>
    let publication ← PublicationRequest.new artifactDigest effect artifact approval
    .ok ⟨effect, approval, some publication⟩
  | some artifact, none => .error (.missingFinalizedArtifact artifact)
  | none, none => .ok ⟨effect, approval, none⟩
  | none, some artifact => .error (.unexpectedFinalizedArtifact artifact.artifact)

/-- Check an admitted effect once more, just before its call. -/
def AdmittedEffect.validateApprovalBinding (admitted : AdmittedEffect) :
    Except ExecutorError Unit := do
  validateEffectIdentity admitted.effect admitted.approval
  match admitted.publication with
  | some publication => publication.validateApprovalBinding artifactDigest
  | none => validatePublicEffect admitted.approval.publicEffects admitted.effect none

end admission

/-- What the approval of an effect is about. -/
def AdmittedEffect.durableApprovalSubject (admitted : AdmittedEffect) : DurableSubject where
  repository := admitted.approval.repository
  train := admitted.approval.train
  intendedCommit := admitted.approval.intendedCommit
  declarationDigest := admitted.approval.declarationDigest
  artifactDigests := admitted.approval.artifacts.map fun artifact =>
    (artifact.artifact, artifact.digest)
  publicEffects := admitted.approval.publicEffects.map PublicEffect.operation

section admitted

/-- Both parts of a computation that succeeded did. -/
theorem bind_ok {ε α β : Type} {part : Except ε α} {rest : α → Except ε β} {value : β}
    (h : part >>= rest = .ok value) : ∃ first, part = .ok first ∧ rest first = .ok value := by
  cases part with
  | error => cases h
  | ok first => exact ⟨first, rfl, h⟩

variable {effect : EffectRequest}

theorem validatePublicEffect_ok
    (h : validatePublicEffect approvedEffects effect artifact = .ok ()) :
    ∃ approved ∈ approvedEffects, approved.phase = effect.phase ∧
      approved.operation = effect.operation ∧ approved.artifact = artifact := by
  unfold validatePublicEffect at h
  split at h
  case isTrue hany =>
    obtain ⟨approved, hmem, hsame⟩ := List.any_eq_true.mp hany
    exact ⟨approved, hmem, of_decide_eq_true hsame⟩
  case isFalse => cases h

theorem validateApprovedArtifact_ok
    (h : validateApprovedArtifact approvedArtifacts artifact identity digest = .ok ()) :
    approvedArtifacts.filter (fun approved => approved.artifact = artifact) =
      [⟨artifact, identity, digest⟩] := by
  unfold validateApprovedArtifact at h
  split at h
  case h_1 approved hfilter =>
    have hmem : approved ∈ approvedArtifacts.filter fun approved => approved.artifact = artifact := by
      rw [hfilter]
      exact List.mem_singleton_self _
    have hnamed : approved.artifact = artifact := of_decide_eq_true (List.mem_filter.mp hmem).2
    dsimp only at h
    split at h
    case isTrue => cases h
    case isFalse hidentity =>
      split at h
      case isTrue => cases h
      case isFalse hdigest =>
        rw [hfilter, ← hnamed, ← not_not.mp hidentity, ← not_not.mp hdigest]
  case h_2 => cases h

variable {request : PublicationRequest}

/-- What a checked publication says. -/
theorem PublicationRequest.validateApprovalBinding_ok
    (h : request.validateApprovalBinding artifactDigest = .ok ()) :
    request.effect.artifact = request.artifact.artifact ∧
      request.approval.artifacts.filter
          (fun approved => approved.artifact = request.artifact.artifact) =
        [⟨request.artifact.artifact, request.artifact.identity,
          artifactDigest request.artifact.bytes⟩] ∧
      ∃ approved ∈ request.approval.publicEffects, approved.phase = request.effect.phase ∧
        approved.operation = request.effect.operation ∧
        approved.artifact = some request.artifact.artifact := by
  unfold PublicationRequest.validateApprovalBinding at h
  dsimp only at h
  split at h
  case isTrue => cases h
  case isFalse hnamed =>
    obtain ⟨-, -, h⟩ := bind_ok h
    obtain ⟨⟨⟩, hartifact, heffect⟩ := bind_ok h
    exact ⟨not_not.mp hnamed, validateApprovedArtifact_ok hartifact,
      validatePublicEffect_ok heffect⟩

/-- The called effect is one of the approved list, with the approved artifact. -/
def AdmittedEffect.InList (artifactDigest : List UInt8 → String) (admitted : AdmittedEffect) :
    Prop :=
  ∃ effect ∈ admitted.approval.publicEffects,
    effect.phase = admitted.effect.phase ∧ effect.operation = admitted.effect.operation ∧
      match admitted.publication with
      | none => effect.artifact = none
      | some publication =>
        effect.artifact = some publication.artifact.artifact ∧
          publication.effect = admitted.effect ∧
          admitted.effect.artifact = publication.artifact.artifact ∧
          admitted.approval.artifacts.filter
              (fun approved => approved.artifact = publication.artifact.artifact) =
            [⟨publication.artifact.artifact, publication.artifact.identity,
              artifactDigest publication.artifact.bytes⟩]

variable {approval : ApprovalSubject}

theorem PublicationRequest.new_ok {artifact : FinalizedArtifact}
    (h : PublicationRequest.new artifactDigest effect artifact approval = .ok request) :
    request = ⟨effect, artifact, approval⟩ ∧
      request.validateApprovalBinding artifactDigest = .ok () := by
  obtain ⟨⟨⟩, hvalid, hrequest⟩ := bind_ok h
  cases hrequest
  exact ⟨rfl, hvalid⟩

theorem AdmittedEffect.new_ok
    (h : AdmittedEffect.new artifactDigest effect plannedEffect artifact approval = .ok admitted) :
    admitted.effect = effect ∧ admitted.approval = approval ∧ admitted.InList artifactDigest := by
  obtain ⟨⟨⟩, -, h⟩ := bind_ok h
  obtain ⟨⟨⟩, hlisted, h⟩ := bind_ok h
  cases hplanned : plannedEffect.artifact with
  | some =>
    rw [hplanned] at h
    cases artifact with
    | none => cases h
    | some =>
      obtain ⟨publication, hpublication, hadmitted⟩ := bind_ok h
      cases hadmitted
      obtain ⟨rfl, hvalid⟩ := PublicationRequest.new_ok hpublication
      obtain ⟨hnamed, hartifacts, approved, hmem, hphase, hoperation, hartifact⟩ :=
        PublicationRequest.validateApprovalBinding_ok hvalid
      exact ⟨rfl, rfl, approved, hmem, hphase, hoperation, hartifact, rfl, hnamed, hartifacts⟩
  | none =>
    rw [hplanned] at h hlisted
    cases artifact with
    | some => cases h
    | none =>
      cases h
      obtain ⟨approved, hmem, hphase, hoperation, hartifact⟩ := validatePublicEffect_ok hlisted
      exact ⟨rfl, rfl, approved, hmem, hphase, hoperation, hartifact⟩

end admitted

/-- Why a stream cannot be read or appended to. -/
inductive StateError where
  | io (path source : String)
  | unsupportedFormatVersion (version offset : Nat)
  | corruptRecord (offset : Nat) (reason : String)
  | tornTail (offset : Nat)
  | intentDoesNotMatchTrain
  | declarationNotPinned
  | declarationDigestMismatch (pinned active : String)
  | declarationBindingChanged (expected actual : String)
  | declarationDigestUnchanged (digest : String)
  | trainTerminal (state : String)
  | executorAdmission (error : ExecutorError)
  | executor (error : SeamError)
  deriving DecidableEq, Repr

/-- What an error says. -/
def StateError.text : StateError → String
  | .io path source => s!"unable to access durable state at {path}: {source}"
  | .unsupportedFormatVersion version offset =>
    s!"unsupported durable stream format version {version} at byte {offset}"
  | .corruptRecord offset reason => s!"durable stream corruption at byte {offset}: {reason}"
  | .tornTail offset => s!"durable stream has an incomplete final record beginning at byte {offset}"
  | .intentDoesNotMatchTrain => "intent request does not match this journal's repository and train"
  | .declarationNotPinned => "train declaration is not pinned in the journal"
  | .declarationDigestMismatch pinned active =>
    s!"active declaration digest `{active}` differs from pinned digest `{pinned}`"
  | .declarationBindingChanged expected actual =>
    s!"declaration binding changed from `{expected}` to `{actual}` before confirmation"
  | .declarationDigestUnchanged digest => s!"declaration digest `{digest}` is already pinned"
  | .trainTerminal state => s!"train journal is terminal: {state}"
  | .executorAdmission error =>
    let reason := error.text
    s!"irreversible executor admission failed: {reason}"
  | .executor error =>
    let reason := error.message
    s!"irreversible executor failed: {reason}"

/-- The name of a state. -/
def TrainTerminalState.text : TrainTerminalState → String
  | .abandoned _ => "abandoned"

end Subconscious.ReleaseRecords
