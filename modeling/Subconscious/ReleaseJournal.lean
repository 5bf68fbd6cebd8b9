import Subconscious.ReleaseStreams

/-!
# The journal, the intents and the approval of a train

The journal says which declaration the train is pinned to, whether it was
abandoned, and which intents were completed. An intent is appended only under
the pinned declaration, and an executor is called only after its intent is
durable.
-/

namespace Subconscious.ReleaseJournal

open Programs ReleaseRecords ReleaseStreams

/-- How the records of both streams are written, and the digest of final bytes. -/
structure Codecs (Byte : Type) where
  journal : Codec Byte JournalRecord
  intents : Codec Byte IntentRecord
  artifactDigest : List UInt8 → String

/-- The letters of a train whose records are written in two halves. -/
abbrev Letter := Half (JournalRecord ⊕ IntentRecord)

/-- Codecs that write a record as one letter. -/
def halfCodecs : Codecs Letter where
  journal := halves Sum.inl (fun record => record.getLeft?) fun _ => rfl
  intents := halves Sum.inr (fun record => record.getRight?) fun _ => rfl
  artifactDigest bytes := toString bytes.length

/-- A declaration as parsed from the repository. -/
abbrev ParsedDeclaration := DeclarationBinding

/-- The declaration a record binds, when it binds one. -/
def JournalRecord.binds : JournalRecord → Option DeclarationBinding
  | .declarationPinned binding => some binding
  | .declarationRebound _ replacement => some replacement
  | _ => none

/-- The last declaration the records bind. -/
def boundDeclaration (records : List JournalRecord) : Option DeclarationBinding :=
  records.foldl (fun binding record => (JournalRecord.binds record).or binding) none

/-- The first terminal state in the records. -/
def terminalOf (records : List JournalRecord) : Option TrainTerminalState :=
  records.findSome? fun record => match record with
    | .terminalized state => some state
    | _ => none

/-- The intent a record completes. -/
def JournalRecord.completes : JournalRecord → Option PendingIntent
  | .completion intent _ => some intent
  | _ => none

/-- Intents without a completion of just that intent. -/
def pendingOf (intents : List IntentRecord) (records : List JournalRecord) : List PendingIntent :=
  (intents.map IntentRecord.intent).filter fun intent =>
    !records.any fun record => JournalRecord.completes record = some intent

section store

variable [DecidableEq Byte] (codecs : Codecs Byte) (store : JournalStore)

/-- Append to the journal. -/
def appendJournal (record : JournalRecord) : Attempt (machine Byte) StateError Unit :=
  appendRecord store .journal codecs.journal record

/-- Read the journal, without a torn tail. -/
def readJournal : Attempt (machine Byte) StateError (List JournalRecord) :=
  recoverTornTail store .journal codecs.journal

/-- Read the intents, without a torn tail. -/
def readIntents : Attempt (machine Byte) StateError (List IntentRecord) :=
  recoverTornTail store .intents codecs.intents

/-- The declaration the train is bound to. -/
def pinnedDeclaration : Attempt (machine Byte) StateError (Option DeclarationBinding) := do
  let records ← readJournal codecs store
  pure (boundDeclaration records)

/-- How the train ended, if it did. -/
def terminalState : Attempt (machine Byte) StateError (Option TrainTerminalState) := do
  let records ← readJournal codecs store
  pure (terminalOf records)

/-- Refuse once the train was abandoned. -/
def ensureActive : Attempt (machine Byte) StateError Unit := do
  let terminal ← terminalState codecs store
  match terminal with
  | some state => decided (.error (.trainTerminal state.text))
  | none => pure ()

/-- The pinned declaration, which must be there. -/
def requirePinned : Attempt (machine Byte) StateError DeclarationBinding := do
  let pinned ← pinnedDeclaration codecs store
  match pinned with
  | some binding => pure binding
  | none => decided (.error .declarationNotPinned)

/-- Refuse unless the active declaration is the pinned one. -/
def ensureDeclarationDigest (activeDigest : DeclarationDigest) :
    Attempt (machine Byte) StateError Unit := do
  ensureActive codecs store
  let binding ← requirePinned codecs store
  if binding.digest ≠ activeDigest then
    decided (.error (.declarationDigestMismatch binding.digest activeDigest))
  else pure ()

/-- Pin the declaration of a new train. -/
def pinDeclaration (declaration : ParsedDeclaration) :
    Attempt (machine Byte) StateError DeclarationBinding := do
  ensureActive codecs store
  let pinned ← pinnedDeclaration codecs store
  match pinned with
  | some binding =>
    if binding.digest = declaration.digest then pure binding
    else decided (.error (.declarationDigestMismatch binding.digest declaration.digest))
  | none => do
    appendJournal codecs store (.declarationPinned declaration)
    pure declaration

/-- Terminalize the journal. -/
def abandonTrain : Attempt (machine Byte) StateError TrainTerminalState := do
  ensureActive codecs store
  let binding ← requirePinned codecs store
  let state := TrainTerminalState.abandoned binding.digest
  appendJournal codecs store (.terminalized state)
  pure state

/-- Replace the pinned declaration. -/
def rebindDeclaration (expectedPinnedDigest : DeclarationDigest)
    (replacement : ParsedDeclaration) : Attempt (machine Byte) StateError DeclarationBinding := do
  ensureActive codecs store
  let current ← requirePinned codecs store
  if current.digest ≠ expectedPinnedDigest then
    decided (.error (.declarationBindingChanged expectedPinnedDigest current.digest))
  else if current.digest = replacement.digest then
    decided (.error (.declarationDigestUnchanged current.digest))
  else do
    appendJournal codecs store (.declarationRebound current.digest replacement)
    pure replacement

/-- Append the intent of a request under the pinned declaration. -/
def appendIntent (request : EffectRequest) (approvalSubject : DurableSubject) :
    Attempt (machine Byte) StateError PendingIntent := do
  ensureDeclarationDigest codecs store request.declarationDigest
  if request.repository ≠ store.repository ∨ request.train ≠ store.train then
    decided (.error .intentDoesNotMatchTrain)
  else do
    let intents ← readIntents codecs store
    let intent : PendingIntent :=
      { sequence := intents.length + 1
        train := request.train
        phase := request.phase
        artifact := request.artifact
        operation := request.operation
        intendedCommit := request.intendedCommit
        declarationDigest := request.declarationDigest
        approvalSubject := approvalSubject }
    appendRecord store .intents codecs.intents (.pending intent)
    pure intent

/-- Make an intent durable, then call the executor. -/
def executeWithIntent (request : AdmittedEffect) :
    Attempt (machine Byte) StateError (PendingIntent × ProbeEvidence) := do
  decided ((request.validateApprovalBinding codecs.artifactDigest).mapError .executorAdmission)
  let intent ← appendIntent codecs store request.effect request.durableApprovalSubject
  let evidence ← attempt (I := machine Byte) (.execute request) fun answer =>
    answer.mapError StateError.executor
  pure (intent, evidence)

/-- Note that an intent is completed. -/
def appendCompletion (intent : PendingIntent) (evidence : ProbeEvidence) :
    Attempt (machine Byte) StateError Unit := do
  ensureActive codecs store
  appendJournal codecs store (.completion intent evidence)

/-- The intents that no completion follows. -/
def pendingIntents : Attempt (machine Byte) StateError (List PendingIntent) := do
  let intents ← readIntents codecs store
  let completions ← readJournal codecs store
  pure (pendingOf intents completions)

end store

section approval

/-- Read the durable approval. -/
def load : Attempt (machine Byte) ApprovalError (Option ApprovalRecord) :=
  attempt (I := machine Byte) .loadApproval id

/-- The approval, if it is one of the current plan. -/
def requireCurrent (currentSubject : ApprovalSubject) :
    Attempt (machine Byte) ApprovalError ApprovalRecord := do
  let loaded ← load
  match loaded with
  | none => decided (.error .noCurrentApproval)
  | some record =>
    if record.subject ≠ currentSubject then decided (.error .subjectMismatch) else pure record

/-- Remove an approval of another plan. -/
def invalidateIfStale (currentSubject : ApprovalSubject) :
    Attempt (machine Byte) ApprovalError Bool := do
  let loaded ← load
  match loaded with
  | none => pure false
  | some record =>
    if record.subject = currentSubject then pure false
    else do
      let _ ← attempt (I := machine Byte) .removeApproval id
      attempt (I := machine Byte) .syncApproval id
      pure true

/-- Remove any approval. -/
def invalidate : Attempt (machine Byte) ApprovalError Bool := do
  let removed ← attempt (I := machine Byte) .removeApproval id
  if removed then do
    attempt (I := machine Byte) .syncApproval id
    pure true
  else pure false

/-- Persist what the operator confirmed. -/
def persistConfirmed (store : JournalStore) (subject : ApprovalSubject) (token : ApprovalToken) :
    Attempt (machine Byte) ApprovalError ApprovalRecord := do
  if subject.repository ≠ store.repository ∨ subject.train ≠ store.train then
    decided (.error .subjectDoesNotMatchStore)
  else do
    let record : ApprovalRecord := ⟨subject, token⟩
    attempt (I := machine Byte) (.replaceApproval record) id
    attempt (I := machine Byte) .syncApproval id
    pure record

end approval

end Subconscious.ReleaseJournal
