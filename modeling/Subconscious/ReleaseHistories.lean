import Subconscious.ReleaseOrchestrator
import Subconscious.ReleaseDurability

/-!
# Ceremonies and the history of a train

An operator abandons a train or rebinds it to another declaration. Neither takes
a lease. A history is what happened to one train: whole commands one after the
other, each with everything it called, and each possibly cut off by a crash.
-/

namespace Subconscious.ReleaseHistories

open Programs ReleaseRecords ReleaseStreams ReleaseJournal ReleaseOrchestrator ReleaseDurability

/-- Why a ceremony is refused. -/
inductive CeremonyRefusalCode where
  | declarationDigestMismatch
  | declarationNotPinned
  | trainAbandoned
  | rebindConfirmationRequired
  | rebindNotRequired
  | rebindPreviewStale
  deriving DecidableEq, Repr

/-- Why a ceremony fails. -/
inductive CeremonyError where
  | refusal (code : CeremonyRefusalCode) (trainJournalId message : String)
  | state (error : StateError)
  | approval (error : ApprovalError)
  deriving DecidableEq, Repr

/-- The comparison an operator saw before a rebind. -/
structure RebindPreview where
  pinnedDigest : DeclarationDigest
  pinnedNormalized : String
  replacementDeclaration : ParsedDeclaration
  deriving DecidableEq, Repr

/-- What the operator says to a rebind. -/
inductive RebindConfirmation where
  | confirmed
  | declined
  deriving DecidableEq, Repr

/-- What a rebind did. -/
structure RebindOutcome where
  binding : DeclarationBinding
  invalidatedApproval : Bool
  approvalReconstructionRequired : Bool
  deriving DecidableEq, Repr

section ceremonies

variable [DecidableEq Byte] (codecs : Codecs Byte) (store : JournalStore)

/-- A refusal for the train of the store. -/
def refusal (code : CeremonyRefusalCode) (message : String) : CeremonyError :=
  .refusal code store.fileStem message

/-- The refusal of a terminal train. -/
def terminalRefusal (terminal : TrainTerminalState) : CeremonyError :=
  let named := terminal.text
  refusal store .trainAbandoned
    s!"this train journal is terminal ({named}) and cannot be resumed or rebound"

/-- Refuse a ceremony on a terminal train. -/
def refuseTerminal : Attempt (machine Byte) CeremonyError Unit := do
  let terminal ← rephrase .state (terminalState codecs store)
  match terminal with
  | some terminal => decided (.error (terminalRefusal store terminal))
  | none => pure ()

/-- The pinned declaration of a ceremony. -/
def ceremonyPinned : Attempt (machine Byte) CeremonyError DeclarationBinding := do
  let pinned ← rephrase .state (pinnedDeclaration codecs store)
  match pinned with
  | some binding => pure binding
  | none => decided (.error (refusal store .declarationNotPinned
      "the train has no pinned declaration"))

/-- Abandon a train. -/
def abandon : Attempt (machine Byte) CeremonyError TrainTerminalState := do
  refuseTerminal codecs store
  rephrase .state (abandonTrain codecs store)

/-- Compare the pinned declaration with the active one. -/
def prepareRebind (activeDeclaration : ParsedDeclaration) :
    Attempt (machine Byte) CeremonyError RebindPreview := do
  refuseTerminal codecs store
  let binding ← ceremonyPinned codecs store
  if binding.digest = activeDeclaration.digest then
    decided (.error (refusal store .rebindNotRequired
      "the active declaration already matches the pinned digest"))
  else pure ⟨binding.digest, binding.normalized, activeDeclaration⟩

/-- Rebind a train. The approval goes first, so that it never outlives the
declaration it was given for. -/
def confirmRebind (preview : RebindPreview) (confirmation : RebindConfirmation) :
    Attempt (machine Byte) CeremonyError RebindOutcome :=
  if confirmation ≠ .confirmed then
    decided (.error (refusal store .rebindConfirmationRequired
      "the declaration diff was not explicitly confirmed; no durable state changed"))
  else do
    refuseTerminal codecs store
    let current ← ceremonyPinned codecs store
    if current.digest ≠ preview.pinnedDigest ∨ current.normalized ≠ preview.pinnedNormalized then
      decided (.error (refusal store .rebindPreviewStale
        "the pinned declaration changed after the diff was displayed; display a new diff before rebinding"))
    else do
      let invalidatedApproval ← rephrase .approval invalidate
      let binding ← rephrase .state
        (rebindDeclaration codecs store preview.pinnedDigest preview.replacementDeclaration)
      pure ⟨binding, invalidatedApproval, true⟩

end ceremonies

/-- What is done with a train. -/
inductive Activity where
  | pin (declaration : ParsedDeclaration)
  | execute (plan : ReleasePlan)
  | abandon
  | prepareRebind (activeDeclaration : ParsedDeclaration)
  | confirmRebind (preview : RebindPreview) (confirmation : RebindConfirmation)
  | invalidate
  | pendingIntents
  deriving DecidableEq, Repr

/-- What an activity returns. -/
inductive Returned where
  | pinned (result : Except StateError DeclarationBinding)
  | executed (result : Except OrchestrationError (List EffectOutcome))
  | abandoned (result : Except CeremonyError TrainTerminalState)
  | prepared (result : Except CeremonyError RebindPreview)
  | rebound (result : Except CeremonyError RebindOutcome)
  | invalidated (result : Except ApprovalError Bool)
  | pending (result : Except StateError (List PendingIntent))
  deriving DecidableEq

/-- A program that says whose result it returns. -/
def returning {ε α : Type} (wrap : Except ε α → Returned) (part : Attempt (machine Byte) ε α) :
    Program (machine Byte) Returned :=
  part.run.bind fun result => .done (wrap result)

variable [DecidableEq Byte] (codecs : Codecs Byte) (store : JournalStore)

/-- The program of an activity. -/
def Activity.program : Activity → Program (machine Byte) Returned
  | .pin declaration => returning .pinned (pinDeclaration codecs store declaration)
  | .execute plan => returning .executed (ReleaseOrchestrator.execute codecs store plan)
  | .abandon => returning .abandoned (ReleaseHistories.abandon codecs store)
  | .prepareRebind activeDeclaration =>
    returning .prepared (ReleaseHistories.prepareRebind codecs store activeDeclaration)
  | .confirmRebind preview confirmation =>
    returning .rebound (ReleaseHistories.confirmRebind codecs store preview confirmation)
  | .invalidate => returning .invalidated ReleaseJournal.invalidate
  | .pendingIntents => returning .pending (ReleaseJournal.pendingIntents codecs store)

/-- An activity that was begun, with its calls. It returned nothing if it crashed. -/
structure Episode (Byte : Type) where
  activity : Activity
  log : List (Step (machine Byte) (World Byte))
  returned : Option Returned

/-- An activity, and the answers its calls get until it ends or crashes. -/
abbrev Moment (Byte : Type) := Activity × List (Answers (machine Byte))

/-- What happened to a train so far. -/
structure History (Byte : Type) where
  world : World Byte
  episodes : List (Episode Byte)

/-- A train nobody has touched. -/
def untouched : History Byte := ⟨⟨[], [], none⟩, []⟩

/-- Everything that was called, in order. -/
def History.log (history : History Byte) : List (Step (machine Byte) (World Byte)) :=
  history.episodes.flatMap Episode.log

/-- What is left of a program, if it is done. -/
def finished {α : Type} : Program (machine Byte) α → Option α
  | .done value => some value
  | .call _ _ => none

/-- One more activity, until it ends or crashes. -/
def History.ran (history : History Byte) (moment : Moment Byte) :
    Now Byte × Program (machine Byte) Returned :=
  run (I := machine Byte) perform (moment.1.program codecs store) ⟨history.world, []⟩ moment.2

/-- The history with one more activity. -/
def History.extend (history : History Byte) (moment : Moment Byte) : History Byte :=
  let ended := history.ran codecs store moment
  ⟨ended.1.state, history.episodes ++ [⟨moment.1, ended.1.log, finished ended.2⟩]⟩

/-- The history of a train that was untouched before the first moment. -/
def historyOf (moments : List (Moment Byte)) : History Byte :=
  moments.foldl (History.extend codecs store) untouched

variable {codecs store}

/-- The last moment extends the history. -/
theorem historyOf_snoc :
    historyOf codecs store (moments ++ [moment]) =
      (historyOf codecs store moments).extend codecs store moment := by
  unfold historyOf
  rw [List.foldl_append]
  rfl

/-- The log grows by the calls of the last activity. -/
theorem log_extend (history : History Byte) :
    (history.extend codecs store moment).log =
      history.log ++ (history.ran codecs store moment).1.log := by
  unfold History.log History.extend
  rw [List.flatMap_append]
  exact congrArg (_ ++ ·) (List.append_nil _)

/-- Answers without a failure, but for what the probes and the executors say. -/
def willing (probed : EffectRequest → ProbeResult)
    (called : AdmittedEffect → Except SeamError ProbeEvidence) : Answers (machine Letter)
  | .read _ => .ok []
  | .openAppend _ => .ok false
  | .write _ bytes => .ok bytes.length
  | .syncData _ | .syncDirectory | .setLen _ _ | .syncAll _ => .ok ()
  | .loadApproval => .ok none
  | .removeApproval => .ok true
  | .replaceApproval _ | .syncApproval => .ok ()
  | .acquireTrain | .releaseTrain | .acquireRepository | .releaseRepository => .ok ()
  | .runPhase _ => ([], .ok [])
  | .confirm _ => .ok "yes"
  | .probe request => .ok (probed request)
  | .execute admitted => called admitted

/-- Answers for as many calls as a command of the small train makes. -/
def answering (probed : ProbeResult) (called : Except SeamError ProbeEvidence) :
    List (Answers (machine Letter)) :=
  List.replicate 200 (willing (fun _ => probed) fun _ => called)

/-- The state of the small train. -/
def smallStore : JournalStore := ⟨"state", "repository", "train", "v1"⟩

/-- A check, and a tag that is pushed. -/
def smallPlan : ReleasePlan where
  repository := "repository"
  train := "train"
  intendedCommit := "commit"
  declarationDigest := "first"
  releaseIdentity := .version "1"
  phases := [⟨"check", "preflight", false⟩, ⟨"tag", "tag", false⟩]
  artifacts := []
  firstPublicTrigger := some ⟨"tag", "push", none⟩
  publicEffects := [⟨"tag", "push", none⟩]
  finalizedArtifacts := []

/-- What the world shows of the small plan's effect. -/
def smallEvidence : ProbeEvidence := ⟨"refs/tags/v1", "commit"⟩

/-- The probes find nothing, and the executors succeed. -/
def publishing : List (Answers (machine Letter)) :=
  answering (.absent smallEvidence) (.ok smallEvidence)

/-- The probes find nothing, and the executors fail. -/
def failing : List (Answers (machine Letter)) :=
  answering (.absent smallEvidence) (.error ⟨"down"⟩)

/-- The probes find the effect. -/
def finding : List (Answers (machine Letter)) :=
  answering (.present smallEvidence) (.error ⟨"down"⟩)

/-- The small train is pinned, and its plan is run with the given answers. -/
def smallRun (answers : List (Answers (machine Letter))) : List (Moment Letter) :=
  [(.pin ⟨"first", "text"⟩, answers), (.execute smallPlan, answers)]

/-- The history of the small train. -/
abbrev smallHistory (moments : List (Moment Letter)) : History Letter :=
  historyOf halfCodecs smallStore moments

end Subconscious.ReleaseHistories
