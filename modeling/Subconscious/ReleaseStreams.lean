import Subconscious.Programs
import Subconscious.ReleaseRecords

/-!
# Durable streams

A stream is a file of lines, each one an encoded record with its checksum. An
append opens the file, writes a line in as many pieces as the system takes it,
and synchronizes. Every read repairs the stream: an unfinished final line is
cut off, and damage before it is an error.

How a record is encoded is a parameter: an encoding has no line break, reads
back as itself, and does not read back when it follows the beginning of
another one on the same line.
-/

namespace Subconscious.ReleaseStreams

open Programs ReleaseRecords

/-- What one line holds. -/
inductive Decoded (Record : Type) where
  /-- The line is no envelope. -/
  | framing (error : String)
  | version (version : Nat)
  /-- The record does not have the checksum of the envelope. -/
  | checksum
  | record (record : Record)

/-- How records are written in lines. -/
structure Codec (Byte Record : Type) where
  newline : Byte
  encode : Record → List Byte
  decode : List Byte → Decoded Record
  encode_newline : ∀ record, newline ∉ encode record
  encode_nonempty : ∀ record, encode record ≠ []
  decode_encode : ∀ record, decode (encode record) = .record record
  /-- A line that begins twice is no envelope. -/
  decode_begun : ∀ first second begun, begun <+: encode first → begun ≠ [] →
    ∃ error, decode (begun ++ encode second) = .framing error

section decode

variable [DecidableEq Byte] (codec : Codec Byte Record)

/-- The bytes of an appended record. -/
def Codec.line (record : Record) : List Byte := codec.encode record ++ [codec.newline]

/-- Read one line that ends at a line break. -/
def readLine (offset : Nat) (line : List Byte) (finalRecord : Bool) : Except StateError Record :=
  if line.isEmpty then
    if finalRecord then .error (.tornTail offset)
    else .error (.corruptRecord offset "empty records are not permitted")
  else
    match codec.decode line with
    | .framing error =>
      if finalRecord then .error (.tornTail offset)
      else .error (.corruptRecord offset s!"invalid record framing: {error}")
    | .version version => .error (.unsupportedFormatVersion version offset)
    | .checksum =>
      if finalRecord then .error (.tornTail offset)
      else .error (.corruptRecord offset "record checksum does not match")
    | .record record => .ok record

/-- Read lines from an offset on, with the bytes of the current line so far. -/
def decodeFrom (offset : Nat) (line : List Byte) : List Byte → Except StateError (List Record)
  | [] => if line.isEmpty then .ok [] else .error (.tornTail offset)
  | byte :: rest =>
    if byte = codec.newline then
      match readLine codec offset line rest.isEmpty with
      | .error error => .error error
      | .ok record =>
        match decodeFrom (offset + line.length + 1) [] rest with
        | .error error => .error error
        | .ok records => .ok (record :: records)
    else decodeFrom offset (line ++ [byte]) rest

/-- The records of a stream. -/
def decodeRecords (bytes : List Byte) : Except StateError (List Record) :=
  decodeFrom codec 0 [] bytes

end decode

/-- A record written as two halves. -/
inductive Half (Record : Type) where
  | first (record : Record)
  | second (record : Record)
  | newline
  deriving DecidableEq

section halves

variable {All Record : Type} [DecidableEq All]

/-- Read two halves of the same record. -/
def readHalves (unwrap : All → Option Record) : List (Half All) → Decoded Record
  | [.first record, .second other] =>
    if record = other then
      match unwrap record with
      | some record => .record record
      | none => .framing "a record of another stream"
    else .framing "halves of two records"
  | _ => .framing "not two halves"

/-- A codec in two halves, for records that are part of a larger type. -/
def halves (wrap : Record → All) (unwrap : All → Option Record)
    (hwrap : ∀ record, unwrap (wrap record) = some record) : Codec (Half All) Record where
  newline := .newline
  encode record := [.first (wrap record), .second (wrap record)]
  decode := readHalves unwrap
  encode_newline record hno := by simp at hno
  encode_nonempty record hno := by cases hno
  decode_encode record := by
    unfold readHalves
    dsimp only
    rw [if_pos rfl, hwrap]
  decode_begun first second begun hbegun hne := by
    rcases List.prefix_cons_iff.mp hbegun with rfl | ⟨rest, rfl, hrest⟩
    · exact absurd rfl hne
    rcases List.prefix_cons_iff.mp hrest with rfl | ⟨rest', rfl, hrest'⟩
    · exact ⟨_, rfl⟩
    · rw [List.prefix_nil.mp hrest']
      exact ⟨_, rfl⟩

end halves

/-- The two streams of a train. -/
inductive Stream where
  | journal
  | intents
  deriving DecidableEq, Repr

/-- A failure of a lease. -/
structure LeaseError where
  message : String
  deriving DecidableEq, Repr

/-- The codes of the declared prechecks. -/
inductive PrecheckRefusalCode where
  | precheckDirty
  | staleRunResidue
  | envDrift
  | contextUnfit
  | toolUnpinned
  | toolMismatch
  | residuePresent
  deriving DecidableEq, Repr

/-- The name of a code. -/
def PrecheckRefusalCode.text : PrecheckRefusalCode → String
  | .precheckDirty => "PRECHECK_DIRTY"
  | .staleRunResidue => "STALE_RUN_RESIDUE"
  | .envDrift => "ENV_DRIFT"
  | .contextUnfit => "CONTEXT_UNFIT"
  | .toolUnpinned => "TOOL_UNPINNED"
  | .toolMismatch => "TOOL_MISMATCH"
  | .residuePresent => "RESIDUE_PRESENT"

/-- How a local phase fails. -/
inductive PhaseExecutionError where
  | notImplemented (phase : PhaseInstanceId) (phaseType : String)
  | refusal (code : PrecheckRefusalCode) (phase : PhaseInstanceId) (message : String)
  | seam (error : SeamError)
  deriving DecidableEq, Repr

/-- What a phase runner notes in the journal. -/
inductive RunnerNote where
  | localCommandAttempt (phase : PhaseInstanceId) (attempt : Nat) (exitCode : Option Int)
      (outputPath loadClass : String)
  | workingTreeMutation (phase : PhaseInstanceId) (paths : List String)
  | residueSwept (phase : PhaseInstanceId) (paths : List String)
  deriving DecidableEq, Repr

/-- The record of a note. -/
def RunnerNote.record : RunnerNote → JournalRecord
  | .localCommandAttempt phase attempt exitCode outputPath loadClass =>
    .localCommandAttempt phase attempt exitCode outputPath loadClass
  | .workingTreeMutation phase paths => .workingTreeMutation phase paths
  | .residueSwept phase paths => .residueSwept phase paths

/-- What a phase runner does with the journal. -/
inductive RunnerAction where
  | readJournal
  | append (note : RunnerNote)
  deriving DecidableEq, Repr

/-- What the machine calls. -/
inductive Call (Byte : Type) where
  | read (stream : Stream)
  /-- Open a stream for appending; the answer says whether that created it. -/
  | openAppend (stream : Stream)
  /-- Write some of the bytes; the answer says how many. -/
  | write (stream : Stream) (bytes : List Byte)
  | syncData (stream : Stream)
  | syncDirectory
  | setLen (stream : Stream) (length : Nat)
  | syncAll (stream : Stream)
  | loadApproval
  | removeApproval
  /-- Put a written record in the place of the approval. -/
  | replaceApproval (record : ApprovalRecord)
  | syncApproval
  | acquireTrain
  | releaseTrain
  | acquireRepository
  | releaseRepository
  /-- Run a phase; the answer says what it does with the journal and how it ends. -/
  | runPhase (phase : PlannedPhase)
  /-- Ask the operator. -/
  | confirm (subject : ApprovalSubject)
  | probe (request : EffectRequest)
  | execute (admitted : AdmittedEffect)

/-- What a call answers with. -/
def Call.Answer {Byte : Type} : Call Byte → Type
  | .read _ => Except String (List Byte)
  | .openAppend _ => Except String Bool
  | .write _ _ => Except String Nat
  | .syncData _ | .syncDirectory | .setLen _ _ | .syncAll _ => Except String Unit
  | .loadApproval => Except ApprovalError (Option ApprovalRecord)
  | .removeApproval => Except ApprovalError Bool
  | .replaceApproval _ | .syncApproval => Except ApprovalError Unit
  | .acquireTrain | .releaseTrain | .acquireRepository | .releaseRepository =>
    Except LeaseError Unit
  | .runPhase _ => List RunnerAction × Except PhaseExecutionError (List ProbeEvidence)
  | .confirm _ => Except SeamError ApprovalToken
  | .probe _ => Except SeamError ProbeResult
  | .execute _ => Except SeamError ProbeEvidence

/-- The calls as an interface of programs. -/
abbrev machine (Byte : Type) : Interface := ⟨Call Byte, Call.Answer⟩

/-- The durable state of one train. -/
structure World (Byte : Type) where
  journal : List Byte
  intents : List Byte
  approval : Option ApprovalRecord

variable {Byte : Type}

/-- The bytes of a stream. -/
def World.file (world : World Byte) : Stream → List Byte
  | .journal => world.journal
  | .intents => world.intents

/-- Set the bytes of a stream. -/
def World.setFile (world : World Byte) (stream : Stream) (bytes : List Byte) : World Byte :=
  match stream with
  | .journal => { world with journal := bytes }
  | .intents => { world with intents := bytes }

/-- What a call does to the durable state. The environment decides whether a
call fails, how much of a write is taken, and what everyone outside answers. -/
def act (world : World Byte) : (made : Call Byte) → made.Answer → World Byte × made.Answer
  | .read stream, proposed =>
    (world, match proposed with
      | .ok _ => .ok (world.file stream)
      | .error error => .error error)
  | .write stream bytes, proposed =>
    match proposed with
    | .ok count =>
      (world.setFile stream (world.file stream ++ bytes.take count), .ok (min count bytes.length))
    | .error error => (world, .error error)
  | .setLen stream length, proposed =>
    match proposed with
    | .ok () => (world.setFile stream ((world.file stream).take length), .ok ())
    | .error error => (world, .error error)
  | .loadApproval, proposed =>
    (world, match proposed with
      | .ok _ => .ok world.approval
      | .error error => .error error)
  | .removeApproval, proposed =>
    match proposed with
    | .ok _ => ({ world with approval := none }, .ok world.approval.isSome)
    | .error error => (world, .error error)
  | .replaceApproval record, proposed =>
    match proposed with
    | .ok () => ({ world with approval := some record }, .ok ())
    | .error error => (world, .error error)
  | .openAppend _, proposed => (world, proposed)
  | .syncData _, proposed => (world, proposed)
  | .syncDirectory, proposed => (world, proposed)
  | .syncAll _, proposed => (world, proposed)
  | .syncApproval, proposed => (world, proposed)
  | .acquireTrain, proposed => (world, proposed)
  | .releaseTrain, proposed => (world, proposed)
  | .acquireRepository, proposed => (world, proposed)
  | .releaseRepository, proposed => (world, proposed)
  | .runPhase _, proposed => (world, proposed)
  | .confirm _, proposed => (world, proposed)
  | .probe _, proposed => (world, proposed)
  | .execute _, proposed => (world, proposed)

/-- The directory and identity of a train's streams. -/
structure JournalStore where
  stateRoot : String
  repository : RepositoryId
  train : TrainId
  id : String
  deriving DecidableEq, Repr

/-- The shared name of both streams. -/
def JournalStore.fileStem (store : JournalStore) : String :=
  let train := store.train
  let id := store.id
  s!"{train}-{id}"

/-- The file of a stream. -/
def JournalStore.path (store : JournalStore) (stream : Stream) : String :=
  let root := store.stateRoot
  let repository := store.repository
  let stem := store.fileStem
  match stream with
  | .journal => s!"{root}/{repository}/{stem}.journal"
  | .intents => s!"{root}/{repository}/{stem}.intent"

variable {Record : Type}

section

variable (store : JournalStore) (stream : Stream)

/-- A call on a stream's file. -/
def fileCall {α : Type} (made : Call Byte) (read : made.Answer → Except String α) :
    Attempt (machine Byte) StateError α :=
  attempt (I := machine Byte) made fun answer =>
    (read answer).mapError fun source => .io (store.path stream) source

/-- Write all bytes, piece by piece. Every piece takes at least one byte, so
their number is fuel enough. -/
def writeAll (store : JournalStore) (stream : Stream) :
    Nat → List Byte → Attempt (machine Byte) StateError Unit
  | _, [] => pure ()
  | 0, _ => decided (.error (.io (store.path stream) "failed to write whole buffer"))
  | fuel + 1, bytes => do
    let count ← fileCall store stream (.write stream bytes) id
    if count = 0 then
      decided (.error (.io (store.path stream) "failed to write whole buffer"))
    else writeAll store stream fuel (bytes.drop count)

/-- Append one record and synchronize it. -/
def appendRecord (codec : Codec Byte Record) (record : Record) :
    Attempt (machine Byte) StateError Unit := do
  let bytes := codec.line record
  let created ← fileCall store stream (.openAppend stream) id
  writeAll store stream bytes.length bytes
  fileCall store stream (.syncData stream) id
  if created then fileCall store stream .syncDirectory id

/-- Read a stream and cut off an unfinished final line. -/
def recoverTornTail [DecidableEq Byte] (codec : Codec Byte Record) :
    Attempt (machine Byte) StateError (List Record) := do
  let bytes ← fileCall store stream (.read stream) id
  match decodeRecords codec bytes with
  | .ok records => pure records
  | .error (.tornTail offset) => do
    fileCall store stream (.setLen stream offset) id
    fileCall store stream (.syncAll stream) id
    decided (decodeRecords codec (bytes.take offset))
  | .error error => decided (.error error)

end

end Subconscious.ReleaseStreams
