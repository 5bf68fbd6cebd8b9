import Subconscious.Protocol
import Mathlib.Algebra.BigOperators.Group.List.Basic

/-!
# Scope records on the wire

A scope is an owned identity record for a session, keyed by owner and ref. The
types below are what an owner sends in `scope.sync` and `scope.apply`, what it
is told back, and what the daemon stamps on a bind. The checks are the ones
the protocol crate offers; their texts name the field they refuse.
-/

namespace Subconscious.ScopeRecords

open Protocol

/-- Most live scopes one owner may hold. -/
def maxLiveScopesPerOwner : Nat := 10000

/-- Most bytes one scope's attributes may take as compact JSON. -/
def maxScopeAttributeBytes : Nat := 4 * 1024

/-- Most ended scopes the daemon remembers for one owner. -/
def maxScopeTombstonesPerOwner : Nat := 1000

/-- Most modules one targeted carrier entry may list. -/
def maxCarrierTargets : Nat := 16

/-- Most milliseconds a new epoch's deadline may be ahead. -/
def maxScopeExpiryAheadMs : Nat := 86400000

/-- What a scope stands for. -/
inductive ScopeKind where
  | head
  | worker
  | ephemeral
  deriving DecidableEq, Repr

/-- A link to another scope, pinned to one session of it. -/
structure ScopeParent where
  owner : Principal
  scopeRef : String
  scopeEpoch : Nat
  deriving DecidableEq, Repr

/-- A principal that may open routes under a scope; without targets to any module. -/
structure ScopeCarrier where
  principal : Principal
  targets : Option (List String)
  deriving DecidableEq, Repr

/-- The attributes only an authority owner may set. -/
structure ScopeAttributes where
  agentId : Option String
  onBehalfOfAgent : Option String
  delegates : Bool
  flowId : Option String
  flowVersion : Option Nat
  flowCodeHash : Option String
  flowInstallId : Option String
  runId : Option String
  deriving DecidableEq, Repr

/-- No attribute is set. -/
def ScopeAttributes.default : ScopeAttributes where
  agentId := none
  onBehalfOfAgent := none
  delegates := false
  flowId := none
  flowVersion := none
  flowCodeHash := none
  flowInstallId := none
  runId := none

/-- Whether no attribute is set. -/
def ScopeAttributes.isEmpty (attributes : ScopeAttributes) : Bool :=
  attributes.agentId.isNone && attributes.onBehalfOfAgent.isNone && !attributes.delegates
    && attributes.flowId.isNone && attributes.flowVersion.isNone
    && attributes.flowCodeHash.isNone && attributes.flowInstallId.isNone
    && attributes.runId.isNone

/-- One scope as its owner registers it. -/
structure ScopeRecord where
  scopeRef : String
  scopeEpoch : Nat
  kind : ScopeKind
  workdir : Option String
  projectId : Option String
  bindProofSha256 : Option String
  /-- A condition of the request, never stored as true. -/
  replaceOnlyIfIdle : Bool
  expiresAtMs : Option Nat
  parent : Option ScopeParent
  childOwners : List Principal
  carriers : List ScopeCarrier
  attributes : ScopeAttributes
  deriving DecidableEq, Repr

/-- A record with nothing but its identity. -/
def ScopeRecord.new (scopeRef : String) (scopeEpoch : Nat) (kind : ScopeKind) : ScopeRecord where
  scopeRef := scopeRef
  scopeEpoch := scopeEpoch
  kind := kind
  workdir := none
  projectId := none
  bindProofSha256 := none
  replaceOnlyIfIdle := false
  expiresAtMs := none
  parent := none
  childOwners := []
  carriers := []
  attributes := .default

/-- A request to end one scope session. -/
structure ScopeEnd where
  scopeRef : String
  scopeEpoch : Nat
  deriving DecidableEq, Repr

/-- What `scope.apply` did with one requested end. -/
inductive ScopeEndOutcome where
  | ended
  | notLive
  deriving DecidableEq, Repr

/-- The result of one requested end. -/
structure ScopeEndResult where
  scopeRef : String
  scopeEpoch : Nat
  outcome : ScopeEndOutcome
  deriving DecidableEq, Repr

/-- The scope a route.open asks to be admitted under. -/
structure ScopeSelector where
  owner : Principal
  scopeRef : String
  scopeEpoch : Option Nat
  bindProof : Option String
  holdPresence : Bool
  deriving DecidableEq, Repr

/-- The state of a scope's parent link. -/
inductive ParentState where
  /-- The parent is live at the named epoch and the link was permitted. -/
  | linked
  /-- The parent's owner has not synced yet. -/
  | pending
  /-- The parent is gone, or the link was refused. -/
  | ended
  deriving DecidableEq, Repr

/-- What a call did with one record. -/
inductive ScopeRecordOutcome where
  | created
  | replaced
  | updated
  | unchanged
  | refused
  deriving DecidableEq, Repr

/-- The result of one record, in request order. -/
structure ScopeRecordResult where
  scopeRef : String
  scopeEpoch : Nat
  outcome : ScopeRecordOutcome
  code : Option String
  message : Option String
  version : Option Nat
  parentState : Option ParentState
  deriving DecidableEq, Repr

/-- A session of the calling owner that ended in the call. -/
structure ScopeEnded where
  scopeRef : String
  scopeEpoch : Nat
  deriving DecidableEq, Repr

/-- The fields the daemon stamps for a live scope. -/
structure ScopeStamp where
  owner : Principal
  scopeRef : String
  scopeEpoch : Nat
  kind : ScopeKind
  workdir : Option String
  projectId : Option String
  parent : Option ScopeParent
  parentState : Option ParentState
  attributes : ScopeAttributes
  ownerAuthorized : Bool
  expiresAtMs : Option Nat
  deriving DecidableEq, Repr

/-- The bytes of a text. -/
def utf8Bytes (text : String) : List UInt8 := text.toUTF8.data.toList

/-- Printable ASCII without the space. -/
def isTokenByte (byte : UInt8) : Bool := 0x21 ≤ byte && byte ≤ 0x7e

/-- A digit or a lowercase hexadecimal letter. -/
def isLowerHexByte (byte : UInt8) : Bool :=
  (0x30 ≤ byte && byte ≤ 0x39) || (0x61 ≤ byte && byte ≤ 0x66)

/-- Longest opaque token. -/
def opaqueFieldMaxLen : Nat := 256

/-- An opaque token is 1 to 256 bytes of printable, non-space ASCII. -/
def validateOpaqueField (field value : String) : Except String Unit :=
  let length := value.utf8ByteSize
  if length = 0 then
    .error s!"{field} must not be empty"
  else if length > opaqueFieldMaxLen then
    .error s!"{field} is {length} bytes; at most {opaqueFieldMaxLen} are allowed"
  else
    match (utf8Bytes value).findIdx? fun byte => !isTokenByte byte with
    | some index =>
      .error s!"{field} has a character at byte {index} outside printable ASCII (0x21 to 0x7E; space is not allowed)"
    | none => .ok ()

/-- The flow is an opaque token, -/
def validateFlowId (flowId : String) : Except String Unit :=
  validateOpaqueField "flow_id" flowId

/-- and so is its install, -/
def validateFlowInstallId (flowInstallId : String) : Except String Unit :=
  validateOpaqueField "flow_install_id" flowInstallId

/-- the run, -/
def validateRunId (runId : String) : Except String Unit := validateOpaqueField "run_id" runId

/-- and the agent it acts for. -/
def validateOnBehalfOfAgent (agent : String) : Except String Unit :=
  validateOpaqueField "on_behalf_of_agent" agent

/-- A flow version is from 1 to the largest integer every JSON reader decodes. -/
def validateFlowVersion (flowVersion : Nat) : Except String Unit :=
  if 1 ≤ flowVersion ∧ flowVersion ≤ 9007199254740991 then .ok ()
  else .error "flow_version must be from 1 to 9007199254740991"

/-- Sixty-four lowercase hexadecimal characters. -/
def isSha256Hex (hash : String) : Bool :=
  decide (hash.utf8ByteSize = 64) && (utf8Bytes hash).all isLowerHexByte

/-- A code hash is a SHA-256 in hexadecimal, -/
def validateFlowCodeHash (flowCodeHash : String) : Except String Unit :=
  if isSha256Hex flowCodeHash then .ok ()
  else .error "flow_code_hash must contain exactly 64 lowercase hex characters"

/-- and so is the hash of a bind proof. -/
def validateBindProofSha256 (hash : String) : Except String Unit :=
  if isSha256Hex hash then .ok ()
  else .error "bind_proof_sha256 must be exactly 64 lowercase hexadecimal characters"

/-- A project id is 1 to 128 bytes of printable, non-space ASCII. -/
def validateProjectId (value : String) : Except String Unit :=
  if value.utf8ByteSize = 0 ∨ value.utf8ByteSize > 128 then
    .error "project_id must contain 1 to 128 bytes"
  else if (utf8Bytes value).all isTokenByte then .ok ()
  else .error "project_id must be printable ASCII without whitespace"

/-- The bytes of one character inside a JSON string. -/
def jsonCharBytes (c : Char) : Nat :=
  if c = '"' ∨ c = '\\' then 2
  else if c.toNat = 8 ∨ c.toNat = 9 ∨ c.toNat = 10 ∨ c.toNat = 12 ∨ c.toNat = 13 then 2
  else if c.toNat < 0x20 then 6
  else c.utf8Size

/-- The bytes of a JSON string with its quotes. -/
def jsonStringBytes (text : String) : Nat := 2 + (text.toList.map jsonCharBytes).sum

/-- The bytes of one object member whose value takes the given bytes. -/
def jsonMemberBytes (name : String) (valueBytes : Nat) : Nat :=
  name.utf8ByteSize + 3 + valueBytes

/-- The members the attributes serialize to; what is unset is left out. -/
def ScopeAttributes.memberBytes (attributes : ScopeAttributes) : List Nat :=
  (attributes.agentId.map fun text => jsonMemberBytes "agent_id" (jsonStringBytes text)).toList
    ++ (attributes.onBehalfOfAgent.map fun text =>
      jsonMemberBytes "on_behalf_of_agent" (jsonStringBytes text)).toList
    ++ (if attributes.delegates then [jsonMemberBytes "delegates" 4] else [])
    ++ (attributes.flowId.map fun text => jsonMemberBytes "flow_id" (jsonStringBytes text)).toList
    ++ (attributes.flowVersion.map fun version =>
      jsonMemberBytes "flow_version" (toString version).utf8ByteSize).toList
    ++ (attributes.flowCodeHash.map fun text =>
      jsonMemberBytes "flow_code_hash" (jsonStringBytes text)).toList
    ++ (attributes.flowInstallId.map fun text =>
      jsonMemberBytes "flow_install_id" (jsonStringBytes text)).toList
    ++ (attributes.runId.map fun text => jsonMemberBytes "run_id" (jsonStringBytes text)).toList

/-- The bytes of the attributes as compact JSON. -/
def ScopeAttributes.jsonBytes (attributes : ScopeAttributes) : Nat :=
  2 + attributes.memberBytes.sum + (attributes.memberBytes.length - 1)

end Subconscious.ScopeRecords
