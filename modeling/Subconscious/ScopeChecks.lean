import Subconscious.ScopeTables

/-!
# What a scope call is refused for

A call is refused whole when the connection may not speak for the owner, when
its generation is stale, or when its body is malformed or too large. A single
record of an accepted call is refused on its own merits, and the refusal says
with a code and a text what was wrong.
-/

namespace Subconscious.ScopeChecks

open HashMaps Protocol ScopeRecords ScopeTables

/-- A refused call. -/
structure SyncRefusal where
  code : String
  message : String
  deriving DecidableEq, Repr

/-- The code and text of a refused record. -/
abbrev RecordRefusal := String × String

/-- One `scope.sync`, or with ends one `scope.apply`. -/
structure ScopeChange where
  /-- The module registered on the connection. -/
  owner : String
  connectionId : ConnectionId
  /-- Whether a connection presented the launch nonce of the owner's current process. -/
  isCurrentLaunch : ConnectionId → Bool
  generation : Nat
  records : List ScopeRecord
  /-- Records whose folder could not be prepared, by index. -/
  refusals : HashMap Nat RecordRefusal
  ends : Option (List ScopeEnd)

section

variable (state : OwnerScopes)

/-- Whether the connection may sync for the owner, and whether doing so takes
authority. -/
def checkAuthority (connectionId : ConnectionId) (isCurrentLaunch : ConnectionId → Bool) :
    Except SyncRefusal Bool :=
  if !isCurrentLaunch connectionId then
    .error ⟨"scope_sync_not_authority",
      "this connection is not the owner's current supervised launch"⟩
  else
    match state.authority with
    | none => .ok true
    | some authority =>
      if authority.connectionId = connectionId then .ok false
      else if isCurrentLaunch authority.connectionId then
        .error ⟨"scope_sync_not_authority",
          "another connection of the owner's current launch holds sync authority"⟩
      else .ok true

/-- A condition that refuses the call when it fails. -/
def require (condition : Bool) (refusal : SyncRefusal) : Except SyncRefusal Unit :=
  if condition then .ok () else .error refusal

/-- A delta needs a full sync on the same connection before it. -/
def checkSynced (takingAuthority : Bool) (ends : Option (List ScopeEnd)) :
    Except SyncRefusal Unit :=
  require (!(ends.isSome && (takingAuthority || !state.synced)))
    ⟨"scope_sync_required", "scope.apply requires a full scope.sync on this authority connection"⟩

/-- Generations grow on one connection. -/
def checkGeneration (takingAuthority : Bool) (generation : Nat) : Except SyncRefusal Unit :=
  match state.authority with
  | none => .ok ()
  | some authority =>
    let lastGeneration := authority.lastGeneration
    require (takingAuthority || decide (lastGeneration < generation))
      ⟨"scope_sync_stale",
        s!"generation {generation} is not larger than the last accepted generation {lastGeneration}"⟩

/-- A malformed body. -/
def invalidControlBody (message : String) : SyncRefusal := ⟨"invalid_control_body", message⟩

/-- Check a field that may be absent. -/
def checkOptional {α : Type} (check : α → Except String Unit) (field : Option α) :
    Except SyncRefusal Unit :=
  match field with
  | none => .ok ()
  | some value => (check value).mapError invalidControlBody

/-- The checks of one record before its ref is compared with the others. -/
def checkIdentity (record : ScopeRecord) : Except SyncRefusal Unit := do
  checkOptional validateProjectId record.projectId
  checkOptional validateBindProofSha256 record.bindProofSha256
  require (decide (record.scopeRef ≠ "")) (invalidControlBody "a scope ref must not be empty")

/-- The checks of one record's attributes. -/
def checkAttributes (record : ScopeRecord) : Except SyncRefusal Unit := do
  checkOptional validateFlowId record.attributes.flowId
  checkOptional validateFlowVersion record.attributes.flowVersion
  checkOptional validateFlowCodeHash record.attributes.flowCodeHash
  checkOptional validateFlowInstallId record.attributes.flowInstallId
  checkOptional validateRunId record.attributes.runId
  checkOptional validateOnBehalfOfAgent record.attributes.onBehalfOfAgent
  let scopeRef := record.scopeRef
  let attributeBytes := record.attributes.jsonBytes
  require (decide (attributeBytes ≤ maxScopeAttributeBytes)) ⟨"scope_attributes_too_large",
    s!"scope '{scopeRef}' carries {attributeBytes} bytes of attributes, over the limit of {maxScopeAttributeBytes}"⟩

/-- The records one after the other, with the refs already seen. -/
def checkSyncRecords (seen : List String) : List ScopeRecord → Except SyncRefusal Unit
  | [] => .ok ()
  | record :: records => do
    checkIdentity record
    let scopeRef := record.scopeRef
    require (decide (scopeRef ∉ seen))
      (invalidControlBody s!"scope ref '{scopeRef}' appears more than once")
    checkAttributes record
    checkSyncRecords (scopeRef :: seen) records

/-- Bounds that refuse the whole call, and bodies malformed as a set. -/
def checkSyncBounds (records : List ScopeRecord) : Except SyncRefusal Unit := do
  let count := records.length
  require (decide (count ≤ maxLiveScopesPerOwner)) ⟨"scope_live_limit_exceeded",
    s!"{count} scopes exceed the limit of {maxLiveScopesPerOwner} live scopes per owner"⟩
  checkSyncRecords [] records

/-- The ends one after the other, with the refs already seen. -/
def checkEndRefs (seen : List String) : List ScopeEnd → Except SyncRefusal Unit
  | [] => .ok ()
  | entry :: ends => do
    let scopeRef := entry.scopeRef
    require (decide (scopeRef ≠ "") && decide (scopeRef ∉ seen))
      (invalidControlBody s!"scope ref '{scopeRef}' is empty or appears more than once")
    checkEndRefs (scopeRef :: seen) ends

/-- Bounds of the ends of a delta; an end names no upserted ref. -/
def checkEndBounds (records : List ScopeRecord) (ends : List ScopeEnd) :
    Except SyncRefusal Unit := do
  let count := ends.length
  require (decide (count ≤ maxLiveScopesPerOwner)) ⟨"scope_live_limit_exceeded",
    s!"{count} end entries exceed the limit of {maxLiveScopesPerOwner}"⟩
  checkEndRefs (records.map ScopeRecord.scopeRef) ends

/-- Every check of a call that comes before anything is staged. -/
def checkCall (change : ScopeChange) : Except SyncRefusal Unit := do
  let takingAuthority ← checkAuthority state change.connectionId change.isCurrentLaunch
  checkSynced state takingAuthority change.ends
  checkGeneration state takingAuthority change.generation
  checkSyncBounds change.records
  match change.ends with
  | none => .ok ()
  | some ends => checkEndBounds change.records ends

end

section

variable (record : ScopeRecord)

/-- A targeted carrier lists some modules, but not too many. -/
def carrierRefusal : Option RecordRefusal :=
  (record.carriers.filterMap ScopeCarrier.targets).findSome? fun targets =>
    let count := targets.length
    if count = 0 ∨ count > maxCarrierTargets then
      some ("scope_carrier_targets_invalid",
        s!"a targeted carrier must list 1 to {maxCarrierTargets} modules, not {count}")
    else none

/-- Which attributes may be set, and which together. -/
def attributeRefusal (ownerAuthorized : Bool) : Option RecordRefusal :=
  let attributes := record.attributes
  if !attributes.isEmpty && !ownerAuthorized then
    some ("scope_attribute_not_permitted",
      "agent_id, on_behalf_of_agent, delegates, flow_id, flow_version, flow_code_hash, flow_install_id and run_id may be set only by an owner listed in scope_authority_owners")
  else if attributes.onBehalfOfAgent.isSome
      && (attributes.agentId.isSome || attributes.delegates || attributes.flowId.isSome) then
    some ("scope_attribute_not_permitted",
      "on_behalf_of_agent cannot accompany agent_id, delegates or flow_id")
  else if attributes.delegates && attributes.agentId.isNone then
    some ("scope_delegates_without_agent", "delegates requires an agent_id")
  else if attributes.runId.isSome && attributes.agentId.isNone
      && attributes.onBehalfOfAgent.isNone then
    some ("scope_run_id_without_agent",
      "run_id requires an agent_id or, for a worker run, an on_behalf_of_agent")
  else if attributes.runId.isSome && attributes.flowId.isSome then
    some ("scope_run_id_with_flow_id", "run_id cannot accompany flow_id")
  else none

/-- An ended session does not come back. -/
def tombstoneRefusal (tombstones : Tombstones) : Option RecordRefusal :=
  let epoch := record.scopeEpoch
  (tombstones.cause record.scopeRef epoch).map fun cause =>
    (if cause = .expired then "scope_expired" else "scope_epoch_ended",
      s!"scope_epoch {epoch} of this ref already ended; use a higher epoch")

section

variable (held : Option LiveScope)

/-- What is fixed for one epoch, and that epochs do not go back. -/
def epochRefusal (tombstones : Tombstones) : Option RecordRefusal :=
  let epoch := record.scopeEpoch
  match held with
  | some held =>
    let heldEpoch := held.record.scopeEpoch
    let was := held.record.attributes
    let now := record.attributes
    if epoch < heldEpoch then
      some ("scope_epoch_regressed",
        s!"scope_epoch {epoch} is lower than the live epoch {heldEpoch}")
    else if epoch = heldEpoch ∧ record.kind ≠ held.record.kind then
      some ("scope_kind_changed",
        s!"kind is fixed for scope_epoch {epoch}; use a higher epoch to change it")
    else if epoch = heldEpoch ∧ (now.flowVersion ≠ was.flowVersion
        ∨ now.flowCodeHash ≠ was.flowCodeHash ∨ now.flowInstallId ≠ was.flowInstallId) then
      some ("scope_flow_identity_changed",
        s!"flow_version, flow_code_hash and flow_install_id are fixed for scope_epoch {epoch}; use a higher epoch to change them")
    else if epoch = heldEpoch ∧ record.workdir ≠ held.record.workdir then
      some ("scope_workdir_changed",
        s!"workdir is fixed for scope_epoch {epoch}; use a higher epoch to change it")
    else if epoch = heldEpoch ∧ record.projectId ≠ held.record.projectId then
      some ("scope_project_changed",
        s!"project_id is fixed for scope_epoch {epoch}; use a higher epoch to change it")
    else none
  | none =>
    ((tombstones.latest record.scopeRef).filter fun latest => epoch < latest).map fun latest =>
      ("scope_epoch_regressed", s!"scope_epoch {epoch} is lower than the ended epoch {latest}")

/-- The identity of an installed flow is whole and belongs to a flow. -/
def flowIdentityRefusal : Option RecordRefusal :=
  let attributes := record.attributes
  let present := [attributes.flowVersion.isSome, attributes.flowCodeHash.isSome,
    attributes.flowInstallId.isSome]
  if present.any id && (!present.all id || attributes.flowId.isNone) then
    some ("scope_attribute_not_permitted",
      "flow_version, flow_code_hash and flow_install_id must be present together and require flow_id")
  else none

/-- Deadlines are fixed for one epoch, and a new one lies ahead within a day. -/
def expiryRefusal (now : Nat) : Option RecordRefusal :=
  let epoch := record.scopeEpoch
  let scopeRef := record.scopeRef
  match held.filter fun held => epoch = held.record.scopeEpoch with
  | some held =>
    if held.record.expiresAtMs ≠ record.expiresAtMs then
      some ("scope_expiry_immutable",
        s!"expires_at_ms is fixed for scope_epoch {epoch}; use a higher epoch to change it")
    else none
  | none =>
    match record.expiresAtMs with
    | none => none
    | some deadline =>
      if deadline ≤ now then
        some ("scope_expired", s!"scope '{scopeRef}' deadline {deadline} has passed")
      else if deadline - now > maxScopeExpiryAheadMs then
        some ("scope_expiry_too_far",
          s!"scope '{scopeRef}' deadline exceeds the {maxScopeExpiryAheadMs} ms expiry horizon")
      else none

/-- The checks one record fails or passes on its own, before parent links. -/
def recordRefusal (tombstones : Tombstones) (ownerAuthorized : Bool) (now : Nat) :
    Option RecordRefusal :=
  carrierRefusal record <|> attributeRefusal record ownerAuthorized
    <|> tombstoneRefusal record tombstones <|> epochRefusal record held tombstones
    <|> flowIdentityRefusal record <|> expiryRefusal record held now

/-- A record may ask not to replace a session in use. -/
def idleRefusal (inUse : CellId → Bool) : Option RecordRefusal :=
  (held.filter fun held =>
    record.replaceOnlyIfIdle
      && (decide (held.record.scopeEpoch < record.scopeEpoch)
        || decide (record.bindProofSha256 ≠ held.record.bindProofSha256))
      && inUse held.cells).map fun _ =>
    ("scope_epoch_in_use", "routes are still bound to the live scope epoch")

end

end

end Subconscious.ScopeChecks
