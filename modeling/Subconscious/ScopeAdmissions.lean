import Subconscious.ScopeTables

/-!
# Admission of a scoped route.open

A route.open may name a scope. The scope table admits it for the attested
opener and the target module, or refuses it by name, and stamps the bind from
the record that is live then. What the target promised to read decides which
optional fields of the stamp are sent.
-/

namespace Subconscious.ScopeAdmissions

open Protocol ScopeRecords ScopeChanges ScopeTables

/-- A refused scoped open. -/
structure ScopeAdmissionRefusal where
  code : String
  message : String
  deriving DecidableEq, Repr

/-- An admitted scoped open: its stamp, and the tag its commit is held to. -/
structure ScopeAdmission where
  owner : String
  stamp : ScopeStamp
  tag : ScopeTag
  deriving DecidableEq, Repr

/-- What an admission reads from outside the table. -/
structure AdmissionReads where
  /-- The wall clock in milliseconds. -/
  now : Nat
  /-- Whether the owner is in the supervisor's roster. -/
  ownerConfigured : Bool
  /-- Whether a proof decodes to a value with the given SHA-256 hash. -/
  bindProofMatches : String → String → Bool

/-- Whether a record lets a carrier open to a module. -/
def carrierPermits (record : ScopeRecord) (principal : Principal) (moduleId : String) : Bool :=
  match carrierAllowance record principal with
  | none => false
  | some none => true
  | some (some targets) => moduleId ∈ targets

/-- The stamp of a live scope. -/
def liveStamp (table : ScopeTable) (owner : String) (scopeRef : String) (scope : LiveScope) :
    ScopeStamp where
  owner := .reserved owner
  scopeRef := scopeRef
  scopeEpoch := scope.record.scopeEpoch
  kind := scope.record.kind
  workdir := scope.record.workdir
  projectId := scope.record.projectId
  parent := scope.record.parent
  parentState := scope.parentState
  attributes := scope.record.attributes
  ownerAuthorized := owner ∈ table.authorityOwners
  expiresAtMs := scope.record.expiresAtMs

/-- Why the owner of a selector has no scopes to look in. -/
def unsyncedRefusal (owner : String) (ownerConfigured : Bool) : ScopeAdmissionRefusal :=
  if ownerConfigured then
    ⟨"scope_not_synced", s!"{owner} has not synced its scopes since this daemon started"⟩
  else ⟨"scope_not_live", s!"{owner} is not a configured module and will never sync"⟩

/-- Why a live scope does not admit an opener at an epoch. -/
def liveRefusal (owner scopeRef : String) (scopeEpoch : Nat) (scope : LiveScope)
    (opener : Principal) (targetModule : String) (now : Nat) : Option ScopeAdmissionRefusal :=
  let liveEpoch := scope.record.scopeEpoch
  if liveEpoch ≠ scopeEpoch then
    some ⟨"scope_ended",
      s!"scope '{scopeRef}' of {owner} is live at scope_epoch {liveEpoch}, not {scopeEpoch}"⟩
  else
    match scope.passedDeadline now with
    | some deadline =>
      some ⟨"scope_not_live", s!"scope '{scopeRef}' of {owner} deadline {deadline} has passed"⟩
    | none =>
      if decide (reservedModuleId opener ≠ some owner)
          && !carrierPermits scope.record opener targetModule then
        some ⟨"scope_not_carrier",
          s!"the opener is not the owner or a carrier of scope '{scopeRef}' of {owner} permitted to open to '{targetModule}'"⟩
      else none

section

variable (table : ScopeTable) (opener : Principal) (targetModule : String)
  (selector : ScopeSelector) (reads : AdmissionReads)

/-- Attribute an opener to the scope a selector names. The checks run in the
order of the source, a retryable refusal before a terminal one. -/
def attributeOpener : Except ScopeAdmissionRefusal ScopeAdmission :=
  match selector.scopeEpoch with
  | none =>
    .error ⟨"scope_epoch_required", "a scoped route.open must name the scope_epoch it serves"⟩
  | some scopeEpoch =>
    match reservedModuleId selector.owner with
    | none => .error ⟨"scope_not_live", "a scope's owner is always a supervised module"⟩
    | some owner =>
      match (table.owners.get owner).filter OwnerScopes.synced with
      | none => .error (unsyncedRefusal owner reads.ownerConfigured)
      | some state =>
        match state.live[selector.scopeRef]? with
        | none =>
          let scopeRef := selector.scopeRef
          .error ⟨"scope_not_live", s!"{owner} holds no live scope '{scopeRef}'"⟩
        | some scope =>
          match liveRefusal owner selector.scopeRef scopeEpoch scope opener targetModule
              reads.now with
          | some refusal => .error refusal
          | none => .ok ⟨owner, liveStamp table owner selector.scopeRef scope, scope.tag⟩

/-- Check the proof the selected live epoch asks for. A supervised module was
attested at its launch and needs none. -/
def checkBindProof (table : ScopeTable) (opener : Principal) (selector : ScopeSelector)
    (bindProofMatches : String → String → Bool) : Except ScopeAdmissionRefusal Unit :=
  if (reservedModuleId opener).isSome then .ok ()
  else
    let scope := (reservedModuleId selector.owner).bind fun owner =>
      table.live? owner selector.scopeRef
    match scope.filter fun scope => some scope.record.scopeEpoch = selector.scopeEpoch with
    | none => .ok ()
    | some scope =>
      match scope.record.bindProofSha256 with
      | none => .ok ()
      | some hash =>
        match selector.bindProof with
        | none => .error ⟨"scope_bind_proof_required", "this scope requires a bind proof"⟩
        | some proof =>
          if bindProofMatches proof hash then .ok ()
          else
            .error ⟨"scope_bind_proof_mismatch", "the bind proof does not match this scope"⟩

/-- Admit a route.open that names a scope. -/
def admitOpen :
    Except ScopeAdmissionRefusal ScopeAdmission := do
  let admission ← attributeOpener table opener targetModule selector reads
  checkBindProof table opener selector reads.bindProofMatches
  .ok admission

end

/-- What a module's manifest provides, when it declares capabilities at all. -/
abbrev Capabilities := Option (List String)

/-- The module reads flows, -/
def flowScopesCapability : String := "flow-scopes/v1"

/-- the identity of their code, -/
def flowIdentityScopesCapability : String := "flow-identity-scopes/v1"

/-- runs of agents, -/
def agentRunScopesCapability : String := "agent-run-scopes/v1"

/-- the agent a scope works for, -/
def scopeOnBehalfOfCapability : String := "scope-on-behalf-of/v1"

/-- runs of workers, -/
def workerRunsCapability : String := "worker-runs/v1"

/-- the folder of a scope, -/
def scopeWorkdirCapability : String := "scope-workdir/v1"

/-- or all call modes. -/
def callModesCapability : String := "call-modes/v1"

/-- Whether a module provides a capability. -/
def provides (capabilities : Capabilities) (wanted : String) : Bool :=
  capabilities.any fun provided => wanted ∈ provided

section

variable (stamp : ScopeStamp)

section

variable (targetModule : String) (capabilities : Capabilities)

/-- A flow is opened only to a module that reads flows. -/
def checkTargetFlowSupport : Except ScopeAdmissionRefusal Unit :=
  if stamp.attributes.flowId.isNone || provides capabilities flowScopesCapability
      || provides capabilities callModesCapability then
    .ok ()
  else
    .error ⟨"target_flow_unsupported",
      s!"target module '{targetModule}' does not provide capability '{callModesCapability}' or '{flowScopesCapability}', required for a scope carrying flow_id"⟩

/-- A run that is attributed to an agent without carrying its identity. -/
def isWorkerRun : Bool :=
  stamp.attributes.runId.isSome && stamp.attributes.agentId.isNone

/-- A run is opened only to a module that reads runs of its kind. -/
def checkTargetAgentRunSupport : Except ScopeAdmissionRefusal Unit :=
  if stamp.attributes.runId.isNone then .ok ()
  else if isWorkerRun stamp then
    if provides capabilities workerRunsCapability then .ok ()
    else
      .error ⟨"target_agent_run_unsupported",
        s!"target module '{targetModule}' does not provide capability '{workerRunsCapability}', required for a worker run scope (run_id without agent_id)"⟩
  else if provides capabilities callModesCapability
      || (!stamp.attributes.delegates && provides capabilities agentRunScopesCapability) then
    .ok ()
  else
    .error ⟨"target_agent_run_unsupported",
      if stamp.attributes.delegates then
        s!"target module '{targetModule}' does not provide capability '{callModesCapability}', required for a run scope delegating agent authority"
      else
        s!"target module '{targetModule}' does not provide capability '{callModesCapability}' or '{agentRunScopesCapability}', required for a scope carrying run_id"⟩

/-- Both gates of a target, in their order. -/
def checkTargetSupport :
    Except ScopeAdmissionRefusal Unit := do
  checkTargetFlowSupport stamp targetModule capabilities
  checkTargetAgentRunSupport stamp targetModule capabilities

/-- A worker run whose target promised to read one. -/
def relaysWorkerRun : Bool :=
  isWorkerRun stamp && provides capabilities workerRunsCapability

/-- The folder fields, for a target that reads them. -/
def ScopeStamp.keepWorkdir : ScopeStamp :=
  if provides capabilities scopeWorkdirCapability then stamp
  else { stamp with workdir := none, projectId := none }

/-- The agent a scope works for, for a target that reads it. -/
def ScopeStamp.keepOnBehalfOf : ScopeStamp :=
  if relaysWorkerRun stamp capabilities || provides capabilities scopeOnBehalfOfCapability then
    stamp
  else { stamp with attributes := { stamp.attributes with onBehalfOfAgent := none } }

/-- The identity of a flow's code, for a target that reads it. -/
def ScopeStamp.keepFlowIdentity : ScopeStamp :=
  if provides capabilities flowIdentityScopesCapability then stamp
  else
    { stamp with
      attributes := { stamp.attributes with
        flowVersion := none, flowCodeHash := none, flowInstallId := none } }

/-- The deadline, for a target that reads call modes. -/
def ScopeStamp.keepDeadline : ScopeStamp :=
  if relaysWorkerRun stamp capabilities || provides capabilities callModesCapability then stamp
  else { stamp with expiresAtMs := none }

/-- The stamp as the route.bind carries it. -/
def relayedStamp : ScopeStamp :=
  let stamp := ScopeStamp.keepWorkdir stamp capabilities
  let stamp := ScopeStamp.keepOnBehalfOf stamp capabilities
  let stamp := ScopeStamp.keepFlowIdentity stamp capabilities
  ScopeStamp.keepDeadline stamp capabilities

end

end

/-- A record that lets a principal open to a module: its owner's own, or one
that names the principal as a carrier. -/
def Grants (owner : String) (record : ScopeRecord) (principal : Principal) (moduleId : String) :
    Prop :=
  principal = .reserved owner ∨ carrierPermits record principal moduleId = true

/-- An admitted open names a live, unexpired session whose record grants it. -/
structure Admitted (table : ScopeTable) (opener : Principal) (targetModule : String)
    (selector : ScopeSelector) (now : Nat) (admission : ScopeAdmission) (scope : LiveScope) :
    Prop where
  live : table.live? admission.owner selector.scopeRef = some scope
  owner : selector.owner = .reserved admission.owner
  epoch : selector.scopeEpoch = some scope.record.scopeEpoch
  unexpired : scope.passedDeadline now = none
  grants : Grants admission.owner scope.record opener targetModule
  stamp : admission.stamp = liveStamp table admission.owner selector.scopeRef scope
  tag : admission.tag = scope.tag

variable (stamp : ScopeStamp)

/-- A scope that refuses nothing is at the epoch, unexpired, and grants the open. -/
theorem liveRefusal_none
    (h : liveRefusal owner scopeRef scopeEpoch scope opener targetModule now = none) :
    scope.record.scopeEpoch = scopeEpoch ∧ scope.passedDeadline now = none ∧
      Grants owner scope.record opener targetModule := by
  unfold liveRefusal at h
  dsimp only at h
  split at h
  case isTrue => cases h
  rename_i hepoch
  split at h
  case h_1 => cases h
  rename_i hdeadline
  split at h
  case isTrue => cases h
  case isFalse hgrants =>
    refine ⟨not_not.mp hepoch, hdeadline, ?_⟩
    by_cases hcarried : carrierPermits scope.record opener targetModule = true
    · exact .inr hcarried
    · refine .inl (reservedModuleId_eq ?_)
      simpa [hcarried] using hgrants

/-- An attributed open is admitted by a live scope. -/
theorem attributeOpener_ok
    (h : attributeOpener table opener targetModule selector reads = .ok admission) :
    ∃ scope, Admitted table opener targetModule selector reads.now admission scope := by
  unfold attributeOpener at h
  split at h
  case h_1 => cases h
  rename_i scopeEpoch hepoch
  split at h
  case h_1 => cases h
  rename_i owner howner
  split at h
  case h_1 => cases h
  rename_i state hstate
  split at h
  case h_1 => cases h
  rename_i scope hlive
  split at h
  case h_1 => cases h
  case h_2 hrefusal =>
    cases h
    obtain ⟨hsame, hunexpired, hgrants⟩ := liveRefusal_none hrefusal
    refine ⟨scope, ?_, reservedModuleId_eq howner, ?_, hunexpired, hgrants, rfl, rfl⟩
    · unfold ScopeTable.live? ScopeTable.owner
      rw [(Option.filter_eq_some_iff.mp hstate).1]
      exact hlive
    · rw [hepoch, hsame]

/-- So is an admitted one. -/
theorem admitOpen_ok (h : admitOpen table opener targetModule selector reads = .ok admission) :
    ∃ scope, Admitted table opener targetModule selector reads.now admission scope := by
  unfold admitOpen at h
  cases hattribute : attributeOpener table opener targetModule selector reads with
  | error =>
    rw [hattribute] at h
    cases h
  | ok =>
    rw [hattribute] at h
    cases hproof : checkBindProof table opener selector reads.bindProofMatches with
    | error =>
      simp only [bind, Except.bind, hproof] at h
      cases h
    | ok =>
      simp only [bind, Except.bind, hproof] at h
      cases h
      exact attributeOpener_ok hattribute

/-- What stripping a stamp leaves as it was. -/
structure SameAuthority (stamp relayed : ScopeStamp) : Prop where
  owner : relayed.owner = stamp.owner
  scopeRef : relayed.scopeRef = stamp.scopeRef
  scopeEpoch : relayed.scopeEpoch = stamp.scopeEpoch
  parent : relayed.parent = stamp.parent
  parentState : relayed.parentState = stamp.parentState
  agentId : relayed.attributes.agentId = stamp.attributes.agentId
  delegates : relayed.attributes.delegates = stamp.attributes.delegates
  flowId : relayed.attributes.flowId = stamp.attributes.flowId
  runId : relayed.attributes.runId = stamp.attributes.runId

/-- A field that is stripped or kept leaves what stripping it leaves. -/
theorem SameAuthority.ite {stamp : ScopeStamp} [Decidable c] (h : SameAuthority stamp other) :
    SameAuthority stamp (if c then stamp else other) := by
  split
  case isTrue => constructor <;> rfl
  case isFalse => exact h

/-- What two strippings leave, both leave. -/
theorem SameAuthority.trans (hab : SameAuthority a b) (hbc : SameAuthority b c) :
    SameAuthority a c where
  owner := hbc.owner.trans hab.owner
  scopeRef := hbc.scopeRef.trans hab.scopeRef
  scopeEpoch := hbc.scopeEpoch.trans hab.scopeEpoch
  parent := hbc.parent.trans hab.parent
  parentState := hbc.parentState.trans hab.parentState
  agentId := hbc.agentId.trans hab.agentId
  delegates := hbc.delegates.trans hab.delegates
  flowId := hbc.flowId.trans hab.flowId
  runId := hbc.runId.trans hab.runId

/-- A worker run stays one. -/
theorem SameAuthority.workerRun (h : SameAuthority stamp relayed) (capabilities : Capabilities) :
    relaysWorkerRun relayed capabilities = relaysWorkerRun stamp capabilities := by
  unfold relaysWorkerRun isWorkerRun
  rw [h.agentId, h.runId]

section

variable (capabilities : Capabilities)

/-- The folder says nothing of the authority, -/
theorem keepWorkdir_same : SameAuthority stamp (ScopeStamp.keepWorkdir stamp capabilities) :=
  .ite (by constructor <;> rfl)

/-- nor does the agent a scope works for, -/
theorem keepOnBehalfOf_same : SameAuthority stamp (ScopeStamp.keepOnBehalfOf stamp capabilities) :=
  .ite (by constructor <;> rfl)

/-- the identity of a flow's code, -/
theorem keepFlowIdentity_same :
    SameAuthority stamp (ScopeStamp.keepFlowIdentity stamp capabilities) :=
  .ite (by constructor <;> rfl)

/-- or the deadline. -/
theorem keepDeadline_same : SameAuthority stamp (ScopeStamp.keepDeadline stamp capabilities) :=
  .ite (by constructor <;> rfl)

/-- The relayed stamp carries the authority of the admitted one. -/
theorem relayedStamp_same : SameAuthority stamp (relayedStamp stamp capabilities) :=
  (((keepWorkdir_same stamp capabilities).trans
    (keepOnBehalfOf_same _ capabilities)).trans (keepFlowIdentity_same _ capabilities)).trans
    (keepDeadline_same _ capabilities)

/-- The agent a scope works for is the one field about an agent that a target
may not be told. -/
theorem relayedStamp_onBehalfOfAgent :
    (relayedStamp stamp capabilities).attributes.onBehalfOfAgent =
      if relaysWorkerRun stamp capabilities || provides capabilities scopeOnBehalfOfCapability
      then stamp.attributes.onBehalfOfAgent else none := by
  have hworkdir : (ScopeStamp.keepWorkdir stamp capabilities).attributes = stamp.attributes := by
    unfold ScopeStamp.keepWorkdir
    split <;> rfl
  have hidentity : ∀ other, (ScopeStamp.keepFlowIdentity other capabilities).attributes.onBehalfOfAgent =
      other.attributes.onBehalfOfAgent := by
    intro other
    unfold ScopeStamp.keepFlowIdentity
    split <;> rfl
  have hdeadline : ∀ other, (ScopeStamp.keepDeadline other capabilities).attributes =
      other.attributes := by
    intro other
    unfold ScopeStamp.keepDeadline
    split <;> rfl
  unfold relayedStamp
  rw [hdeadline, hidentity]
  unfold ScopeStamp.keepOnBehalfOf
  rw [(keepWorkdir_same stamp capabilities).workerRun]
  split
  case isTrue => rw [hworkdir]
  case isFalse => rfl

end

end Subconscious.ScopeAdmissions
