import Subconscious.ScopedWorld
import Subconscious.ForwardingSteps

/-!
# What one event does

An event is a call of one of the two tables, or it concerns one lease. What an
admission decided and what its bind was stamped with outlive every call, whose
effects and drops only release leases.
-/

namespace Subconscious.ScopedSteps

open HashMaps Protocol ScopeChanges ScopeTables ScopeSync ScopeRuns ScopeAdmissions ForwardingState
open ForwardingRelays ForwardingRuns ScopedWorld

variable (world : World)

/-- A change reaches one lease. -/
theorem lease_setLease (id other : LeaseId) (change : Lease → Lease) :
    (world.setLease id change).leases[other]? =
      world.leases[other]?.map fun lease => if id = other then change lease else lease := by
  unfold World.setLease
  rw [List.getElem?_modify]
  cases world.leases[other]? with
  | none => rfl
  | some =>
    simp only [Option.map_some]
    split <;> rfl

/-- Only leases, counters and set flags differ. -/
def LeasesOnly (world world' : World) : Prop :=
  world' = { world with
    leases := world'.leases
    binds := world'.binds
    present := world'.present }

/-- A world differs from itself in nothing. -/
theorem LeasesOnly.refl : LeasesOnly world world := rfl

/-- Two such changes are one. -/
theorem LeasesOnly.trans (hab : LeasesOnly a b) (hbc : LeasesOnly b c) : LeasesOnly a c := by
  unfold LeasesOnly
  rw [hbc, hab]

/-- A release changes its lease and a counter. -/
theorem release_leasesOnly {id : LeaseId} : LeasesOnly world (world.release id) := by
  unfold World.release
  split
  case h_1 => rfl
  case h_2 =>
    split
    case isTrue | isFalse => rfl

/-- An effect changes a lease, a counter or a flag. -/
theorem applyEffect_leasesOnly (effect : Effect) : LeasesOnly world (world.applyEffect effect) := by
  cases effect with
  | releaseBind lease => exact release_leasesOnly world
  | commitPresence lease =>
    change LeasesOnly world (world.commitPresence lease)
    unfold World.commitPresence
    split
    case h_1 | h_2 => rfl
  | _ => exact .refl world

/-- What releases keep, a drop keeps. -/
theorem dropUnheld_induction {motive : World → Prop} {world : World} (h : motive world)
    (hrelease : ∀ acc id, motive acc → motive (acc.release id)) : motive world.dropUnheld := by
  refine List.foldlRecOn (motive := motive) _ _ h ?_
  intro acc hacc id _
  split
  case h_1 =>
    split
    case isTrue => exact hacc
    case isFalse => exact hrelease acc id hacc
  case h_2 => exact hacc

/-- A drop changes leases and counters. -/
theorem dropUnheld_leasesOnly : LeasesOnly world world.dropUnheld :=
  dropUnheld_induction (.refl world) fun acc _ hacc => hacc.trans (release_leasesOnly acc)

/-- A call changes the forwarding table and the leases. -/
theorem callTable_frame :
    LeasesOnly { world with forwarding := op.apply world.forwarding } (world.callTable op) := by
  refine .trans ?_ (dropUnheld_leasesOnly _)
  refine List.foldlRecOn (motive := LeasesOnly _) _ _ (.refl _) ?_
  exact fun acc hacc effect _ => hacc.trans (applyEffect_leasesOnly acc effect)

/-- A call leaves the scopes alone. -/
theorem callTable_scopes : (world.callTable op).scopes = world.scopes := by
  rw [callTable_frame]

/-- A call is one of the forwarding table. -/
theorem callTable_forwarding : (world.callTable op).forwarding = op.apply world.forwarding := by
  rw [callTable_frame]

section read

variable {α : Type} {f : Lease → α} {world : World} {id : LeaseId}

/-- What a change of one lease leaves alone. -/
theorem read_setLease {other : LeaseId} {change : Lease → Lease}
    (h : ∀ lease, f (change lease) = f lease) :
    (world.setLease id change).leases[other]?.map f = world.leases[other]?.map f := by
  rw [lease_setLease, Option.map_map]
  congr 1
  funext lease
  rw [Function.comp_apply]
  split
  case isTrue => exact h lease
  case isFalse => rfl

variable (h : ∀ lease released, f { lease with released := released } = f lease)
include h

/-- A release marks a lease and does nothing else to it. -/
theorem read_release (other : LeaseId) :
    (world.release other).leases[id]?.map f = world.leases[id]?.map f := by
  unfold World.release
  split
  case h_1 => rfl
  split
  case isTrue => rfl
  case isFalse => exact read_setLease fun lease => h lease true

/-- So does an effect, -/
theorem read_applyEffect (effect : Effect) :
    (world.applyEffect effect).leases[id]?.map f = world.leases[id]?.map f := by
  cases effect with
  | releaseBind lease => exact read_release h lease
  | commitPresence lease =>
    change (world.commitPresence lease).leases[id]?.map f = _
    unfold World.commitPresence
    split
    case h_1 | h_2 => rfl
  | _ => rfl

/-- a drop, -/
theorem read_dropUnheld : world.dropUnheld.leases[id]?.map f = world.leases[id]?.map f :=
  dropUnheld_induction (motive := fun acc => acc.leases[id]?.map f = world.leases[id]?.map f) rfl
    fun _ other hacc => (read_release h other).trans hacc

/-- and a call. -/
theorem read_callTable : (world.callTable op).leases[id]?.map f = world.leases[id]?.map f := by
  refine (read_dropUnheld h).trans ?_
  refine List.foldlRecOn (motive := fun acc : World =>
    acc.leases[id]?.map f = world.leases[id]?.map f) _ _ rfl ?_
  exact fun _ hacc effect _ => (read_applyEffect h effect).trans hacc

end read

/-- What the admission of a lease decided. -/
def grantAt (world : World) (id : LeaseId) : Option Grant := (world.leases[id]?).map Lease.grant

/-- The grant a reserved bind is given. -/
def World.newGrant (world : World) (request : ScopedOpen) (admission : ScopeAdmission)
    (scope : LiveScope) : Grant :=
  ⟨admission.owner, request.selector, request.opener, request.connectionId, request.targetModule,
    scope, admission.stamp,
    (world.presenceHandle scope.cells request.connectionId
      (request.selector.holdPresence && countsForIdle request.opener)).1⟩

/-- A reserved bind adds one lease, which its open holds. -/
theorem lease_reserveBind (id : LeaseId) :
    (world.reserveBind request admission scope).leases[id]? =
      if id = world.leases.length then
        some ⟨World.newGrant world request admission scope, !countsForIdle request.opener, true,
          false, none⟩
      else world.leases[id]? := by
  unfold World.reserveBind
  rw [List.getElem?_append]
  split
  case isTrue hlt =>
    rw [if_neg (Nat.ne_of_lt hlt)]
  rename_i hge
  split
  case isTrue heq =>
    rw [heq, Nat.sub_self]
    rfl
  case isFalse hne =>
    have hlt : world.leases.length < id := Nat.lt_of_le_of_ne (Nat.le_of_not_lt hge) (Ne.symm hne)
    rw [List.getElem?_eq_none (by rw [List.length_singleton]; omega),
      List.getElem?_eq_none (Nat.le_of_lt hlt)]

/-- What one event can do. -/
inductive Stepped (world : World) (event : Event) : World → Prop where
  | same : Stepped world event world
  | published (op : ScopeOp) (hop : scopeCall world event = some op) :
      Stepped world event (world.changeScopes op)
  | disconnected (connectionId : ConnectionId) :
      Stepped world event (world.releaseConnection connectionId)
  | opened (request : ScopedOpen) (admission : ScopeAdmission) (scope : LiveScope)
      (hevent : event = .openScoped request)
      (hadmitted : Admitted world.scopes request.opener request.targetModule request.selector
        request.reads.now admission scope) :
      Stepped world event (world.reserveBind request admission scope)
  | abandoned (id : LeaseId) :
      Stepped world event
        (world.setLease id fun lease => { lease with waiting := false }).dropUnheld
  | begun (id : LeaseId) (lease : Lease) (request : RelayRequest)
      (hlease : world.leases[id]? = some lease) :
      Stepped world event
        ((world.setLease id fun lease => { lease with waiting := false }).callTable
          (.beginRouteBindRelay (lease.grant.relayRequest id request)))
  | sent (id : LeaseId) (capabilities : Capabilities) (bindProofMatches : String → String → Bool)
      (hevent : event = .sendBind id capabilities bindProofMatches) :
      Stepped world event (world.setLease id fun lease =>
        { lease with stamp := some (relayedStamp lease.grant.issued capabilities) })
  | retained (id : LeaseId) :
      Stepped world event (world.setLease id fun lease => { lease with retained := true })
  | forgotten (id : LeaseId) :
      Stepped world event
        (world.setLease id fun lease => { lease with retained := false }).dropUnheld
  | called (op : Op) (hplain : plainCall op = true) : Stepped world event (world.callTable op)

/-- An open is admitted or refused. -/
theorem openScoped_stepped (request : ScopedOpen) :
    Stepped world (.openScoped request) (world.openScoped request) := by
  unfold World.openScoped
  cases hadmit : admitOpen world.scopes request.opener request.targetModule request.selector
      request.reads with
  | error refusal => exact .same
  | ok admission =>
    obtain ⟨scope, hadmitted⟩ := admitOpen_ok hadmit
    have hlive : world.scopes.live? admission.owner admission.stamp.scopeRef = some scope := by
      rw [hadmitted.stamp]
      exact hadmitted.live
    dsimp only
    split
    case h_1 => exact .same
    case h_2 =>
      rw [hlive]
      exact .opened request admission scope rfl hadmitted

/-- A bind is sent or refused. -/
theorem sendBind_stepped (id : LeaseId) :
    Stepped world (.sendBind id capabilities bindProofMatches)
      (world.sendBind id capabilities bindProofMatches) := by
  unfold World.sendBind
  split
  case h_1 => exact .same
  split
  case isTrue => exact .same
  split
  case h_1 => exact .same
  split
  case h_1 => exact .same
  case h_2 => exact .sent id capabilities bindProofMatches rfl

/-- Every event is one of these. -/
theorem stepped (event : Event) : Stepped world event (step world event) := by
  cases event with
  | changeScopes | sweepExpired => exact .published _ rfl
  | releaseConnection connectionId => exact .disconnected connectionId
  | openScoped request => exact openScoped_stepped world request
  | abandonOpen id => exact .abandoned id
  | beginScoped id request =>
    change Stepped world _ (world.beginScoped id request)
    unfold World.beginScoped
    split
    case h_1 => exact .same
    case h_2 lease hlease =>
      split
      case isTrue => exact .begun id lease request hlease
      case isFalse => exact .same
  | sendBind id capabilities bindProofMatches =>
    exact sendBind_stepped world id
  | retain id =>
    simp only [step]
    split
    case isTrue => exact .retained id
    case isFalse => exact .same
  | forget id => exact .forgotten id
  | call op =>
    simp only [step]
    split
    case isTrue hplain => exact .called op hplain
    case isFalse => exact .same

/-- A relay is asked for as the lease of its scope was granted. -/
def Granted (world : World) (request : RelayRequest) : Prop :=
  ∀ scope, request.scope = some scope → ∃ grant, grantAt world scope.lease = some grant ∧
    scope = grant.bound scope.lease ∧ request.principal = grant.opener ∧
    request.moduleId = grant.targetModule

/-- What one event does to the tables and the grants. -/
inductive TablesStep (world : World) (event : Event) (world' : World) : Prop where
  /-- The forwarding table, the live scopes and the grants are as they were. -/
  | kept (hforwarding : world'.forwarding = world.forwarding)
      (hscopes : world'.scopes = world.scopes ∨ ∃ connectionId,
        world'.scopes = (ScopeOp.releaseConnection connectionId).apply world.scopes)
      (hlive : ∀ owner scopeRef, world'.scopes.live? owner scopeRef =
        world.scopes.live? owner scopeRef)
      (hgrants : ∀ id, grantAt world' id = grantAt world id)
  /-- A call of the forwarding table that publishes nothing. -/
  | called (op : Op) (hunpublished : ∀ changes, op ≠ .publishScopeChanges changes)
      (hgranted : ∀ request, op = .beginRouteBindRelay request → Granted world request)
      (hforwarding : world'.forwarding = op.apply world.forwarding)
      (hscopes : world'.scopes = world.scopes)
      (hgrants : ∀ id, grantAt world' id = grantAt world id)
  /-- A scope call publishes what it changed. -/
  | published (op : ScopeOp) (hop : scopeCall world event = some op)
      (hforwarding : world'.forwarding =
        (Op.publishScopeChanges (op.tagChanges world.scopes)).apply world.forwarding)
      (hscopes : world'.scopes = op.apply world.scopes)
      (hgrants : ∀ id, grantAt world' id = grantAt world id)
  /-- An open is admitted. -/
  | opened (request : ScopedOpen) (admission : ScopeAdmission) (scope : LiveScope)
      (hevent : event = .openScoped request)
      (hadmitted : Admitted world.scopes request.opener request.targetModule request.selector
        request.reads.now admission scope)
      (hforwarding : world'.forwarding = world.forwarding)
      (hscopes : world'.scopes = world.scopes)
      (hgrants : ∀ id, grantAt world' id =
        if id = world.leases.length then some (World.newGrant world request admission scope)
        else grantAt world id)

/-- An event that changes leases alone. -/
theorem TablesStep.of_leases {world world' : World}
    (hforwarding : world'.forwarding = world.forwarding) (hscopes : world'.scopes = world.scopes)
    (hgrants : ∀ id, grantAt world' id = grantAt world id) : TablesStep world event world' := by
  refine .kept hforwarding (.inl hscopes) ?_ hgrants
  intro owner scopeRef
  rw [hscopes]

/-- A lease is changed, and what nothing holds any more is dropped. -/
theorem TablesStep.of_dropped {world : World} (id : LeaseId)
    {change : Lease → Lease} (h : ∀ lease, (change lease).grant = lease.grant) :
    TablesStep world event (world.setLease id change).dropUnheld := by
  refine .of_leases ?_ ?_ fun _ => (read_dropUnheld fun _ _ => rfl).trans (read_setLease h)
  · rw [dropUnheld_leasesOnly]
    rfl
  · rw [dropUnheld_leasesOnly]
    rfl

/-- Every event does one of these. -/
theorem step_tables (event : Event) : TablesStep world event (step world event) := by
  have hstep := stepped world event
  generalize step world event = world' at hstep ⊢
  cases hstep with
  | same => exact .of_leases rfl rfl fun _ => rfl
  | published op hop =>
    exact .published op hop (callTable_forwarding _) (callTable_scopes _)
      fun _ => read_callTable fun _ _ => rfl
  | disconnected connectionId =>
    exact .kept rfl (.inr ⟨connectionId, rfl⟩) (fun _ _ => releaseConnection_live) fun _ => rfl
  | opened request admission scope hevent hadmitted =>
    refine .opened request admission scope hevent hadmitted rfl rfl ?_
    intro id
    unfold grantAt
    rw [lease_reserveBind]
    split <;> rfl
  | abandoned id => exact .of_dropped id fun _ => rfl
  | begun id lease request hlease =>
    refine .called _ (fun _ => by nofun) ?_ (callTable_forwarding _) (callTable_scopes _)
      fun _ => (read_callTable fun _ _ => rfl).trans (read_setLease fun _ => rfl)
    rintro _ ⟨⟩ scope hscope
    cases hscope
    exact ⟨lease.grant, congrArg (Option.map Lease.grant) hlease, rfl, rfl, rfl⟩
  | sent id | retained id => exact .of_leases rfl rfl fun _ => read_setLease fun _ => rfl
  | forgotten id => exact .of_dropped id fun _ => rfl
  | called op hplain =>
    refine .called op ?_ ?_ (callTable_forwarding world) (callTable_scopes world)
      fun _ => read_callTable fun _ _ => rfl
    · rintro changes rfl
      cases hplain
    · rintro request rfl scope hscope
      rw [plainCall, hscope] at hplain
      cases hplain

end Subconscious.ScopedSteps
