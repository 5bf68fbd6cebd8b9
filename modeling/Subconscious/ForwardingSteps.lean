import Subconscious.ForwardingConsistency

/-!
# What one call can do to relays, routes and slots

Later results follow a relay from its reservation to its end. They need, for
every call, where a pending relay or a bound route of the next table comes
from: it was there before, or this call reserved or committed it. They also
need which calls move a slot's epoch, a module id and the tags. This module says
it once.
-/

namespace Subconscious.ForwardingSteps

open HashMaps HashMap Protocol ForwardingState ForwardingOperations ForwardingRelays
open ForwardingTeardown ForwardingControl ForwardingRuns ForwardingInvariant ForwardingFrames
open ForwardingConsistency

variable {inner : ForwardingInner}

/-- Everything a successful reservation did. -/
structure Reserved (inner : ForwardingInner) (request : RelayRequest)
    (relay : PendingRouteBindRelay) (inner' : ForwardingInner) : Prop where
  /-- The relay is on the active endpoint of the id, and nothing there is closing. -/
  target : ∃ module, relayTargetLocked inner request.clientConnectionId request.moduleId =
    .ok module ∧ relay.endpoint = module.endpoint ∧ relay.moduleSink = module.sink ∧
    ∃ frame, Frame.buildWithVersion request.clientNegotiatedVer .response routeOpenFlags 0 0
        request.clientCorr (routeOpenBody relay.slots.clientChannel relay.slots.clientEpoch none
          none) = .ok frame ∧
      inner'.pendingRelays = inner.pendingRelays.insert (relay.endpoint, relay.corr)
        (request.entry module relay.slots frame)
  /-- The key is new. -/
  fresh : inner.pendingRelays.get (relay.endpoint, relay.corr) = none
  clientEpoch : relay.slots.clientEpoch.toNat =
    ((inner.clientSlotEpochs.get ⟨request.clientConnectionId, relay.slots.clientChannel⟩).getD
      0).toNat + 1
  moduleEpoch : relay.slots.moduleEpoch.toNat =
    ((inner.moduleSlotEpochs.get ⟨relay.endpoint, relay.slots.moduleChannel⟩).getD 0).toNat + 1
  clientSlotEpochs : inner'.clientSlotEpochs = inner.clientSlotEpochs.insert
    ⟨request.clientConnectionId, relay.slots.clientChannel⟩ relay.slots.clientEpoch
  moduleSlotEpochs : inner'.moduleSlotEpochs = inner.moduleSlotEpochs.insert
    ⟨relay.endpoint, relay.slots.moduleChannel⟩ relay.slots.moduleEpoch
  /-- Beside relays, slots and counters nothing changes. -/
  rest : inner' = { inner with
    nextClientChannel := inner'.nextClientChannel
    nextModuleChannel := inner'.nextModuleChannel
    clientSlotEpochs := inner'.clientSlotEpochs
    moduleSlotEpochs := inner'.moduleSlotEpochs
    nextControlCorr := inner'.nextControlCorr
    reservedClient := inner'.reservedClient
    reservedModule := inner'.reservedModule
    pendingRelays := inner'.pendingRelays }

/-- A refused reservation moves cursors, the counter and the closing marks only. -/
def RefusedOnly (inner inner' : ForwardingInner) : Prop :=
  inner' = { inner with
    nextClientChannel := inner'.nextClientChannel
    nextModuleChannel := inner'.nextModuleChannel
    nextControlCorr := inner'.nextControlCorr
    closingConnections := inner'.closingConnections }

/-- A reservation is refused, or it did everything it should. -/
theorem beginRouteBindRelayInner_cases (h : TableInv inner) :
    (∃ err, (beginRouteBindRelayInner inner request).result = .error err ∧
        RefusedOnly inner (beginRouteBindRelayInner inner request).inner) ∨
      ∃ relay, (beginRouteBindRelayInner inner request).result = .ok relay ∧
        Reserved inner request relay (beginRouteBindRelayInner inner request).inner := by
  have hbegun := beginRouteBindRelayInner_begun inner request
  generalize beginRouteBindRelayInner inner request = step at hbegun ⊢
  cases hbegun with
  | untargeted err => exact .inl ⟨err, rfl, rfl⟩
  | unnumbered module numbered err hcorr =>
    refine .inl ⟨err, rfl, ?_⟩
    unfold allocateControlCorr at hcorr
    dsimp only at hcorr
    split at hcorr
    case isTrue => cases hcorr; rfl
    case isFalse => cases hcorr
  | unslotted _ _ _ _ err hcorr hslots =>
    refine .inl ⟨err, rfl, ?_⟩
    unfold RefusedOnly
    rw [allocateRouteSlots_error hslots, (allocateControlCorr_ok hcorr).2.1]
  | reserved module corr slots frame numbered slotted htarget hcorr hslots hframe =>
    obtain ⟨-, hrest, -⟩ := allocateControlCorr_ok hcorr
    obtain ⟨-, hce, hme, hmoved⟩ := allocateRouteSlots_ok hslots
    rw [hrest] at hce hme
    refine .inr ⟨_, rfl, ?_, corr_new h hcorr, hce, hme, ?_, ?_, ?_⟩
    · refine ⟨module, htarget, rfl, rfl, frame, hframe, ?_⟩
      simp only [reserveRelay]
      rw [hmoved, hrest]
    all_goals
      simp only [reserveRelay]
      rw [hmoved, hrest]

section

variable (h : TableInv inner)
include h

/-- A granted reservation did everything it should. -/
theorem reserved_of_ok (hok : (beginRouteBindRelayInner inner request).result = .ok relay) :
    Reserved inner request relay (beginRouteBindRelayInner inner request).inner := by
  rcases beginRouteBindRelayInner_cases h with ⟨_, herr, -⟩ | ⟨_, hfound, hreserved⟩
  · cases hok.symm.trans herr
  · cases hok.symm.trans hfound
    exact hreserved

/-- A refused reservation leaves the tables of routes and relays. -/
theorem refused_of_error (herr : (beginRouteBindRelayInner inner request).result = .error err) :
    RefusedOnly inner (beginRouteBindRelayInner inner request).inner := by
  rcases beginRouteBindRelayInner_cases h with ⟨_, -, hrefused⟩ | ⟨_, hok, -⟩
  · exact hrefused
  · cases herr.symm.trans hok

end

variable (inner : ForwardingInner)

/-- Nothing about routes, relays or scope tags differs. -/
structure KeepsWork (inner inner' : ForwardingInner) : Prop where
  clientToModule : inner'.clientToModule = inner.clientToModule
  moduleToClient : inner'.moduleToClient = inner.moduleToClient
  pendingRelays : inner'.pendingRelays = inner.pendingRelays
  released : inner'.relaysReleasedBeforeEnqueue = inner.relaysReleasedBeforeEnqueue
  scopeTags : inner'.scopeTags = inner.scopeTags

/-- Work is kept where nothing happens. -/
theorem KeepsWork.refl : KeepsWork inner inner := by
  constructor <;> rfl

/-- The slots' epochs and the registered endpoints are the same. -/
structure SameSlots (inner inner' : ForwardingInner) : Prop where
  clientSlotEpochs : inner'.clientSlotEpochs = inner.clientSlotEpochs
  moduleSlotEpochs : inner'.moduleSlotEpochs = inner.moduleSlotEpochs
  nextGeneration : inner'.nextGeneration = inner.nextGeneration
  moduleIdByEndpoint : inner'.moduleIdByEndpoint = inner.moduleIdByEndpoint
  endpointByConnection : inner'.endpointByConnection = inner.endpointByConnection

/-- The slots are the same where nothing happens. -/
theorem SameSlots.refl : SameSlots inner inner := by
  constructor <;> rfl

/-- A registration installed an endpoint of the next generation for a connection
that had none. -/
structure Installed (inner : ForwardingInner) (registration : Registration)
    (inner' : ForwardingInner) : Prop where
  unregistered : inner.endpointByConnection.get registration.connectionId = none
  moduleIdByEndpoint : inner'.moduleIdByEndpoint = inner.moduleIdByEndpoint.insert
    ⟨registration.connectionId, bumpGeneration inner.nextGeneration⟩ registration.moduleId
  clientSlotEpochs : inner'.clientSlotEpochs = inner.clientSlotEpochs
  moduleSlotEpochs : inner'.moduleSlotEpochs = inner.moduleSlotEpochs

/-- The calls that leave relays and routes alone. -/
def aloofCall : Op → Bool
  | .registerModuleConnection _ | .registerCandidateModuleConnection _ | .cutoverCandidate _
  | .beginDaemonDrain | .recordDaemonDrainResult _ _ => true
  | op => controlCall op

/-- An aloof call keeps the work. -/
theorem aloof_keeps (hop : aloofCall op = true) : KeepsWork inner (op.apply inner) := by
  by_cases hcontrol : controlCall op = true
  · rw [(control_aside inner hcontrol).rest]
    constructor <;> rfl
  cases op with
  | registerModuleConnection registration =>
    rcases registerModuleConnectionInner_registers with heq | ⟨-, -, heq⟩
    · rw [Op.apply, heq]
      exact .refl inner
    · rw [Op.apply, heq]
      constructor <;> rfl
  | registerCandidateModuleConnection registration =>
    rcases registerCandidateModuleConnectionInner_registers with
      heq | ⟨-, -, heq⟩
    · rw [Op.apply, heq]
      exact .refl inner
    · rw [Op.apply, heq]
      constructor <;> rfl
  | cutoverCandidate moduleId =>
    rcases cutoverCandidate_cases with heq | ⟨candidate, -, -, heq⟩
    · rw [Op.apply, heq]
      exact .refl inner
    · rw [Op.apply, heq]
      constructor <;> rfl
  | beginDaemonDrain =>
    rw [Op.apply, beginDaemonDrain_controlOnly]
    constructor <;> rfl
  | recordDaemonDrainResult => constructor <;> rfl
  | _ => exact absurd hop hcontrol

/-- Every relay and route was there before. -/
structure Shrinks (inner inner' : ForwardingInner) : Prop where
  relays : inner'.pendingRelays.Within inner.pendingRelays
  routes : inner'.clientToModule.Within inner.clientToModule

/-- A call that does nothing adds nothing. -/
theorem Shrinks.refl : Shrinks inner inner := ⟨fun _ _ h => h, fun _ _ h => h⟩

/-- Two calls that add nothing add nothing together. -/
theorem Shrinks.trans (hab : Shrinks a b) (hbc : Shrinks b c) : Shrinks a c :=
  ⟨fun key pending h => hab.relays key pending (hbc.relays key pending h),
    fun key route h => hab.routes key route (hbc.routes key route h)⟩

variable {inner}

/-- A call that keeps the work adds nothing. -/
theorem KeepsWork.shrinks (h : KeepsWork inner inner') : Shrinks inner inner' := by
  constructor
  · intro key pending hp
    rwa [h.pendingRelays] at hp
  · intro key route hr
    rwa [h.clientToModule] at hr

/-- Released routes leave the others as they were. -/
theorem releases_shrinks (hr : Releases closes effects inner inner') : Shrinks inner inner' := by
  induction hr with
  | refl inner => exact .refl inner
  | step hfirst _ ih =>
    refine Shrinks.trans ?_ ih
    cases hfirst with
    | kept => exact .refl _
    | dropped => exact ⟨fun _ _ hp => hp, fun _ _ hr => (of_get_remove hr).2⟩

variable (inner)

/-- A dropped relay leaves the others as they were. -/
theorem dropRelay_shrinks (key : ControlKey)
    (pending : PendingRouteBindRelayEntry) : Shrinks inner (dropRelay inner key pending) := by
  refine ⟨?_, fun _ _ hr => hr⟩
  intro key' pending' hp
  exact (of_get_remove hp).2

/-- An abandoned relay leaves the others as they were. -/
theorem abandonPendingRelay_shrinks :
    Shrinks gathered.inner (abandonPendingRelay outcome gathered key).inner := by
  unfold abandonPendingRelay
  cases gathered.inner.pendingRelays.get key with
  | none => exact .refl _
  | some pending =>
    have hdrop := dropRelay_shrinks gathered.inner key pending
    dsimp only
    split
    case isTrue => exact hdrop
    case isFalse => exact hdrop.trans ⟨fun _ _ h => h, fun _ _ h => h⟩

/-- A drain drops relays of its endpoint. -/
theorem beginDrainLocked_shrinks
    (module : ModuleConnection) :
    Shrinks inner (beginDrainLocked inner moduleId module reason exclusions).inner := by
  obtain ⟨unrelayed, rpcs, hshrinks, heq⟩ := beginDrainLocked_parts inner module reason
    (Shrinks inner) ⟨fun _ _ h => h, fun _ _ h => h⟩
    fun outcome g key hg => hg.trans abandonPendingRelay_shrinks
  rw [heq]
  exact ⟨hshrinks.relays, hshrinks.routes⟩

/-- An abort adds no relay. -/
theorem abortPendingRelay_shrinks :
    Shrinks inner (abortPendingRelay inner endpoint corr outcome).inner := by
  unfold abortPendingRelay
  cases inner.pendingRelays.get (endpoint, corr) with
  | none => exact ⟨fun _ _ h => h, fun _ _ h => h⟩
  | some pending => exact dropRelay_shrinks inner _ pending

/-- What one call does to the table, beside the work it moves. -/
inductive TableStep (inner : ForwardingInner) : Op → ForwardingInner → Prop where
  | moved (op : Op) (inner' : ForwardingInner) (hop : workCall op = true)
      (hmoved : WorkMoved (published inner op).scopeTags inner inner') : TableStep inner op inner'
  | idle (op : Op) (hop : aloofCall op = true ∨ drainCall op = true) : TableStep inner op inner
  | refused (request : RelayRequest) (inner' : ForwardingInner) (err : ForwardingError)
      (herr : (beginRouteBindRelayInner inner request).result = .error err)
      (hrefused : RefusedOnly inner inner') : TableStep inner (.beginRouteBindRelay request) inner'
  | reserved (request : RelayRequest) (relay : PendingRouteBindRelay) (inner' : ForwardingInner)
      (hok : (beginRouteBindRelayInner inner request).result = .ok relay)
      (hreserved : Reserved inner request relay inner') :
      TableStep inner (.beginRouteBindRelay request) inner'
  | activated (registration : Registration) (hfree : Registrable inner registration)
      (hok : (registerModuleConnectionInner inner registration).result =
        .ok (registration.endpoint inner)) :
      TableStep inner (.registerModuleConnection registration)
        (activateEndpoint inner registration)
  | offered (registration : Registration) (hfree : Registrable inner registration)
      (hok : (registerCandidateModuleConnectionInner inner registration).result =
        .ok (registration.endpoint inner)) :
      TableStep inner (.registerCandidateModuleConnection registration)
        (offerEndpoint inner registration)
  | promoted (moduleId : String) (candidate : ModuleConnection)
      (hopen : inner.daemonDraining = false)
      (hcandidate : inner.candidatesById.get moduleId = some candidate) :
      TableStep inner (.cutoverCandidate moduleId) (promoteCandidate inner moduleId candidate)
  | marked (op : Op) (inner' : ForwardingInner) (hop : drainCall op = true)
      (endpoint : ModuleEndpointId) (reason : RouteCloseReason)
      (hmoved : WorkMoved inner.scopeTags { inner with
        drainingEndpoints := inner.drainingEndpoints.insert endpoint reason } inner') :
      TableStep inner op inner'
  | gated (hopen : inner.daemonDraining = false) :
      TableStep inner .beginDaemonDrain (beginDaemonDrain inner).inner
  | recorded (endpoint : ModuleEndpointId) (drained : Bool) :
      TableStep inner (.recordDaemonDrainResult endpoint drained)
        (recordDaemonDrainResult inner endpoint drained).inner
  | forgotten (connectionId : ConnectionId) (unreserved : ForwardingInner)
      (hrole : inner.endpointByConnection.get connectionId = none)
      (hmoved : WorkMoved inner.scopeTags inner unreserved)
      (hroutes : RoutesFiltered (fun route => !decide (route.clientConnectionId = connectionId))
        inner unreserved)
      (hrelays : unreserved.pendingRelays.Within inner.pendingRelays) :
      TableStep inner (.cleanupConnection connectionId) (forgetClientSlots unreserved connectionId)
  | removed (endpoint : ModuleEndpointId) (inner' : ForwardingInner)
      (hrole : inner.endpointByConnection.get endpoint.connectionId = some endpoint)
      (hmoved : WorkMoved inner.scopeTags (forgetEndpoint inner endpoint) inner')
      (hroutes : RoutesFiltered (fun route => route.moduleEndpoint ≠ endpoint) inner inner')
      (hrelays : ∀ key, inner'.pendingRelays.get key =
        (inner.pendingRelays.get key).filter fun _ => key.1 ≠ endpoint) :
      TableStep inner (.cleanupConnection endpoint.connectionId) inner'

variable {inner}

/-- A cleanup forgets the slots of a client, or a module's endpoint. -/
theorem cleanupConnectionCounted_step (h : TableInv inner) (connectionId : ConnectionId) :
    TableStep inner (.cleanupConnection connectionId)
      (cleanupConnectionCounted inner connectionId).inner := by
  set marked : ForwardingInner :=
    { inner with closingConnections := insert connectionId inner.closingConnections } with hm
  cases hrole : inner.endpointByConnection.get connectionId with
  | none =>
    have hrouted := (releaseClientConnectionRoutes_releases marked connectionId).routesOnly
    have hfiltered := releaseClientConnectionRoutes_filtered
      (show RoutesMirrored marked from h.bindings) connectionId
    obtain ⟨unreserved, hinner, hrelays, hpending⟩ :=
      cleanupClientConnectionLocked_parts marked connectionId
    simp only [cleanupConnectionCounted, hrole]
    rw [hinner]
    refine .forgotten connectionId { unreserved with closingConnections := _ } hrole ?_ ?_ hpending
    · rw [hrelays, hrouted]
      exact ⟨rfl, .inl rfl⟩
    · rw [hrelays]
      exact ⟨hfiltered.client, hfiltered.module⟩
  | some endpoint =>
    have hid : endpoint.connectionId = connectionId := (h.endpoint_registered _ _ hrole).1
    subst hid
    have hremoved := disconnect_removed marked endpoint h.bindings h.reservations
    simp only [cleanupConnectionCounted, hrole]
    generalize removeModuleConnectionLocked _ endpoint = removed at hremoved ⊢
    refine .removed endpoint _ hrole ?_ ⟨hremoved.routes.client, hremoved.routes.module⟩
      hremoved.pendingRelays
    rw [hremoved.rest]
    exact ⟨rfl, .inl rfl⟩

/-- Every call is one of the steps. -/
theorem Op.apply_step (h : TableInv inner) (op : Op) : TableStep inner op (op.apply inner) := by
  by_cases hwork : workCall op = true
  · exact .moved op _ hwork (work_moved inner hwork)
  by_cases hdrain : drainCall op = true
  · rcases drain_cases hdrain with ⟨hidle, -⟩ | ⟨_, module, reason, _, hdrained, -⟩
    · rw [hidle]
      exact .idle op (.inr hdrain)
    · rw [hdrained]
      refine .marked op _ hdrain module.endpoint reason ?_
      rw [beginDrainLocked_relaysOnly]
      exact ⟨rfl, .inl rfl⟩
  cases op with
  | registerModuleConnection registration =>
    rcases registerModuleConnectionInner_registers with heq | ⟨hfree, hok, heq⟩
    · rw [Op.apply, heq]
      exact .idle _ (.inl rfl)
    · rw [Op.apply, heq]
      exact .activated registration hfree hok
  | registerCandidateModuleConnection registration =>
    rcases registerCandidateModuleConnectionInner_registers with
      heq | ⟨hfree, hok, heq⟩
    · rw [Op.apply, heq]
      exact .idle _ (.inl rfl)
    · rw [Op.apply, heq]
      exact .offered registration hfree hok
  | cutoverCandidate moduleId =>
    rcases cutoverCandidate_cases with heq | ⟨candidate, hopen, hcandidate, heq⟩
    · rw [Op.apply, heq]
      exact .idle _ (.inl rfl)
    · rw [Op.apply, heq]
      exact .promoted moduleId candidate hopen hcandidate
  | beginRouteBindRelay request =>
    rcases beginRouteBindRelayInner_cases h with ⟨err, herr, hrefused⟩ | ⟨relay, hok, hr⟩
    · exact .refused request _ err herr hrefused
    · exact .reserved request relay _ hok hr
  | beginDaemonDrain =>
    cases hdraining : inner.daemonDraining with
    | true =>
      simp only [Op.apply, ForwardingTeardown.beginDaemonDrain, hdraining, if_true]
      exact .idle _ (.inl rfl)
    | false => exact .gated hdraining
  | recordDaemonDrainResult endpoint drained => exact .recorded endpoint drained
  | cleanupConnection connectionId => exact cleanupConnectionCounted_step h connectionId
  | beginModuleDrain | beginEndpointDrain => exact absurd rfl hdrain
  | _ => exact absurd rfl hwork

/-- The call registered the endpoint of the registration. -/
def Registering (inner : ForwardingInner) (registration : Registration) (op : Op) : Prop :=
  op = .registerModuleConnection registration ∧
      (registerModuleConnectionInner inner registration).result =
        .ok (registration.endpoint inner) ∨
    op = .registerCandidateModuleConnection registration ∧
      (registerCandidateModuleConnectionInner inner registration).result =
        .ok (registration.endpoint inner)

/-- What one call does to the slots. -/
inductive SlotStep (inner : ForwardingInner) (op : Op) (inner' : ForwardingInner) : Prop where
  | same (hslots : SameSlots inner inner')
      (hrefused : ∀ request relay, op = .beginRouteBindRelay request →
        (beginRouteBindRelayInner inner request).result ≠ .ok relay)
  | reserve (request : RelayRequest) (relay : PendingRouteBindRelay)
      (hop : op = .beginRouteBindRelay request)
      (hok : (beginRouteBindRelayInner inner request).result = .ok relay)
      (hreserved : Reserved inner request relay inner')
  | install (registration : Registration) (hop : Registering inner registration op)
      (hinstalled : Installed inner registration inner')
  | forgetClient (connectionId : ConnectionId) (hop : op = .cleanupConnection connectionId)
      (hrole : inner.endpointByConnection.get connectionId = none)
      (hslots : SameSlots { inner with
        clientSlotEpochs := inner.clientSlotEpochs.retain fun key _ =>
          key.connectionId ≠ connectionId } inner')
  | forgetModule (connectionId : ConnectionId) (endpoint : ModuleEndpointId)
      (hop : op = .cleanupConnection connectionId)
      (hrole : inner.endpointByConnection.get connectionId = some endpoint)
      (hslots : SameSlots { inner with
        moduleSlotEpochs := inner.moduleSlotEpochs.retain fun key _ => key.endpoint ≠ endpoint
        moduleIdByEndpoint := inner.moduleIdByEndpoint.remove endpoint
        endpointByConnection := inner.endpointByConnection.remove endpoint.connectionId } inner')

/-- Moved work leaves the slots alone. -/
theorem workMoved_slots (h : WorkMoved tags inner inner') : SameSlots inner inner' := by
  rw [h.rest]
  constructor <;> rfl

/-- What each call does to the slots. -/
theorem Op.apply_slots (h : TableInv inner) (op : Op) : SlotStep inner op (op.apply inner) := by
  have hstep := Op.apply_step h op
  generalize op.apply inner = inner' at hstep ⊢
  cases hstep with
  | moved op inner' hop hmoved =>
    refine .same (workMoved_slots hmoved) ?_
    rintro request relay rfl
    cases hop
  | idle op hop =>
    refine .same (.refl inner) ?_
    rintro request relay rfl
    rcases hop with hop | hop <;> cases hop
  | refused request inner' err herr hrefused =>
    refine .same (by rw [hrefused]; constructor <;> rfl) ?_
    rintro request' relay heq hok
    cases heq
    rw [herr] at hok
    cases hok
  | reserved request relay inner' hok hreserved => exact .reserve request relay rfl hok hreserved
  | activated registration hfree hok =>
    exact .install registration (.inl ⟨rfl, hok⟩) ⟨hfree.unregistered, rfl, rfl, rfl⟩
  | offered registration hfree hok =>
    exact .install registration (.inr ⟨rfl, hok⟩) ⟨hfree.unregistered, rfl, rfl, rfl⟩
  | promoted | recorded => exact .same (by constructor <;> rfl) (by simp)
  | marked op inner' hop endpoint reason hmoved =>
    have hslots := workMoved_slots hmoved
    refine .same { hslots with } ?_
    rintro request relay rfl
    cases hop
  | gated =>
    refine .same ?_ (by simp)
    rw [beginDaemonDrain_controlOnly]
    constructor <;> rfl
  | forgotten connectionId unreserved hrole hmoved =>
    refine .forgetClient connectionId rfl hrole ?_
    rw [hmoved.rest]
    constructor <;> rfl
  | removed endpoint inner' hrole hmoved =>
    refine .forgetModule endpoint.connectionId endpoint rfl hrole ?_
    rw [hmoved.rest]
    constructor <;> rfl

/-- An endpoint that stays registered keeps its module id. -/
theorem Op.apply_sameModuleId (h : TableInv inner) (op : Op)
    (hbefore : inner.moduleIdByEndpoint.get endpoint = some moduleId)
    (hafter : (op.apply inner).moduleIdByEndpoint.get endpoint = some moduleId') :
    moduleId' = moduleId := by
  have hslots := Op.apply_slots h op
  generalize op.apply inner = inner' at hafter hslots
  have hsame : inner'.moduleIdByEndpoint = inner.moduleIdByEndpoint → moduleId' = moduleId := by
    intro heq
    rw [heq, hbefore] at hafter
    exact (Option.some.inj hafter).symm
  cases hslots with
  | same hslots => exact hsame hslots.moduleIdByEndpoint
  | reserve request relay _ _ hreserved => exact hsame (by rw [hreserved.rest])
  | install registration _ hinstalled =>
    rw [hinstalled.moduleIdByEndpoint] at hafter
    rcases of_get_insert hafter with ⟨heq, -⟩ | ⟨-, hafter⟩
    · subst heq
      exact absurd ⟨moduleId, hbefore⟩ (h.unregistered hinstalled.unregistered)
    · rw [hbefore] at hafter
      exact (Option.some.inj hafter).symm
  | forgetClient _ _ _ hslots => exact hsame hslots.moduleIdByEndpoint
  | forgetModule _ removed _ _ hslots =>
    rw [hslots.moduleIdByEndpoint] at hafter
    obtain ⟨-, hafter⟩ := of_get_remove hafter
    rw [hbefore] at hafter
    exact (Option.some.inj hafter).symm

/-- Only a scope publication moves the tags. -/
theorem Op.apply_scopeTags (h : TableInv inner) :
    (op.apply inner).scopeTags = (published inner op).scopeTags := by
  have hstep := Op.apply_step h op
  generalize op.apply inner = inner' at hstep ⊢
  cases hstep with
  | moved _ _ _ hmoved => rw [hmoved.rest]
  | idle _ hop =>
    cases op with
    | publishScopeChanges => rcases hop with hop | hop <;> cases hop
    | _ => rfl
  | refused _ _ _ _ hrefused =>
    rw [hrefused]
    rfl
  | reserved _ _ _ _ hreserved =>
    rw [hreserved.rest]
    rfl
  | activated | offered | promoted | recorded => rfl
  | marked _ _ hop _ _ hmoved =>
    rw [hmoved.rest]
    cases op with
    | publishScopeChanges => cases hop
    | _ => rfl
  | gated =>
    rw [beginDaemonDrain_controlOnly]
    rfl
  | forgotten _ _ _ hmoved =>
    rw [hmoved.rest]
    rfl
  | removed _ _ _ hmoved =>
    rw [hmoved.rest]
    rfl

/-- The call is the reply that publishes the route: in time, for an open client, an active
endpoint that does not drain and a scope that did not change. -/
def PublishedBy (inner : ForwardingInner) (op : Op) (route : RouteBinding) : Prop :=
  ∃ connectionId corr outcome reads controlKey pending moduleId module,
    op = .completePendingRelay connectionId corr outcome reads ∧
    inner.pendingRelays.get controlKey = some pending ∧
    Publishable inner controlKey pending outcome reads moduleId module ∧
    route = committedBinding pending moduleId module reads

/-- Where a call's relays and routes come from. -/
structure Origins (inner : ForwardingInner) (op : Op) (inner' : ForwardingInner) : Prop where
  /-- A pending relay was pending, perhaps without its mark, or this call reserved it. -/
  relays : ∀ key pending', inner'.pendingRelays.get key = some pending' →
    (∃ pending, inner.pendingRelays.get key = some pending ∧
        (pending' = pending ∨ pending' = { pending with relayEnqueued := true })) ∨
      ∃ request relay module frame, op = .beginRouteBindRelay request ∧
        (beginRouteBindRelayInner inner request).result = .ok relay ∧
        Reserved inner request relay inner' ∧ key = (relay.endpoint, relay.corr) ∧
        relay.endpoint = module.endpoint ∧ pending' = request.entry module relay.slots frame
  /-- A route was bound, or this call is the reply that published it. -/
  routes : ∀ key route, inner'.clientToModule.get key = some route →
    inner.clientToModule.get key = some route ∨ PublishedBy inner op route

/-- What a call leaves was there, when it adds nothing. -/
theorem Shrinks.origins (h : Shrinks inner inner') (op : Op) : Origins inner op inner' :=
  ⟨fun key pending' hp => .inl ⟨pending', h.relays key pending' hp, .inl rfl⟩,
    fun key route hr => .inl (h.routes key route hr)⟩

/-- A reserving call adds its one relay. -/
theorem Reserved.origins (h : Reserved inner request relay inner')
    (hok : (beginRouteBindRelayInner inner request).result = .ok relay) :
    Origins inner (.beginRouteBindRelay request) inner' := by
  constructor
  · intro key pending' hp
    obtain ⟨module, -, hendpoint, -, frame, -, hinsert⟩ := h.target
    rw [hinsert] at hp
    rcases of_get_insert hp with ⟨hkey, rfl⟩ | ⟨-, hp⟩
    · exact .inr ⟨request, relay, module, frame, rfl, hok, h, hkey, hendpoint, rfl⟩
    · exact .inl ⟨pending', hp, .inl rfl⟩
  · intro key route hr
    rw [h.rest] at hr
    exact .inl hr

variable (inner)

/-- A marked relay is one that was pending. -/
theorem markRouteBindRelayEnqueued_origins :
    Origins inner op (markRouteBindRelayEnqueued inner endpoint corr).inner := by
  unfold markRouteBindRelayEnqueued
  split
  case isTrue =>
    refine ⟨?_, fun _ _ hr => .inl hr⟩
    intro key pending' hp
    left
    rcases of_get_modify hp with ⟨-, pending, hget, rfl⟩ | ⟨-, hget⟩
    · exact ⟨pending, hget, .inr rfl⟩
    · exact ⟨pending', hget, .inl rfl⟩
  case isFalse =>
    split
    case isTrue =>
      apply Shrinks.origins
      exact ⟨fun _ _ hp => hp, fun _ _ hr => hr⟩
    case isFalse => exact (Shrinks.refl inner).origins op

section

variable (key : ControlKey) (pending : PendingRouteBindRelayEntry)

variable {inner} in
/-- Taking a relay leaves the others as they were. -/
theorem takeRelay_shrinks : Shrinks inner (takeRelay inner key pending) := by
  refine ⟨?_, fun _ _ hr => hr⟩
  intro key' pending' hp'
  exact (of_get_remove hp').2

/-- A binding that is taken back in its own lock section leaves no route. -/
theorem retractBinding_shrinks :
    Shrinks inner (retractBinding (installBinding (takeRelay inner key pending) binding) binding
      previous) := by
  refine ⟨(takeRelay_shrinks key pending).relays, ?_⟩
  intro key' route hr
  simp only [retractBinding, installBinding, get_remove, get_insert] at hr
  split at hr
  case isTrue => cases hr
  case isFalse => exact hr

end

variable {inner}

/-- A reply drops its relay, and only a publishing one adds a route. -/
theorem completePendingRelay_origins (h : TableInv inner) :
    Origins inner (.completePendingRelay connectionId corr outcome reads)
      (completePendingRelay inner connectionId corr outcome reads).inner := by
  rcases completePendingRelay_cases h with ⟨heq, -⟩ | hcompleted
  · rw [heq]
    exact (Shrinks.refl inner).origins _
  obtain ⟨endpoint, pending, -, hp, hcompleted⟩ := hcompleted
  generalize completePendingRelay inner connectionId corr outcome reads = step at hcompleted
  cases hcompleted with
  | refused => exact (dropRelay_shrinks inner _ pending).origins _
  | stale => exact (takeRelay_shrinks _ pending).origins _
  | published moduleId module frame hpublishable =>
    unfold publishRoute
    dsimp only
    split
    case isTrue => exact (retractBinding_shrinks inner _ pending).origins _
    constructor
    · intro key pending' hp'
      exact .inl ⟨pending', (takeRelay_shrinks _ pending).relays key pending' hp', .inl rfl⟩
    intro key route hr
    rcases of_get_insert hr with ⟨-, rfl⟩ | ⟨-, hr⟩
    · exact .inr ⟨connectionId, corr, outcome, reads, (endpoint, corr), pending, moduleId,
        module, rfl, hp, hpublishable, rfl⟩
    · exact .inl hr

/-- A cleanup adds no relay and no route. -/
theorem cleanup_shrinks
    (h : TableStep inner (.cleanupConnection connectionId) inner') : Shrinks inner inner' := by
  cases h with
  | moved _ _ hop => cases hop
  | idle => exact .refl inner
  | marked _ _ hop => cases hop
  | forgotten _ _ _ _ hroutes hrelays =>
    refine ⟨hrelays, ?_⟩
    intro key route hroute
    exact (Option.filter_eq_some_iff.mp ((hroutes.client key).symm.trans hroute)).1
  | removed _ _ _ _ hroutes hrelays =>
    constructor
    · intro key pending hp
      exact (Option.filter_eq_some_iff.mp ((hrelays key).symm.trans hp)).1
    · intro key route hroute
      exact (Option.filter_eq_some_iff.mp ((hroutes.client key).symm.trans hroute)).1

/-- Where the relays and routes of every call come from. -/
theorem Op.apply_origins (h : TableInv inner) (op : Op) : Origins inner op (op.apply inner) := by
  by_cases haloof : aloofCall op = true
  · exact (aloof_keeps inner haloof).shrinks.origins op
  by_cases hdrain : drainCall op = true
  · apply Shrinks.origins
    rcases drain_cases hdrain with ⟨hidle, -⟩ | ⟨_, _, _, _, hdrained, -⟩
    · rw [hidle]
      exact .refl inner
    · rw [hdrained]
      exact beginDrainLocked_shrinks inner _
  by_cases hrelease : releaseCall op = true
  · obtain ⟨closes, hreleases⟩ := release_releases hrelease
    rw [published_eq] at hreleases
    have hshrinks := releases_shrinks hreleases
    apply Shrinks.origins
    exact ⟨hshrinks.relays, hshrinks.routes⟩
  cases op with
  | beginRouteBindRelay request =>
    rcases beginRouteBindRelayInner_cases h with ⟨err, -, hrefused⟩ | ⟨relay, hok, hr⟩
    · apply Shrinks.origins
      rw [Op.apply, hrefused]
      exact ⟨fun _ _ hp => hp, fun _ _ hr => hr⟩
    · exact hr.origins hok
  | markRouteBindRelayEnqueued endpoint corr =>
    exact markRouteBindRelayEnqueued_origins inner
  | abortPendingRelay endpoint corr outcome =>
    exact (abortPendingRelay_shrinks inner).origins _
  | completePendingRelay connectionId corr outcome reads =>
    exact completePendingRelay_origins h
  | cleanupConnection connectionId =>
    exact (cleanup_shrinks (cleanupConnectionCounted_step h connectionId)).origins _
  | releaseClientRoute | releaseModuleRoute | releaseModuleEndpointRoutes | publishScopeChanges =>
    exact absurd rfl hrelease
  | beginModuleDrain | beginEndpointDrain => exact absurd rfl hdrain
  | _ => exact absurd rfl haloof

end Subconscious.ForwardingSteps
