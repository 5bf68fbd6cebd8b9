import Subconscious.ForwardingRoutes

/-!
# Promotion of a swap candidate

A cutover is one lock section: before it the incumbent serves the id, after it
the promoted endpoint does. The incumbent stays superseded until its connection
is torn down. Meanwhile it takes no relay and commits none, a reply on it is
answered with a retryable refusal, and its routes stay under their handles.
-/

namespace Subconscious.ForwardingCutover

open HashMaps HashMap ForwardingState ForwardingOperations ForwardingRelays ForwardingTeardown List
open ForwardingControl ForwardingRuns ForwardingInvariant ForwardingConsistency ForwardingFrames
open ForwardingSteps ForwardingSlots ForwardingRoutes

variable {inner : ForwardingInner}

/-- Every part of a reserved relay names the endpoint that is active for the
id when it is reserved. -/
structure WhollyOn (inner : ForwardingInner) (request : RelayRequest)
    (relay : PendingRouteBindRelay) (module : ModuleConnection) : Prop where
  active : inner.modulesById.get request.moduleId = some module
  endpoint : relay.endpoint = module.endpoint
  sink : relay.moduleSink = module.sink
  entry : ∃ pending,
    (beginRouteBindRelayInner inner request).inner.pendingRelays.get (module.endpoint, relay.corr) =
        some pending ∧
      pending.reservation.moduleKey.endpoint = module.endpoint

variable {op : Op}

/-- A reserved relay is wholly on the active endpoint. -/
theorem reserved_whollyOn (h : TableInv inner)
    (hok : (beginRouteBindRelayInner inner request).result = .ok relay) :
    ∃ module, WhollyOn inner request relay module := by
  obtain ⟨module, htarget, hendpoint, hsink, frame, -, hinsert⟩ := (reserved_of_ok h hok).target
  have hactive := (relayTargetLocked_ok htarget).2.1
  refine ⟨module, hactive, hendpoint, hsink, request.entry module relay.slots frame, ?_, rfl⟩
  rw [hinsert, hendpoint, get_insert, if_pos rfl]

/-- A superseded endpoint stays superseded until its connection is torn down. -/
theorem Op.apply_superseded (h : TableInv inner)
    (hold : ∃ module, inner.supersededEndpoints.get endpoint = some module)
    (hop : op ≠ .cleanupConnection endpoint.connectionId) :
    ∃ module, (op.apply inner).supersededEndpoints.get endpoint = some module := by
  obtain ⟨old, hget⟩ := hold
  have hstep := Op.apply_slotting h op
  generalize op.apply inner = inner' at hstep
  cases hstep with
  | same _ _ hslots => exact ⟨old, hslots.supersededEndpoints ▸ hget⟩
  | activated | offered | recorded => exact ⟨old, hget⟩
  | promoted moduleId candidate =>
    unfold promoteCandidate
    cases inner.modulesById.get moduleId with
    | none => exact ⟨old, hget⟩
    | some active =>
      rw [get_insert]
      split
      case isTrue => exact ⟨active, rfl⟩
      case isFalse => exact ⟨old, hget⟩
  | marked _ _ other reason hslots => exact ⟨old, hslots.supersededEndpoints ▸ hget⟩
  | gated => exact ⟨old, (gated_slotting inner).supersededEndpoints ▸ hget⟩
  | removed other _ _ hslots =>
    have hne : endpoint ≠ other := by
      rintro rfl
      exact hop rfl
    refine ⟨old, ?_⟩
    rw [hslots.supersededEndpoints]
    simp only [forgetEndpoint, get_remove, if_neg hne]
    exact hget

/-- An endpoint keeps its module id until its connection is torn down. -/
theorem Op.apply_moduleId (h : TableInv inner)
    (hid : inner.moduleIdByEndpoint.get endpoint = some moduleId)
    (hop : op ≠ .cleanupConnection endpoint.connectionId) :
    (op.apply inner).moduleIdByEndpoint.get endpoint = some moduleId := by
  have hinstall : ∀ registration : Registration,
      inner.endpointByConnection.get registration.connectionId = none →
      (installEndpoint inner registration).moduleIdByEndpoint.get endpoint = some moduleId := by
    intro registration hfree
    have hne := newEndpoint_ne h hfree ⟨moduleId, hid⟩
    simp only [installEndpoint, get_insert, if_neg hne]
    exact hid
  have hstep := Op.apply_slotting h op
  generalize op.apply inner = inner' at hstep
  cases hstep with
  | same _ _ hslots => exact hslots.moduleIdByEndpoint ▸ hid
  | activated registration _ hfree | offered registration _ hfree =>
    exact hinstall registration hfree
  | promoted | recorded => exact hid
  | marked _ _ other reason hslots => exact hslots.moduleIdByEndpoint ▸ hid
  | gated => exact (gated_slotting inner).moduleIdByEndpoint ▸ hid
  | removed other _ _ hslots =>
    have hne : endpoint ≠ other := by
      rintro rfl
      exact hop rfl
    rw [hslots.moduleIdByEndpoint]
    simp only [forgetEndpoint, get_remove, if_neg hne]
    exact hid

/-- What a table that superseded an endpoint has left of it: no new relay and
no new route since the cutover. -/
structure Retired (cut inner : ForwardingInner) (endpoint : ModuleEndpointId) (moduleId : String) :
    Prop where
  registered : inner.moduleIdByEndpoint.get endpoint = some moduleId
  superseded : ∃ module, inner.supersededEndpoints.get endpoint = some module
  relays : ∀ corr pending', inner.pendingRelays.get (endpoint, corr) = some pending' →
    ∃ pending, cut.pendingRelays.get (endpoint, corr) = some pending ∧
      pending'.reservation = pending.reservation
  routes : ∀ key route, inner.clientToModule.get key = some route →
    route.moduleEndpoint = endpoint → cut.clientToModule.get key = some route

/-- A superseded endpoint is not active. -/
theorem active_ne_superseded (h : SlotInv inner)
    (hold : ∃ old, inner.supersededEndpoints.get endpoint = some old)
    (hactive : inner.modulesById.get moduleId = some module) : module.endpoint ≠ endpoint := by
  rintro rfl
  obtain ⟨old, hget⟩ := hold
  rw [h.active_superseded moduleId module hactive] at hget
  cases hget

/-- Any call but the teardown of its connection leaves an endpoint retired. -/
theorem Retired.step (h : Retired cut inner endpoint moduleId) (htable : TableInv inner)
    (hslots : SlotInv inner) (hop : op ≠ .cleanupConnection endpoint.connectionId) :
    Retired cut (op.apply inner) endpoint moduleId := by
  have horigins := Op.apply_origins htable op
  refine ⟨Op.apply_moduleId htable h.registered hop, Op.apply_superseded htable h.superseded hop, ?_, ?_⟩
  · intro corr pending' hget
    rcases horigins.relays (endpoint, corr) pending' hget with ⟨pending, hwas, hmark⟩ | hreserved
    · obtain ⟨first, hfirst, hsame⟩ := h.relays corr pending hwas
      refine ⟨first, hfirst, ?_⟩
      rcases hmark with rfl | rfl
      · exact hsame
      · exact hsame
    obtain ⟨request, relay, module, frame, -, -, hreserved, hkey, hendpoint, -⟩ := hreserved
    obtain ⟨target, htarget, htargetEndpoint, -⟩ := hreserved.target
    have hactive := (relayTargetLocked_ok htarget).2.1
    refine absurd ?_ (active_ne_superseded hslots h.superseded hactive)
    rw [← htargetEndpoint]
    exact (congrArg Prod.fst hkey).symm
  · intro key route hget hendpoint
    rcases horigins.routes key route hget with hwas | hpublished
    · exact h.routes key route hwas hendpoint
    obtain ⟨_, _, _, _, controlKey, pending, moduleId, module, -, hpending, hpublishable, rfl⟩ :=
      hpublished
    refine absurd ?_ (active_ne_superseded hslots h.superseded hpublishable.active)
    rw [hpublishable.endpoint, ← htable.relay_endpoint controlKey pending hpending]
    exact hendpoint

/-- What a successful cutover did. -/
theorem cutoverCandidate_ok (h : (cutoverCandidate inner moduleId).result = .ok (some cutover)) :
    ∃ candidate, cutover.promoted = candidate.endpoint ∧
      cutover.incumbent = (inner.modulesById.get moduleId).map ModuleConnection.endpoint ∧
      (cutoverCandidate inner moduleId).inner.modulesById.get moduleId = some candidate ∧
      (cutoverCandidate inner moduleId).inner.clientToModule = inner.clientToModule ∧
      (cutoverCandidate inner moduleId).inner.pendingRelays = inner.pendingRelays ∧
      (cutoverCandidate inner moduleId).inner.moduleIdByEndpoint = inner.moduleIdByEndpoint ∧
      ∀ endpoint, cutover.incumbent = some endpoint → ∃ module,
        (cutoverCandidate inner moduleId).inner.supersededEndpoints.get endpoint = some module := by
  unfold cutoverCandidate at h ⊢
  split at h
  case isTrue => cases h
  rename_i hopen
  rw [if_neg hopen]
  cases hcandidate : inner.candidatesById.get moduleId with
  | none =>
    rw [hcandidate] at h
    cases h
  | some candidate =>
    rw [hcandidate] at h
    cases h
    refine ⟨candidate, rfl, rfl, ?_, rfl, rfl, rfl, ?_⟩
    · dsimp only
      rw [get_insert, if_pos rfl]
    intro endpoint hincumbent
    obtain ⟨old, hold, rfl⟩ := Option.map_eq_some_iff.mp hincumbent
    rw [hold]
    exact ⟨old, by rw [get_insert, if_pos rfl]⟩

/-- The incumbent stays retired while its connection lives. -/
theorem run_retired (hcut : (cutoverCandidate (run before) moduleId).result = .ok (some cutover))
    (hincumbent : cutover.incumbent = some endpoint) :
    ∀ after : List Op, Op.cleanupConnection endpoint.connectionId ∉ after →
      Retired (run before) (run (before ++ .cutoverCandidate moduleId :: after)) endpoint
        moduleId := by
  intro after hnot
  rw [append_cons]
  refine run_induction (motive := (Retired (run before) · endpoint moduleId)) _ after ?_
    fun ops op hmem h => h.step (run_inv ops) run_slotInv fun heq => hnot (heq ▸ hmem)
  obtain ⟨candidate, -, hactive, -, hroutes, hrelays, hids, hsuperseded⟩ := cutoverCandidate_ok hcut
  rw [run_snoc]
  refine ⟨?_, hsuperseded endpoint hincumbent, ?_, ?_⟩
  · rw [hincumbent] at hactive
    obtain ⟨old, hold, rfl⟩ := Option.map_eq_some_iff.mp hactive.symm
    have hid := (run_inv before).active_registered moduleId old hold
    change (cutoverCandidate (run before) moduleId).inner.moduleIdByEndpoint.get _ = _
    rw [hids]
    exact hid
  · intro corr pending hget
    change (cutoverCandidate (run before) moduleId).inner.pendingRelays.get _ = _ at hget
    rw [hrelays] at hget
    exact ⟨pending, hget, rfl⟩
  · intro key route hget _
    change (cutoverCandidate (run before) moduleId).inner.clientToModule.get _ = _ at hget
    rw [hroutes] at hget
    exact hget

/-- Dropping a relay releases its pair. -/
theorem dropRelay_released (h : TableInv inner)
    (hpending : inner.pendingRelays.get key = some pending) :
    (dropRelay inner key pending).pendingRelays.get key = none ∧
      (dropRelay inner key pending).reservedClient.get pending.reservation.clientKey = none ∧
      (dropRelay inner key pending).reservedModule.get pending.reservation.moduleKey = none := by
  have hclient := h.reserved hpending
  have hmodule := (h.reservations _ _).mp hclient
  unfold dropRelay releaseReservedRouteLocked
  rw [if_pos hclient, if_pos hmodule]
  simp only [get_remove, if_true, and_self]

/-- An ack on a superseded endpoint, in time and for an open client, is
answered with a reload refusal and its pair is released. -/
theorem completePendingRelay_superseded (h : TableInv inner)
    (hregistered : inner.moduleIdByEndpoint.get endpoint = some moduleId)
    (hold : ∃ module, inner.supersededEndpoints.get endpoint = some module)
    (hpending : inner.pendingRelays.get (endpoint, corr) = some pending)
    (htime : reads.now < pending.deadline) (hsink : reads.sinkClosedAtGuard = false)
    (hclient : pending.reservation.clientKey.connectionId ∉ inner.closingConnections) :
    completePendingRelay inner endpoint.connectionId corr .accepted reads =
      ⟨dropRelay inner (endpoint, corr) pending,
        .ok ⟨true, abandonedRouteTarget (dropRelay inner (endpoint, corr) pending)
          pending.reservation⟩,
        [.settle pending.sender (.daemonRejected (moduleReloadingRefusal moduleId))]⟩ := by
  have hrole := h.registered_endpoint endpoint ⟨moduleId, hregistered⟩
  obtain ⟨module, hsuperseded⟩ := hold
  unfold completePendingRelay
  rw [hrole]
  dsimp only
  rw [hpending]
  dsimp only
  rw [if_neg (Nat.not_le.mpr htime)]
  have hguard : (reads.sinkClosedAtGuard || decide (pending.reservation.clientKey.connectionId
      ∈ inner.closingConnections)) = false := by
    rw [hsink, decide_eq_false hclient]
    rfl
  have hgated : (inner.supersededEndpoints.contains endpoint
      || inner.drainingEndpoints.contains endpoint) = true := by
    rw [contains_eq, hsuperseded]
    rfl
  rw [hguard, if_neg Bool.false_ne_true, if_pos hgated, hregistered]
  rfl

/-- No reply on a superseded endpoint is an error of its connection, and every
reply to a relay of it releases the relay's pair. -/
theorem completePendingRelay_superseded_released (h : TableInv inner)
    (hold : ∃ module, inner.supersededEndpoints.get endpoint = some module)
    (hregistered : Registered inner endpoint) :
    (∃ completion,
      (completePendingRelay inner endpoint.connectionId corr outcome reads).result =
        .ok completion) ∧
      ∀ pending, inner.pendingRelays.get (endpoint, corr) = some pending →
        (completePendingRelay inner endpoint.connectionId corr outcome reads).inner =
          dropRelay inner (endpoint, corr) pending := by
  have hrole := h.registered_endpoint endpoint hregistered
  obtain ⟨module, hsuperseded⟩ := hold
  rcases completePendingRelay_cases h with
    ⟨heq, hnone⟩ | ⟨found, entry, hfound, hentry, hcompleted⟩
  · exact ⟨⟨_, by rw [heq]⟩, by simp [hnone endpoint hrole]⟩
  rw [hrole] at hfound
  cases hfound
  generalize completePendingRelay inner endpoint.connectionId corr outcome reads = step
    at hcompleted
  cases hcompleted with
  | refused answer =>
    refine ⟨⟨_, rfl⟩, fun pending hpending => ?_⟩
    rw [hentry] at hpending
    cases hpending
    rfl
  | stale _ hcurrent =>
    rw [hsuperseded] at hcurrent
    cases hcurrent
  | published moduleId active frame hpublishable =>
    have hcurrent := hpublishable.current
    rw [hsuperseded] at hcurrent
    cases hcurrent

/-- A call that puts an endpoint into the active slot of an id. -/
def fillsSlot (moduleId : String) : Op → Bool
  | .registerModuleConnection registration => registration.moduleId = moduleId
  | .cutoverCandidate other => other = moduleId
  | _ => false

/-- Without such a call the active slot keeps its endpoint or is empty. -/
theorem Op.apply_active (h : TableInv inner) (hop : fillsSlot moduleId op = false)
    (hget : (op.apply inner).modulesById.get moduleId = some module) :
    inner.modulesById.get moduleId = some module := by
  have hstep := Op.apply_slotting h op
  generalize op.apply inner = inner' at hstep hget
  cases hstep with
  | same _ _ hslots => exact hslots.modulesById ▸ hget
  | activated registration =>
    have hne : moduleId ≠ registration.moduleId := fun heq => of_decide_eq_false hop heq.symm
    exact ((of_get_insert hget).resolve_left fun hnew => hne hnew.1).2
  | offered | recorded => exact hget
  | promoted other candidate =>
    have hne : moduleId ≠ other := fun heq => of_decide_eq_false hop heq.symm
    exact ((of_get_insert hget).resolve_left fun hnew => hne hnew.1).2
  | marked _ _ other reason hslots => exact hslots.modulesById ▸ hget
  | gated => exact (gated_slotting inner).modulesById ▸ hget
  | removed other _ _ hslots =>
    rw [hslots.modulesById] at hget
    exact ((@forgetEndpoint_slots inner h other).1 moduleId module hget).1

/-- The promoted endpoint serves the id until another one fills the slot. -/
theorem run_active (hcut : (cutoverCandidate (run before) moduleId).result = .ok (some cutover)) :
    ∀ after : List Op, (∀ op ∈ after, fillsSlot moduleId op = false) → ∀ module,
      (run (before ++ .cutoverCandidate moduleId :: after)).modulesById.get moduleId =
        some module → module.endpoint = cutover.promoted := by
  intro after hafter
  rw [append_cons]
  refine run_induction (motive := fun inner => ∀ module, inner.modulesById.get moduleId =
    some module → module.endpoint = cutover.promoted) _ after ?_ fun ops op hmem h module hget =>
      h module (Op.apply_active (run_inv ops) (hafter op hmem) hget)
  intro module hget
  obtain ⟨candidate, hpromoted, -, hactive, -⟩ := cutoverCandidate_ok hcut
  rw [run_snoc] at hget
  change (cutoverCandidate (run before) moduleId).inner.modulesById.get _ = _ at hget
  rw [hactive] at hget
  cases hget
  exact hpromoted.symm

/-- A route stays bound while no call of the run closes it. -/
theorem run_keepsRoute (hroute : (run start).clientToModule.get key = some route) :
    ∀ after : List Op,
      (∀ pre op post, after = pre ++ op :: post → closes (run (start ++ pre)) route op = false) →
      (run (start ++ after)).clientToModule.get key = some route := by
  intro after
  induction after using List.reverseRecOn with
  | nil =>
    intro _
    rw [append_nil]
    exact hroute
  | append_singleton after op ih =>
    intro hopen
    have hbefore := ih fun pre other post heq =>
      hopen pre other (post ++ [op]) (by rw [heq, append_assoc, cons_append])
    rw [← append_assoc, run_append]
    exact Op.apply_keepsRoute (run_inv _) hbefore (hopen after op [] rfl)

/-- A teardown leaves no relay and no route of the endpoint. -/
theorem cleanupConnection_clears (h : TableInv inner) (hregistered : Registered inner endpoint) :
    (∀ corr, (Op.apply inner (.cleanupConnection endpoint.connectionId)).pendingRelays.get
        (endpoint, corr) = none) ∧
      ∀ key route, (Op.apply inner (.cleanupConnection endpoint.connectionId)).clientToModule.get
        key = some route → route.moduleEndpoint ≠ endpoint := by
  have hrole := h.registered_endpoint endpoint hregistered
  have hremoved := disconnect_removed
    { inner with closingConnections := insert endpoint.connectionId inner.closingConnections }
    endpoint h.bindings h.reservations
  constructor
  · intro corr
    have hpending := hremoved.pendingRelays (endpoint, corr)
    simp only [Op.apply, cleanupConnectionCounted, hrole]
    refine hpending.trans ?_
    cases inner.pendingRelays.get (endpoint, corr) with
    | none => rfl
    | some => simp [Option.filter]
  · intro key route hget hendpoint
    have hclosed : closes inner route (.cleanupConnection endpoint.connectionId) = true := by
      simp only [closes, hrole]
      exact decide_eq_true hendpoint
    have hfiltered := (cleanupConnectionCounted_filtered h endpoint.connectionId).client key
    rw [Op.apply, hfiltered, Option.filter_eq_some_iff, hclosed] at hget
    exact Bool.false_ne_true hget.2

/-- A module-control request goes to the active endpoint of its id. -/
theorem beginModuleControlRpcInner_active
    (h : (beginModuleControlRpcInner inner moduleId request).result = .ok rpc) :
    ∃ module, inner.modulesById.get moduleId = some module ∧ rpc.endpoint = module.endpoint := by
  unfold beginModuleControlRpcInner at h
  cases hactive : inner.modulesById.get moduleId with
  | none =>
    rw [hactive] at h
    cases h
  | some module =>
    rw [hactive] at h
    dsimp only at h
    unfold beginControlRpcLocked at h
    split at h
    case isTrue => cases h
    split at h
    case isTrue => cases h
    dsimp only at h
    split at h
    case h_1 => cases h
    case h_2 =>
      cases h
      exact ⟨module, rfl, rfl⟩

/-- A drain by id is of the active endpoint. -/
theorem beginModuleDrain_active
    (h : (beginModuleDrain inner moduleId reason exclusions).result = .ok (some target)) :
    ∃ module, inner.modulesById.get moduleId = some module ∧ target.endpoint = module.endpoint := by
  unfold beginModuleDrain at h
  cases hactive : inner.modulesById.get moduleId with
  | none =>
    rw [hactive] at h
    cases h
  | some module =>
    rw [hactive] at h
    cases h
    exact ⟨module, rfl, rfl⟩

/-- The slots of a table, and what its lookups by id resolve to: the target of a
relay, of a control request and of a drain. The other lookups by id of the source
answer queries from the active slot and are not modelled. -/
structure SlotDiscipline (inner : ForwardingInner) : Prop where
  slots : SlotInv inner
  active_unique : ∀ moduleId other module module', inner.modulesById.get moduleId = some module →
    inner.modulesById.get other = some module' → module.endpoint = module'.endpoint →
    moduleId = other
  candidate_unique : ∀ moduleId other module module',
    inner.candidatesById.get moduleId = some module →
    inner.candidatesById.get other = some module' → module.endpoint = module'.endpoint →
    moduleId = other
  relays : ∀ connectionId moduleId module,
    relayTargetLocked inner connectionId moduleId = .ok module →
    inner.modulesById.get moduleId = some module
  controls : ∀ moduleId request rpc,
    (beginModuleControlRpcInner inner moduleId request).result = .ok rpc →
    ∃ module, inner.modulesById.get moduleId = some module ∧ rpc.endpoint = module.endpoint
  drains : ∀ moduleId reason exclusions target,
    (beginModuleDrain inner moduleId reason exclusions).result = .ok (some target) →
    ∃ module, inner.modulesById.get moduleId = some module ∧ target.endpoint = module.endpoint

/-- Every run keeps the slot discipline. -/
theorem run_slotDiscipline (ops : List Op) : SlotDiscipline (run ops) := by
  have htable := run_inv ops
  refine ⟨run_slotInv, ?_, ?_, ?_, ?_, ?_⟩
  · intro moduleId other module module' hget hother hsame
    exact endpoint_unique htable.active_registered hget hother hsame
  · intro moduleId other module module' hget hother hsame
    exact endpoint_unique htable.candidate_registered hget hother hsame
  · intro connectionId moduleId module htarget
    exact (relayTargetLocked_ok htarget).2.1
  · intro moduleId request rpc hok
    exact beginModuleControlRpcInner_active hok
  · intro moduleId reason exclusions target hok
    exact beginModuleDrain_active hok

/-- What holds of the incumbent in every state between the cutover and the
teardown of its connection. -/
structure IncumbentServed (cut inner : ForwardingInner) (endpoint : ModuleEndpointId)
    (moduleId : String) : Prop where
  retired : Retired cut inner endpoint moduleId
  /-- An ack in time and for an open client is refused as a reload. -/
  ack : ∀ corr pending reads, inner.pendingRelays.get (endpoint, corr) = some pending →
    reads.now < pending.deadline → reads.sinkClosedAtGuard = false →
    pending.reservation.clientKey.connectionId ∉ inner.closingConnections →
    (completePendingRelay inner endpoint.connectionId corr .accepted reads).effects =
      [.settle pending.sender (.daemonRejected (moduleReloadingRefusal moduleId))]
  /-- No reply ends the incumbent's connection. -/
  ok : ∀ corr outcome reads, ∃ completion,
    (completePendingRelay inner endpoint.connectionId corr outcome reads).result = .ok completion
  /-- Every reply releases the pair of its relay. -/
  released : ∀ corr pending outcome reads,
    inner.pendingRelays.get (endpoint, corr) = some pending →
    (completePendingRelay inner endpoint.connectionId corr outcome reads).inner.pendingRelays.get
        (endpoint, corr) = none ∧
      (completePendingRelay inner endpoint.connectionId corr outcome
        reads).inner.reservedClient.get pending.reservation.clientKey = none ∧
      (completePendingRelay inner endpoint.connectionId corr outcome
        reads).inner.reservedModule.get pending.reservation.moduleKey = none

/-- A retired endpoint is served as promised. -/
theorem Retired.served (h : Retired cut inner endpoint moduleId) (htable : TableInv inner) :
    IncumbentServed cut inner endpoint moduleId := by
  refine ⟨h, ?_, ?_, ?_⟩
  · intro corr pending reads hpending htime hsink hclient
    rw [completePendingRelay_superseded htable h.registered h.superseded hpending htime hsink
      hclient]
  · intro corr outcome reads
    exact (completePendingRelay_superseded_released htable h.superseded ⟨moduleId, h.registered⟩).1
  intro corr pending outcome reads hpending
  rw [(completePendingRelay_superseded_released htable h.superseded ⟨moduleId, h.registered⟩
    ).2 pending hpending]
  exact dropRelay_released htable hpending

/-- A swap in the middle of one open. -/
def swapDuringOpen : List Op :=
  [.registerModuleConnection ⟨1, "m", 1, .serial, ⟨1⟩, true⟩,
    .beginRouteBindRelay ⟨9, ⟨9⟩, 1, 7, "m", .direct, none, none, 10, false, 0⟩,
    .registerCandidateModuleConnection ⟨2, "m", 1, .serial, ⟨2⟩, true⟩]

set_option maxRecDepth 4000 in
/-- An ack that arrives at the relay's deadline is settled as a timeout. -/
theorem lateAck_times_out :
    (cutoverCandidate (run swapDuringOpen) "m").result = .ok (some ⟨⟨2, 2⟩, some ⟨1, 1⟩⟩) ∧
      (completePendingRelay (run (swapDuringOpen ++ [.cutoverCandidate "m"])) 1 1 .accepted
        ⟨10, false, false, 0, 0, false⟩).effects =
        [.settle 0 (.daemonRejected (.new "module_timeout"
          "route.bind response arrived after its daemon deadline"))] := by
  decide

/-- A cutover splits the relays of its id: those before it are wholly on the
incumbent, those after it wholly on the promoted endpoint. The incumbent takes
and commits nothing more, its replies are refused without ending its
connection, its routes stay until they are closed, and its teardown leaves
nothing behind. The slot discipline holds in every state of every run. -/
theorem cutover_is_one_step (before : List Op) (moduleId : String) (cutover : ForwardingCutover)
    (hcut : (cutoverCandidate (run before) moduleId).result = .ok (some cutover))
    (after : List Op) :
    (∀ request relay, request.moduleId = moduleId →
      (beginRouteBindRelayInner (run before) request).result = .ok relay →
      ∃ module, WhollyOn (run before) request relay module ∧
        cutover.incumbent = some module.endpoint) ∧
    (∀ request relay, request.moduleId = moduleId →
      (∀ op ∈ after, fillsSlot moduleId op = false) →
      (beginRouteBindRelayInner (run (before ++ .cutoverCandidate moduleId :: after))
        request).result = .ok relay →
      ∃ module, WhollyOn (run (before ++ .cutoverCandidate moduleId :: after)) request relay
          module ∧ module.endpoint = cutover.promoted) ∧
    (∀ endpoint, cutover.incumbent = some endpoint →
      Op.cleanupConnection endpoint.connectionId ∉ after →
      IncumbentServed (run before) (run (before ++ .cutoverCandidate moduleId :: after)) endpoint
          moduleId ∧
        (∀ corr, (run (before ++ .cutoverCandidate moduleId :: after ++
          [.cleanupConnection endpoint.connectionId])).pendingRelays.get (endpoint, corr) = none) ∧
        ∀ key route, (run (before ++ .cutoverCandidate moduleId :: after ++
            [.cleanupConnection endpoint.connectionId])).clientToModule.get key = some route →
          route.moduleEndpoint ≠ endpoint) ∧
    (∀ key route, (run before).clientToModule.get key = some route →
      (∀ pre op post, Op.cutoverCandidate moduleId :: after = pre ++ op :: post →
        closes (run (before ++ pre)) route op = false) →
      (run (before ++ .cutoverCandidate moduleId :: after)).clientToModule.get key = some route) ∧
    ∀ ops : List Op, SlotDiscipline (run ops) := by
  refine ⟨?_, ?_, ?_, ?_, run_slotDiscipline⟩
  · rintro request relay rfl hok
    obtain ⟨module, hwholly⟩ := reserved_whollyOn (run_inv before) hok
    obtain ⟨candidate, -, hincumbent, -⟩ := cutoverCandidate_ok hcut
    refine ⟨module, hwholly, ?_⟩
    rw [hincumbent, hwholly.active]
    rfl
  · rintro request relay rfl hafter hok
    obtain ⟨module, hwholly⟩ := reserved_whollyOn (run_inv _) hok
    exact ⟨module, hwholly, run_active hcut after hafter module hwholly.active⟩
  · intro endpoint hincumbent hafter
    have hretired := run_retired hcut hincumbent after hafter
    obtain ⟨hrelays, hroutes⟩ := cleanupConnection_clears
      (run_inv (before ++ .cutoverCandidate moduleId :: after)) ⟨moduleId, hretired.registered⟩
    refine ⟨hretired.served (run_inv _), ?_, ?_⟩
    · rw [run_append]
      exact hrelays
    · rw [run_append]
      exact hroutes
  · intro key route hroute hopen
    exact run_keepsRoute hroute (.cutoverCandidate moduleId :: after) hopen

set_option maxRecDepth 4000 in
/-- The swap of the example, with the reply of the open still to come. -/
theorem swapDuringOpen_is_one_step :
    (cutoverCandidate (run swapDuringOpen) "m").result = .ok (some ⟨⟨2, 2⟩, some ⟨1, 1⟩⟩) ∧
      IncumbentServed (run swapDuringOpen) (run (swapDuringOpen ++ [.cutoverCandidate "m"]))
        ⟨1, 1⟩ "m" := by
  have hcut : (cutoverCandidate (run swapDuringOpen) "m").result =
      .ok (some ⟨⟨2, 2⟩, some ⟨1, 1⟩⟩) := by decide
  obtain ⟨-, -, hserved, -⟩ := cutover_is_one_step swapDuringOpen "m" ⟨⟨2, 2⟩, some ⟨1, 1⟩⟩ hcut []
  exact ⟨hcut, (hserved ⟨1, 1⟩ rfl not_mem_nil).1⟩

end Subconscious.ForwardingCutover
