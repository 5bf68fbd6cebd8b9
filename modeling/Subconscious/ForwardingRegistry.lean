import Subconscious.ForwardingSteps

/-!
# Module slots and correlation ids over calls

A GOODBYE for a given up bind finds its module through the active slot or the
superseded slot, and a correlation id is never handed out twice on one
endpoint. Both rest on what calls do to the slots and to the counters: a slot
is lost only to a registration over it or to the teardown of its endpoint, and
a counter moves forward only.
-/

namespace Subconscious.ForwardingRegistry

open HashMaps HashMap Protocol ForwardingState ForwardingOperations ForwardingRelays
open ForwardingTeardown
open ForwardingRuns ForwardingInvariant ForwardingFrames ForwardingConsistency ForwardingSteps

variable {inner : ForwardingInner}

/-- The endpoint is in the active slot of its id or among the superseded ones. -/
def Slotted (inner : ForwardingInner) (endpoint : ModuleEndpointId) : Prop :=
  (∃ moduleId module, inner.modulesById.get moduleId = some module ∧
      module.endpoint = endpoint) ∨
    ∃ module, inner.supersededEndpoints.get endpoint = some module ∧ module.endpoint = endpoint

/-- The correlation id is behind its endpoint's counter. -/
def CorrBelow (inner : ForwardingInner) (key : ControlKey) : Prop :=
  ∃ next, inner.nextControlCorr.get key.1 = some next ∧ (next = 0 ∨ key.2 < next)

/-- A slotted endpoint's connection is found. -/
theorem moduleConnectionForEndpointLocked_slotted (h : TableInv inner)
    (hregistered : Registered inner endpoint) (hslotted : Slotted inner endpoint) :
    ∃ module, moduleConnectionForEndpointLocked inner endpoint = some module ∧
      module.endpoint = endpoint := by
  obtain ⟨moduleId, hid⟩ := hregistered
  unfold moduleConnectionForEndpointLocked
  rw [hid]
  dsimp only
  cases hactive : (inner.modulesById.get moduleId).filter
      fun module => module.endpoint = endpoint with
  | some active =>
    obtain ⟨-, htest⟩ := Option.filter_eq_some_iff.mp hactive
    exact ⟨active, rfl, of_decide_eq_true htest⟩
  | none =>
    cases hcandidate : (inner.candidatesById.get moduleId).filter
        fun module => module.endpoint = endpoint with
    | some candidate =>
      obtain ⟨-, htest⟩ := Option.filter_eq_some_iff.mp hcandidate
      exact ⟨candidate, rfl, of_decide_eq_true htest⟩
    | none =>
      rcases hslotted with ⟨moduleId', module, hmodule, rfl⟩ | ⟨module, hsuperseded, hendpoint⟩
      · have hsame := h.active_registered moduleId' module hmodule
        rw [hid] at hsame
        cases hsame
        rw [hmodule, Option.filter_some_pos (by simp)] at hactive
        cases hactive
      · exact ⟨module, hsuperseded, hendpoint⟩

/-- A GOODBYE for a bind on a slotted endpoint finds the endpoint's queue. -/
theorem abandonedRouteTarget_slotted (h : TableInv inner)
    (hregistered : Registered inner reservation.moduleKey.endpoint)
    (hslotted : Slotted inner reservation.moduleKey.endpoint) :
    ∃ target, abandonedRouteTarget inner reservation = some target := by
  obtain ⟨module, hmodule, hendpoint⟩ :=
    moduleConnectionForEndpointLocked_slotted h hregistered hslotted
  obtain ⟨moduleId, hid⟩ := hregistered
  unfold abandonedRouteTarget
  rw [hid, hmodule]
  exact ⟨_, if_pos hendpoint⟩

/-- A GOODBYE names the handle of its reservation. -/
theorem abandonedRouteTarget_handle (h : abandonedRouteTarget inner reservation = some target) :
    target.connectionId = reservation.moduleKey.endpoint.connectionId ∧
      target.channel = reservation.moduleKey.channel ∧ target.epoch = reservation.moduleEpoch := by
  unfold abandonedRouteTarget at h
  split at h
  case h_1 moduleId module _ _ =>
    split at h
    case isTrue hendpoint =>
      cases h
      exact ⟨by rw [hendpoint], rfl, rfl⟩
    case isFalse => cases h
  case h_2 => cases h

/-- Slots are kept and counters do not go back. -/
structure KeepsRegistry (inner inner' : ForwardingInner) : Prop where
  slotted : ∀ endpoint, Slotted inner endpoint → Slotted inner' endpoint
  corr : ∀ key, CorrBelow inner key → CorrBelow inner' key

theorem KeepsRegistry.of_eq (hactive : inner'.modulesById = inner.modulesById)
    (hsuperseded : inner'.supersededEndpoints = inner.supersededEndpoints)
    (hcorr : inner'.nextControlCorr = inner.nextControlCorr) : KeepsRegistry inner inner' := by
  constructor
  · intro endpoint h
    rwa [Slotted, hactive, hsuperseded]
  · intro key h
    rwa [CorrBelow, hcorr]

variable (inner)

theorem KeepsRegistry.refl : KeepsRegistry inner inner := .of_eq rfl rfl rfl

section

variable (endpoint : ModuleEndpointId)

/-- Drawing a correlation id moves its own counter forward. -/
theorem allocateControlCorr_below :
    ∀ key, CorrBelow inner key → CorrBelow (allocateControlCorr inner endpoint).1 key := by
  intro key hbelow
  unfold allocateControlCorr
  dsimp only
  split
  case isTrue => exact hbelow
  rename_i hzero
  obtain ⟨next, hnext, hlt⟩ := hbelow
  rw [CorrBelow, get_insert]
  split
  case isTrue heq =>
    rw [heq] at hnext
    have hcandidate : (inner.nextControlCorr.get endpoint).getD 1 = next := by rw [hnext]; rfl
    rw [hcandidate] at hzero ⊢
    refine ⟨_, rfl, ?_⟩
    have hlt' := hlt.resolve_left hzero
    rcases @corr_next_lt next with hwrap | hgrow
    · exact .inl hwrap
    · exact .inr (UInt64.lt_trans hlt' hgrow)
  case isFalse => exact ⟨next, hnext, hlt⟩

end

variable {inner}

theorem allocateControlCorr_registry
    (h : allocateControlCorr inner endpoint = (inner', result)) : KeepsRegistry inner inner' := by
  have honly := allocateControlCorr_only inner endpoint
  have hbelow := allocateControlCorr_below inner endpoint
  rw [h] at honly hbelow
  refine ⟨?_, hbelow⟩
  intro other hslotted
  dsimp only at honly
  rw [honly]
  exact hslotted

/-- An allocation of slots touches neither module slots nor counters. -/
theorem allocateRouteSlots_registry
    (h : allocateRouteSlots inner connectionId endpoint = (inner', result)) :
    KeepsRegistry inner inner' := by
  cases result with
  | error => apply KeepsRegistry.of_eq <;> rw [allocateRouteSlots_error h]
  | ok => apply KeepsRegistry.of_eq <;> rw [(allocateRouteSlots_ok h).2.2.2]

theorem KeepsRegistry.trans (hab : KeepsRegistry a b) (hbc : KeepsRegistry b c) :
    KeepsRegistry a c :=
  ⟨fun endpoint h => hbc.slotted endpoint (hab.slotted endpoint h),
    fun key h => hbc.corr key (hab.corr key h)⟩

variable (inner)

/-- Reserving draws a correlation id and touches no slot. The key it reserves
was not behind its endpoint's counter, and now it is. -/
theorem beginRouteBindRelayInner_registry (request : RelayRequest) :
    KeepsRegistry inner (beginRouteBindRelayInner inner request).inner ∧
      ∀ relay, (beginRouteBindRelayInner inner request).result = .ok relay →
        ¬ CorrBelow inner (relay.endpoint, relay.corr) ∧
          CorrBelow (beginRouteBindRelayInner inner request).inner
            (relay.endpoint, relay.corr) := by
  have hbegun := beginRouteBindRelayInner_begun inner request
  generalize beginRouteBindRelayInner inner request = step at hbegun ⊢
  cases hbegun with
  | untargeted => exact ⟨.refl inner, by simp⟩
  | unnumbered _ _ _ hcorr => exact ⟨allocateControlCorr_registry hcorr, by simp⟩
  | unslotted _ _ _ _ _ hcorr hslots =>
    exact ⟨(allocateControlCorr_registry hcorr).trans (allocateRouteSlots_registry hslots), by simp⟩
  | reserved module corr _ _ _ _ _ hcorr hslots =>
    have hdrawn := allocateControlCorr_registry hcorr
    have hkept := allocateRouteSlots_registry hslots
    obtain ⟨hnew, -, hbelow⟩ := allocateControlCorr_ok hcorr
    refine ⟨⟨(hdrawn.trans hkept).slotted, (hdrawn.trans hkept).corr⟩, ?_⟩
    rintro relay ⟨⟩
    exact ⟨fun hold => hnew _ hold.choose_spec.1 hold.choose_spec.2, hkept.corr _ hbelow⟩

/-- What one call does to slots and counters. -/
inductive RegistryStep (inner : ForwardingInner) (op : Op) (inner' : ForwardingInner) : Prop where
  | kept (hkept : KeepsRegistry inner inner')
  /-- A registration takes the active slot of its id. -/
  | installed (registration : Registration) (hop : op = .registerModuleConnection registration)
      (hslotted : ∀ endpoint, Slotted inner endpoint → Slotted inner' endpoint ∨
        ∃ module, inner.modulesById.get registration.moduleId = some module ∧
          module.endpoint = endpoint)
      (hcorr : ∀ key, key.1 ≠ registration.endpoint inner → CorrBelow inner key →
        CorrBelow inner' key)
      (hok : (registerModuleConnectionInner inner registration).result =
        .ok (registration.endpoint inner))
  /-- A candidate starts its own counter. -/
  | candidate (registration : Registration)
      (hop : op = .registerCandidateModuleConnection registration)
      (hslotted : ∀ endpoint, Slotted inner endpoint → Slotted inner' endpoint)
      (hcorr : ∀ key, key.1 ≠ registration.endpoint inner → CorrBelow inner key →
        CorrBelow inner' key)
      (hok : (registerCandidateModuleConnectionInner inner registration).result =
        .ok (registration.endpoint inner))
  /-- A teardown clears the slots and the counter of its endpoint. -/
  | removed (connectionId : ConnectionId) (endpoint : ModuleEndpointId)
      (hop : op = .cleanupConnection connectionId)
      (hrole : inner.endpointByConnection.get connectionId = some endpoint)
      (hslotted : ∀ other, other ≠ endpoint → Slotted inner other → Slotted inner' other)
      (hcorr : ∀ key, key.1 ≠ endpoint → CorrBelow inner key → CorrBelow inner' key)

variable (registration : Registration)

theorem installEndpoint_corr (hne : key.1 ≠ registration.endpoint inner) (h : CorrBelow inner key) :
    CorrBelow (installEndpoint inner registration) key := by
  obtain ⟨next, hnext, hlt⟩ := h
  refine ⟨next, ?_, hlt⟩
  simp only [installEndpoint, get_insert, if_neg hne]
  exact hnext

/-- A promotion moves the incumbent to the superseded slot. -/
theorem promoteCandidate_registry :
    KeepsRegistry inner (promoteCandidate inner moduleId candidate) := by
  refine ⟨?_, fun _ h => h⟩
  unfold promoteCandidate
  rintro endpoint (⟨moduleId', module, hactive, hendpoint⟩ | ⟨module, hsuperseded, hendpoint⟩)
  · by_cases hid : moduleId' = moduleId
    · subst hid
      right
      refine ⟨module, ?_, hendpoint⟩
      simp only [hactive, get_insert]
      rw [if_pos hendpoint.symm]
    · left
      refine ⟨moduleId', module, ?_, hendpoint⟩
      simp only [get_insert, if_neg hid]
      exact hactive
  · right
    cases inner.modulesById.get moduleId with
    | none => exact ⟨module, hsuperseded, hendpoint⟩
    | some old =>
      by_cases hold : endpoint = old.endpoint
      · exact ⟨old, by rw [get_insert, if_pos hold], hold.symm⟩
      · exact ⟨module, by rw [get_insert, if_neg hold]; exact hsuperseded, hendpoint⟩

/-- Clearing an endpoint's slot leaves the other endpoints' slots. -/
theorem clearSlot_other (hget : modules.get other = some module)
    (hne : module.endpoint ≠ endpoint) :
    (clearSlot modules moduleId endpoint).get other = some module := by
  unfold clearSlot
  split
  case isTrue htest =>
    rw [get_remove]
    split
    case isTrue heq =>
      rw [← heq, hget, Option.any_some, decide_eq_true_eq] at htest
      exact absurd htest hne
    case isFalse => exact hget
  case isFalse => exact hget

/-- Forgetting an endpoint leaves the other endpoints' slots and counters. -/
theorem forgetEndpoint_registry :
    (∀ other, other ≠ endpoint → Slotted inner other →
        Slotted (forgetEndpoint inner endpoint) other) ∧
      ∀ key, key.1 ≠ endpoint → CorrBelow inner key →
        CorrBelow (forgetEndpoint inner endpoint) key := by
  constructor
  · rintro other hne (⟨moduleId, module, hactive, rfl⟩ | ⟨module, hsuperseded, hendpoint⟩)
    · left
      refine ⟨moduleId, module, ?_, rfl⟩
      unfold forgetEndpoint
      cases inner.moduleIdByEndpoint.get endpoint with
      | none => exact hactive
      | some => exact clearSlot_other hactive hne
    · right
      refine ⟨module, ?_, hendpoint⟩
      simp only [forgetEndpoint, get_remove, if_neg hne]
      exact hsuperseded
  · rintro key hne ⟨next, hnext, hlt⟩
    refine ⟨next, ?_, hlt⟩
    simp only [forgetEndpoint, get_remove, if_neg hne]
    exact hnext

variable {inner}

theorem workMoved_registry (h : WorkMoved tags inner inner') : KeepsRegistry inner inner' := by
  constructor
  · intro endpoint hslotted
    rw [h.rest]
    exact hslotted
  intro key hbelow
  rcases h.corr with hcorr | ⟨endpoint, hcorr⟩
  · rwa [CorrBelow, hcorr]
  · rw [CorrBelow, hcorr]
    exact allocateControlCorr_below inner endpoint key hbelow

theorem Op.apply_registry (h : TableInv inner) : RegistryStep inner op (op.apply inner) := by
  have hstep := Op.apply_step h op
  generalize hnext : op.apply inner = inner' at hstep ⊢
  cases hstep with
  | moved _ _ _ hmoved => exact .kept (workMoved_registry hmoved)
  | idle => exact .kept (.refl inner)
  | refused request | reserved request =>
    rw [← hnext]
    exact .kept (beginRouteBindRelayInner_registry inner request).1
  | activated registration _ hok =>
    refine .installed registration rfl ?_ (fun key => installEndpoint_corr _ _) hok
    rintro endpoint (⟨moduleId, module, hactive, hendpoint⟩ | hsuperseded)
    · by_cases hid : moduleId = registration.moduleId
      · exact .inr ⟨module, hid ▸ hactive, hendpoint⟩
      refine .inl (.inl ⟨moduleId, module, ?_, hendpoint⟩)
      rw [activateEndpoint, get_insert, if_neg hid]
      exact hactive
    · exact .inl (.inr hsuperseded)
  | offered registration _ hok =>
    exact .candidate registration rfl (fun _ h => h) (fun key => installEndpoint_corr _ _) hok
  | promoted moduleId candidate => exact .kept (promoteCandidate_registry inner)
  | marked _ _ _ _ _ hmoved =>
    exact .kept ⟨(workMoved_registry hmoved).slotted, (workMoved_registry hmoved).corr⟩
  | gated =>
    apply RegistryStep.kept
    rw [beginDaemonDrain_controlOnly]
    exact .of_eq rfl rfl rfl
  | recorded => exact .kept (.of_eq rfl rfl rfl)
  | forgotten _ _ _ hmoved =>
    exact .kept ⟨(workMoved_registry hmoved).slotted, (workMoved_registry hmoved).corr⟩
  | removed endpoint _ hrole hmoved =>
    obtain ⟨hslotted, hcorr⟩ := forgetEndpoint_registry inner
    have hkept := workMoved_registry hmoved
    exact .removed endpoint.connectionId endpoint rfl hrole
      (fun other hne hother => hkept.slotted other (hslotted other hne hother))
      fun key hne hbelow => hkept.corr key (hcorr key hne hbelow)

end Subconscious.ForwardingRegistry
