import Subconscious.ForwardingRegistry

/-!
# Endpoint slots and drain marks

An endpoint is active for its module id, a candidate of a swap, superseded by
one, or displaced by a plain registration and in no slot until its connection
is torn down. One inversion says what each call can do to the slots and the
drain marks. From it follow the discipline of the slots in every run and the
gate that a daemon-wide drain closes.
-/

namespace Subconscious.ForwardingSlots

open HashMaps HashMap Protocol ForwardingState ForwardingOperations ForwardingTeardown
open ForwardingRuns ForwardingInvariant ForwardingFrames ForwardingConsistency ForwardingSteps
open ForwardingRegistry

/-- The slots and the endpoint names are the same. -/
structure SameSlotting (inner inner' : ForwardingInner) : Prop where
  modulesById : inner'.modulesById = inner.modulesById
  candidatesById : inner'.candidatesById = inner.candidatesById
  supersededEndpoints : inner'.supersededEndpoints = inner.supersededEndpoints
  moduleIdByEndpoint : inner'.moduleIdByEndpoint = inner.moduleIdByEndpoint
  endpointByConnection : inner'.endpointByConnection = inner.endpointByConnection

/-- The drain marks and the drain results are the same. -/
structure SameMarks (inner inner' : ForwardingInner) : Prop where
  daemonDraining : inner'.daemonDraining = inner.daemonDraining
  drainingEndpoints : inner'.drainingEndpoints = inner.drainingEndpoints
  daemonDrainResults : inner'.daemonDrainResults = inner.daemonDrainResults

/-- The slots are the same where nothing happens. -/
theorem SameSlotting.refl (inner : ForwardingInner) : SameSlotting inner inner := by
  constructor <;> rfl

/-- The marks are the same where nothing happens. -/
theorem SameMarks.refl (inner : ForwardingInner) : SameMarks inner inner := by
  constructor <;> rfl

/-- One call's effect on the slots and the marks. -/
inductive SlottingStep (inner : ForwardingInner) : Op → ForwardingInner → Prop where
  /-- Nothing differs. -/
  | same (op : Op) (inner' : ForwardingInner) (hslots : SameSlotting inner inner')
      (hmarks : SameMarks inner inner') : SlottingStep inner op inner'
  /-- A new endpoint took the active slot of its id. -/
  | activated (registration : Registration) (hopen : inner.daemonDraining = false)
      (hfree : inner.endpointByConnection.get registration.connectionId = none) :
    SlottingStep inner (.registerModuleConnection registration)
      (activateEndpoint inner registration)
  /-- A new endpoint took the free candidate slot of its id. -/
  | offered (registration : Registration) (hopen : inner.daemonDraining = false)
      (hfree : inner.endpointByConnection.get registration.connectionId = none) :
    SlottingStep inner (.registerCandidateModuleConnection registration)
      (offerEndpoint inner registration)
  /-- The candidate of an id took the active slot. -/
  | promoted (moduleId : String) (candidate : ModuleConnection)
      (hopen : inner.daemonDraining = false)
      (hcandidate : inner.candidatesById.get moduleId = some candidate) :
    SlottingStep inner (.cutoverCandidate moduleId) (promoteCandidate inner moduleId candidate)
  /-- One endpoint was marked draining. -/
  | marked (op : Op) (inner' : ForwardingInner) (endpoint : ModuleEndpointId)
      (reason : RouteCloseReason) (hslots : SameSlotting inner inner')
      (hmarks : SameMarks { inner with
        drainingEndpoints := inner.drainingEndpoints.insert endpoint reason } inner') :
    SlottingStep inner op inner'
  /-- Every endpoint in a slot was marked draining. -/
  | gated (hopen : inner.daemonDraining = false) :
    SlottingStep inner .beginDaemonDrain (beginDaemonDrain inner).inner
  /-- The result of a drain was recorded. -/
  | recorded (endpoint : ModuleEndpointId) (drained : Bool) :
    SlottingStep inner (.recordDaemonDrainResult endpoint drained)
      (recordDaemonDrainResult inner endpoint drained).inner
  /-- An endpoint was forgotten with its connection. -/
  | removed (endpoint : ModuleEndpointId) (inner' : ForwardingInner)
      (hrole : inner.endpointByConnection.get endpoint.connectionId = some endpoint)
      (hslots : SameSlotting (forgetEndpoint inner endpoint) inner')
      (hmarks : SameMarks (forgetEndpoint inner endpoint) inner') :
    SlottingStep inner (.cleanupConnection endpoint.connectionId) inner'

variable {inner : ForwardingInner}

/-- Moved work leaves the slots and the marks alone. -/
theorem workMoved_slotting (h : WorkMoved tags inner inner') :
    SameSlotting inner inner' ∧ SameMarks inner inner' := by
  constructor
  · constructor <;> rw [h.rest]
  · constructor <;> rw [h.rest]

/-- A daemon drain leaves the slots alone. -/
theorem gated_slotting (inner : ForwardingInner) :
    SameSlotting inner (beginDaemonDrain inner).inner := by
  constructor <;> rw [beginDaemonDrain_controlOnly]

variable {registration : Registration}

/-- One call's effect on the slots and the marks. -/
theorem Op.apply_slotting (h : TableInv inner) (op : Op) :
    SlottingStep inner op (op.apply inner) := by
  have hstep := Op.apply_step h op
  generalize op.apply inner = inner' at hstep ⊢
  cases hstep with
  | moved _ _ _ hmoved =>
    obtain ⟨hslots, hmarks⟩ := workMoved_slotting hmoved
    exact .same _ _ hslots hmarks
  | idle => exact .same _ _ (.refl inner) (.refl inner)
  | refused _ _ _ _ hrefused =>
    rw [hrefused]
    exact .same _ _ (by constructor <;> rfl) (by constructor <;> rfl)
  | reserved _ _ _ _ hreserved =>
    rw [hreserved.rest]
    exact .same _ _ (by constructor <;> rfl) (by constructor <;> rfl)
  | activated registration hfree => exact .activated registration hfree.undrained hfree.unregistered
  | offered registration hfree => exact .offered registration hfree.undrained hfree.unregistered
  | promoted moduleId candidate hopen hcandidate =>
    exact .promoted moduleId candidate hopen hcandidate
  | marked _ _ _ endpoint reason hmoved =>
    obtain ⟨hslots, hmarks⟩ := workMoved_slotting hmoved
    exact .marked _ _ endpoint reason { hslots with } hmarks
  | gated hopen => exact .gated hopen
  | recorded endpoint drained => exact .recorded endpoint drained
  | forgotten _ _ _ hmoved =>
    obtain ⟨hslots, hmarks⟩ := workMoved_slotting hmoved
    exact .same _ _ { hslots with } { hmarks with }
  | removed endpoint _ hrole hmoved =>
    obtain ⟨hslots, hmarks⟩ := workMoved_slotting hmoved
    exact .removed endpoint _ hrole hslots hmarks

/-- An endpoint is in at most one slot, and the superseded ones are registered. -/
structure SlotInv (inner : ForwardingInner) : Prop where
  superseded_registered : ∀ endpoint module, inner.supersededEndpoints.get endpoint = some module →
    module.endpoint = endpoint ∧ Registered inner endpoint
  active_candidate : ∀ moduleId active candidateId candidate,
    inner.modulesById.get moduleId = some active →
    inner.candidatesById.get candidateId = some candidate → active.endpoint ≠ candidate.endpoint
  active_superseded : ∀ moduleId active, inner.modulesById.get moduleId = some active →
    inner.supersededEndpoints.get active.endpoint = none
  candidate_superseded : ∀ moduleId candidate, inner.candidatesById.get moduleId = some candidate →
    inner.supersededEndpoints.get candidate.endpoint = none

/-- An empty table has no endpoint in two slots. -/
theorem slotInv_default : SlotInv ForwardingInner.default := by
  constructor <;> simp [ForwardingInner.default]

/-- Slots that stay the same stay apart. -/
theorem SlotInv.same (h : SlotInv inner) (hs : SameSlotting inner inner') : SlotInv inner' := by
  obtain ⟨h1, h2, h3, h4, -⟩ := hs
  constructor
  all_goals simp only [Registered, h1, h2, h3, h4]
  exacts [h.superseded_registered, h.active_candidate, h.active_superseded, h.candidate_superseded]

/-- The endpoint of a new registration differs from every registered one. -/
theorem newEndpoint_ne (h : TableInv inner)
    (hfree : inner.endpointByConnection.get registration.connectionId = none)
    (hregistered : Registered inner endpoint) : endpoint ≠ registration.endpoint inner := by
  rintro rfl
  have hrole := h.registered_endpoint _ hregistered
  rw [show (registration.endpoint inner).connectionId = registration.connectionId from rfl,
    hfree] at hrole
  cases hrole

/-- An active endpoint is registered. -/
theorem active_isRegistered (h : TableInv inner)
    (hget : inner.modulesById.get moduleId = some module) : Registered inner module.endpoint :=
  ⟨moduleId, h.active_registered moduleId module hget⟩

/-- A candidate is registered. -/
theorem candidate_isRegistered (h : TableInv inner)
    (hget : inner.candidatesById.get moduleId = some module) : Registered inner module.endpoint :=
  ⟨moduleId, h.candidate_registered moduleId module hget⟩

section

variable (h : SlotInv inner) (htable : TableInv inner) (registration : Registration)
  (hfree : inner.endpointByConnection.get registration.connectionId = none)
include h

/-- Installing an endpoint keeps the superseded ones registered. -/
theorem SlotInv.superseded_installed (endpoint : ModuleEndpointId) (module : ModuleConnection)
    (hget : inner.supersededEndpoints.get endpoint = some module) :
    module.endpoint = endpoint ∧ Registered (installEndpoint inner registration) endpoint := by
  obtain ⟨hendpoint, moduleId, hid⟩ := h.superseded_registered endpoint module hget
  refine ⟨hendpoint, ?_⟩
  unfold Registered installEndpoint
  rw [get_insert]
  split
  case isTrue => exact ⟨_, rfl⟩
  case isFalse => exact ⟨moduleId, hid⟩

include htable hfree

/-- The endpoint of a new registration is not superseded. -/
theorem SlotInv.new_superseded :
    inner.supersededEndpoints.get (registration.endpoint inner) = none := by
  cases hget : inner.supersededEndpoints.get (registration.endpoint inner) with
  | none => rfl
  | some module =>
    have hregistered := (h.superseded_registered _ module hget).2
    exact absurd rfl (newEndpoint_ne htable hfree hregistered)

/-- Activating an endpoint keeps the slots apart. -/
theorem SlotInv.activate : SlotInv (activateEndpoint inner registration) := by
  constructor
  · exact h.superseded_installed registration
  · intro moduleId active candidateId candidate hactive hcandidate
    have hregistered := candidate_isRegistered htable hcandidate
    rcases of_get_insert hactive with ⟨-, rfl⟩ | ⟨-, hactive⟩
    · exact (newEndpoint_ne htable hfree hregistered).symm
    · exact h.active_candidate moduleId active candidateId candidate hactive hcandidate
  · exact forall_insert (h.new_superseded htable registration hfree) h.active_superseded
  · exact h.candidate_superseded

/-- Offering a candidate keeps the slots apart. -/
theorem SlotInv.offer : SlotInv (offerEndpoint inner registration) := by
  constructor
  · exact h.superseded_installed registration
  · intro moduleId active candidateId candidate hactive hcandidate
    have hregistered := active_isRegistered htable hactive
    rcases of_get_insert hcandidate with ⟨-, rfl⟩ | ⟨-, hcandidate⟩
    · exact newEndpoint_ne htable hfree hregistered
    · exact h.active_candidate moduleId active candidateId candidate hactive hcandidate
  · exact h.active_superseded
  · exact forall_insert (h.new_superseded htable registration hfree) h.candidate_superseded

end

/-- Two ids of a slot never share an endpoint. -/
theorem endpoint_unique {modules : HashMap String ModuleConnection}
    (hregistered : ∀ moduleId module, modules.get moduleId = some module →
      inner.moduleIdByEndpoint.get module.endpoint = some moduleId)
    (hget : modules.get moduleId = some module) (hother : modules.get other = some module')
    (hsame : module.endpoint = module'.endpoint) : moduleId = other := by
  have hid := hregistered moduleId module hget
  rw [hsame, hregistered other module' hother] at hid
  exact (Option.some.inj hid).symm

/-- The superseded endpoints after a promotion. -/
theorem superseded_promoted
    (h : (promoteCandidate inner moduleId candidate).supersededEndpoints.get endpoint =
      some module) :
    inner.supersededEndpoints.get endpoint = some module ∨
      inner.modulesById.get moduleId = some module ∧ endpoint = module.endpoint := by
  unfold promoteCandidate at h
  cases hold : inner.modulesById.get moduleId with
  | none =>
    rw [hold] at h
    exact .inl h
  | some =>
    rw [hold] at h
    rcases of_get_insert h with ⟨heq, rfl⟩ | ⟨-, h⟩
    · exact .inr ⟨rfl, heq⟩
    · exact .inl h

section

variable (h : SlotInv inner) (htable : TableInv inner)
include h htable

/-- A promotion keeps the slots apart. -/
theorem SlotInv.promote (hcandidate : inner.candidatesById.get moduleId = some candidate) :
    SlotInv (promoteCandidate inner moduleId candidate) := by
  constructor
  · intro endpoint module hget
    rcases superseded_promoted hget with hkept | ⟨hactive, rfl⟩
    · exact h.superseded_registered endpoint module hkept
    · have hregistered := active_isRegistered htable hactive
      exact ⟨rfl, hregistered⟩
  · intro activeId active candidateId other hactive hother
    obtain ⟨hne, hother⟩ := of_get_remove hother
    rcases of_get_insert hactive with ⟨-, rfl⟩ | ⟨-, hactive⟩
    · intro hsame
      exact hne (endpoint_unique htable.candidate_registered hcandidate hother hsame).symm
    · exact h.active_candidate activeId active candidateId other hactive hother
  · intro activeId active hactive
    refine Option.eq_none_iff_forall_not_mem.mpr ?_
    intro module hget
    rcases of_get_insert hactive with ⟨-, rfl⟩ | ⟨hne, hactive⟩
    · rcases superseded_promoted hget with hkept | ⟨hold, hsame⟩
      · rw [h.candidate_superseded moduleId candidate hcandidate] at hkept
        cases hkept
      · exact h.active_candidate moduleId module moduleId candidate hold hcandidate hsame.symm
    · rcases superseded_promoted hget with hkept | ⟨hold, hsame⟩
      · rw [h.active_superseded activeId active hactive] at hkept
        cases hkept
      · exact hne (endpoint_unique htable.active_registered hactive hold hsame)
  · intro candidateId other hother
    refine Option.eq_none_iff_forall_not_mem.mpr ?_
    intro module hget
    obtain ⟨-, hother⟩ := of_get_remove hother
    rcases superseded_promoted hget with hkept | ⟨hold, hsame⟩
    · rw [h.candidate_superseded candidateId other hother] at hkept
      cases hkept
    · exact h.active_candidate moduleId module candidateId other hold hother hsame.symm

omit h htable in
/-- What forgetting an endpoint leaves in the slots was there and is another endpoint. -/
theorem forgetEndpoint_slots (h : TableInv inner) {endpoint : ModuleEndpointId} :
    (∀ moduleId module, (forgetEndpoint inner endpoint).modulesById.get moduleId = some module →
        inner.modulesById.get moduleId = some module ∧ module.endpoint ≠ endpoint) ∧
      (∀ moduleId module, (forgetEndpoint inner endpoint).candidatesById.get moduleId =
          some module →
        inner.candidatesById.get moduleId = some module ∧ module.endpoint ≠ endpoint) ∧
      ∀ other module, (forgetEndpoint inner endpoint).supersededEndpoints.get other = some module →
        inner.supersededEndpoints.get other = some module ∧ other ≠ endpoint := by
  have hslot : ∀ modules cleared : HashMap String ModuleConnection,
      (∀ moduleId module, modules.get moduleId = some module →
        inner.moduleIdByEndpoint.get module.endpoint = some moduleId) →
      (inner.moduleIdByEndpoint.get endpoint = none → cleared = modules) →
      (∀ id, inner.moduleIdByEndpoint.get endpoint = some id →
        cleared = clearSlot modules id endpoint) →
      ∀ moduleId module, cleared.get moduleId = some module →
        modules.get moduleId = some module ∧ module.endpoint ≠ endpoint := by
    intro modules cleared hregistered hnone hsome moduleId module hget
    cases hid : inner.moduleIdByEndpoint.get endpoint with
    | none =>
      rw [hnone hid] at hget
      refine ⟨hget, ?_⟩
      intro hsame
      have hown := hregistered moduleId module hget
      rw [hsame, hid] at hown
      cases hown
    | some id =>
      rw [hsome id hid] at hget
      have hkept := clearSlot_sub hget
      refine ⟨hkept, ?_⟩
      intro hsame
      have hown := hregistered moduleId module hkept
      rw [hsame, hid] at hown
      cases hown
      exact clearSlot_ne hget hsame
  refine ⟨?_, ?_, ?_⟩
  · exact hslot inner.modulesById _ h.active_registered (fun hid => by simp only [forgetEndpoint, hid])
      fun id hid => by simp only [forgetEndpoint, hid]
  · exact hslot inner.candidatesById _ h.candidate_registered
      (fun hid => by simp only [forgetEndpoint, hid]) fun id hid => by simp only [forgetEndpoint, hid]
  intro other module hget
  obtain ⟨hne, hget⟩ := of_get_remove hget
  exact ⟨hget, hne⟩

/-- Forgetting an endpoint keeps the slots apart. -/
theorem SlotInv.forget (endpoint : ModuleEndpointId) : SlotInv (forgetEndpoint inner endpoint) := by
  obtain ⟨hactives, hcandidates, hsuperseded⟩ := @forgetEndpoint_slots inner htable endpoint
  have hnone : ∀ other, inner.supersededEndpoints.get other = none →
      (forgetEndpoint inner endpoint).supersededEndpoints.get other = none := by
    intro other hget
    refine Option.eq_none_iff_forall_not_mem.mpr ?_
    intro module hmem
    rw [(hsuperseded other module hmem).1] at hget
    cases hget
  constructor
  · intro other module hget
    obtain ⟨hbefore, hne⟩ := hsuperseded other module hget
    obtain ⟨hendpoint, moduleId, hregistered⟩ := h.superseded_registered other module hbefore
    refine ⟨hendpoint, moduleId, ?_⟩
    simp only [forgetEndpoint, get_remove, if_neg hne]
    exact hregistered
  · intro moduleId active candidateId candidate hactive hcandidate
    exact h.active_candidate moduleId active candidateId candidate
      (hactives moduleId active hactive).1 (hcandidates candidateId candidate hcandidate).1
  · intro moduleId active hactive
    exact hnone _ (h.active_superseded moduleId active (hactives moduleId active hactive).1)
  intro moduleId candidate hcandidate
  exact hnone _ (h.candidate_superseded moduleId candidate
    (hcandidates moduleId candidate hcandidate).1)

/-- Every call keeps the slots apart. -/
theorem Op.apply_slotInv (op : Op) : SlotInv (op.apply inner) := by
  have hstep := Op.apply_slotting htable op
  generalize op.apply inner = inner' at hstep
  cases hstep with
  | same _ _ hslots => exact h.same hslots
  | activated registration _ hfree => exact h.activate htable registration hfree
  | offered registration _ hfree => exact h.offer htable registration hfree
  | promoted moduleId candidate _ hcandidate => exact h.promote htable hcandidate
  | marked _ _ endpoint reason hslots => exact h.same hslots
  | gated => exact h.same (gated_slotting inner)
  | recorded => exact h.same (by constructor <;> rfl)
  | removed endpoint _ _ hslots => exact (h.forget htable endpoint).same hslots

end

/-- Every run keeps the slots apart. -/
theorem run_slotInv : SlotInv (run ops) :=
  run_induction [] ops slotInv_default fun ops op _ h => Op.apply_slotInv h (run_inv ops) op

end Subconscious.ForwardingSlots
