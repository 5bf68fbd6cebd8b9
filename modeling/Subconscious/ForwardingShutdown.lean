import Subconscious.ForwardingSlots

/-!
# The daemon-wide drain

At shutdown the daemon marks every endpoint in a slot as draining and refuses
registrations and promotions from then on. The gate of a route.open is the mark
of the endpoint it resolves, not the daemon's own flag, so the argument needs
that no endpoint ever stands in a slot without its mark. Drain results are
filed by endpoint and read by connection.
-/

namespace Subconscious.ForwardingShutdown

open HashMaps HashMap Protocol ForwardingState ForwardingRelays ForwardingTeardown ForwardingRuns
open List
open ForwardingInvariant ForwardingFrames ForwardingConsistency ForwardingSteps ForwardingSlots

variable {inner : ForwardingInner}

section

variable (inner : ForwardingInner)

/-- The drain result reported for a connection: none in normal operation, and
false for an endpoint without a measurement. -/
def daemonDrainResultForConnection (connectionId : ConnectionId) : Option Bool :=
  if inner.daemonDraining then
    some (((inner.endpointByConnection.get connectionId).bind
      inner.daemonDrainResults.get).getD false)
  else none

/-- The endpoint is active, a candidate or superseded. -/
def InSlot (endpoint : ModuleEndpointId) : Prop :=
  (∃ moduleId module, inner.modulesById.get moduleId = some module ∧
      module.endpoint = endpoint) ∨
    (∃ moduleId module, inner.candidatesById.get moduleId = some module ∧
      module.endpoint = endpoint) ∨
    ∃ module, inner.supersededEndpoints.get endpoint = some module

/-- An endpoint is marked draining. -/
def Marked (endpoint : ModuleEndpointId) : Prop :=
  ∃ reason, inner.drainingEndpoints.get endpoint = some reason

/-- Once the daemon drains, every endpoint in a slot is marked. -/
def Gate : Prop :=
  inner.daemonDraining = true → ∀ endpoint, InSlot inner endpoint → Marked inner endpoint

end

variable {op : Op}

/-- Equal slots hold the same endpoints. -/
theorem inSlot_same (hs : SameSlotting inner inner') :
    InSlot inner' endpoint ↔ InSlot inner endpoint := by
  unfold InSlot
  rw [hs.modulesById, hs.candidatesById, hs.supersededEndpoints]

/-- Marks that a loop sets stay, and every key of the loop is marked. -/
theorem foldl_mark {endpoints : List ModuleEndpointId}
    (draining : HashMap ModuleEndpointId RouteCloseReason)
    (h : (∃ reason, draining.get endpoint = some reason) ∨ endpoint ∈ endpoints) :
    ∃ reason, (endpoints.foldl (fun draining endpoint => draining.insert endpoint .restart)
      draining).get endpoint = some reason := by
  induction endpoints generalizing draining with
  | nil => exact h.resolve_right not_mem_nil
  | cons first rest ih =>
    rw [foldl_cons]
    refine ih _ ?_
    by_cases hfirst : endpoint = first
    · left
      exact ⟨.restart, by rw [get_insert, if_pos hfirst]⟩
    rcases h with ⟨reason, hget⟩ | hmem
    · left
      exact ⟨reason, by rw [get_insert, if_neg hfirst]; exact hget⟩
    · right
      exact (mem_cons.mp hmem).resolve_left hfirst

/-- Beginning the daemon's drain marks all three slots. -/
theorem beginDaemonDrain_gate (hopen : inner.daemonDraining = false) :
    Gate (beginDaemonDrain inner).inner := by
  intro _ endpoint hslot
  rw [inSlot_same (gated_slotting inner)] at hslot
  have hlisted : endpoint ∈ (inner.modulesById.toList.map fun entry =>
        (entry.1, entry.2.endpoint)).map Prod.snd
      ++ (inner.candidatesById.values.map ModuleConnection.endpoint
        ++ inner.supersededEndpoints.keys) := by
    rw [mem_append, mem_append]
    rcases hslot with ⟨moduleId, module, hget, rfl⟩ | ⟨moduleId, module, hget, rfl⟩ | ⟨module, hget⟩
    · left
      rw [map_map]
      exact mem_map.mpr ⟨(moduleId, module), (inner.modulesById.mem_toList _ _).mpr hget, rfl⟩
    · right
      left
      exact mem_map.mpr ⟨module, (inner.candidatesById.mem_values).mpr ⟨moduleId, hget⟩, rfl⟩
    · right
      right
      exact (inner.supersededEndpoints.mem_keys).mpr ⟨module, hget⟩
  have hmarked := foldl_mark inner.drainingEndpoints (.inr hlisted)
  unfold Marked beginDaemonDrain
  rw [hopen]
  exact hmarked

/-- Every call keeps the slots marked. -/
theorem Op.apply_gate (h : Gate inner) (htable : TableInv inner) : Gate (op.apply inner) := by
  have hstep := Op.apply_slotting htable op
  generalize op.apply inner = inner' at hstep
  intro hdraining endpoint hslot
  cases hstep with
  | same _ _ hslots hmarks =>
    rw [hmarks.daemonDraining] at hdraining
    unfold Marked
    rw [hmarks.drainingEndpoints]
    exact h hdraining endpoint ((inSlot_same hslots).mp hslot)
  | activated _ hopen | offered _ hopen | promoted _ _ hopen => cases hdraining.symm.trans hopen
  | marked _ _ other reason hslots hmarks =>
    rw [hmarks.daemonDraining] at hdraining
    obtain ⟨old, hold⟩ := h hdraining endpoint ((inSlot_same hslots).mp hslot)
    unfold Marked
    rw [hmarks.drainingEndpoints, get_insert]
    split
    case isTrue => exact ⟨reason, rfl⟩
    case isFalse => exact ⟨old, hold⟩
  | gated hopen => exact beginDaemonDrain_gate hopen hdraining endpoint hslot
  | recorded => exact h hdraining endpoint hslot
  | removed other _ hrole hslots hmarks =>
    rw [hmarks.daemonDraining] at hdraining
    obtain ⟨hactives, hcandidates, hsuperseded⟩ := @forgetEndpoint_slots inner htable other
    have hbefore : InSlot inner endpoint ∧ endpoint ≠ other := by
      rcases (inSlot_same hslots).mp hslot with
        ⟨moduleId, module, hget, rfl⟩ | ⟨moduleId, module, hget, rfl⟩ | ⟨module, hget⟩
      · obtain ⟨hwas, hne⟩ := hactives moduleId module hget
        exact ⟨.inl ⟨moduleId, module, hwas, rfl⟩, hne⟩
      · obtain ⟨hwas, hne⟩ := hcandidates moduleId module hget
        exact ⟨.inr (.inl ⟨moduleId, module, hwas, rfl⟩), hne⟩
      · obtain ⟨hwas, hne⟩ := hsuperseded endpoint module hget
        exact ⟨.inr (.inr ⟨module, hwas⟩), hne⟩
    obtain ⟨reason, hreason⟩ := h hdraining endpoint hbefore.1
    refine ⟨reason, ?_⟩
    rw [hmarks.drainingEndpoints]
    simp only [forgetEndpoint, get_remove, if_neg hbefore.2]
    exact hreason

/-- So it is in every run. -/
theorem run_gate (ops : List Op) : Gate (run ops) :=
  run_induction [] ops nofun fun ops _ _ h => Op.apply_gate h (run_inv ops)

/-- The daemon never stops draining. -/
theorem Op.apply_daemonDraining (htable : TableInv inner)
    (h : inner.daemonDraining = true) : (op.apply inner).daemonDraining = true := by
  have hstep := Op.apply_slotting htable op
  generalize op.apply inner = inner' at hstep
  cases hstep with
  | same _ _ _ hmarks => exact hmarks.daemonDraining.trans h
  | activated | offered | promoted | recorded => exact h
  | marked _ _ other reason _ hmarks => exact hmarks.daemonDraining.trans h
  | gated hopen => exact absurd (h.symm.trans hopen) (by decide)
  | removed other _ _ _ hmarks => exact hmarks.daemonDraining.trans h

/-- The table of a run that began the daemon's drain. -/
theorem run_daemonDraining (before after : List Op) :
    (run (before ++ .beginDaemonDrain :: after)).daemonDraining = true := by
  rw [append_cons]
  refine run_induction (motive := (·.daemonDraining = true)) _ after ?_
    fun ops _ _ => Op.apply_daemonDraining (run_inv ops)
  rw [run_snoc]
  change (beginDaemonDrain (run before)).inner.daemonDraining = true
  unfold beginDaemonDrain
  split
  case isTrue h => exact h
  case isFalse => rfl

/-- No endpoint or slot entry is new. -/
structure SlotsKept (inner inner' : ForwardingInner) : Prop where
  endpoints : inner'.moduleIdByEndpoint.Within inner.moduleIdByEndpoint
  active : inner'.modulesById.Within inner.modulesById
  candidates : inner'.candidatesById.Within inner.candidatesById
  superseded : inner'.supersededEndpoints.Within inner.supersededEndpoints

/-- No relay and no route is new either. -/
structure NothingAdded (inner inner' : ForwardingInner) : Prop extends SlotsKept inner inner' where
  relays : ∀ key pending', inner'.pendingRelays.get key = some pending' →
    ∃ pending, inner.pendingRelays.get key = some pending ∧
      pending'.reservation = pending.reservation
  clientRoutes : inner'.clientToModule.Within inner.clientToModule
  moduleRoutes : inner'.moduleToClient.Within inner.moduleToClient

section

variable (hgate : Gate inner) (hdraining : inner.daemonDraining = true)
include hgate hdraining

/-- A draining daemon reserves no relay. -/
theorem relay_refused (request : RelayRequest) :
    ∃ err, relayTargetLocked inner request.clientConnectionId request.moduleId = .error err := by
  cases htarget : relayTargetLocked inner request.clientConnectionId request.moduleId with
  | error err => exact ⟨err, rfl⟩
  | ok module =>
    have hok := relayTargetLocked_ok htarget
    obtain ⟨reason, hreason⟩ := hgate hdraining module.endpoint
      (.inl ⟨request.moduleId, module, hok.2.1, rfl⟩)
    rw [hok.2.2.1] at hreason
    cases hreason

/-- A draining daemon publishes no route. -/
theorem not_publishable (h : Publishable inner key pending outcome reads moduleId module) :
    False := by
  obtain ⟨reason, hreason⟩ := hgate hdraining key.1 (.inl ⟨moduleId, module, h.active, h.endpoint⟩)
  rw [h.undrained] at hreason
  cases hreason

/-- A route.open is refused before anything is drawn. -/
theorem beginRouteBindRelayInner_refused :
    ∃ err, beginRouteBindRelayInner inner request = ⟨inner, .error err, []⟩ := by
  obtain ⟨err, hrefused⟩ := relay_refused hgate hdraining request
  refine ⟨err, ?_⟩
  unfold beginRouteBindRelayInner
  rw [hrefused]

end

/-- A reply is never answered with acceptance. -/
theorem completePendingRelay_not_accepted (htable : TableInv inner) (hgate : Gate inner)
    (hdraining : inner.daemonDraining = true)
    (outcome : RouteBindRelayOutcome) :
    .settle sender .accepted ∉
      (completePendingRelay inner connectionId corr outcome reads).effects := by
  rcases completePendingRelay_cases htable with ⟨heq, -⟩ | hended
  · rw [heq]
    exact not_mem_nil
  obtain ⟨endpoint, pending, -, -, hcompleted⟩ := hended
  generalize completePendingRelay inner connectionId corr outcome reads = step at hcompleted
  cases hcompleted with
  | refused answer hanswer =>
    intro hmem
    cases mem_singleton.mp hmem
    exact hanswer rfl
  | stale => exact not_mem_nil
  | published moduleId module frame hpublishable =>
    exact (not_publishable hgate hdraining hpublishable).elim

/-- Equal slots are kept. -/
theorem SameSlotting.kept (h : SameSlotting inner inner') : SlotsKept inner inner' := by
  constructor
  · exact fun _ _ hget => h.moduleIdByEndpoint ▸ hget
  · exact fun _ _ hget => h.modulesById ▸ hget
  · exact fun _ _ hget => h.candidatesById ▸ hget
  · exact fun _ _ hget => h.supersededEndpoints ▸ hget

/-- No step of a draining daemon fills a slot. -/
theorem slots_kept (htable : TableInv inner) (hdraining : inner.daemonDraining = true)
    (hstep : SlottingStep inner op inner') : SlotsKept inner inner' := by
  cases hstep with
  | same _ _ hslots => exact SameSlotting.kept hslots
  | activated _ hopen | offered _ hopen | promoted _ _ hopen => cases hdraining.symm.trans hopen
  | marked _ _ other reason hslots => exact SameSlotting.kept hslots
  | gated hopen => cases hdraining.symm.trans hopen
  | recorded => exact SameSlotting.kept (by constructor <;> rfl)
  | removed other _ _ hslots =>
    obtain ⟨hactives, hcandidates, hsuperseded⟩ := @forgetEndpoint_slots inner htable other
    have hkept := SameSlotting.kept hslots
    refine ⟨?_, fun moduleId module hget => (hactives _ _ (hkept.active _ _ hget)).1,
      fun moduleId module hget => (hcandidates _ _ (hkept.candidates _ _ hget)).1,
      fun endpoint module hget => (hsuperseded _ _ (hkept.superseded _ _ hget)).1⟩
    intro endpoint moduleId hget
    exact (of_get_remove (hkept.endpoints _ _ hget)).2

/-- Nothing is added while the daemon drains. -/
theorem Op.apply_nothingAdded (htable : TableInv inner) (hgate : Gate inner)
    (hdraining : inner.daemonDraining = true) (op : Op) : NothingAdded inner (op.apply inner) := by
  have horigins := Op.apply_origins htable op
  have hroutes : (op.apply inner).clientToModule.Within inner.clientToModule := by
    intro key route hget
    rcases horigins.routes key route hget with hwas | hpublished
    · exact hwas
    · obtain ⟨_, _, _, _, _, _, _, _, -, -, hpublishable, -⟩ := hpublished
      exact (not_publishable hgate hdraining hpublishable).elim
  refine ⟨slots_kept htable hdraining (Op.apply_slotting htable op), ?_, hroutes, ?_⟩
  · intro key pending' hget
    rcases horigins.relays key pending' hget with ⟨pending, hwas, hmark⟩ | hreserved
    · refine ⟨pending, hwas, ?_⟩
      rcases hmark with rfl | rfl
      · rfl
      · rfl
    · obtain ⟨request, relay, module, frame, rfl, hok, -⟩ := hreserved
      obtain ⟨err, hrefused⟩ := beginRouteBindRelayInner_refused hgate hdraining
      rw [hrefused] at hok
      cases hok
  · intro key route hget
    obtain ⟨hkey, hclient⟩ := (Op.apply_inv htable op).bindings.ofRight key route hget
    have hwas := htable.bindings.ofLeft _ _ (hroutes _ _ hclient)
    rw [hkey] at hwas
    exact hwas.2

/-- A mark stays until the endpoint's connection is torn down. -/
theorem Op.apply_marked (htable : TableInv inner) (h : Marked inner endpoint)
    (hop : op ≠ .cleanupConnection endpoint.connectionId) : Marked (op.apply inner) endpoint := by
  obtain ⟨reason, hreason⟩ := h
  have hstep := Op.apply_slotting htable op
  generalize op.apply inner = inner' at hstep
  cases hstep with
  | same _ _ _ hmarks =>
    refine ⟨reason, ?_⟩
    rw [hmarks.drainingEndpoints]
    exact hreason
  | activated | offered | promoted | recorded => exact ⟨reason, hreason⟩
  | marked _ _ other newReason _ hmarks =>
    unfold Marked
    rw [hmarks.drainingEndpoints, get_insert]
    split
    case isTrue => exact ⟨newReason, rfl⟩
    case isFalse => exact ⟨reason, hreason⟩
  | gated hopen =>
    unfold Marked beginDaemonDrain
    rw [hopen]
    exact foldl_mark inner.drainingEndpoints (.inl ⟨reason, hreason⟩)
  | removed other _ _ _ hmarks =>
    refine ⟨reason, ?_⟩
    have hne : endpoint ≠ other := by
      rintro rfl
      exact hop rfl
    rw [hmarks.drainingEndpoints]
    simp only [forgetEndpoint, get_remove, if_neg hne]
    exact hreason

/-- The last result recorded for an endpoint, after one more call. -/
def recordAfter (endpoint : ModuleEndpointId) (last : Bool) : Op → Bool
  | .recordDaemonDrainResult recorded drained => if recorded = endpoint then drained else last
  | _ => last

/-- The last result a run recorded for an endpoint. -/
def lastRecorded (endpoint : ModuleEndpointId) (ops : List Op) : Bool :=
  ops.foldl (recordAfter endpoint) false

/-- A filed result of true was the last one recorded for that endpoint. -/
def ResultsRecorded (inner : ForwardingInner) (last : ModuleEndpointId → Bool) : Prop :=
  ∀ endpoint, inner.daemonDrainResults.get endpoint = some true → last endpoint = true

/-- The results filed at the start of the drain are all false. -/
theorem foldl_file {modules : List (String × ModuleEndpointId)}
    (results : HashMap ModuleEndpointId Bool)
    (h : (modules.foldl (fun results entry => results.insert entry.2 false) results).get endpoint =
      some true) : results.get endpoint = some true := by
  induction modules generalizing results with
  | nil => exact h
  | cons first rest ih =>
    rw [foldl_cons] at h
    have hfirst := ih _ h
    rw [get_insert] at hfirst
    split at hfirst
    case isTrue => cases hfirst
    case isFalse => exact hfirst

/-- Other calls record nothing. -/
theorem recordAfter_of_not
    (h : ∀ recorded drained, op ≠ .recordDaemonDrainResult recorded drained) :
    recordAfter endpoint last op = last := by
  unfold recordAfter
  split
  case h_1 recorded drained => exact absurd rfl (h recorded drained)
  case h_2 => rfl

/-- A recorded result is the last one of its endpoint. -/
theorem recordDaemonDrainResult_recorded (h : ResultsRecorded inner last) :
    ResultsRecorded (recordDaemonDrainResult inner recorded drained).inner fun endpoint =>
      recordAfter endpoint (last endpoint) (.recordDaemonDrainResult recorded drained) := by
  intro endpoint hget
  change (if recorded = endpoint then drained else last endpoint) = true
  rcases of_get_modify hget with ⟨heq, -, -, rfl⟩ | ⟨hne, hget⟩
  · rw [if_pos heq.symm]
  · rw [if_neg fun heq => hne heq.symm]
    exact h endpoint hget

/-- Every call keeps the filed results recorded. -/
theorem Op.apply_resultsRecorded (htable : TableInv inner) (h : ResultsRecorded inner last) :
    ResultsRecorded (op.apply inner) fun endpoint => recordAfter endpoint (last endpoint) op := by
  by_cases hrecord : ∀ recorded drained, op ≠ .recordDaemonDrainResult recorded drained
  · intro endpoint hget
    refine (recordAfter_of_not hrecord).trans (h endpoint ?_)
    have hstep := Op.apply_slotting htable op
    generalize op.apply inner = inner' at hstep hget
    cases hstep with
    | same _ _ _ hmarks =>
      rw [hmarks.daemonDrainResults] at hget
      exact hget
    | activated | offered | promoted => exact hget
    | marked _ _ other reason _ hmarks =>
      rw [hmarks.daemonDrainResults] at hget
      exact hget
    | gated hopen =>
      unfold beginDaemonDrain at hget
      rw [hopen] at hget
      exact foldl_file _ hget
    | recorded other drained => exact absurd rfl (hrecord other drained)
    | removed other _ _ _ hmarks =>
      rw [hmarks.daemonDrainResults] at hget
      exact (of_get_remove hget).2
  · simp only [not_forall, not_not] at hrecord
    obtain ⟨recorded, drained, rfl⟩ := hrecord
    exact recordDaemonDrainResult_recorded h

/-- In every run a filed result of true was the last recorded. -/
theorem run_resultsRecorded (ops : List Op) :
    ResultsRecorded (run ops) fun endpoint => lastRecorded endpoint ops := by
  induction ops using List.reverseRecOn with
  | nil => nofun
  | append_singleton ops op ih =>
    have hlast : (fun endpoint => lastRecorded endpoint (ops ++ [op])) =
        fun endpoint => recordAfter endpoint (lastRecorded endpoint ops) op := by
      funext endpoint
      unfold lastRecorded
      rw [foldl_append]
      rfl
    rw [run_snoc, hlast]
    exact Op.apply_resultsRecorded (run_inv ops) ih

/-- A recorded result is not read through another connection's endpoint. -/
theorem recordDaemonDrainResult_other
    (hother : inner.endpointByConnection.get connectionId ≠ some endpoint) :
    daemonDrainResultForConnection (recordDaemonDrainResult inner endpoint drained).inner
      connectionId = daemonDrainResultForConnection inner connectionId := by
  unfold daemonDrainResultForConnection recordDaemonDrainResult
  cases hrole : inner.endpointByConnection.get connectionId with
  | none => rfl
  | some own =>
    have hne : own ≠ endpoint := fun heq => hother (heq ▸ hrole)
    simp only [Option.bind_some, get_modify, if_neg hne]

/-- A registration that replaces the endpoint of its id without a swap. -/
def displacedPair : List Op :=
  [.registerModuleConnection ⟨1, "m", 1, .serial, ⟨1⟩, true⟩,
    .registerModuleConnection ⟨2, "m", 1, .serial, ⟨2⟩, true⟩]

/-- The displaced endpoint is still registered and the drain does not mark it. -/
theorem displacedEndpoint_unmarked :
    (run (displacedPair ++ [.beginDaemonDrain])).daemonDraining = true ∧
      (run (displacedPair ++ [.beginDaemonDrain])).moduleIdByEndpoint.get ⟨1, 1⟩ = some "m" ∧
      (run (displacedPair ++ [.beginDaemonDrain])).drainingEndpoints.get ⟨1, 1⟩ = none := by
  decide

/-- Once the daemon drains, whatever calls follow: nothing is reserved,
committed, registered or promoted, every endpoint in a slot is marked until its
connection is torn down, and a drain result is reported for its own endpoint. -/
theorem daemonDrain_closes_everything (before after : List Op) :
    Gate (run (before ++ .beginDaemonDrain :: after)) ∧
    (run (before ++ .beginDaemonDrain :: after)).daemonDraining = true ∧
    (∀ op : Op, NothingAdded (run (before ++ .beginDaemonDrain :: after))
      (op.apply (run (before ++ .beginDaemonDrain :: after)))) ∧
    (∀ request, ∃ err,
      (beginRouteBindRelayInner (run (before ++ .beginDaemonDrain :: after)) request).result =
        .error err) ∧
    (∀ connectionId corr outcome reads sender, .settle sender .accepted ∉
      (completePendingRelay (run (before ++ .beginDaemonDrain :: after)) connectionId corr outcome
        reads).effects) ∧
    (∀ endpoint op, Marked (run (before ++ .beginDaemonDrain :: after)) endpoint →
      op ≠ .cleanupConnection endpoint.connectionId →
      Marked (Op.apply (run (before ++ .beginDaemonDrain :: after)) op) endpoint) ∧
    (∀ connectionId, daemonDrainResultForConnection
        (run (before ++ .beginDaemonDrain :: after)) connectionId = some true →
      ∃ endpoint, endpoint.connectionId = connectionId ∧
        (run (before ++ .beginDaemonDrain :: after)).endpointByConnection.get connectionId =
          some endpoint ∧
        lastRecorded endpoint (before ++ .beginDaemonDrain :: after) = true) ∧
    ∀ endpoint drained connectionId,
      (run (before ++ .beginDaemonDrain :: after)).endpointByConnection.get connectionId ≠
        some endpoint →
      daemonDrainResultForConnection (recordDaemonDrainResult
          (run (before ++ .beginDaemonDrain :: after)) endpoint drained).inner connectionId =
        daemonDrainResultForConnection (run (before ++ .beginDaemonDrain :: after))
          connectionId := by
  have hdraining := run_daemonDraining before after
  have hresults := run_resultsRecorded (before ++ .beginDaemonDrain :: after)
  have hgate := run_gate (before ++ .beginDaemonDrain :: after)
  have htable := run_inv (before ++ .beginDaemonDrain :: after)
  generalize run (before ++ .beginDaemonDrain :: after) = inner at *
  refine ⟨hgate, hdraining, Op.apply_nothingAdded htable hgate hdraining, ?_,
    fun connectionId corr outcome reads sender => completePendingRelay_not_accepted htable hgate
      hdraining outcome,
    fun endpoint op => Op.apply_marked htable, ?_,
    fun endpoint drained connectionId hother =>
      recordDaemonDrainResult_other hother⟩
  · intro request
    obtain ⟨err, hrefused⟩ := beginRouteBindRelayInner_refused hgate hdraining
    exact ⟨err, by rw [hrefused]⟩
  intro connectionId hreported
  unfold daemonDrainResultForConnection at hreported
  rw [if_pos hdraining, Option.some.injEq, Option.getD_eq_iff] at hreported
  obtain ⟨endpoint, hrole, hresult⟩ := Option.bind_eq_some_iff.mp (hreported.resolve_right nofun)
  refine ⟨endpoint, (htable.endpoint_registered _ _ hrole).1, hrole, ?_⟩
  apply hresults
  rw [hresult]

end Subconscious.ForwardingShutdown
