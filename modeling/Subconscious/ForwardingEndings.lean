import Subconscious.ForwardingSteps

/-!
# How calls end pending relays

A relay leaves the pending map by the module's reply, by its own open giving
up, or by a sweep: a drain, the teardown of its client or the teardown of its
module. This module says which relays a sweep ends, what it answers their
opens, which module handles it gives out for a GOODBYE, and which keys it
leaves for an open that is still sending. All other calls leave relays alone.
-/

namespace Subconscious.ForwardingEndings

open HashMaps HashMap Protocol ForwardingState ForwardingOperations ForwardingRelays
open ForwardingTeardown
open ForwardingControl ForwardingRuns ForwardingFrames ForwardingConsistency ForwardingSteps

variable {inner : ForwardingInner}

/-- The answer an effect gives to a waiting open. -/
def settlement : Effect → Option (SenderId × RouteBindRelayOutcome)
  | .settle sender outcome => some (sender, outcome)
  | _ => none

section

variable (inner : ForwardingInner)

/-- The answers a call gives to waiting opens, in order. -/
def settlements (op : Op) : List (SenderId × RouteBindRelayOutcome) :=
  List.filterMap settlement (match op with
    | .abortPendingRelay endpoint corr outcome =>
      (abortPendingRelay inner endpoint corr outcome).effects
    | .completePendingRelay connectionId corr outcome reads =>
      (completePendingRelay inner connectionId corr outcome reads).effects
    | .beginModuleDrain moduleId reason exclusions =>
      (beginModuleDrain inner moduleId reason exclusions).effects
    | .beginEndpointDrain endpoint reason exclusions =>
      (beginEndpointDrain inner endpoint reason exclusions).effects
    | .cleanupConnection connectionId => (cleanupConnectionCounted inner connectionId).effects
    | _ => [])

/-- The relays of a client that its teardown gives up, after its routes. -/
def clientRelaysAbandoned (connectionId : ConnectionId) : Gathered :=
  let unrouted := releaseClientConnectionRoutes inner connectionId
  (clientRelayKeys unrouted.inner connectionId).foldl
    (abandonPendingRelay (.moduleGone "client connection closed during route.bind relay"))
    ⟨unrouted.inner, [], []⟩

/-- The module handles of given up binds that a call hands to its caller for a
GOODBYE. A client's teardown hands them out after those of its routes. -/
def abandoned (inner : ForwardingInner) : Op → List GoodbyeTarget
  | .abortPendingRelay endpoint corr outcome =>
    match (abortPendingRelay inner endpoint corr outcome).result with
    | .ok target => target.toList
    | .error _ => []
  | .completePendingRelay connectionId corr outcome reads =>
    match (completePendingRelay inner connectionId corr outcome reads).result with
    | .ok completion => completion.abandoned.toList
    | .error _ => []
  | .beginModuleDrain moduleId reason exclusions =>
    match (beginModuleDrain inner moduleId reason exclusions).result with
    | .ok (some target) => target.abandonedBindings
    | _ => []
  | .beginEndpointDrain endpoint reason exclusions =>
    match (beginEndpointDrain inner endpoint reason exclusions).result with
    | .ok (some target) => target.abandonedBindings
    | _ => []
  | .cleanupConnection connectionId =>
    match inner.endpointByConnection.get connectionId with
    | some _ => []
    | none =>
      (clientRelaysAbandoned
        { inner with closingConnections := insert connectionId inner.closingConnections }
        connectionId).targets
  | _ => []

/-- The GOODBYE a sweep owes for one key: only a marked bind is in the module's queue. -/
def sweptTarget (key : ControlKey) : Option GoodbyeTarget :=
  (inner.pendingRelays.get key).bind fun pending =>
    if pending.relayEnqueued then abandonedRouteTarget inner pending.reservation else none

/-- The answer a sweep gives for one key. -/
def sweptAnswer (outcome : RouteBindRelayOutcome) (key : ControlKey) :
    Option (SenderId × RouteBindRelayOutcome) :=
  (inner.pendingRelays.get key).map fun pending => (pending.sender, outcome)

/-- A key the sweep leaves to an open that is still sending. -/
def Unsent (key : ControlKey) : Prop :=
  ∃ pending, inner.pendingRelays.get key = some pending ∧ pending.relayEnqueued = false

end

/-- Where a GOODBYE goes depends on the registered modules only. -/
theorem abandonedRouteTarget_congr (hids : inner'.moduleIdByEndpoint = inner.moduleIdByEndpoint)
    (hactive : inner'.modulesById = inner.modulesById)
    (hcandidates : inner'.candidatesById = inner.candidatesById)
    (hsuperseded : inner'.supersededEndpoints = inner.supersededEndpoints) :
    abandonedRouteTarget inner' reservation = abandonedRouteTarget inner reservation := by
  unfold abandonedRouteTarget moduleConnectionForEndpointLocked
  rw [hids, hactive, hcandidates, hsuperseded]

theorem abandonedRouteTarget_relaysOnly (h : RelaysOnly inner inner')
    (reservation : RouteReservation) :
    abandonedRouteTarget inner' reservation = abandonedRouteTarget inner reservation := by
  apply abandonedRouteTarget_congr <;> rw [h]

/-- One abandoned relay: its GOODBYE or its key, and its answer. -/
theorem abandonPendingRelay_swept (outcome : RouteBindRelayOutcome) (gathered : Gathered)
    (key : ControlKey) : let next := abandonPendingRelay outcome gathered key
    next.targets = gathered.targets ++ (sweptTarget gathered.inner key).toList ∧
      next.effects.filterMap settlement =
        gathered.effects.filterMap settlement ++ (sweptAnswer gathered.inner outcome key).toList ∧
      ∀ key', key' ∈ next.inner.relaysReleasedBeforeEnqueue ↔
        key' ∈ gathered.inner.relaysReleasedBeforeEnqueue ∨
          key' = key ∧ Unsent gathered.inner key' := by
  unfold abandonPendingRelay sweptTarget sweptAnswer Unsent
  cases hp : gathered.inner.pendingRelays.get key with
  | none =>
    refine ⟨by simp, by simp, ?_⟩
    intro key'
    refine (or_iff_left ?_).symm
    rintro ⟨rfl, pending, hget, -⟩
    rw [hp] at hget
    cases hget
  | some pending =>
    have htarget : abandonedRouteTarget (dropRelay gathered.inner key pending)
        pending.reservation = abandonedRouteTarget gathered.inner pending.reservation :=
      abandonedRouteTarget_relaysOnly (dropRelay_relaysOnly gathered.inner key pending) _
    have hkept : (dropRelay gathered.inner key pending).relaysReleasedBeforeEnqueue =
        gathered.inner.relaysReleasedBeforeEnqueue := rfl
    dsimp only [Option.bind_some, Option.map_some]
    cases henqueued : pending.relayEnqueued with
    | true =>
      simp only [if_true]
      refine ⟨by rw [htarget], by simp [settlement], ?_⟩
      intro key'
      rw [hkept]
      refine (or_iff_left ?_).symm
      rintro ⟨rfl, pending', hget, hunsent⟩
      rw [hp] at hget
      cases hget
      rw [henqueued] at hunsent
      cases hunsent
    | false =>
      simp only [Bool.false_eq_true, if_false]
      refine ⟨by simp, by simp [settlement], ?_⟩
      intro key'
      rw [Finset.mem_insert, hkept, or_comm]
      refine or_congr_right ⟨?_, And.left⟩
      rintro rfl
      exact ⟨rfl, pending, hp, henqueued⟩

/-- A loop over different keys abandons each as the first table has it. -/
theorem foldl_abandonPendingRelay_swept
    {keys : List ControlKey} : keys.Nodup → ∀ gathered : Gathered,
    let last := keys.foldl (abandonPendingRelay outcome) gathered
    last.targets = gathered.targets ++ keys.filterMap (sweptTarget gathered.inner) ∧
      last.effects.filterMap settlement =
        gathered.effects.filterMap settlement ++
          keys.filterMap (sweptAnswer gathered.inner outcome) ∧
      ∀ key, key ∈ last.inner.relaysReleasedBeforeEnqueue ↔
        key ∈ gathered.inner.relaysReleasedBeforeEnqueue ∨
          key ∈ keys ∧ Unsent gathered.inner key := by
  induction keys with
  | nil =>
    intro _ gathered
    simp
  | cons head keys ih =>
    intro hnodup gathered
    obtain ⟨hhead, htail⟩ := List.nodup_cons.mp hnodup
    obtain ⟨htargets, heffects, hreleased⟩ := abandonPendingRelay_swept outcome gathered head
    set next := abandonPendingRelay outcome gathered head with hnext
    obtain ⟨htargets', heffects', hreleased'⟩ := ih htail next
    have hrelays := abandonPendingRelay_relaysOnly outcome gathered head
    have hget : ∀ key ∈ keys, next.inner.pendingRelays.get key =
        gathered.inner.pendingRelays.get key := by
      intro key hkey
      have hne : key ≠ head := fun heq => hhead (heq ▸ hkey)
      rw [hnext, abandonPendingRelay_pending, if_neg hne]
    have htarget : ∀ key ∈ keys, sweptTarget next.inner key = sweptTarget gathered.inner key := by
      intro key hkey
      unfold sweptTarget
      rw [hget key hkey]
      congr 1
      funext pending
      rw [abandonedRouteTarget_relaysOnly hrelays]
    have hanswer : ∀ key ∈ keys,
        sweptAnswer next.inner outcome key = sweptAnswer gathered.inner outcome key := by
      intro key hkey
      rw [sweptAnswer, hget key hkey, sweptAnswer]
    refine ⟨?_, ?_, ?_⟩
    · rw [List.foldl_cons, htargets', htargets, List.filterMap_congr htarget, List.append_assoc]
      cases hfirst : sweptTarget gathered.inner head <;> simp [hfirst]
    · rw [List.foldl_cons, heffects', heffects, List.filterMap_congr hanswer, List.append_assoc]
      cases hfirst : sweptAnswer gathered.inner outcome head <;> simp [hfirst]
    intro key
    rw [List.foldl_cons, hreleased', hreleased, List.mem_cons]
    constructor
    · rintro ((hold | ⟨rfl, hunsent⟩) | ⟨hkey, hunsent⟩)
      · exact .inl hold
      · exact .inr ⟨.inl rfl, hunsent⟩
      · refine .inr ⟨.inr hkey, ?_⟩
        rwa [Unsent, hget key hkey] at hunsent
    · rintro (hold | ⟨rfl | hkey, hunsent⟩)
      · exact .inl (.inl hold)
      · exact .inl (.inr ⟨rfl, hunsent⟩)
      · refine .inr ⟨hkey, ?_⟩
        rwa [Unsent, hget key hkey]

/-- A call that ends a list of relays without a reply. -/
structure Swept (inner : ForwardingInner) (op : Op) (keys : List ControlKey)
    (outcome : RouteBindRelayOutcome) (inner' : ForwardingInner) : Prop where
  nodup : keys.Nodup
  refusal : outcome ≠ .accepted
  /-- Every listed relay was pending. -/
  listed : ∀ key ∈ keys, ∃ pending, inner.pendingRelays.get key = some pending
  pending : ∀ key, inner'.pendingRelays.get key =
    if key ∈ keys then none else inner.pendingRelays.get key
  released : ∀ key, key ∈ inner'.relaysReleasedBeforeEnqueue ↔
    key ∈ inner.relaysReleasedBeforeEnqueue ∨ key ∈ keys ∧ Unsent inner key
  answers : settlements inner op = keys.filterMap (sweptAnswer inner outcome)

/-- What ending a list of relays leaves, and the effects it has. -/
structure Ends (inner : ForwardingInner) (keys : List ControlKey) (outcome : RouteBindRelayOutcome)
    (inner' : ForwardingInner) (effects : List Effect) : Prop where
  pending : ∀ key, inner'.pendingRelays.get key =
    if key ∈ keys then none else inner.pendingRelays.get key
  released : ∀ key, key ∈ inner'.relaysReleasedBeforeEnqueue ↔
    key ∈ inner.relaysReleasedBeforeEnqueue ∨ key ∈ keys ∧ Unsent inner key
  answers : effects.filterMap settlement = keys.filterMap (sweptAnswer inner outcome)

/-- What a sweep hands out: the GOODBYEs of its marked relays. -/
def HandsOut (inner : ForwardingInner) (op : Op) (keys : List ControlKey) : Prop :=
  abandoned inner op = keys.filterMap (sweptTarget inner)

variable (inner : ForwardingInner)

variable (endpoint : ModuleEndpointId)

variable {endpoint} in
theorem endpointRelayKeys_listed :
    (endpointRelayKeys inner endpoint).Nodup ∧
      ∀ key, key ∈ endpointRelayKeys inner endpoint ↔
        key.1 = endpoint ∧ ∃ pending, inner.pendingRelays.get key = some pending := by
  refine ⟨(nodup_keys _).filter _, ?_⟩
  intro key
  rw [endpointRelayKeys, List.mem_filter, mem_keys]
  constructor
  · exact fun h => ⟨of_decide_eq_true h.2, h.1⟩
  · exact fun h => ⟨h.2, decide_eq_true h.1⟩

variable {effects : List Effect}

/-- Effects that settle nothing do not show among the settlements. -/
theorem filterMap_settlement_nil (h : ∀ effect ∈ effects, settlement effect = none) :
    effects.filterMap settlement = [] :=
  List.filterMap_eq_nil_iff.mpr h

theorem filterMap_settlement_map {α : Type} {f : α → Effect} (h : ∀ a, settlement (f a) = none)
    (l : List α) : (l.map f).filterMap settlement = [] :=
  filterMap_settlement_nil (List.forall_mem_map.mpr fun a _ => h a)

/-- A drain sweeps the relays of its endpoint. -/
theorem beginDrainLocked_swept :
    let drained := beginDrainLocked inner moduleId module reason exclusions
    let keys := endpointRelayKeys inner module.endpoint
    let outcome := RouteBindRelayOutcome.daemonRejected (moduleReloadingRefusal moduleId)
    Ends inner keys outcome drained.inner drained.effects ∧
      ∃ target, drained.result = .ok target ∧
        target.abandonedBindings = keys.filterMap (sweptTarget inner) := by
  intro drained keys outcome
  set gathered : Gathered :=
    ⟨{ inner with drainingEndpoints := inner.drainingEndpoints.insert module.endpoint reason },
      [], (endpointFlows inner module.endpoint).map .beginFlowDrain⟩ with hg
  have hpending := foldl_abandonPendingRelay_pending outcome keys gathered
  obtain ⟨htargets, heffects, hreleased⟩ := foldl_abandonPendingRelay_swept
    (endpointRelayKeys_listed inner).1 gathered
  have hflows : gathered.effects.filterMap settlement = [] :=
    filterMap_settlement_map (fun _ => rfl) _
  refine ⟨⟨hpending, hreleased, ?_⟩, _, rfl, htargets⟩
  have hsplit : drained.effects.filterMap settlement =
      (keys.foldl (abandonPendingRelay outcome) gathered).effects.filterMap settlement := by
    change (_ ++ _ : List Effect).filterMap settlement = _
    rw [List.filterMap_append, filterMap_settlement_map fun _ => rfl, List.append_nil]
    rfl
  rw [hsplit, heffects, hflows, List.nil_append]
  rfl

/-- A call that neither reserves, marks nor ends a relay. -/
structure Quiet (inner : ForwardingInner) (op : Op) (inner' : ForwardingInner) : Prop where
  pending : inner'.pendingRelays = inner.pendingRelays
  released : inner'.relaysReleasedBeforeEnqueue = inner.relaysReleasedBeforeEnqueue
  answers : settlements inner op = []
  targets : abandoned inner op = []

/-- What a call other than the open's own and the reply does to relays. -/
inductive RelaySweep (inner : ForwardingInner) (op : Op) (inner' : ForwardingInner) : Prop where
  | quiet (hquiet : Quiet inner op inner')
  | swept (keys : List ControlKey) (outcome : RouteBindRelayOutcome)
      (hswept : Swept inner op keys outcome inner') (hhands : HandsOut inner op keys)
  /-- The teardown of a module hands out nothing: its queue is gone. -/
  | removed (connectionId : ConnectionId) (endpoint : ModuleEndpointId) (keys : List ControlKey)
      (outcome : RouteBindRelayOutcome) (hop : op = .cleanupConnection connectionId)
      (hrole : inner.endpointByConnection.get connectionId = some endpoint)
      (hkeys : ∀ key, key ∈ keys ↔
        key.1 = endpoint ∧ ∃ pending, inner.pendingRelays.get key = some pending)
      (hswept : Swept inner op keys outcome inner') (hnone : abandoned inner op = [])

/-- A call that runs the drain of a module and hands out what it gathered. -/
theorem RelaySweep.ofDrain {inner : ForwardingInner}
    (hinner : inner' = (beginDrainLocked inner moduleId module reason exclusions).inner)
    (hsettled : settlements inner op =
      (beginDrainLocked inner moduleId module reason exclusions).effects.filterMap settlement)
    (hgathered : ∀ target,
      (beginDrainLocked inner moduleId module reason exclusions).result = .ok target →
      abandoned inner op = target.abandonedBindings) : RelaySweep inner op inner' := by
  obtain ⟨hnodup, hlisted⟩ := endpointRelayKeys_listed inner
  obtain ⟨hends, target, hresult, htargets⟩ := beginDrainLocked_swept inner
  subst hinner
  refine .swept (endpointRelayKeys inner module.endpoint)
    (.daemonRejected (moduleReloadingRefusal moduleId))
    ⟨hnodup, by simp, fun key hkey => ((hlisted key).mp hkey).2, hends.pending, hends.released,
      hsettled.trans hends.answers⟩ ?_
  rw [HandsOut, hgathered target hresult]
  exact htargets

theorem beginModuleDrain_sweep :
    RelaySweep inner (.beginModuleDrain moduleId reason exclusions)
      (beginModuleDrain inner moduleId reason exclusions).inner := by
  cases hactive : inner.modulesById.get moduleId with
  | none =>
    apply RelaySweep.quiet
    constructor <;> simp [beginModuleDrain, settlements, abandoned, hactive]
  | some =>
    refine RelaySweep.ofDrain (by simp only [beginModuleDrain, hactive]; rfl)
      (by simp only [settlements, beginModuleDrain, hactive]) ?_
    intro target hresult
    simp only [abandoned, beginModuleDrain, hactive, hresult, Except.map]

theorem beginEndpointDrain_sweep :
    RelaySweep inner (.beginEndpointDrain endpoint reason exclusions)
      (beginEndpointDrain inner endpoint reason exclusions).inner := by
  cases hslot : moduleConnectionForEndpointLocked inner endpoint with
  | none =>
    apply RelaySweep.quiet
    constructor <;> simp [beginEndpointDrain, settlements, abandoned, hslot]
  | some =>
    cases hid : inner.moduleIdByEndpoint.get endpoint with
    | none =>
      apply RelaySweep.quiet
      constructor <;> simp [beginEndpointDrain, settlements, abandoned, hslot, hid]
    | some =>
      refine RelaySweep.ofDrain (by simp only [beginEndpointDrain, hslot, hid]; rfl)
        (by simp only [settlements, beginEndpointDrain, hslot, hid]) ?_
      intro target hresult
      simp only [abandoned, beginEndpointDrain, hslot, hid, hresult, Except.map]

variable (connectionId : ConnectionId)

theorem clientRelayKeys_listed :
    (clientRelayKeys inner connectionId).Nodup ∧
      ∀ key ∈ clientRelayKeys inner connectionId,
        ∃ pending, inner.pendingRelays.get key = some pending := by
  constructor
  · exact (nodup_keys inner.pendingRelays).sublist (List.filter_sublist.map Prod.fst)
  intro key hkey
  obtain ⟨entry, hentry, rfl⟩ := List.mem_map.mp hkey
  exact ⟨entry.2, (mem_toList _ _ _).mp (List.mem_of_mem_filter hentry)⟩

/-- Releasing a route settles no open. -/
theorem releaseBindEffects_settlement :
    ∀ effect ∈ releaseBindEffects route, settlement effect = none := by
  intro effect heffect
  unfold releaseBindEffects at heffect
  cases hscope : route.scope with
  | none =>
    rw [hscope] at heffect
    cases heffect
  | some =>
    rw [hscope, List.mem_singleton] at heffect
    rw [heffect]
    rfl

/-- Neither do releases in turn. -/
theorem releases_settlement {inner : ForwardingInner} (hr : Releases closes effects inner inner') :
    effects.filterMap settlement = [] := by
  induction hr with
  | refl => rfl
  | step hfirst _ ih =>
    rw [List.filterMap_append, ih, List.append_nil]
    cases hfirst with
    | kept => rfl
    | dropped route _ _ _ _ _ _ _ heffects =>
      apply filterMap_settlement_nil
      intro effect heffect
      rcases (heffects effect).mp heffect with rfl | rfl | hbind
      · rfl
      · rfl
      · exact releaseBindEffects_settlement effect hbind

/-- Releasing routes changes nothing a sweep reads. -/
theorem routesOnly_swept {inner : ForwardingInner} (h : RoutesOnly inner inner') :
    inner'.pendingRelays = inner.pendingRelays ∧
      inner'.relaysReleasedBeforeEnqueue = inner.relaysReleasedBeforeEnqueue ∧
      ∀ key, sweptTarget inner' key = sweptTarget inner key := by
  have hpending : inner'.pendingRelays = inner.pendingRelays := by rw [h]
  refine ⟨hpending, by rw [h], ?_⟩
  intro key
  unfold sweptTarget
  rw [hpending]
  congr 1
  funext pending
  have htarget : abandonedRouteTarget inner' pending.reservation =
      abandonedRouteTarget inner pending.reservation := by
    apply abandonedRouteTarget_congr <;> rw [h]
  rw [htarget]

/-- The teardown of a client sweeps the relays it waits on. -/
theorem cleanupClientConnectionLocked_swept :
    let cleaned := cleanupClientConnectionLocked inner connectionId
    let keys := clientRelayKeys inner connectionId
    let outcome := RouteBindRelayOutcome.moduleGone
      "client connection closed during route.bind relay"
    Ends inner keys outcome cleaned.inner cleaned.effects ∧
      (clientRelaysAbandoned inner connectionId).targets = keys.filterMap (sweptTarget inner) := by
  intro cleaned keys outcome
  set unrouted := releaseClientConnectionRoutes inner connectionId with hu
  obtain ⟨hrelays, hmarks, htarget⟩ := routesOnly_swept
    (releaseClientConnectionRoutes_releases inner connectionId).routesOnly
  have hkeys : clientRelayKeys unrouted.inner connectionId = keys := by
    simp only [clientRelayKeys, keys, hu, hrelays]
  have hnodup : keys.Nodup := (clientRelayKeys_listed inner connectionId).1
  set unrelayed := keys.foldl (abandonPendingRelay outcome) unrouted with hr
  have hcleaned : cleaned.inner = forgetClientSlots
      ((clientReservedPairs unrelayed.inner connectionId).foldl
        (fun inner pair => releaseReservedRouteLocked inner pair.1 pair.2) unrelayed.inner)
      connectionId := by
    rw [hr, ← hkeys]
    rfl
  have heffects : cleaned.effects = unrelayed.effects := by
    rw [hr, ← hkeys]
    rfl
  have hlast : cleaned.inner.pendingRelays = unrelayed.inner.pendingRelays ∧
      cleaned.inner.relaysReleasedBeforeEnqueue = unrelayed.inner.relaysReleasedBeforeEnqueue := by
    rw [hcleaned]
    exact List.foldlRecOn (motive := fun i : ForwardingInner =>
      i.pendingRelays = unrelayed.inner.pendingRelays ∧
        i.relaysReleasedBeforeEnqueue = unrelayed.inner.relaysReleasedBeforeEnqueue)
      _ _ ⟨rfl, rfl⟩ fun i hi pair _ => hi
  obtain ⟨-, hanswers, hreleased⟩ := foldl_abandonPendingRelay_swept hnodup unrouted
  obtain ⟨htargets, -, -⟩ := foldl_abandonPendingRelay_swept hnodup ⟨unrouted.inner, [], []⟩
  have hunsettled := releases_settlement (releaseClientConnectionRoutes_releases inner connectionId)
  refine ⟨⟨?_, ?_, ?_⟩, ?_⟩
  · intro key
    rw [hlast.1, hr, foldl_abandonPendingRelay_pending, hu, hrelays]
  · intro key
    rw [hlast.2, hreleased, hu, hmarks]
    simp only [Unsent, hrelays]
  · rw [heffects, hanswers]
    rw [hunsettled, List.nil_append]
    apply List.filterMap_congr
    intro key _
    rw [sweptAnswer, hu, hrelays, sweptAnswer]
  have hfold : (clientRelaysAbandoned inner connectionId).targets =
      (keys.foldl (abandonPendingRelay outcome) ⟨unrouted.inner, [], []⟩).targets := by
    rw [← hkeys]
    rfl
  rw [hfold, htargets, List.nil_append]
  exact List.filterMap_congr fun key _ => htarget key

/-- The keys of an endpoint's relays, in the order its teardown answers them. -/
def removedRelayKeys (inner : ForwardingInner) (endpoint : ModuleEndpointId) : List ControlKey :=
  (inner.pendingRelays.toList.filter fun entry => entry.1.1 = endpoint).map Prod.fst

theorem removedRelayKeys_eq :
    removedRelayKeys inner endpoint = endpointRelayKeys inner endpoint := by
  rw [endpointRelayKeys, HashMap.keys, List.filter_map]
  rfl

/-- The teardown of a module sweeps its relays. -/
theorem removeModuleConnectionLocked_swept :
    let removed := removeModuleConnectionLocked inner endpoint
    let keys := removedRelayKeys inner endpoint
    let moduleLabel := (inner.moduleIdByEndpoint.get endpoint).getD "unknown"
    let outcome := RouteBindRelayOutcome.moduleGone
      s!"module '{moduleLabel}' connection closed during route.bind relay"
    Ends inner keys outcome removed.inner removed.effects := by
  intro removed keys moduleLabel outcome
  obtain ⟨hinner, heffects⟩ := removeModuleConnectionLocked_parts inner endpoint
  obtain ⟨hpending, hmarks⟩ := unreserved_relays inner endpoint
  obtain ⟨hlast, hlastMarks, -⟩ := routesOnly_swept
    (releaseEndpointRoutesLocked_releases (dismissed inner endpoint) endpoint).routesOnly
  have hlisted : ∀ key, key ∈ keys ↔ _ := removedRelayKeys_eq inner endpoint ▸
    (endpointRelayKeys_listed inner).2
  refine ⟨?_, ?_, ?_⟩
  · intro key
    rw [hinner, hlast]
    simp only [dismissed, dropEndpointRelays, get_retain, hpending]
    by_cases hkey : key.1 = endpoint
    · cases hget : inner.pendingRelays.get key with
      | none => simp
      | some pending =>
        rw [if_pos ((hlisted key).mpr ⟨hkey, pending, hget⟩)]
        simp [hkey]
    · rw [if_neg fun hmem => hkey ((hlisted key).mp hmem).1]
      exact filter_of_forall fun _ _ => decide_eq_true hkey
  · intro key
    rw [hinner, hlastMarks]
    simp only [dismissed, dropEndpointRelays, hmarks, hpending, Finset.mem_union,
      List.mem_toFinset, List.mem_map]
    apply or_congr_right
    constructor
    · rintro ⟨entry, hentry, rfl⟩
      obtain ⟨hmem, htest⟩ := List.mem_filter.mp hentry
      simp only [Bool.and_eq_true, decide_eq_true_eq, Bool.not_eq_true'] at htest
      have hget := (mem_toList _ _ _).mp hmem
      exact ⟨(hlisted entry.1).mpr ⟨htest.1, entry.2, hget⟩, entry.2, hget, htest.2⟩
    · rintro ⟨hmem, pending, hget, hunsent⟩
      refine ⟨(key, pending), List.mem_filter.mpr ⟨(mem_toList _ _ _).mpr hget, ?_⟩, rfl⟩
      simp [((hlisted key).mp hmem).1, hunsent]
  · have hunrouted := releases_settlement
      (releaseEndpointRoutesLocked_releases (dismissed inner endpoint) endpoint)
    rw [heffects, List.filterMap_append, hunrouted, dismissals, List.filterMap_append,
      filterMap_settlement_map fun _ => rfl, hpending, List.append_nil, List.append_nil,
      List.filterMap_cons_none rfl, List.filterMap_map]
    simp only [keys, removedRelayKeys, List.filterMap_map]
    apply List.filterMap_congr
    intro entry hentry
    have hget := (mem_toList _ _ _).mp (List.mem_of_mem_filter hentry)
    simp only [Function.comp_apply, settlement, sweptAnswer, hget, Option.map_some]
    rfl

/-- A cleanup sweeps the relays of its client, or of its module. -/
theorem cleanupConnectionCounted_sweep :
    RelaySweep inner (.cleanupConnection connectionId)
      (cleanupConnectionCounted inner connectionId).inner := by
  set marked : ForwardingInner :=
    { inner with closingConnections := insert connectionId inner.closingConnections } with hm
  cases hrole : inner.endpointByConnection.get connectionId with
  | none =>
    obtain ⟨hends, htargets⟩ := cleanupClientConnectionLocked_swept marked connectionId
    obtain ⟨hnodup, hlisted⟩ := clientRelayKeys_listed marked connectionId
    refine .swept (clientRelayKeys marked connectionId)
      (.moduleGone "client connection closed during route.bind relay")
      ⟨hnodup, by simp, hlisted, ?_, ?_, ?_⟩ ?_
    · simp only [cleanupConnectionCounted, hrole]
      exact hends.pending
    · simp only [cleanupConnectionCounted, hrole]
      exact hends.released
    · simp only [settlements, cleanupConnectionCounted, hrole]
      exact hends.answers
    · simp only [HandsOut, abandoned, hrole]
      exact htargets
  | some endpoint =>
    set unlinked : ForwardingInner := { marked with
      endpointByConnection := marked.endpointByConnection.remove connectionId } with hu
    have hends := removeModuleConnectionLocked_swept unlinked endpoint
    obtain ⟨hnodup, hlisted⟩ := endpointRelayKeys_listed unlinked
    rw [← removedRelayKeys_eq] at hnodup hlisted
    set moduleLabel := (inner.moduleIdByEndpoint.get endpoint).getD "unknown"
    refine .removed connectionId endpoint (removedRelayKeys unlinked endpoint)
      (.moduleGone s!"module '{moduleLabel}' connection closed during route.bind relay")
      rfl hrole hlisted
      ⟨hnodup, by simp, fun key hkey => ((hlisted key).mp hkey).2, ?_, ?_, ?_⟩ ?_
    · simp only [cleanupConnectionCounted, hrole]
      exact hends.pending
    · simp only [cleanupConnectionCounted, hrole]
      exact hends.released
    · simp only [settlements, cleanupConnectionCounted, hrole]
      exact hends.answers
    · simp only [abandoned, hrole]

/-- The calls of an open and of the module's reply. -/
def relayCall : Op → Bool
  | .beginRouteBindRelay _ => true
  | .markRouteBindRelayEnqueued _ _ => true
  | .abortPendingRelay _ _ _ => true
  | .completePendingRelay _ _ _ _ => true
  | _ => false

/-- A call that keeps the work, gives no answer and no target is quiet. -/
theorem KeepsWork.quiet {inner : ForwardingInner} (h : KeepsWork inner inner')
    (hanswers : settlements inner op = []) (htargets : abandoned inner op = []) :
    RelaySweep inner op inner' :=
  .quiet ⟨h.pendingRelays, h.released, hanswers, htargets⟩

theorem Op.apply_sweep (hop : relayCall op = false) : RelaySweep inner op (op.apply inner) := by
  by_cases haloof : aloofCall op = true
  · have hsilent : settlements inner op = [] ∧ abandoned inner op = [] := by
      cases op <;> first | exact ⟨rfl, rfl⟩ | cases haloof
    exact KeepsWork.quiet (aloof_keeps inner haloof) hsilent.1 hsilent.2
  by_cases hrelease : releaseCall op = true
  · have hsilent : settlements inner op = [] ∧ abandoned inner op = [] := by
      cases op <;> first | exact ⟨rfl, rfl⟩ | cases hrelease
    obtain ⟨closes, hreleases⟩ := release_releases hrelease
    obtain ⟨hpending, hreleased, -⟩ := routesOnly_swept hreleases.routesOnly
    rw [published_eq] at hpending hreleased
    exact .quiet ⟨hpending, hreleased, hsilent.1, hsilent.2⟩
  cases op with
  | beginRouteBindRelay | markRouteBindRelayEnqueued | abortPendingRelay | completePendingRelay =>
    cases hop
  | beginModuleDrain moduleId reason exclusions =>
    exact beginModuleDrain_sweep inner
  | beginEndpointDrain endpoint reason exclusions =>
    exact beginEndpointDrain_sweep inner endpoint
  | cleanupConnection connectionId => exact cleanupConnectionCounted_sweep inner connectionId
  | releaseClientRoute | releaseModuleRoute | releaseModuleEndpointRoutes | publishScopeChanges =>
    exact absurd rfl hrelease
  | _ => exact absurd rfl haloof

end Subconscious.ForwardingEndings
