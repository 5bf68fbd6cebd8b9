import Subconscious.PairedIndexes
import Subconscious.ForwardingRuns

/-!
# What the loops of the forwarding table change

Releasing routes touches the two route indexes and the status cache, and
dropping relays touches the relays, the reservations and the status cache.
Everything else is the same before and after, for one step and for a whole
loop. A loop of releases is a filter of both route indexes. The calls about
control requests, health probes, statuses and the daemon's own drain touch
none of this.
-/

namespace Subconscious.ForwardingFrames

open HashMaps HashMap PairedIndexes Protocol ScopeChanges ForwardingState ForwardingOperations
open ForwardingRelays ForwardingTeardown ForwardingControl ForwardingRuns

/-- Only the route indexes and the status cache differ. -/
def RoutesOnly (inner inner' : ForwardingInner) : Prop :=
  inner' = { inner with
    clientToModule := inner'.clientToModule
    moduleToClient := inner'.moduleToClient
    status := inner'.status }

variable (inner : ForwardingInner) (outcome : RouteBindRelayOutcome)

theorem RoutesOnly.refl : RoutesOnly inner inner := rfl

theorem RoutesOnly.trans (hab : RoutesOnly a b) (hbc : RoutesOnly b c) : RoutesOnly a c := by
  rw [RoutesOnly, hab] at hbc
  exact hbc

/-- Only the relays, the reservations, the control requests and the status cache differ. -/
def RelaysOnly (inner inner' : ForwardingInner) : Prop :=
  inner' = { inner with
    pendingRelays := inner'.pendingRelays
    relaysReleasedBeforeEnqueue := inner'.relaysReleasedBeforeEnqueue
    reservedClient := inner'.reservedClient
    reservedModule := inner'.reservedModule
    pendingControlRpcs := inner'.pendingControlRpcs
    status := inner'.status }

theorem RelaysOnly.refl : RelaysOnly inner inner := rfl

theorem RelaysOnly.trans (hab : RelaysOnly a b) (hbc : RelaysOnly b c) : RelaysOnly a c := by
  rw [RelaysOnly, hab] at hbc
  exact hbc

/-- A table whose route indexes are those of another, less the routes that fail a test. -/
structure RoutesFiltered (keep : RouteBinding → Bool) (inner inner' : ForwardingInner) : Prop where
  client : ∀ key, inner'.clientToModule.get key = (inner.clientToModule.get key).filter keep
  module : ∀ key, inner'.moduleToClient.get key = (inner.moduleToClient.get key).filter keep

/-- The two route indexes of a table mirror each other. -/
def RoutesMirrored (inner : ForwardingInner) : Prop :=
  Mirrored RouteBinding.clientKey RouteBinding.moduleKey inner.clientToModule inner.moduleToClient

variable {inner}

theorem RoutesFiltered.mirrored (hf : RoutesFiltered keep inner inner')
    (h : RoutesMirrored inner) : RoutesMirrored inner' :=
  h.filter keep hf.client hf.module

/-- Two filters in turn are one filter by both tests. -/
theorem RoutesFiltered.trans (hab : RoutesFiltered keep a b) (hbc : RoutesFiltered keep' b c)
    (hboth : ∀ route, both route = (keep route && keep' route)) : RoutesFiltered both a c := by
  have hfun : both = fun route => keep route && keep' route := funext hboth
  constructor
  · intro key
    rw [hbc.client, hab.client, Option.filter_filter, hfun]
  · intro key
    rw [hbc.module, hab.module, Option.filter_filter, hfun]

theorem filtered_of_same (hclient : inner'.clientToModule = inner.clientToModule)
    (hmodule : inner'.moduleToClient = inner.moduleToClient) :
    RoutesFiltered (fun _ => true) inner inner' := by
  constructor
  · intro key
    rw [hclient]
    exact (filter_of_forall fun _ _ => rfl).symm
  · intro key
    rw [hmodule]
    exact (filter_of_forall fun _ _ => rfl).symm

/-- A route that stands under its own keys in both indexes. -/
def Bound (inner : ForwardingInner) (route : RouteBinding) : Prop :=
  inner.clientToModule.get route.clientKey = some route ∧
    inner.moduleToClient.get route.moduleKey = some route

/-- Tests that agree on the bound routes filter alike. -/
theorem filtered_congr (h : RoutesMirrored inner) (hf : RoutesFiltered keep inner inner')
    (hsame : ∀ route, Bound inner route → keep route = keep' route) :
    RoutesFiltered keep' inner inner' := by
  constructor
  · intro key
    refine (hf.client key).trans (filter_congr_of fun route hroute => hsame route ?_)
    obtain ⟨rfl, hmodule⟩ := h.ofLeft key route hroute
    exact ⟨hroute, hmodule⟩
  · intro key
    refine (hf.module key).trans (filter_congr_of fun route hroute => hsame route ?_)
    obtain ⟨rfl, hclient⟩ := h.ofRight key route hroute
    exact ⟨hclient, hroute⟩

/-- A release finds no route that its test names, or drops the one it names. -/
inductive Released (inner : ForwardingInner) (closes : RouteBinding → Bool) : Release → Prop where
  | kept (release : RouteRelease) (hnone : ∀ route, Bound inner route → closes route = false) :
      Released inner closes ⟨inner, release, []⟩
  | dropped (route : RouteBinding) (clientKey : ClientRouteKey) (moduleKey : ModuleRouteKey)
      (status : HashMap (ClientRouteKey × UInt32) String) (release : RouteRelease)
      (effects : List Effect)
      (hbound : RoutesMirrored inner → Bound inner route ∧ clientKey = route.clientKey ∧
        moduleKey = route.moduleKey ∧ closes route = true)
      (hone : ∀ other, Bound inner other → closes other = true → other = route)
      (heffects : ∀ effect, effect ∈ effects ↔ effect = .closeFlow route.flow ∨
        effect = .operatorRouteClosed moduleKey ∨ effect ∈ releaseBindEffects route) :
      Released inner closes ⟨{ inner with
        clientToModule := inner.clientToModule.remove clientKey
        moduleToClient := inner.moduleToClient.remove moduleKey
        status := status }, release, effects⟩

variable (inner)

theorem releaseClientRouteLocked_released :
    Released inner (fun route => decide (route.clientKey = key) && route.clientEpoch = epoch)
      (releaseClientRouteLocked inner key epoch) := by
  unfold releaseClientRouteLocked
  cases hroute : inner.clientToModule.get key with
  | none => exact .kept _ (by grind [Bound])
  | some route =>
    dsimp only
    split
    case isTrue => exact .kept _ (by grind [Bound])
    case isFalse hepoch =>
      refine .dropped route key route.moduleKey _ _ _ ?_ (by grind [Bound]) (by grind)
      intro h
      obtain ⟨rfl, hmodule⟩ := h.ofLeft key route hroute
      exact ⟨⟨hroute, hmodule⟩, rfl, rfl, by simpa using hepoch⟩

theorem releaseModuleRouteLocked_released :
    Released inner (fun route => decide (route.moduleKey = key) && route.moduleEpoch = epoch)
      (releaseModuleRouteLocked inner key epoch) := by
  unfold releaseModuleRouteLocked
  cases hroute : inner.moduleToClient.get key with
  | none => exact .kept _ (by grind [Bound])
  | some route =>
    dsimp only
    split
    case isTrue => exact .kept _ (by grind [Bound])
    case isFalse hepoch =>
      refine .dropped route route.clientKey key _ _ _ ?_ (by grind [Bound]) (by grind)
      intro h
      obtain ⟨rfl, hclient⟩ := h.ofRight key route hroute
      exact ⟨⟨hclient, hroute⟩, rfl, rfl, by simpa using hepoch⟩

variable {inner}

theorem Released.filtered (hr : Released inner closes released) (h : RoutesMirrored inner) :
    RoutesFiltered (fun route => !closes route) inner released.inner := by
  cases hr with
  | kept release hnone =>
    refine filtered_congr h (filtered_of_same rfl rfl) ?_
    intro route hroute
    rw [hnone route hroute, Bool.not_false]
  | dropped route _ _ _ _ _ hbound hone =>
    obtain ⟨hroute, rfl, rfl, hcloses⟩ := hbound h
    obtain ⟨hclient, hmodule⟩ := h.remove_right hroute.2
    refine filtered_congr h ⟨hclient, hmodule⟩ ?_
    intro other hother
    by_cases hkey : other.moduleKey = route.moduleKey
    · have hsame := hother.2
      rw [hkey, hroute.2] at hsame
      cases hsame
      simp [hcloses]
    · cases hcase : closes other with
      | false => simp [hkey]
      | true => exact absurd (congrArg RouteBinding.moduleKey (hone other hother hcase)) hkey

/-- Releases one after the other, the routes they close and their effects. -/
inductive Releases : (RouteBinding → Bool) → List Effect → ForwardingInner → ForwardingInner →
    Prop where
  | refl (inner : ForwardingInner) : Releases (fun _ => false) [] inner inner
  | step {inner inner' : ForwardingInner} {closes closes' : RouteBinding → Bool}
      {released : Release} {effects : List Effect} (hfirst : Released inner closes released)
      (hrest : Releases closes' effects released.inner inner') :
      Releases (fun route => closes route || closes' route) (released.effects ++ effects)
        inner inner'

theorem Releases.one (hr : Released inner closes released) :
    Releases closes released.effects inner released.inner := by
  have hone := Releases.step hr (.refl _)
  simpa only [Bool.or_false, List.append_nil] using hone

section

variable (hr : Releases closes effects inner inner')
include hr

theorem Releases.routesOnly : RoutesOnly inner inner' := by
  induction hr with
  | refl inner => exact .refl inner
  | step hfirst _ ih =>
    refine RoutesOnly.trans ?_ ih
    cases hfirst <;> rfl

theorem Releases.filtered (h : RoutesMirrored inner) :
    RoutesFiltered (fun route => !closes route) inner inner' := by
  induction hr with
  | refl => exact filtered_of_same rfl rfl
  | step hfirst _ ih =>
    have hone := hfirst.filtered h
    exact hone.trans (ih (hone.mirrored h)) fun route => Bool.not_or _ _

end

variable (inner)

/-- A loop of releases closes what any of its entries names. -/
theorem foldl_releases {α β : Type} (innerOf : β → ForwardingInner) (effectsOf : β → List Effect)
    {step : β → α → β} {closes : α → RouteBinding → Bool}
    (hstep : ∀ acc a, ∃ released, Released (innerOf acc) (closes a) released ∧
      innerOf (step acc a) = released.inner ∧
      effectsOf (step acc a) = effectsOf acc ++ released.effects)
    (entries : List α) {acc : β} (hacc : effectsOf acc = []) :
    Releases (fun route => entries.any (closes · route)) (effectsOf (entries.foldl step acc))
      (innerOf acc) (innerOf (entries.foldl step acc)) := by
  suffices h : ∀ acc, ∃ effects, effectsOf (entries.foldl step acc) = effectsOf acc ++ effects ∧
      Releases (fun route => entries.any (closes · route)) effects (innerOf acc)
        (innerOf (entries.foldl step acc)) by
    obtain ⟨effects, heffects, hreleases⟩ := h acc
    rwa [heffects, hacc, List.nil_append]
  induction entries with
  | nil => exact fun acc => ⟨[], by simp, .refl _⟩
  | cons a entries ih =>
    intro acc
    obtain ⟨released, hreleased, hinner, heffects⟩ := hstep acc a
    obtain ⟨effects, hlater, hrest⟩ := ih (step acc a)
    rw [hinner] at hrest
    refine ⟨released.effects ++ effects, ?_, .step hreleased hrest⟩
    rw [List.foldl_cons, hlater, heffects, List.append_assoc]

variable (connectionId : ConnectionId)

theorem releaseClientConnectionRoutes_releases :
    Releases (fun route => (inner.clientToModule.toList.filter
        fun entry => entry.1.connectionId = connectionId).any
        fun entry => decide (route.clientKey = entry.1) && route.clientEpoch = entry.2.clientEpoch)
      (releaseClientConnectionRoutes inner connectionId).effects inner
      (releaseClientConnectionRoutes inner connectionId).inner :=
  foldl_releases Gathered.inner Gathered.effects
    (fun _ _ => ⟨_, releaseClientRouteLocked_released _, rfl, rfl⟩) _ rfl

theorem releaseEndpointRoutesLocked_releases (endpoint : ModuleEndpointId) :
    Releases (fun route => (inner.moduleToClient.toList.filter
        fun entry => entry.1.endpoint = endpoint).any
        fun entry => decide (route.moduleKey = entry.1) && route.moduleEpoch = entry.2.moduleEpoch)
      (releaseEndpointRoutesLocked inner endpoint).effects inner
      (releaseEndpointRoutesLocked inner endpoint).inner :=
  foldl_releases Gathered.inner Gathered.effects
    (fun _ _ => ⟨_, releaseModuleRouteLocked_released _, rfl, rfl⟩) _ rfl

/-- Publishing moves the tags and releases the selected routes. -/
theorem publishScopeChanges_releases (changes : List ScopeTagChange) :
    Releases (fun route => (selectedRoutes inner changes).any
        fun selected => decide (route.clientKey = selected.1) && route.clientEpoch = selected.2.1)
      (publishScopeChanges inner changes).effects
      { inner with scopeTags := changes.foldl publishTag inner.scopeTags }
      (publishScopeChanges inner changes).inner := by
  refine foldl_releases ScopeDrained.inner ScopeDrained.effects ?_ _ rfl
  intro acc selected
  refine ⟨_, releaseClientRouteLocked_released acc.inner, ?_⟩
  unfold drainSelected
  cases hroute : acc.inner.clientToModule.get selected.1 with
  | none => simp [releaseClientRouteLocked, hroute]
  | some => exact ⟨rfl, rfl⟩

/-- A bound route is on the list of an index exactly when its key is. -/
theorem any_listed [DecidableEq K] {index : HashMap K RouteBinding}
    {key : RouteBinding → K} {epoch : RouteBinding → UInt32} (mine : K → Bool)
    (hroute : index.get (key route) = some route) :
    ((index.toList.filter fun entry => mine entry.1).any fun entry =>
      decide (key route = entry.1) && epoch route = epoch entry.2) = mine (key route) := by
  rw [Bool.eq_iff_iff, List.any_eq_true]
  constructor
  · rintro ⟨entry, hentry, heq⟩
    rw [of_decide_eq_true (Bool.and_elim_left heq)]
    exact (List.mem_filter.mp hentry).2
  · intro hmine
    exact ⟨(key route, route), List.mem_filter.mpr ⟨(mem_toList _ _ _).mpr hroute, hmine⟩, by simp⟩

/-- Releasing every route of an endpoint keeps exactly the other endpoints' routes. -/
theorem releaseEndpointRoutesLocked_filtered {inner : ForwardingInner} (h : RoutesMirrored inner)
    (endpoint : ModuleEndpointId) :
    RoutesFiltered (fun route => route.moduleEndpoint ≠ endpoint) inner
      (releaseEndpointRoutesLocked inner endpoint).inner := by
  refine filtered_congr h ((releaseEndpointRoutesLocked_releases inner endpoint).filtered h) ?_
  intro route hroute
  rw [decide_not, Bool.not_inj_iff]
  exact any_listed (fun key => decide (key.endpoint = endpoint)) hroute.2

/-- A client's teardown closes exactly its routes. -/
theorem releaseClientConnectionRoutes_filtered {inner : ForwardingInner} (h : RoutesMirrored inner)
    (connectionId : ConnectionId) :
    RoutesFiltered (fun route => !decide (route.clientConnectionId = connectionId)) inner
      (releaseClientConnectionRoutes inner connectionId).inner := by
  refine filtered_congr h
    ((releaseClientConnectionRoutes_releases inner connectionId).filtered h) ?_
  intro route hroute
  rw [Bool.not_inj_iff]
  exact any_listed (fun key => decide (key.connectionId = connectionId)) hroute.1

theorem dropRelay_relaysOnly (key : ControlKey)
    (pending : PendingRouteBindRelayEntry) : RelaysOnly inner (dropRelay inner key pending) := rfl

theorem abandonPendingRelay_relaysOnly (gathered : Gathered) (key : ControlKey) :
    RelaysOnly gathered.inner (abandonPendingRelay outcome gathered key).inner := by
  unfold abandonPendingRelay
  split
  case h_1 => exact .refl _
  case h_2 =>
    split <;> rfl

/-- Abandoning one relay removes its key from the pending map, and no other. -/
theorem abandonPendingRelay_pending (gathered : Gathered) (key key' : ControlKey) :
    (abandonPendingRelay outcome gathered key).inner.pendingRelays.get key' =
      if key' = key then none else gathered.inner.pendingRelays.get key' := by
  unfold abandonPendingRelay
  cases hp : gathered.inner.pendingRelays.get key with
  | none =>
    dsimp only
    split
    case isTrue heq => rw [heq, hp]
    case isFalse => rfl
  | some =>
    dsimp only
    split <;> simp [dropRelay, releaseReservedRouteLocked]

/-- A loop that abandons relays removes exactly their keys. -/
theorem foldl_abandonPendingRelay_pending (keys : List ControlKey) :
    ∀ (gathered : Gathered) (key : ControlKey),
      (keys.foldl (abandonPendingRelay outcome) gathered).inner.pendingRelays.get key =
        if key ∈ keys then none else gathered.inner.pendingRelays.get key := by
  induction keys with
  | nil =>
    intro gathered key
    simp
  | cons head keys ih =>
    intro gathered key
    rw [List.foldl_cons, ih, abandonPendingRelay_pending]
    by_cases hkeys : key ∈ keys
    · simp [hkeys]
    by_cases hhead : key = head
    · simp [hhead]
    · simp [hkeys, hhead]

theorem foldl_abandonPendingRelay_relaysOnly (keys : List ControlKey) :
    RelaysOnly gathered.inner (keys.foldl (abandonPendingRelay outcome) gathered).inner :=
  List.foldlRecOn (motive := fun g : Gathered => RelaysOnly gathered.inner g.inner) _ _
    (.refl _) fun g hg key _ => hg.trans (abandonPendingRelay_relaysOnly outcome g key)

theorem releaseReservedModuleKey_relaysOnly (moduleKey : ModuleRouteKey) :
    RelaysOnly inner (releaseReservedModuleKey inner moduleKey) := by
  unfold releaseReservedModuleKey
  split
  case h_1 | h_2 => rfl

/-- Releasing one reserved module key removes exactly its pair. -/
theorem releaseReservedModuleKey_filtered {inner : ForwardingInner}
    (h : Inverse inner.reservedClient inner.reservedModule) (moduleKey : ModuleRouteKey) :
    (∀ key, (releaseReservedModuleKey inner moduleKey).reservedClient.get key =
        (inner.reservedClient.get key).filter fun mk => mk ≠ moduleKey) ∧
      ∀ key, (releaseReservedModuleKey inner moduleKey).reservedModule.get key =
        (inner.reservedModule.get key).filter fun _ => key ≠ moduleKey := by
  unfold releaseReservedModuleKey
  cases hback : inner.reservedModule.get moduleKey with
  | none =>
    constructor
    · intro key
      symm
      apply filter_of_forall
      intro mk hmk
      have hne : mk ≠ moduleKey := by
        intro heq
        rw [heq, h key moduleKey, hback] at hmk
        cases hmk
      simpa using hne
    · intro key
      symm
      apply filter_of_forall
      intro ck hck
      have hne : key ≠ moduleKey := by
        intro heq
        rw [heq, hback] at hck
        cases hck
      simpa using hne
  | some clientKey =>
    have hpair := (h clientKey moduleKey).mpr hback
    have hinverse : Inverse inner.reservedModule inner.reservedClient := fun mk ck => (h ck mk).symm
    obtain ⟨hmodule, hclient⟩ := hinverse.remove hback
    constructor
    · intro key
      simp only [releaseReservedRouteLocked, if_pos hpair]
      exact hclient key
    · intro key
      simp only [releaseReservedRouteLocked, if_pos hback]
      exact hmodule key

/-- A loop over reserved module keys removes exactly their pairs. -/
theorem foldl_releaseReservedModuleKey_filtered (keys : List ModuleRouteKey) :
    ∀ inner : ForwardingInner, Inverse inner.reservedClient inner.reservedModule →
      (∀ key, (keys.foldl releaseReservedModuleKey inner).reservedClient.get key =
          (inner.reservedClient.get key).filter fun mk => mk ∉ keys) ∧
        ∀ key, (keys.foldl releaseReservedModuleKey inner).reservedModule.get key =
          (inner.reservedModule.get key).filter fun _ => key ∉ keys := by
  induction keys with
  | nil =>
    intro inner _
    constructor
    · exact fun key => (filter_of_forall fun _ _ => by simp).symm
    · exact fun key => (filter_of_forall fun _ _ => by simp).symm
  | cons head keys ih =>
    intro inner h
    obtain ⟨hclient, hmodule⟩ := releaseReservedModuleKey_filtered h head
    have hinverse : Inverse (releaseReservedModuleKey inner head).reservedClient
        (releaseReservedModuleKey inner head).reservedModule := by
      intro ck mk
      rw [hclient, hmodule, Option.filter_eq_some_iff, Option.filter_eq_some_iff, h ck mk]
    obtain ⟨ihclient, ihmodule⟩ := ih _ hinverse
    rw [List.foldl_cons]
    constructor
    · intro key
      rw [ihclient, hclient, Option.filter_filter]
      simp only [List.mem_cons, not_or, ne_eq, Bool.decide_and]
    · intro key
      rw [ihmodule, hmodule, Option.filter_filter]
      simp only [List.mem_cons, not_or, ne_eq, Bool.decide_and]

theorem foldl_releaseReservedModuleKey_relaysOnly (keys : List ModuleRouteKey)
    (inner : ForwardingInner) : RelaysOnly inner (keys.foldl releaseReservedModuleKey inner) :=
  List.foldlRecOn (motive := fun i : ForwardingInner => RelaysOnly inner i) _ _ (.refl _)
    fun i hi key _ => hi.trans (releaseReservedModuleKey_relaysOnly i key)

/-- Only what hangs on an endpoint differs: routes, relays, control requests. -/
def WorkOnly (inner inner' : ForwardingInner) : Prop :=
  inner' = { inner with
    clientToModule := inner'.clientToModule
    moduleToClient := inner'.moduleToClient
    pendingRelays := inner'.pendingRelays
    relaysReleasedBeforeEnqueue := inner'.relaysReleasedBeforeEnqueue
    reservedClient := inner'.reservedClient
    reservedModule := inner'.reservedModule
    pendingControlRpcs := inner'.pendingControlRpcs
    status := inner'.status }

/-- What a module's teardown leaves of the routes and the relays. -/
structure EndpointRemoved (endpoint : ModuleEndpointId) (inner inner' : ForwardingInner) :
    Prop where
  /-- Beside the work on it, only the endpoint's own entries are gone. -/
  rest : WorkOnly (forgetEndpoint inner endpoint) inner'
  routes : RoutesFiltered (fun route => route.moduleEndpoint ≠ endpoint) inner inner'
  reservedClient : ∀ key, inner'.reservedClient.get key =
    (inner.reservedClient.get key).filter fun moduleKey => moduleKey.endpoint ≠ endpoint
  reservedModule : ∀ key, inner'.reservedModule.get key =
    (inner.reservedModule.get key).filter fun _ => key.endpoint ≠ endpoint
  pendingRelays : ∀ key, inner'.pendingRelays.get key =
    (inner.pendingRelays.get key).filter fun _ => key.1 ≠ endpoint

section

variable (endpoint : ModuleEndpointId)

/-- The table without the endpoint's own entries and its reserved pairs. -/
def unreserved : ForwardingInner :=
  let forgotten := forgetEndpoint inner endpoint
  (endpointReservedKeys forgotten endpoint).foldl releaseReservedModuleKey forgotten

/-- Without its relays and control requests as well, when its routes come to be released. -/
def dismissed : ForwardingInner :=
  let unrelayed := dropEndpointRelays (unreserved inner endpoint) endpoint
  { unrelayed with
    pendingControlRpcs := unrelayed.pendingControlRpcs.retain fun key _ => key.1 ≠ endpoint }

/-- The answers to the relays and the control requests. -/
def dismissals : List Effect :=
  let moduleLabel := (inner.moduleIdByEndpoint.get endpoint).getD "unknown"
  let relays := (unreserved inner endpoint).pendingRelays.toList.filter
    fun entry => entry.1.1 = endpoint
  let unrelayed := dropEndpointRelays (unreserved inner endpoint) endpoint
  .operatorModuleClosed endpoint
    :: relays.map (fun entry => .settle entry.2.sender (.moduleGone
      s!"module '{moduleLabel}' connection closed during route.bind relay"))
    ++ (endpointControlRpcs unrelayed endpoint).map (fun entry =>
      .settleControl entry.2.sender (.moduleGone
        s!"module '{moduleLabel}' connection closed during module-control RPC"))

/-- A module's teardown releases its routes last. -/
theorem removeModuleConnectionLocked_parts :
    let unrouted := releaseEndpointRoutesLocked (dismissed inner endpoint) endpoint
    (removeModuleConnectionLocked inner endpoint).inner = unrouted.inner ∧
      (removeModuleConnectionLocked inner endpoint).effects =
        dismissals inner endpoint ++ unrouted.effects := ⟨rfl, rfl⟩

/-- Taking reserved pairs out leaves relays and recorded keys. -/
theorem unreserved_relays :
    (unreserved inner endpoint).pendingRelays = inner.pendingRelays ∧
      (unreserved inner endpoint).relaysReleasedBeforeEnqueue =
        inner.relaysReleasedBeforeEnqueue := by
  refine List.foldlRecOn (motive := fun i : ForwardingInner =>
    i.pendingRelays = inner.pendingRelays ∧
      i.relaysReleasedBeforeEnqueue = inner.relaysReleasedBeforeEnqueue) _ _ ⟨rfl, rfl⟩ ?_
  intro i hi key _
  unfold releaseReservedModuleKey
  split
  case h_1 | h_2 => exact hi

theorem dismissed_only : RelaysOnly (forgetEndpoint inner endpoint) (dismissed inner endpoint) :=
  (foldl_releaseReservedModuleKey_relaysOnly _ _).trans rfl

variable {inner} (hroutes : RoutesMirrored inner)
include hroutes

theorem dismissed_mirrored : RoutesMirrored (dismissed inner endpoint) := by
  rw [dismissed_only]
  exact hroutes

variable (inner) (hpairs : Inverse inner.reservedClient inner.reservedModule)
include hpairs

theorem removeModuleConnectionLocked_removed :
    EndpointRemoved endpoint inner (removeModuleConnectionLocked inner endpoint).inner := by
  set keys := endpointReservedKeys (forgetEndpoint inner endpoint) endpoint with hk
  obtain ⟨hclient, hmodule⟩ :=
    foldl_releaseReservedModuleKey_filtered keys (forgetEndpoint inner endpoint) hpairs
  have hroutesOnly :=
    (releaseEndpointRoutesLocked_releases (dismissed inner endpoint) endpoint).routesOnly
  have hlisted : ∀ ck mk, inner.reservedModule.get mk = some ck →
      decide (mk ∉ keys) = decide (mk.endpoint ≠ endpoint) := by
    intro ck mk hget
    have hiff : mk ∈ keys ↔ mk.endpoint = endpoint := by
      rw [hk, endpointReservedKeys, List.mem_filter, mem_keys]
      constructor
      · exact fun hmem => of_decide_eq_true hmem.2
      · exact fun heq => ⟨⟨ck, hget⟩, decide_eq_true heq⟩
    exact decide_eq_decide.mpr (not_congr hiff)
  have hunrouted := releaseEndpointRoutesLocked_filtered
    (dismissed_mirrored endpoint hroutes) endpoint
  rw [(removeModuleConnectionLocked_parts inner endpoint).1]
  constructor
  · unfold WorkOnly
    rw [hroutesOnly, dismissed_only]
  · constructor
    · intro key
      rw [hunrouted.client, dismissed_only]
      rfl
    · intro key
      rw [hunrouted.module, dismissed_only]
      rfl
  · intro key
    rw [hroutesOnly]
    refine (hclient key).trans (filter_congr_of fun mk hmk => hlisted key mk ?_)
    exact (hpairs key mk).mp hmk
  · intro key
    rw [hroutesOnly]
    exact (hmodule key).trans (filter_congr_of fun ck hck => hlisted ck key hck)
  · intro key
    rw [hroutesOnly]
    simp only [dismissed, dropEndpointRelays, get_retain, (unreserved_relays inner endpoint).1]

/-- The teardown of a module connection takes the connection out of the
endpoint map first, which forgetting the endpoint does as well. -/
theorem disconnect_removed :
    EndpointRemoved endpoint inner (removeModuleConnectionLocked
      { inner with
        endpointByConnection := inner.endpointByConnection.remove endpoint.connectionId }
      endpoint).inner := by
  have hr := removeModuleConnectionLocked_removed
    { inner with
      endpointByConnection := inner.endpointByConnection.remove endpoint.connectionId }
    endpoint hroutes hpairs
  refine ⟨?_, ⟨hr.routes.client, hr.routes.module⟩, hr.reservedClient, hr.reservedModule,
    hr.pendingRelays⟩
  simpa only [forgetEndpoint, remove_remove] using hr.rest

end

/-- Only control requests, probes, statuses, gates and closing marks differ. -/
def ControlOnly (inner inner' : ForwardingInner) : Prop :=
  inner' = { inner with
    pendingControlRpcs := inner'.pendingControlRpcs
    healthProbeTombstones := inner'.healthProbeTombstones
    status := inner'.status
    closingConnections := inner'.closingConnections
    daemonDraining := inner'.daemonDraining
    daemonDrainResults := inner'.daemonDrainResults
    drainingEndpoints := inner'.drainingEndpoints }

variable {inner} in
theorem beginDaemonDrain_controlOnly : ControlOnly inner (beginDaemonDrain inner).inner := by
  unfold beginDaemonDrain
  split
  case isTrue | isFalse => rfl

/-- Drawing a correlation id moves its counter or marks the connection closing. -/
theorem allocateControlCorr_only (endpoint : ModuleEndpointId) :
    (allocateControlCorr inner endpoint).1 = { inner with
      nextControlCorr := (allocateControlCorr inner endpoint).1.nextControlCorr
      closingConnections := (allocateControlCorr inner endpoint).1.closingConnections } := by
  unfold allocateControlCorr
  dsimp only
  split
  case isTrue | isFalse => rfl

/-- The calls about control requests, health probes and statuses. -/
def controlCall : Op → Bool
  | .escalateClientDeliveryFailure .. | .beginModuleControlRpc .. | .beginEndpointHealthProbeRpc ..
  | .cancelModuleControlRpc .. | .tombstoneHealthProbeRpc .. | .expireHealthProbeTombstone ..
  | .completeModuleControlRpc .. | .cacheStatus .. => true
  | _ => false

/-- The correlation counters are the same, or one id was drawn. -/
def CorrDrawn (inner inner' : ForwardingInner) : Prop :=
  inner'.nextControlCorr = inner.nextControlCorr ∨ ∃ endpoint,
    inner'.nextControlCorr = (allocateControlCorr inner endpoint).1.nextControlCorr

/-- Only control requests, probes, statuses, closing marks and correlation counters differ. -/
structure AsideOnly (inner inner' : ForwardingInner) : Prop where
  rest : inner' = { inner with
    pendingControlRpcs := inner'.pendingControlRpcs
    healthProbeTombstones := inner'.healthProbeTombstones
    status := inner'.status
    closingConnections := inner'.closingConnections
    nextControlCorr := inner'.nextControlCorr }
  corr : CorrDrawn inner inner'

theorem beginControlRpcLocked_aside :
    AsideOnly inner (beginControlRpcLocked inner moduleId module request).inner := by
  unfold beginControlRpcLocked
  split
  case isTrue => exact ⟨rfl, .inl rfl⟩
  split
  case isTrue => exact ⟨rfl, .inl rfl⟩
  unfold allocateControlCorr
  by_cases hzero : (inner.nextControlCorr.get module.endpoint).getD 1 = 0
  · simp only [if_pos hzero]
    exact ⟨rfl, .inl rfl⟩
  simp only [if_neg hzero]
  refine ⟨rfl, .inr ⟨module.endpoint, ?_⟩⟩
  simp only [allocateControlCorr, if_neg hzero]

theorem control_aside (hop : controlCall op = true) : AsideOnly inner (op.apply inner) := by
  cases op with
  | escalateClientDeliveryFailure =>
    simp only [Op.apply, ForwardingTeardown.escalateClientDeliveryFailure]
    split <;> exact ⟨rfl, .inl rfl⟩
  | beginModuleControlRpc moduleId request =>
    simp only [Op.apply, beginModuleControlRpcInner]
    cases inner.modulesById.get moduleId with
    | none => exact ⟨rfl, .inl rfl⟩
    | some module => exact beginControlRpcLocked_aside inner
  | beginEndpointHealthProbeRpc endpoint =>
    simp only [Op.apply, ForwardingControl.beginEndpointHealthProbeRpc]
    cases moduleConnectionForEndpointLocked inner endpoint with
    | none => exact ⟨rfl, .inl rfl⟩
    | some module => exact beginControlRpcLocked_aside inner
  | cancelModuleControlRpc => exact ⟨rfl, .inl rfl⟩
  | tombstoneHealthProbeRpc =>
    simp only [Op.apply, ForwardingControl.tombstoneHealthProbeRpc]
    repeat' split
    all_goals exact ⟨rfl, .inl rfl⟩
  | expireHealthProbeTombstone =>
    simp only [Op.apply, ForwardingControl.expireHealthProbeTombstone]
    split <;> exact ⟨rfl, .inl rfl⟩
  | completeModuleControlRpc =>
    simp only [Op.apply, ForwardingControl.completeModuleControlRpc]
    repeat' split
    all_goals exact ⟨rfl, .inl rfl⟩
  | cacheStatus =>
    simp only [Op.apply, ForwardingControl.cacheStatus]
    repeat' split
    all_goals exact ⟨rfl, .inl rfl⟩
  | _ => cases hop

/-- No endpoint, slot or gate differs, and the tags are the given ones. -/
structure WorkMoved (tags : HashMap (String × String) ScopeTag) (inner inner' : ForwardingInner) :
    Prop where
  rest : inner' = { inner with
    clientToModule := inner'.clientToModule
    moduleToClient := inner'.moduleToClient
    lastPublishedEpoch := inner'.lastPublishedEpoch
    pendingRelays := inner'.pendingRelays
    relaysReleasedBeforeEnqueue := inner'.relaysReleasedBeforeEnqueue
    reservedClient := inner'.reservedClient
    reservedModule := inner'.reservedModule
    pendingControlRpcs := inner'.pendingControlRpcs
    healthProbeTombstones := inner'.healthProbeTombstones
    status := inner'.status
    scopeTags := tags
    closingConnections := inner'.closingConnections
    nextControlCorr := inner'.nextControlCorr }
  corr : CorrDrawn inner inner'

/-- A reply installs its route or fails, with or without its reservation. -/
theorem commitRouteLocked_only (pending : PendingRouteBindRelayEntry) (reads : CompletionReads) :
    let inner' := (commitRouteLocked inner pending reads).inner
    inner' = { inner with
      clientToModule := inner'.clientToModule
      moduleToClient := inner'.moduleToClient
      lastPublishedEpoch := inner'.lastPublishedEpoch
      reservedClient := inner'.reservedClient
      reservedModule := inner'.reservedModule
      status := inner'.status } := by
  unfold commitRouteLocked publishRoute
  dsimp only
  repeat' split
  all_goals rfl

theorem completePendingRelay_moved (outcome : RouteBindRelayOutcome) :
    WorkMoved inner.scopeTags inner
      (completePendingRelay inner connectionId corr outcome reads).inner := by
  unfold completePendingRelay
  split
  case h_1 => exact ⟨rfl, .inl rfl⟩
  rename_i endpoint _
  split
  case h_1 => exact ⟨rfl, .inl rfl⟩
  case h_2 pending _ =>
    have hcommit := commitRouteLocked_only
      { inner with pendingRelays := inner.pendingRelays.remove (endpoint, corr) } pending reads
    repeat' split
    all_goals first | exact ⟨rfl, .inl rfl⟩ | (dsimp only; rw [hcommit]; exact ⟨rfl, .inl rfl⟩)

/-- The calls that release routes. -/
def releaseCall : Op → Bool
  | .releaseClientRoute .. | .releaseModuleRoute .. | .releaseModuleEndpointRoutes ..
  | .publishScopeChanges .. => true
  | _ => false

/-- The table with the tags a call publishes. -/
def published (inner : ForwardingInner) : Op → ForwardingInner
  | .publishScopeChanges changes =>
    { inner with scopeTags := changes.foldl publishTag inner.scopeTags }
  | _ => inner

theorem published_eq :
    published inner op = { inner with scopeTags := (published inner op).scopeTags } := by
  unfold published
  split <;> rfl

variable {inner} in
/-- Such a call releases routes, after moving the tags at most. -/
theorem release_releases (hop : releaseCall op = true) :
    ∃ closes, Releases closes (op.effects inner) (published inner op) (op.apply inner) := by
  cases op with
  | releaseClientRoute connectionId channel epoch =>
    exact ⟨_, .one (releaseClientRouteLocked_released inner)⟩
  | releaseModuleRoute connectionId channel epoch =>
    simp only [Op.apply, Op.effects, ForwardingRelays.releaseModuleRoute]
    cases inner.endpointByConnection.get connectionId with
    | none => exact ⟨_, .refl inner⟩
    | some endpoint => exact ⟨_, .one (releaseModuleRouteLocked_released inner)⟩
  | releaseModuleEndpointRoutes endpoint =>
    exact ⟨_, releaseEndpointRoutesLocked_releases inner endpoint⟩
  | publishScopeChanges changes => exact ⟨_, publishScopeChanges_releases inner changes⟩
  | _ => cases hop

/-- The calls about relays, routes, scopes and control requests. -/
def workCall : Op → Bool
  | .markRouteBindRelayEnqueued .. | .abortPendingRelay .. | .completePendingRelay ..
  | .releaseClientRoute .. | .releaseModuleRoute .. | .releaseModuleEndpointRoutes ..
  | .publishScopeChanges .. => true
  | op => controlCall op

/-- Such a call moves work, and the tags only if it publishes some. -/
theorem work_moved (hop : workCall op = true) :
    WorkMoved (published inner op).scopeTags inner (op.apply inner) := by
  by_cases hcontrol : controlCall op = true
  · have haside := control_aside inner hcontrol
    have hsame : published inner op = inner := by
      cases op <;> first | rfl | cases hcontrol
    refine ⟨?_, haside.corr⟩
    rw [hsame, haside.rest]
  by_cases hrelease : releaseCall op = true
  · obtain ⟨closes, hreleases⟩ := release_releases hrelease
    rw [hreleases.routesOnly, published_eq]
    exact ⟨rfl, .inl rfl⟩
  cases op with
  | markRouteBindRelayEnqueued =>
    simp only [Op.apply, ForwardingRelays.markRouteBindRelayEnqueued]
    repeat' split
    all_goals exact ⟨rfl, .inl rfl⟩
  | abortPendingRelay =>
    simp only [Op.apply, ForwardingRelays.abortPendingRelay]
    split <;> exact ⟨rfl, .inl rfl⟩
  | completePendingRelay connectionId corr outcome reads =>
    exact completePendingRelay_moved inner connectionId outcome
  | releaseClientRoute | releaseModuleRoute | releaseModuleEndpointRoutes | publishScopeChanges =>
    exact absurd rfl hrelease
  | _ => exact absurd hop hcontrol

/-- The calls that begin the drain of one endpoint. -/
def drainCall : Op → Bool
  | .beginModuleDrain .. | .beginEndpointDrain .. => true
  | _ => false

variable {inner} in
/-- Such a call finds no endpoint, or it drains one. -/
theorem drain_cases (hop : drainCall op = true) :
    op.apply inner = inner ∧ op.effects inner = [] ∨
      ∃ moduleId module reason exclusions,
        op.apply inner = (beginDrainLocked inner moduleId module reason exclusions).inner ∧
        op.effects inner = (beginDrainLocked inner moduleId module reason exclusions).effects := by
  cases op with
  | beginModuleDrain moduleId reason exclusions =>
    simp only [Op.apply, Op.effects, ForwardingTeardown.beginModuleDrain]
    cases inner.modulesById.get moduleId with
    | none => exact .inl ⟨rfl, rfl⟩
    | some module => exact .inr ⟨moduleId, module, reason, exclusions, rfl, rfl⟩
  | beginEndpointDrain endpoint reason exclusions =>
    simp only [Op.apply, Op.effects, ForwardingTeardown.beginEndpointDrain]
    split
    case h_1 module moduleId _ _ => exact .inr ⟨moduleId, module, reason, exclusions, rfl, rfl⟩
    case h_2 => exact .inl ⟨rfl, rfl⟩
  | _ => cases hop

section

variable (moduleId : String) (module : ModuleConnection) (reason : RouteCloseReason)
  (exclusions : FlowId → Nat)

variable {exclusions moduleId} in
/-- A drain marks its endpoint, abandons its relays one by one and drops its control requests. -/
theorem beginDrainLocked_parts (motive : ForwardingInner → Prop)
    (hgated : motive { inner with
      drainingEndpoints := inner.drainingEndpoints.insert module.endpoint reason })
    (habandon : ∀ outcome (gathered : Gathered) key, motive gathered.inner →
      motive (abandonPendingRelay outcome gathered key).inner) :
    ∃ unrelayed rpcs, motive unrelayed ∧
      (beginDrainLocked inner moduleId module reason exclusions).inner =
        { unrelayed with pendingControlRpcs := rpcs } := by
  refine ⟨_, _, ?_, rfl⟩
  exact List.foldlRecOn (motive := fun gathered : Gathered => motive gathered.inner) _ _ hgated
    fun gathered hgathered key _ => habandon _ gathered key hgathered

/-- Beside its mark a drain concerns relays and control requests. -/
theorem beginDrainLocked_relaysOnly :
    RelaysOnly { inner with
        drainingEndpoints := inner.drainingEndpoints.insert module.endpoint reason }
      (beginDrainLocked inner moduleId module reason exclusions).inner := by
  obtain ⟨unrelayed, rpcs, hrelays, heq⟩ := beginDrainLocked_parts inner module reason
    (RelaysOnly _) (.refl _)
    fun outcome g key hg => hg.trans (abandonPendingRelay_relaysOnly outcome g key)
  rw [heq]
  exact hrelays.trans rfl

end

/-- A client's teardown releases its routes, then its relays and reserved pairs,
and forgets its slots. -/
theorem cleanupClientConnectionLocked_parts : ∃ unreserved,
    (cleanupClientConnectionLocked inner connectionId).inner =
        forgetClientSlots unreserved connectionId ∧
      RelaysOnly (releaseClientConnectionRoutes inner connectionId).inner unreserved ∧
      unreserved.pendingRelays.Within inner.pendingRelays := by
  refine ⟨_, rfl, ?_⟩
  refine List.foldlRecOn (motive := fun i : ForwardingInner => RelaysOnly _ i ∧
    i.pendingRelays.Within inner.pendingRelays) _ _
    ⟨foldl_abandonPendingRelay_relaysOnly _ _, ?_⟩
    fun i hi pair _ => ⟨hi.1.trans rfl, hi.2⟩
  intro key pending hget
  rw [foldl_abandonPendingRelay_pending,
    (releaseClientConnectionRoutes_releases inner connectionId).routesOnly] at hget
  split at hget
  case isTrue => cases hget
  case isFalse => exact hget

end Subconscious.ForwardingFrames
