import Subconscious.PairedIndexes
import Subconscious.ForwardingTeardown

/-!
# The invariant of the route indexes

The forwarding table keeps the same bindings in two indexes, the same
reservations in two more, and one pending relay for each reservation. The
invariant of this module says so, and ties every module key to a registered
endpoint and every client key to a connection without a module role. A few
rules say which changes of the maps keep it: dropping bindings or relays by a
test, entering one on free slots, and installing or forgetting an endpoint.
-/

namespace Subconscious.ForwardingInvariant

open HashMaps HashMap PairedIndexes Protocol ForwardingState ForwardingOperations ForwardingRelays
open ForwardingTeardown

variable {inner : ForwardingInner}

/-- An endpoint that a registration created and no teardown removed. -/
def Registered (inner : ForwardingInner) (endpoint : ModuleEndpointId) : Prop :=
  ∃ moduleId, inner.moduleIdByEndpoint.get endpoint = some moduleId

/-- A key pair some pending relay reserves. -/
def RelayPair (inner : ForwardingInner) (key : ControlKey) (clientKey : ClientRouteKey)
    (moduleKey : ModuleRouteKey) : Prop :=
  ∃ pending, inner.pendingRelays.get key = some pending ∧
    pending.reservation.clientKey = clientKey ∧ pending.reservation.moduleKey = moduleKey

/-- The request and watch windows are within the daemon's own constants. -/
def WindowsBounded (pending : PendingRouteBindRelayEntry) : Prop :=
  pending.requestWindow ≤ 1024 ∧
    ∀ window, pending.watchWindow = some window → window ≤ defaultModuleManagedWatchWindow

/-- The route indexes, the reservations and the pending relays agree. -/
structure RouteIndexes (inner : ForwardingInner) : Prop where
  /-- Both route indexes hold the same bindings, each under its own keys. -/
  bindings : Mirrored RouteBinding.clientKey RouteBinding.moduleKey inner.clientToModule
    inner.moduleToClient
  /-- The two reservation maps undo each other. -/
  reservations : Inverse inner.reservedClient inner.reservedModule
  /-- No client key is both reserved and bound. -/
  client_free : ∀ key moduleKey, inner.reservedClient.get key = some moduleKey →
    inner.clientToModule.get key = none
  /-- No module key is both reserved and bound. -/
  module_free : ∀ key clientKey, inner.reservedModule.get key = some clientKey →
    inner.moduleToClient.get key = none
  /-- A pair is reserved exactly when a pending relay holds it. -/
  reserved_iff : ∀ clientKey moduleKey, inner.reservedClient.get clientKey = some moduleKey ↔
    ∃ key, RelayPair inner key clientKey moduleKey
  /-- One pair belongs to one pending relay. -/
  relay_unique : ∀ key key' clientKey moduleKey, RelayPair inner key clientKey moduleKey →
    RelayPair inner key' clientKey moduleKey → key = key'
  /-- Bound module keys name registered endpoints. -/
  bound_registered : ∀ key route, inner.moduleToClient.get key = some route →
    Registered inner key.endpoint
  /-- Reserved module keys name registered endpoints. -/
  reserved_registered : ∀ key clientKey, inner.reservedModule.get key = some clientKey →
    Registered inner key.endpoint
  /-- A connection with an endpoint has no bound client route. -/
  bound_role : ∀ key route, inner.clientToModule.get key = some route →
    inner.endpointByConnection.get key.connectionId = none
  /-- A connection with an endpoint has no reserved client route. -/
  reserved_role : ∀ key moduleKey, inner.reservedClient.get key = some moduleKey →
    inner.endpointByConnection.get key.connectionId = none

/-- What the entry points rely on beside the agreement of the indexes. -/
structure TableInv (inner : ForwardingInner) : Prop extends RouteIndexes inner where
  /-- A relay is filed under the endpoint it reserves on. -/
  relay_endpoint : ∀ key pending, inner.pendingRelays.get key = some pending →
    pending.reservation.moduleKey.endpoint = key.1
  /-- The endpoint of a connection is registered and names that connection. -/
  endpoint_registered : ∀ connectionId endpoint,
    inner.endpointByConnection.get connectionId = some endpoint →
      endpoint.connectionId = connectionId ∧ Registered inner endpoint
  /-- A registered endpoint is its connection's endpoint. -/
  registered_endpoint : ∀ endpoint, Registered inner endpoint →
    inner.endpointByConnection.get endpoint.connectionId = some endpoint
  /-- The active slot holds registered endpoints of its own id. -/
  active_registered : ∀ moduleId module, inner.modulesById.get moduleId = some module →
    inner.moduleIdByEndpoint.get module.endpoint = some moduleId
  /-- The candidate slot holds registered endpoints of its own id. -/
  candidate_registered : ∀ moduleId module, inner.candidatesById.get moduleId = some module →
    inner.moduleIdByEndpoint.get module.endpoint = some moduleId
  /-- A relay's correlation id is behind the endpoint's counter. -/
  corr_used : ∀ key pending, inner.pendingRelays.get key = some pending →
    ∃ next, inner.nextControlCorr.get key.1 = some next ∧ (next = 0 ∨ key.2 < next)
  /-- The windows of a relay are those of a declared concurrency. -/
  relay_windows : ∀ key pending, inner.pendingRelays.get key = some pending → WindowsBounded pending

theorem routeIndexes_default : RouteIndexes ForwardingInner.default := by
  constructor <;> simp [ForwardingInner.default, mirrored_empty, inverse_empty, RelayPair]

theorem tableInv_default : TableInv ForwardingInner.default := by
  constructor
  · exact routeIndexes_default
  all_goals simp [ForwardingInner.default, Registered]

/-- The maps the invariant reads are the same in both tables. -/
structure SameRoutes (inner inner' : ForwardingInner) : Prop where
  clientToModule : inner'.clientToModule = inner.clientToModule
  moduleToClient : inner'.moduleToClient = inner.moduleToClient
  reservedClient : inner'.reservedClient = inner.reservedClient
  reservedModule : inner'.reservedModule = inner.reservedModule
  pendingRelays : inner'.pendingRelays = inner.pendingRelays
  moduleIdByEndpoint : inner'.moduleIdByEndpoint = inner.moduleIdByEndpoint
  endpointByConnection : inner'.endpointByConnection = inner.endpointByConnection
  modulesById : inner'.modulesById = inner.modulesById
  candidatesById : inner'.candidatesById = inner.candidatesById
  nextControlCorr : inner'.nextControlCorr = inner.nextControlCorr

/-- The invariant reads only the maps `SameRoutes` compares. -/
theorem TableInv.same (h : TableInv inner) (hs : SameRoutes inner inner') : TableInv inner' := by
  obtain ⟨h1, h2, h3, h4, h5, h6, h7, h8, h9, h10⟩ := hs
  have hrelay : ∀ key ck mk, RelayPair inner' key ck mk ↔ RelayPair inner key ck mk := by
    intro key ck mk
    simp only [RelayPair, h5]
  have hreg : ∀ endpoint, Registered inner' endpoint ↔ Registered inner endpoint := by
    intro endpoint
    simp only [Registered, h6]
  constructor
  · constructor <;> simp only [h1, h2, h3, h4, h7, hrelay, hreg]
    exacts [h.bindings, h.reservations, h.client_free, h.module_free, h.reserved_iff,
      h.relay_unique, h.bound_registered, h.reserved_registered, h.bound_role, h.reserved_role]
  all_goals simp only [h5, h6, h7, h8, h9, h10, hreg]
  exacts [h.relay_endpoint, h.endpoint_registered, h.registered_endpoint, h.active_registered,
    h.candidate_registered, h.corr_used, h.relay_windows]

section

variable (h : TableInv inner)
include h

/-- The pair of a pending relay is reserved. -/
theorem TableInv.reserved (hp : inner.pendingRelays.get key = some pending) :
    inner.reservedClient.get pending.reservation.clientKey = some pending.reservation.moduleKey :=
  (h.reserved_iff _ _).mpr ⟨key, pending, hp, rfl, rfl⟩

/-- The endpoint of a pending relay is registered. -/
theorem TableInv.relay_registered (hp : inner.pendingRelays.get key = some pending) :
    Registered inner key.1 := by
  rw [← h.relay_endpoint key pending hp]
  exact h.reserved_registered _ _ ((h.reservations _ _).mp (h.reserved hp))

/-- Closing marks are no part of the invariant. -/
theorem TableInv.withClosing (closing : Finset ConnectionId) :
    TableInv { inner with closingConnections := closing } :=
  h.same (by constructor <;> rfl)

/-- Dropping bindings by one test from both indexes keeps the invariant. -/
theorem TableInv.unbind
    (hclient : ∀ key, byClient.get key = (inner.clientToModule.get key).filter keep)
    (hmodule : ∀ key, byModule.get key = (inner.moduleToClient.get key).filter keep) :
    TableInv { inner with clientToModule := byClient, moduleToClient := byModule } := by
  refine { h with
    bindings := h.bindings.filter keep hclient hmodule
    bound_registered := forall_filter hmodule h.bound_registered
    bound_role := forall_filter hclient h.bound_role
    client_free := ?_, module_free := ?_ }
  · intro key moduleKey hkey
    rw [hclient, h.client_free key moduleKey hkey]
    rfl
  · intro key clientKey hkey
    rw [hmodule, h.module_free key clientKey hkey]
    rfl

/-- Dropping relays with their pairs, chosen by client key, keeps the invariant. -/
theorem TableInv.unreserve
    (hclient : ∀ key, byClient.get key = (inner.reservedClient.get key).filter fun _ => keep key)
    (hmodule : ∀ key, byModule.get key = (inner.reservedModule.get key).filter keep)
    (hrelays : ∀ key, relays.get key =
      (inner.pendingRelays.get key).filter fun pending => keep pending.reservation.clientKey) :
    TableInv { inner with
      reservedClient := byClient, reservedModule := byModule, pendingRelays := relays } := by
  have hrelay := forall_filter hrelays fun _ _ hp => hp
  refine { h with
    reservations := h.reservations.filter keep hclient hmodule
    client_free := forall_filter hclient h.client_free
    module_free := forall_filter hmodule h.module_free
    reserved_registered := forall_filter hmodule h.reserved_registered
    reserved_role := forall_filter hclient h.reserved_role
    relay_endpoint := forall_filter hrelays h.relay_endpoint
    corr_used := forall_filter hrelays h.corr_used
    relay_windows := forall_filter hrelays h.relay_windows
    reserved_iff := ?_, relay_unique := ?_ }
  · intro clientKey moduleKey
    rw [hclient, Option.filter_eq_some_iff, h.reserved_iff]
    constructor
    · rintro ⟨⟨key, pending, hp, hck, hmk⟩, hkeep⟩
      refine ⟨key, pending, ?_, hck, hmk⟩
      rw [hrelays, Option.filter_eq_some_iff, hck]
      exact ⟨hp, hkeep⟩
    · rintro ⟨key, pending, hp, hck, hmk⟩
      rw [hrelays, Option.filter_eq_some_iff, hck] at hp
      exact ⟨⟨key, pending, hp.1, hck, hmk⟩, hp.2⟩
  · rintro key key' clientKey moduleKey ⟨pending, hp, hpair⟩ ⟨pending', hp', hpair'⟩
    exact h.relay_unique key key' clientKey moduleKey ⟨pending, hrelay key pending hp, hpair⟩
      ⟨pending', hrelay key' pending' hp', hpair'⟩

/-- A fresh relay on free slots of a registered endpoint keeps the invariant. -/
theorem TableInv.reserve (hclient : inner.reservedClient.get entry.reservation.clientKey = none)
    (hclientBound : inner.clientToModule.get entry.reservation.clientKey = none)
    (hmodule : inner.reservedModule.get entry.reservation.moduleKey = none)
    (hmoduleBound : inner.moduleToClient.get entry.reservation.moduleKey = none)
    (hfresh : inner.pendingRelays.get key = none)
    (hreg : Registered inner entry.reservation.moduleKey.endpoint)
    (hrole : inner.endpointByConnection.get entry.reservation.clientKey.connectionId = none)
    (hendpoint : entry.reservation.moduleKey.endpoint = key.1)
    (hcorr : ∃ next, inner.nextControlCorr.get key.1 = some next ∧ (next = 0 ∨ key.2 < next))
    (hwindows : WindowsBounded entry) : TableInv (reserveRelay inner key entry) := by
  have hother : ∀ key' pending, inner.pendingRelays.get key' = some pending →
      pending.reservation.clientKey ≠ entry.reservation.clientKey := by
    intro key' pending hp heq
    have hres := h.reserved hp
    rw [heq, hclient] at hres
    cases hres
  refine { h with
    reservations := h.reservations.insert hclient hmodule
    client_free := forall_insert hclientBound h.client_free
    module_free := forall_insert hmoduleBound h.module_free
    reserved_registered := forall_insert hreg h.reserved_registered
    reserved_role := forall_insert hrole h.reserved_role
    relay_endpoint := forall_insert hendpoint h.relay_endpoint
    corr_used := forall_insert hcorr h.corr_used
    relay_windows := forall_insert hwindows h.relay_windows
    reserved_iff := ?_, relay_unique := ?_ }
  · intro ck mk
    constructor
    · intro hck
      rcases of_get_insert hck with ⟨heq, hpair⟩ | ⟨-, hck⟩
      · exact ⟨key, entry, by simp [reserveRelay], heq.symm, hpair⟩
      obtain ⟨key', pending, hp, hpair⟩ := (h.reserved_iff ck mk).mp hck
      refine ⟨key', pending, ?_, hpair⟩
      have hk : key' ≠ key := by
        intro heq
        rw [heq, hfresh] at hp
        cases hp
      simpa [reserveRelay, hk] using hp
    · rintro ⟨key', pending, hp, hck, hmk⟩
      simp only [reserveRelay, get_insert]
      rcases of_get_insert hp with ⟨-, hnew⟩ | ⟨-, hold⟩
      · rw [← hck, ← hmk, ← hnew, if_pos rfl]
      have hne := hother key' pending hold
      rw [hck] at hne
      rw [if_neg hne]
      exact (h.reserved_iff ck mk).mpr ⟨key', pending, hold, hck, hmk⟩
  · rintro k k' ck mk ⟨p, hp, hpair⟩ ⟨p', hp', hpair'⟩
    rcases of_get_insert hp with ⟨hk, hnew⟩ | ⟨-, hold⟩
    · rcases of_get_insert hp' with ⟨hk', -⟩ | ⟨-, hold'⟩
      · rw [hk, hk']
      · exact absurd (hpair'.1.trans (hpair.1.symm.trans (by rw [hnew]))) (hother k' p' hold')
    · rcases of_get_insert hp' with ⟨-, hnew'⟩ | ⟨-, hold'⟩
      · exact absurd (hpair.1.trans (hpair'.1.symm.trans (by rw [hnew']))) (hother k p hold)
      · exact h.relay_unique k k' ck mk ⟨p, hold, hpair⟩ ⟨p', hold', hpair'⟩

/-- A binding on free slots of a registered endpoint keeps the invariant. -/
theorem TableInv.bind (hclient : inner.clientToModule.get binding.clientKey = none)
    (hclientReserved : inner.reservedClient.get binding.clientKey = none)
    (hmodule : inner.moduleToClient.get binding.moduleKey = none)
    (hmoduleReserved : inner.reservedModule.get binding.moduleKey = none)
    (hreg : Registered inner binding.moduleKey.endpoint)
    (hrole : inner.endpointByConnection.get binding.clientKey.connectionId = none) :
    TableInv (installBinding inner binding) := by
  refine { h with
    bindings := h.bindings.insert binding hclient hmodule
    bound_registered := forall_insert hreg h.bound_registered
    bound_role := forall_insert hrole h.bound_role
    client_free := ?_, module_free := ?_ }
  · intro key moduleKey hkey
    simp only [installBinding, get_insert] at hkey ⊢
    have hne : key ≠ binding.clientKey := by
      intro heq
      rw [heq, hclientReserved] at hkey
      cases hkey
    rw [if_neg hne]
    exact h.client_free key moduleKey hkey
  · intro key clientKey hkey
    simp only [installBinding, get_insert] at hkey ⊢
    have hne : key ≠ binding.moduleKey := by
      intro heq
      rw [heq, hmoduleReserved] at hkey
      cases hkey
    rw [if_neg hne]
    exact h.module_free key clientKey hkey

/-- Moving the endpoint's correlation counter past one id keeps the invariant. -/
theorem TableInv.advanceCorr
    (hnext : ∀ old, inner.nextControlCorr.get endpoint = some old →
      old ≠ 0 ∧ (next = 0 ∨ old < next)) :
    TableInv { inner with nextControlCorr := inner.nextControlCorr.insert endpoint next } := by
  refine { h with corr_used := ?_ }
  intro key pending hp
  obtain ⟨old, hold, hused⟩ := h.corr_used key pending hp
  simp only [get_insert]
  by_cases heq : key.1 = endpoint
  · rw [if_pos heq]
    rw [heq] at hold
    obtain ⟨hzero, hmore⟩ := hnext old hold
    refine ⟨next, rfl, ?_⟩
    rcases hmore with hwrap | hless
    · exact .inl hwrap
    rcases hused with hused | hused
    · exact absurd hused hzero
    · exact .inr (UInt64.lt_trans hused hless)
  · rw [if_neg heq]
    exact ⟨old, hold, hused⟩

/-- Without an endpoint of its connection, no key of an endpoint is in use. -/
theorem TableInv.unregistered
    (hconn : inner.endpointByConnection.get endpoint.connectionId = none) :
    ¬ Registered inner endpoint := by
  intro hreg
  rw [h.registered_endpoint endpoint hreg] at hconn
  cases hconn

/-- A registration on a connection without a role keeps the invariant. -/
theorem TableInv.install (registration : Registration)
    (hconn : inner.endpointByConnection.get registration.connectionId = none)
    (hbound : ∀ key route, inner.clientToModule.get key = some route →
      key.connectionId ≠ registration.connectionId)
    (hreserved : ∀ key moduleKey, inner.reservedClient.get key = some moduleKey →
      key.connectionId ≠ registration.connectionId) :
    TableInv (installEndpoint inner registration) := by
  have hnew : ¬ Registered inner (registration.endpoint inner) := h.unregistered hconn
  have hkeep : ∀ {endpoint moduleId}, inner.moduleIdByEndpoint.get endpoint = some moduleId →
      (installEndpoint inner registration).moduleIdByEndpoint.get endpoint = some moduleId := by
    intro endpoint moduleId hid
    have hne : endpoint ≠ registration.endpoint inner := by
      intro heq
      exact hnew ⟨moduleId, heq ▸ hid⟩
    simpa [installEndpoint, hne] using hid
  have hmono : ∀ endpoint, Registered inner endpoint →
      Registered (installEndpoint inner registration) endpoint :=
    fun _ ⟨moduleId, hid⟩ => ⟨moduleId, hkeep hid⟩
  refine { h with
    bound_registered := fun key route hr => hmono _ (h.bound_registered key route hr)
    reserved_registered := fun key ck hr => hmono _ (h.reserved_registered key ck hr)
    bound_role := ?_, reserved_role := ?_, endpoint_registered := ?_, registered_endpoint := ?_
    active_registered := fun id module hm => hkeep (h.active_registered id module hm)
    candidate_registered := fun id module hm => hkeep (h.candidate_registered id module hm)
    corr_used := ?_ }
  · intro key route hroute
    have hne := hbound key route hroute
    simpa [installEndpoint, hne] using h.bound_role key route hroute
  · intro key moduleKey hkey
    have hne := hreserved key moduleKey hkey
    simpa [installEndpoint, hne] using h.reserved_role key moduleKey hkey
  · intro connectionId endpoint hget
    simp only [installEndpoint, get_insert] at hget
    split at hget
    case isTrue heq =>
      have hend := Option.some.inj hget
      refine ⟨by rw [← hend, heq]; rfl, registration.moduleId, ?_⟩
      simp [installEndpoint, ← hend]
    case isFalse =>
      obtain ⟨hid, hreg⟩ := h.endpoint_registered connectionId endpoint hget
      exact ⟨hid, hmono endpoint hreg⟩
  · rintro endpoint ⟨moduleId, hid⟩
    simp only [installEndpoint, get_insert] at hid ⊢
    by_cases heq : endpoint = registration.endpoint inner
    · have hc : endpoint.connectionId = registration.connectionId := by rw [heq]; rfl
      rw [if_pos hc, heq]
    rw [if_neg heq] at hid
    have hend := h.registered_endpoint endpoint ⟨moduleId, hid⟩
    have hc : endpoint.connectionId ≠ registration.connectionId := by
      intro hc
      rw [hc, hconn] at hend
      cases hend
    rw [if_neg hc]
    exact hend
  · intro key pending hp
    have hne : key.1 ≠ registration.endpoint inner := fun heq => hnew (heq ▸ h.relay_registered hp)
    simpa [installEndpoint, hne] using h.corr_used key pending hp

/-- The active slot of an id may be given to a registered endpoint of the id. -/
theorem TableInv.setActive (hid : inner.moduleIdByEndpoint.get module.endpoint = some moduleId) :
    TableInv { inner with modulesById := inner.modulesById.insert moduleId module } :=
  { h with active_registered := forall_insert hid h.active_registered }

/-- The candidate slot of an id may be given to a registered endpoint of the id. -/
theorem TableInv.setCandidate (hid : inner.moduleIdByEndpoint.get module.endpoint = some moduleId) :
    TableInv { inner with candidatesById := inner.candidatesById.insert moduleId module } :=
  { h with candidate_registered := forall_insert hid h.candidate_registered }

end

/-- Clearing a slot adds no entry. -/
theorem clearSlot_sub (hget : (clearSlot modules moduleId endpoint).get other = some module) :
    modules.get other = some module := by
  unfold clearSlot at hget
  split at hget
  case isTrue =>
    exact (of_get_remove hget).2
  case isFalse => exact hget

/-- After clearing, the endpoint is in no slot of its own id. -/
theorem clearSlot_ne (hget : (clearSlot modules moduleId endpoint).get moduleId = some module) :
    module.endpoint ≠ endpoint := by
  intro heq
  have hsub := clearSlot_sub hget
  simp [clearSlot, hsub, heq] at hget

/-- An endpoint without routes and relays may be forgotten. -/
theorem TableInv.forget (h : TableInv inner) (hreg : Registered inner endpoint)
    (hbound : ∀ key route, inner.moduleToClient.get key = some route → key.endpoint ≠ endpoint)
    (hreserved : ∀ key clientKey, inner.reservedModule.get key = some clientKey →
      key.endpoint ≠ endpoint) : TableInv (forgetEndpoint inner endpoint) := by
  have hown := h.registered_endpoint endpoint hreg
  obtain ⟨ownId, hownId⟩ := hreg
  have hmono : ∀ other, other ≠ endpoint → Registered inner other →
      Registered (forgetEndpoint inner endpoint) other := by
    rintro other hne ⟨moduleId, hid⟩
    exact ⟨moduleId, by simpa [forgetEndpoint, hne] using hid⟩
  have hslot : ∀ modules : HashMap String ModuleConnection,
      (∀ id module, modules.get id = some module →
        inner.moduleIdByEndpoint.get module.endpoint = some id) →
      ∀ id module, (clearSlot modules ownId endpoint).get id = some module →
      (forgetEndpoint inner endpoint).moduleIdByEndpoint.get module.endpoint = some id := by
    intro modules hmodules id module hget
    have hid := hmodules id module (clearSlot_sub hget)
    have hne : module.endpoint ≠ endpoint := by
      intro heq
      rw [heq, hownId] at hid
      rw [← Option.some.inj hid] at hget
      exact clearSlot_ne hget heq
    simpa [forgetEndpoint, hne] using hid
  refine { h with
    bound_registered := fun key route hr =>
      hmono _ (hbound key route hr) (h.bound_registered key route hr)
    reserved_registered := fun key ck hr =>
      hmono _ (hreserved key ck hr) (h.reserved_registered key ck hr)
    bound_role := ?_, reserved_role := ?_, endpoint_registered := ?_, registered_endpoint := ?_
    active_registered := ?_, candidate_registered := ?_, corr_used := ?_ }
  · intro key route hroute
    simp [forgetEndpoint, h.bound_role key route hroute]
  · intro key moduleKey hkey
    simp [forgetEndpoint, h.reserved_role key moduleKey hkey]
  · intro connectionId other hget
    obtain ⟨hne, hget⟩ := of_get_remove hget
    obtain ⟨hid, hreg⟩ := h.endpoint_registered connectionId other hget
    have hother : other ≠ endpoint := by
      intro heq
      rw [heq] at hid
      exact hne hid.symm
    exact ⟨hid, hmono other hother hreg⟩
  · rintro other ⟨moduleId, hid⟩
    simp only [forgetEndpoint, get_remove] at hid ⊢
    split at hid
    case isTrue => cases hid
    case isFalse hne =>
      have hend := h.registered_endpoint other ⟨moduleId, hid⟩
      have hc : other.connectionId ≠ endpoint.connectionId := by
        intro hc
        rw [hc, hown] at hend
        exact hne (Option.some.inj hend).symm
      rw [if_neg hc]
      exact hend
  · intro id module hget
    simp only [forgetEndpoint, hownId] at hget
    exact hslot inner.modulesById h.active_registered id module hget
  · intro id module hget
    simp only [forgetEndpoint, hownId] at hget
    exact hslot inner.candidatesById h.candidate_registered id module hget
  intro key pending hp
  have hne := hreserved _ _ ((h.reservations _ _).mp (h.reserved hp))
  rw [h.relay_endpoint key pending hp] at hne
  simpa [forgetEndpoint, hne] using h.corr_used key pending hp

/-- Taking one binding out of both indexes keeps the invariant. -/
theorem TableInv.unbindOne (h : TableInv inner)
    (hroute : inner.moduleToClient.get route.moduleKey = some route) :
    TableInv { inner with
      clientToModule := inner.clientToModule.remove route.clientKey
      moduleToClient := inner.moduleToClient.remove route.moduleKey } := by
  obtain ⟨hclient, hmodule⟩ := h.bindings.remove_right hroute
  exact h.unbind hclient hmodule

/-- Changing a relay's entry, but not its reservation and windows, keeps the invariant. -/
theorem TableInv.relabel (h : TableInv inner)
    (hres : ∀ pending, (f pending).reservation = pending.reservation)
    (hwin : ∀ pending, WindowsBounded pending → WindowsBounded (f pending)) :
    TableInv { inner with pendingRelays := inner.pendingRelays.modify key f } := by
  have hold : ∀ key' pending, (inner.pendingRelays.modify key f).get key' = some pending →
      ∃ old, inner.pendingRelays.get key' = some old ∧
        pending.reservation = old.reservation ∧ (WindowsBounded old → WindowsBounded pending) := by
    intro key' pending hp
    rcases of_get_modify hp with ⟨-, old, hget, rfl⟩ | ⟨-, hget⟩
    · exact ⟨old, hget, hres old, hwin old⟩
    · exact ⟨pending, hget, rfl, id⟩
  have hnew : ∀ key' old, inner.pendingRelays.get key' = some old →
      ∃ pending, (inner.pendingRelays.modify key f).get key' = some pending ∧
        pending.reservation = old.reservation := by
    intro key' old hget
    by_cases heq : key' = key
    · subst heq
      exact ⟨f old, by simp [hget], hres old⟩
    · exact ⟨old, by simp [heq, hget], rfl⟩
  have hpair : ∀ key' ck mk,
      RelayPair { inner with pendingRelays := inner.pendingRelays.modify key f } key' ck mk ↔
        RelayPair inner key' ck mk := by
    intro key' ck mk
    constructor
    · rintro ⟨pending, hp, hck, hmk⟩
      obtain ⟨old, hget, hr, -⟩ := hold key' pending hp
      exact ⟨old, hget, by rw [← hr]; exact hck, by rw [← hr]; exact hmk⟩
    · rintro ⟨old, hget, hck, hmk⟩
      obtain ⟨pending, hp, hr⟩ := hnew key' old hget
      exact ⟨pending, hp, by rw [hr]; exact hck, by rw [hr]; exact hmk⟩
  refine { h with
    reserved_iff := ?_, relay_unique := ?_, relay_endpoint := ?_, corr_used := ?_
    relay_windows := ?_ }
  · intro ck mk
    simp only [hpair]
    exact h.reserved_iff ck mk
  · intro key' key'' ck mk
    rw [hpair, hpair]
    exact h.relay_unique key' key'' ck mk
  · intro key' pending hp
    obtain ⟨old, hget, hr, -⟩ := hold key' pending hp
    rw [hr]
    exact h.relay_endpoint key' old hget
  · intro key' pending hp
    obtain ⟨old, hget, -, -⟩ := hold key' pending hp
    exact h.corr_used key' old hget
  · intro key' pending hp
    obtain ⟨old, hget, -, hw⟩ := hold key' pending hp
    exact hw (h.relay_windows key' old hget)

end Subconscious.ForwardingInvariant
