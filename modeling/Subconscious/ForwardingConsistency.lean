import Subconscious.ForwardingInvariant
import Subconscious.ForwardingFrames

/-!
# The route indexes agree in every run

Every entry point of the forwarding table keeps the invariant of the route
indexes, by the rules of the invariant's module. A run is a sequence of entry
points, so the indexes agree in every state a run reaches.
-/

namespace Subconscious.ForwardingConsistency

open HashMaps HashMap Protocol ForwardingState ForwardingOperations ForwardingRelays List
open ForwardingTeardown ForwardingControl ForwardingRuns ForwardingInvariant ForwardingFrames

variable {inner : ForwardingInner}

/-- Releases keep the invariant. -/
theorem releases_inv (hr : Releases closes effects inner inner') (h : TableInv inner) :
    TableInv inner' := by
  induction hr with
  | refl => exact h
  | step hfirst _ ih =>
    refine ih ?_
    cases hfirst with
    | kept => exact h
    | dropped route _ _ _ _ _ hbound =>
      obtain ⟨hroute, rfl, rfl, -⟩ := hbound h.bindings
      exact (h.unbindOne hroute.2).same (by constructor <;> rfl)

/-- The table without one relay and its pair. -/
def takeRelay (inner : ForwardingInner) (key : ControlKey)
    (pending : PendingRouteBindRelayEntry) : ForwardingInner :=
  { inner with
    pendingRelays := inner.pendingRelays.remove key
    reservedClient := inner.reservedClient.remove pending.reservation.clientKey
    reservedModule := inner.reservedModule.remove pending.reservation.moduleKey }

section

variable (h : TableInv inner) (hp : inner.pendingRelays.get key = some pending)
include h hp

/-- Dropping a pending relay takes out the relay and its pair. -/
theorem dropRelay_same :
    SameRoutes (takeRelay inner key pending) (dropRelay inner key pending) := by
  have hpair := h.reserved hp
  have hback := (h.reservations _ _).mp hpair
  constructor <;> simp [takeRelay, dropRelay, releaseReservedRouteLocked, hpair, hback]

theorem takeRelay_inv : TableInv (takeRelay inner key pending) := by
  have hpair := h.reserved hp
  obtain ⟨hclient, hmodule⟩ := h.reservations.remove hpair
  refine (h.unreserve hclient hmodule ?_).same (by constructor <;> rfl)
  intro key'
  rw [get_remove]
  split
  case isTrue heq => rw [heq, hp, Option.filter_some_neg (by simp)]
  rename_i hne
  symm
  apply filter_of_forall
  intro other hother
  have hck : other.reservation.clientKey ≠ pending.reservation.clientKey := by
    intro heq
    have hmk := h.reserved hother
    rw [heq, hpair] at hmk
    exact hne (h.relay_unique key' key _ _ ⟨other, hother, heq, (Option.some.inj hmk).symm⟩
      ⟨pending, hp, rfl, rfl⟩)
  simpa using hck

theorem dropRelay_inv : TableInv (dropRelay inner key pending) :=
  (takeRelay_inv h hp).same (dropRelay_same h hp)

end

theorem abandonPendingRelay_inv (h : TableInv gathered.inner)
    (key : ControlKey) : TableInv (abandonPendingRelay outcome gathered key).inner := by
  unfold abandonPendingRelay
  cases hp : gathered.inner.pendingRelays.get key with
  | none => exact h
  | some =>
    have hdropped := dropRelay_inv h hp
    dsimp only
    split
    case isTrue => exact hdropped
    case isFalse => exact hdropped.same (by constructor <;> rfl)

theorem abortPendingRelay_inv (h : TableInv inner)
    (endpoint : ModuleEndpointId) :
    TableInv (abortPendingRelay inner endpoint corr outcome).inner := by
  unfold abortPendingRelay
  cases hp : inner.pendingRelays.get (endpoint, corr) with
  | none => exact h.same (by constructor <;> rfl)
  | some => exact dropRelay_inv h hp

theorem markRouteBindRelayEnqueued_inv (h : TableInv inner)
    (corr : UInt64) : TableInv (markRouteBindRelayEnqueued inner endpoint corr).inner := by
  unfold markRouteBindRelayEnqueued
  split
  case isTrue => exact h.relabel (fun _ => rfl) (fun _ hw => hw)
  split
  case isTrue => exact h.same (by constructor <;> rfl)
  case isFalse => exact h

/-- What a successful scan returns is eligible. -/
theorem scanChannel_eligible :
    ∀ {fuel : Nat} {channel found : UInt16},
      scanChannel eligible start fuel channel = some found → eligible found = true := by
  intro fuel
  induction fuel with
  | zero => nofun
  | succ fuel ih =>
    intro channel found h
    unfold scanChannel at h
    split at h
    case isTrue hel =>
      cases h
      exact hel
    case isFalse =>
      split at h
      case isTrue => cases h
      case isFalse => exact ih h

/-- Below the last epoch, the next epoch is one more. -/
theorem epoch_succ_toNat {epoch : UInt32} (h : epoch < 0xFFFFFFFF) :
    (epoch + 1).toNat = epoch.toNat + 1 := by
  have hlt : epoch.toNat < 0xFFFFFFFF := UInt32.lt_iff_toNat_lt.mp h
  have hone : (1 : UInt32).toNat = 1 := rfl
  rw [UInt32.toNat_add, hone, Nat.mod_eq_of_lt (by omega)]

section

/-- A failed allocation moves cursors only. -/
theorem allocateRouteSlots_error
    (h : allocateRouteSlots inner connectionId endpoint = (inner', .error err)) :
    inner' = { inner with
      nextClientChannel := inner'.nextClientChannel
      nextModuleChannel := inner'.nextModuleChannel } := by
  unfold allocateRouteSlots at h
  dsimp only at h
  split at h
  case h_1 =>
    cases h
    rfl
  split at h
  case h_1 =>
    cases h
    rfl
  case h_2 => cases h

/-- A successful one also moves one epoch on each side of slots that are free. -/
theorem allocateRouteSlots_ok
    (h : allocateRouteSlots inner connectionId endpoint = (inner', .ok slots)) :
    (inner.clientToModule.get ⟨connectionId, slots.clientChannel⟩ = none ∧
      inner.reservedClient.get ⟨connectionId, slots.clientChannel⟩ = none ∧
      inner.moduleToClient.get ⟨endpoint, slots.moduleChannel⟩ = none ∧
      inner.reservedModule.get ⟨endpoint, slots.moduleChannel⟩ = none) ∧
    slots.clientEpoch.toNat =
      ((inner.clientSlotEpochs.get ⟨connectionId, slots.clientChannel⟩).getD 0).toNat + 1 ∧
    slots.moduleEpoch.toNat =
      ((inner.moduleSlotEpochs.get ⟨endpoint, slots.moduleChannel⟩).getD 0).toNat + 1 ∧
    inner' = { inner with
      nextClientChannel := inner'.nextClientChannel
      nextModuleChannel := inner'.nextModuleChannel
      clientSlotEpochs := inner.clientSlotEpochs.insert
        ⟨connectionId, slots.clientChannel⟩ slots.clientEpoch
      moduleSlotEpochs := inner.moduleSlotEpochs.insert
        ⟨endpoint, slots.moduleChannel⟩ slots.moduleEpoch } := by
  unfold allocateRouteSlots at h
  dsimp only at h
  split at h
  case h_1 => cases h
  rename_i hclient
  split at h
  case h_1 => cases h
  rename_i hmodule
  have hc := scanChannel_eligible hclient
  have hm := scanChannel_eligible hmodule
  simp only [clientEligible, moduleEligible, contains_eq, Bool.and_eq_true,
    Bool.not_eq_true', Option.isSome_eq_false_iff, Option.isNone_iff_eq_none,
    decide_eq_true_eq] at hc hm
  cases h
  exact ⟨⟨hc.1.1, hc.1.2, hm.1.1, hm.1.2⟩, epoch_succ_toNat hc.2, epoch_succ_toNat hm.2, rfl⟩

end

/-- The counter's next value is the old one plus one, or the exhausted mark. -/
theorem corr_next_lt {candidate : UInt64} :
    (if candidate = 0xFFFFFFFFFFFFFFFF then 0 else candidate + 1) = 0 ∨
      candidate < (if candidate = 0xFFFFFFFFFFFFFFFF then 0 else candidate + 1) := by
  by_cases hmax : candidate = 0xFFFFFFFFFFFFFFFF
  · exact .inl (if_pos hmax)
  right
  rw [if_neg hmax]
  have hlt := candidate.toNat_lt
  have hne : candidate.toNat ≠ 0xFFFFFFFFFFFFFFFF := fun heq =>
    hmax (UInt64.toNat_inj.mp (by rw [heq]; rfl))
  rw [UInt64.lt_iff_toNat_lt, UInt64.toNat_add]
  have hone : (1 : UInt64).toNat = 1 := rfl
  rw [hone, Nat.mod_eq_of_lt (by omega)]
  omega

theorem allocateControlCorr_inv (h : TableInv inner)
    (hdrawn : allocateControlCorr inner endpoint = (inner', result)) : TableInv inner' := by
  unfold allocateControlCorr at hdrawn
  dsimp only at hdrawn
  split at hdrawn
  case isTrue =>
    cases hdrawn
    exact h.same (by constructor <;> rfl)
  case isFalse hzero =>
    cases hdrawn
    apply h.advanceCorr
    intro old hold
    have hcandidate : (inner.nextControlCorr.get endpoint).getD 1 = old := by rw [hold]; rfl
    rw [hcandidate] at hzero ⊢
    exact ⟨hzero, corr_next_lt⟩

/-- A handed out id was not behind the counter, and now it is. -/
theorem allocateControlCorr_ok (hok : allocateControlCorr inner endpoint = (inner', .ok corr)) :
    (∀ next, inner.nextControlCorr.get endpoint = some next → ¬ (next = 0 ∨ corr < next)) ∧
      inner' = { inner with nextControlCorr := inner'.nextControlCorr } ∧
      ∃ next, inner'.nextControlCorr.get endpoint = some next ∧ (next = 0 ∨ corr < next) := by
  unfold allocateControlCorr at hok
  dsimp only at hok
  split at hok
  case isTrue => cases hok
  rename_i hzero
  cases hok
  refine ⟨?_, rfl, _, by simp, corr_next_lt⟩
  intro next hnext hused
  rw [hnext] at hzero hused
  rcases hused with hused | hused
  · exact hzero hused
  · exact UInt64.lt_irrefl next hused

/-- Such an id is new for the endpoint's relays. -/
theorem corr_new (h : TableInv inner)
    (hok : allocateControlCorr inner endpoint = (inner', .ok corr)) :
    inner.pendingRelays.get (endpoint, corr) = none := by
  cases hp : inner.pendingRelays.get (endpoint, corr) with
  | none => rfl
  | some pending =>
    obtain ⟨next, hnext, hused⟩ := h.corr_used _ pending hp
    exact absurd hused ((allocateControlCorr_ok hok).1 next hnext)

/-- A relay is reserved only on the active endpoint of the id, for a
connection without an endpoint. -/
theorem relayTargetLocked_ok (hok : relayTargetLocked inner connectionId moduleId = .ok module) :
    inner.endpointByConnection.get connectionId = none ∧
      inner.modulesById.get moduleId = some module ∧
      inner.drainingEndpoints.get module.endpoint = none ∧
      connectionId ∉ inner.closingConnections ∧
      module.endpoint.connectionId ∉ inner.closingConnections := by
  unfold relayTargetLocked at hok
  split at hok
  case isTrue => cases hok
  rename_i hrole
  split at hok
  case isTrue => cases hok
  rename_i hclosing
  cases hmodule : inner.modulesById.get moduleId with
  | none => simp [hmodule] at hok
  | some =>
    simp only [hmodule] at hok
    split at hok
    case isTrue => cases hok
    case isFalse hdrain =>
      split at hok
      case isTrue => cases hok
      case isFalse hmoduleClosing =>
        cases hok
        refine ⟨?_, rfl, ?_, hclosing, hmoduleClosing⟩
        · simpa using hrole
        · simpa using hdrain

theorem windowFor_le : windowFor concurrency ≤ 1024 := by
  cases concurrency <;> decide

theorem entry_windows (request : RelayRequest)
    (frame : Frame) : WindowsBounded (request.entry module slots frame) := by
  refine ⟨windowFor_le, ?_⟩
  intro window hwindow
  simp only [RelayRequest.entry] at hwindow
  split at hwindow
  case isTrue => rw [← Option.some.inj hwindow]
  case isFalse => cases hwindow

/-- The ways a reservation ends: no target, no correlation id, no slots, or a new relay. -/
inductive Begun (inner : ForwardingInner) (request : RelayRequest) :
    Step PendingRouteBindRelay → Prop where
  | untargeted (err : ForwardingError) : Begun inner request ⟨inner, .error err, []⟩
  | unnumbered (module : ModuleConnection) (numbered : ForwardingInner) (err : ForwardingError)
      (hcorr : allocateControlCorr inner module.endpoint = (numbered, .error err)) :
    Begun inner request ⟨numbered, .error err, [correlationExhaustedClose module.endpoint]⟩
  | unslotted (module : ModuleConnection) (corr : UInt64) (numbered slotted : ForwardingInner)
      (err : ForwardingError)
      (hcorr : allocateControlCorr inner module.endpoint = (numbered, .ok corr))
      (hslots : allocateRouteSlots numbered request.clientConnectionId module.endpoint =
        (slotted, .error err)) :
    Begun inner request ⟨slotted, .error err, []⟩
  | reserved (module : ModuleConnection) (corr : UInt64) (slots : RouteSlots) (frame : Frame)
      (numbered slotted : ForwardingInner)
      (htarget : relayTargetLocked inner request.clientConnectionId request.moduleId = .ok module)
      (hcorr : allocateControlCorr inner module.endpoint = (numbered, .ok corr))
      (hslots : allocateRouteSlots numbered request.clientConnectionId module.endpoint =
        (slotted, .ok slots))
      (hframe : Frame.buildWithVersion request.clientNegotiatedVer .response routeOpenFlags 0 0
        request.clientCorr (routeOpenBody slots.clientChannel slots.clientEpoch none none) =
          .ok frame) :
    Begun inner request ⟨reserveRelay slotted (module.endpoint, corr)
        (request.entry module slots frame),
      .ok ⟨module.endpoint, module.sink, module.negotiatedVer, slots, corr⟩, []⟩

/-- The response can always be framed, so there is no other way. -/
theorem beginRouteBindRelayInner_begun (inner : ForwardingInner) (request : RelayRequest) :
    Begun inner request (beginRouteBindRelayInner inner request) := by
  unfold beginRouteBindRelayInner
  split
  case h_1 => exact .untargeted _
  rename_i module htarget
  split
  case h_1 hcorr => exact .unnumbered module _ _ hcorr
  rename_i hcorr
  split
  case h_1 hslots => exact .unslotted module _ _ _ _ hcorr hslots
  rename_i slots hslots
  have hfits := @routeOpenBody_fits slots.clientChannel slots.clientEpoch none none nofun nofun
  rw [Frame.buildWithVersion_ok hfits]
  exact .reserved module _ slots _ _ _ htarget hcorr hslots (Frame.buildWithVersion_ok hfits)

theorem beginRouteBindRelayInner_inv (h : TableInv inner)
    (request : RelayRequest) : TableInv (beginRouteBindRelayInner inner request).inner := by
  have hbegun := beginRouteBindRelayInner_begun inner request
  generalize beginRouteBindRelayInner inner request = step at hbegun ⊢
  cases hbegun with
  | untargeted => exact h
  | unnumbered _ _ _ hcorr => exact allocateControlCorr_inv h hcorr
  | unslotted _ _ _ _ _ hcorr hslots =>
    refine (allocateControlCorr_inv h hcorr).same ?_
    rw [allocateRouteSlots_error hslots]
    constructor <;> rfl
  | reserved module corr slots frame numbered slotted htarget hcorr hslots =>
    obtain ⟨hrole, hactive, -⟩ := relayTargetLocked_ok htarget
    obtain ⟨-, hrest, hused⟩ := allocateControlCorr_ok hcorr
    obtain ⟨⟨hcb, hcr, hmb, hmr⟩, -, -, hmoved⟩ := allocateRouteSlots_ok hslots
    have hnew := corr_new h hcorr
    have hsame : SameRoutes numbered slotted := by
      rw [hmoved]
      constructor <;> rfl
    rw [← hsame.reservedClient] at hcr
    rw [← hsame.clientToModule] at hcb
    rw [← hsame.reservedModule] at hmr
    rw [← hsame.moduleToClient] at hmb
    rw [← hsame.nextControlCorr] at hused
    refine ((allocateControlCorr_inv h hcorr).same hsame).reserve hcr hcb hmr hmb ?_
      ⟨request.moduleId, ?_⟩ ?_ rfl hused (entry_windows request frame)
    · rw [hsame.pendingRelays, hrest]
      exact hnew
    · rw [hsame.moduleIdByEndpoint, hrest]
      exact h.active_registered request.moduleId module hactive
    · rw [hsame.endpointByConnection, hrest]
      exact hrole

/-- The response of a relay with bounded windows can always be framed. -/
theorem publishedFrame_ok
    (hwindows : WindowsBounded pending) : ∃ frame, publishedFrame pending = .ok frame := by
  unfold publishedFrame
  split
  case isFalse => exact ⟨_, rfl⟩
  obtain ⟨hrequest, hwatch⟩ := hwindows
  refine ⟨_, Frame.buildWithVersion_ok (routeOpenBody_fits _ _ ?_ ?_)⟩
  · intro n hn
    rw [← Option.some.inj hn]
    exact lt_of_le_of_lt hrequest (by norm_num)
  · intro n hn
    exact lt_of_le_of_lt (hwatch n hn) (by norm_num [defaultModuleManagedWatchWindow])

section

variable (h : TableInv inner) (hp : inner.pendingRelays.get key = some pending)
  (hclosing : pending.reservation.clientKey.connectionId ∉ inner.closingConnections)
  (hdrain : inner.drainingEndpoints.get key.1 = none) (reads : CompletionReads)
include h hp hclosing hdrain

/-- Once the caller's guards have passed, a commit finds its endpoint stale or
publishes the route. The other refusals of the commit are out of reach. -/
theorem commitRouteLocked_cases :
    (commitRouteLocked { inner with pendingRelays := inner.pendingRelays.remove key } pending
        reads = ⟨takeRelay inner key pending, .error .staleModuleEndpoint, []⟩ ∧
      ∀ moduleId module, inner.modulesById.get moduleId = some module → module.endpoint ≠ key.1) ∨
      ∃ moduleId module frame,
        inner.modulesById.get moduleId = some module ∧ module.endpoint = key.1 ∧
        inner.moduleIdByEndpoint.get key.1 = some moduleId ∧
        publishedFrame pending = .ok frame ∧
        commitRouteLocked { inner with pendingRelays := inner.pendingRelays.remove key } pending
          reads = publishRoute (takeRelay inner key pending) pending
            (committedBinding pending moduleId module reads) frame reads := by
  have hpair := h.reserved hp
  have hback := (h.reservations _ _).mp hpair
  have hendpoint := h.relay_endpoint key pending hp
  obtain ⟨moduleId, hid⟩ := h.reserved_registered _ _ hback
  obtain ⟨frame, hframe⟩ := publishedFrame_ok (h.relay_windows key pending hp)
  have hdrain' : inner.drainingEndpoints.get pending.reservation.moduleKey.endpoint = none := by
    rw [hendpoint]
    exact hdrain
  cases hactive : (inner.modulesById.get moduleId).filter
      fun module => module.endpoint = pending.reservation.moduleKey.endpoint with
  | none =>
    left
    constructor
    · simp only [commitRouteLocked, if_neg hclosing, hid, contains_eq, hdrain',
        Option.isSome_none, Bool.false_eq_true, if_false, hframe, hpair, hback, ne_eq,
        not_true_eq_false, hactive, takeRelay]
    intro moduleId' module hmodule hsame
    have hid' := h.active_registered moduleId' module hmodule
    rw [hsame, ← hendpoint, hid] at hid'
    cases hid'
    rw [hmodule, Option.filter_some_pos (by rw [hsame, ← hendpoint]; simp)] at hactive
    cases hactive
  | some module =>
    right
    have hcommit : commitRouteLocked
        { inner with pendingRelays := inner.pendingRelays.remove key } pending reads =
        publishRoute (takeRelay inner key pending) pending
          (committedBinding pending moduleId module reads) frame reads := by
      simp only [commitRouteLocked, if_neg hclosing, hid, contains_eq, hdrain',
        Option.isSome_none, Bool.false_eq_true, if_false, hframe, hpair, hback, ne_eq,
        not_true_eq_false, hactive, takeRelay]
    rw [Option.filter_eq_some_iff, decide_eq_true_eq, hendpoint] at hactive
    rw [hendpoint] at hid
    exact ⟨moduleId, module, frame, hactive.1, hactive.2, hid, hframe, hcommit⟩

end

/-- Publishing a relay that was just dropped keeps the invariant, whether or
not a writer is left to send its response. -/
theorem publishRoute_inv (h : TableInv taken)
    (hclient : taken.clientToModule.get binding.clientKey = none)
    (hclientReserved : taken.reservedClient.get binding.clientKey = none)
    (hmodule : taken.moduleToClient.get binding.moduleKey = none)
    (hmoduleReserved : taken.reservedModule.get binding.moduleKey = none)
    (hreg : Registered taken binding.moduleKey.endpoint)
    (hrole : taken.endpointByConnection.get binding.clientKey.connectionId = none) :
    TableInv (publishRoute taken pending binding frame reads).inner := by
  have hinstalled : TableInv (installBinding taken binding) :=
    h.bind hclient hclientReserved hmodule hmoduleReserved hreg hrole
  unfold publishRoute
  dsimp only
  split
  case isTrue =>
    have hget : (installBinding taken binding).moduleToClient.get binding.moduleKey =
        some binding := by simp [installBinding]
    exact (hinstalled.unbindOne hget).same (by constructor <;> rfl)
  case isFalse => exact hinstalled

/-- What has to hold for a reply to publish its route. -/
structure Publishable (inner : ForwardingInner) (key : ControlKey)
    (pending : PendingRouteBindRelayEntry) (outcome : RouteBindRelayOutcome)
    (reads : CompletionReads) (moduleId : String) (module : ModuleConnection) : Prop where
  accepted : outcome = .accepted
  inTime : reads.now < pending.deadline
  sinkOpen : reads.sinkClosedAtGuard = false
  clientOpen : pending.reservation.clientKey.connectionId ∉ inner.closingConnections
  current : inner.supersededEndpoints.get key.1 = none
  undrained : inner.drainingEndpoints.get key.1 = none
  scopeCurrent : ∀ scope, pending.scope = some scope → scopeRefusalLocked inner scope = none
  active : inner.modulesById.get moduleId = some module
  endpoint : module.endpoint = key.1
  registered : inner.moduleIdByEndpoint.get key.1 = some moduleId

/-- The ways a reply to a pending relay can end. -/
inductive Completed (inner : ForwardingInner) (key : ControlKey)
    (pending : PendingRouteBindRelayEntry) (outcome : RouteBindRelayOutcome)
    (reads : CompletionReads) : Step PendingRelayCompletion → Prop where
  /-- The relay is dropped with another answer than acceptance; only an
  acceptance leaves a binding in the module to take back. -/
  | refused (answer : RouteBindRelayOutcome) (hanswer : answer ≠ .accepted) :
    Completed inner key pending outcome reads
      ⟨dropRelay inner key pending,
        .ok ⟨true, if outcome = .accepted then abandonedRouteTarget inner pending.reservation
          else none⟩,
        [.settle pending.sender answer]⟩
  /-- The endpoint was replaced without a promotion. -/
  | stale (haccepted : outcome = .accepted) (hcurrent : inner.supersededEndpoints.get key.1 = none)
      (hreplaced : ∀ moduleId module, inner.modulesById.get moduleId = some module →
        module.endpoint ≠ key.1) :
    Completed inner key pending outcome reads
      ⟨takeRelay inner key pending, .error .staleModuleEndpoint, []⟩
  /-- The route is published, or taken back when no writer is left. -/
  | published (moduleId : String) (module : ModuleConnection) (frame : Frame)
      (hpublishable : Publishable inner key pending outcome reads moduleId module)
      (hframe : publishedFrame pending = .ok frame) :
    Completed inner key pending outcome reads
      (let committed := publishRoute (takeRelay inner key pending) pending
        (committedBinding pending moduleId module reads) frame reads
      ⟨committed.inner, committed.result.map fun target => ⟨true, target⟩, committed.effects⟩)

/-- A reply finds no relay and changes nothing, or it ends its relay. -/
theorem completePendingRelay_cases (h : TableInv inner)
    {connectionId : ConnectionId} :
    (completePendingRelay inner connectionId corr outcome reads = ⟨inner, .ok ⟨false, none⟩, []⟩ ∧
        ∀ endpoint, inner.endpointByConnection.get connectionId = some endpoint →
          inner.pendingRelays.get (endpoint, corr) = none) ∨
      ∃ endpoint pending, inner.endpointByConnection.get connectionId = some endpoint ∧
        inner.pendingRelays.get (endpoint, corr) = some pending ∧
        Completed inner (endpoint, corr) pending outcome reads
          (completePendingRelay inner connectionId corr outcome reads) := by
  unfold completePendingRelay
  cases hconn : inner.endpointByConnection.get connectionId with
  | none => exact .inl ⟨rfl, by simp⟩
  | some endpoint =>
    dsimp only
    cases hp : inner.pendingRelays.get (endpoint, corr) with
    | none =>
      refine .inl ⟨rfl, ?_⟩
      intro endpoint' heq
      cases heq
      exact hp
    | some pending =>
      refine .inr ⟨endpoint, pending, rfl, hp, ?_⟩
      dsimp only
      split
      case isTrue => exact .refused _ (by simp)
      rename_i htime
      cases outcome with
      | rejected body => exact .refused (.rejected body) (by simp)
      | daemonRejected body => exact .refused (.daemonRejected body) (by simp)
      | moduleGone message => exact .refused (.moduleGone message) (by simp)
      | accepted =>
        dsimp only
        split
        case isTrue => exact .refused _ (by simp)
        rename_i hgone
        split
        case isTrue => exact .refused _ (by simp)
        rename_i hgated
        cases hscope : pending.scope.bind (scopeRefusalLocked inner) with
        | some => exact .refused _ (by simp)
        | none =>
          simp only [Bool.or_eq_true, decide_eq_true_eq, not_or] at hgone
          simp only [contains_eq, Bool.or_eq_true, not_or,
            Bool.not_eq_true, Option.isSome_eq_false_iff, Option.isNone_iff_eq_none]
            at hgated
          rcases commitRouteLocked_cases h hp hgone.2 hgated.2 reads with
            ⟨hstale, hreplaced⟩ | hpublish
          · rw [hstale]
            exact .stale rfl hgated.1 hreplaced
          obtain ⟨moduleId, module, frame, hactive, hend, hid, hframe, hcommit⟩ := hpublish
          rw [hcommit]
          refine .published moduleId module frame ?_ hframe
          refine ⟨rfl, Nat.lt_of_not_le htime, by simpa using hgone.1, hgone.2, hgated.1, hgated.2, ?_,
            hactive, hend, hid⟩
          intro scope heq
          rw [heq] at hscope
          exact hscope

theorem completePendingRelay_inv (h : TableInv inner)
    (outcome : RouteBindRelayOutcome) :
    TableInv (completePendingRelay inner connectionId corr outcome reads).inner := by
  rcases completePendingRelay_cases h with
    ⟨heq, -⟩ | ⟨endpoint, pending, -, hp, hcompleted⟩
  · rwa [heq]
  have hpair := h.reserved hp
  have hback := (h.reservations _ _).mp hpair
  generalize completePendingRelay inner connectionId corr outcome reads = step at hcompleted ⊢
  cases hcompleted with
  | refused => exact dropRelay_inv h hp
  | stale => exact takeRelay_inv h hp
  | published =>
    apply publishRoute_inv (takeRelay_inv h hp)
    · exact h.client_free _ _ hpair
    · simp [takeRelay, committedBinding, RouteBinding.clientKey]
    · exact h.module_free _ _ hback
    · simp [takeRelay, committedBinding, RouteBinding.moduleKey]
    · exact h.reserved_registered _ _ hback
    · exact h.reserved_role _ _ hpair

/-- The endpoint a registration installs has the registration's id. -/
theorem installEndpoint_id :
    (installEndpoint inner registration).moduleIdByEndpoint.get
      (registration.moduleConnection inner).endpoint = some registration.moduleId := by
  simp [installEndpoint, Registration.moduleConnection]

/-- What a registration has found when it installs its endpoint. -/
structure Registrable (inner : ForwardingInner) (registration : Registration) : Prop where
  undrained : inner.daemonDraining = false
  unregistered : inner.endpointByConnection.get registration.connectionId = none
  unbound : ∀ key route, inner.clientToModule.get key = some route →
    key.connectionId ≠ registration.connectionId
  unreserved : ∀ key moduleKey, inner.reservedClient.get key = some moduleKey →
    key.connectionId ≠ registration.connectionId

/-- The gate and the role check pass only for a connection without an endpoint and
without client routes. -/
theorem registrable
    (hgate : ¬ (inner.daemonDraining
      || decide (registration.connectionId ∈ inner.closingConnections)) = true)
    (hrole : checkModuleConnectionRoleLocked inner registration.connectionId = .ok ()) :
    Registrable inner registration := by
  rw [Bool.or_eq_true, not_or] at hgate
  unfold checkModuleConnectionRoleLocked at hrole
  split at hrole
  case isTrue => cases hrole
  rename_i hfree
  simp only [connectionHasClientRoutesLocked, contains_eq, Bool.or_eq_true, not_or,
    Bool.not_eq_true, Option.isSome_eq_false_iff, Option.isNone_iff_eq_none,
    any_eq_false, decide_eq_true_eq] at hfree
  obtain ⟨hendpoint, hbound, hreserved⟩ := hfree
  refine ⟨Bool.eq_false_iff.mpr hgate.1, hendpoint, ?_, ?_⟩
  · intro key route hroute
    exact hbound key ((mem_keys _).mpr ⟨route, hroute⟩)
  · intro key moduleKey hkey
    exact hreserved key ((mem_keys _).mpr ⟨moduleKey, hkey⟩)

/-- A registration is refused and changes nothing, or it installs its endpoint. -/
def Registers (inner : ForwardingInner) (registration : Registration)
    (installed : ForwardingInner) (step : Step ModuleEndpointId) : Prop :=
  step.inner = inner ∨
    Registrable inner registration ∧ step.result = .ok (registration.endpoint inner) ∧
      step.inner = installed

/-- A registration that installs a sound table keeps the invariant. -/
theorem Registers.inv (h : TableInv inner) (hstep : Registers inner registration installed step)
    (hinstalled : TableInv (installEndpoint inner registration) → TableInv installed) :
    TableInv step.inner := by
  rcases hstep with heq | ⟨⟨-, hconn, hbound, hreserved⟩, -, heq⟩
  · rwa [heq]
  · rw [heq]
    exact hinstalled (h.install registration hconn hbound hreserved)

section

variable (inner : ForwardingInner) (registration : Registration)

/-- The table with the registration's endpoint in the active slot of its id. -/
def activateEndpoint : ForwardingInner :=
  { installEndpoint inner registration with
    modulesById := inner.modulesById.insert registration.moduleId
      (registration.moduleConnection inner) }

/-- The table with the registration's endpoint as the candidate of its id. -/
def offerEndpoint : ForwardingInner :=
  { installEndpoint inner registration with
    candidatesById := inner.candidatesById.insert registration.moduleId
      (registration.moduleConnection inner) }

end

/-- A registration activates its endpoint or is refused. -/
theorem registerModuleConnectionInner_registers :
    Registers inner registration (activateEndpoint inner registration)
      (registerModuleConnectionInner inner registration) := by
  unfold registerModuleConnectionInner
  split
  case isTrue => exact .inl rfl
  case isFalse hgate =>
    cases hrole : checkModuleConnectionRoleLocked inner registration.connectionId with
    | error => exact .inl rfl
    | ok =>
      dsimp only
      split
      case isTrue => exact .inl rfl
      case isFalse => exact .inr ⟨registrable hgate hrole, rfl, rfl⟩

/-- A candidate's registration offers its endpoint or is refused. -/
theorem registerCandidateModuleConnectionInner_registers :
    Registers inner registration (offerEndpoint inner registration)
      (registerCandidateModuleConnectionInner inner registration) := by
  unfold registerCandidateModuleConnectionInner
  split
  case isTrue => exact .inl rfl
  rename_i hgate
  cases hrole : checkModuleConnectionRoleLocked inner registration.connectionId with
  | error => exact .inl rfl
  | ok =>
    dsimp only
    split
    case isTrue => exact .inl rfl
    split
    case isTrue => exact .inl rfl
    case isFalse => exact .inr ⟨registrable hgate hrole, rfl, rfl⟩

/-- The table after the promotion of a candidate. -/
def promoteCandidate (inner : ForwardingInner) (moduleId : String) (candidate : ModuleConnection) :
    ForwardingInner :=
  { inner with
    candidatesById := inner.candidatesById.remove moduleId
    modulesById := inner.modulesById.insert moduleId candidate
    supersededEndpoints := match inner.modulesById.get moduleId with
      | some old => inner.supersededEndpoints.insert old.endpoint old
      | none => inner.supersededEndpoints }

/-- A cutover changes nothing, or it promotes the candidate of its id. -/
theorem cutoverCandidate_cases :
    (cutoverCandidate inner moduleId).inner = inner ∨
      ∃ candidate, inner.daemonDraining = false ∧
        inner.candidatesById.get moduleId = some candidate ∧
        (cutoverCandidate inner moduleId).inner = promoteCandidate inner moduleId candidate := by
  unfold cutoverCandidate
  split
  case isTrue => exact .inl rfl
  case isFalse hopen =>
    cases inner.candidatesById.get moduleId with
    | none => exact .inl rfl
    | some candidate => exact .inr ⟨candidate, Bool.eq_false_iff.mpr hopen, rfl, rfl⟩

theorem cutoverCandidate_inv (h : TableInv inner) :
    TableInv (cutoverCandidate inner moduleId).inner := by
  rcases cutoverCandidate_cases with heq | ⟨candidate, -, hcandidate, heq⟩
  · rwa [heq]
  rw [heq]
  have hactive := h.setActive (h.candidate_registered moduleId candidate hcandidate)
  refine { hactive with candidate_registered := ?_ }
  intro id module hmodule
  exact h.candidate_registered id module (of_get_remove hmodule).2

theorem beginDrainLocked_inv (h : TableInv inner)
    (module : ModuleConnection) :
    TableInv (beginDrainLocked inner moduleId module reason exclusions).inner := by
  obtain ⟨unrelayed, rpcs, hinv, heq⟩ := beginDrainLocked_parts inner module reason
    TableInv (h.same (by constructor <;> rfl))
    fun outcome g key hg => abandonPendingRelay_inv hg key
  rw [heq]
  exact hinv.same (by constructor <;> rfl)

theorem cleanupClientConnectionLocked_inv (h : TableInv inner) :
    TableInv (cleanupClientConnectionLocked inner connectionId).inner := by
  have hunrouted := releases_inv (releaseClientConnectionRoutes_releases inner connectionId) h
  set unrouted := releaseClientConnectionRoutes inner connectionId with hu
  set keys := clientRelayKeys unrouted.inner connectionId with hk
  set outcome := RouteBindRelayOutcome.moduleGone
    "client connection closed during route.bind relay" with ho
  set unrelayed := keys.foldl (abandonPendingRelay outcome) unrouted with hr
  have hunrelayed : TableInv unrelayed.inner :=
    List.foldlRecOn (motive := fun gathered : Gathered => TableInv gathered.inner) _ _ hunrouted
      fun _ hgathered key _ => abandonPendingRelay_inv hgathered key
  have hempty : clientReservedPairs unrelayed.inner connectionId = [] := by
    rw [clientReservedPairs, filter_eq_nil_iff]
    rintro ⟨ck, mk⟩ hmem hconn
    have hpair := (mem_toList _ ck mk).mp hmem
    obtain ⟨key, pending, hp, hck, -⟩ := (hunrelayed.reserved_iff ck mk).mp hpair
    rw [hr, foldl_abandonPendingRelay_pending] at hp
    split at hp
    case isTrue => cases hp
    case isFalse hnot =>
      apply hnot
      rw [hk, clientRelayKeys, mem_map]
      refine ⟨(key, pending), mem_filter.mpr ⟨?_, ?_⟩, rfl⟩
      · exact (mem_toList _ key pending).mpr hp
      · rw [hck]
        exact hconn
  have hfinal : (cleanupClientConnectionLocked inner connectionId).inner =
      forgetClientSlots unrelayed.inner connectionId := by
    simp only [cleanupClientConnectionLocked, ← hu, ← ho, ← hk, ← hr, hempty, foldl_nil]
  rw [hfinal]
  exact hunrelayed.same (by constructor <;> rfl)

/-- A teardown of a registered endpoint keeps the invariant: its routes and
relays are dropped by tests, and then the endpoint itself is forgotten. -/
theorem endpointRemoved_inv (hr : EndpointRemoved endpoint inner inner') (h : TableInv inner)
    (hreg : Registered inner endpoint) : TableInv inner' := by
  let keep : ClientRouteKey → Bool := fun ck =>
    (inner.reservedClient.get ck).all fun mk => mk.endpoint ≠ endpoint
  have hkeep : ∀ ck mk, inner.reservedClient.get ck = some mk →
      keep ck = decide (mk.endpoint ≠ endpoint) := by
    intro ck mk hget
    simp [keep, hget]
  have hunbound := h.unbind hr.routes.client hr.routes.module
  have hunreserved := hunbound.unreserve
    (by
      intro ck
      rw [hr.reservedClient]
      exact filter_congr_of fun mk hmk => (hkeep ck mk hmk).symm)
    (by
      intro mk
      rw [hr.reservedModule]
      refine filter_congr_of fun ck hck => ?_
      rw [hkeep ck mk ((h.reservations ck mk).mpr hck)])
    (by
      intro key
      rw [hr.pendingRelays]
      refine filter_congr_of fun pending hp => ?_
      rw [hkeep _ _ (h.reserved hp), h.relay_endpoint key pending hp])
  have hforgotten := TableInv.forget hunreserved hreg (by
      intro key route hroute
      rw [hr.routes.module, Option.filter_eq_some_iff] at hroute
      rw [← (h.bindings.ofRight key route hroute.1).1]
      exact of_decide_eq_true hroute.2)
    (by
      intro key ck hkey
      rw [hr.reservedModule, Option.filter_eq_some_iff] at hkey
      exact of_decide_eq_true hkey.2)
  refine hforgotten.same ?_
  rw [hr.rest]
  constructor <;> rfl

theorem cleanupConnectionCounted_inv (h : TableInv inner) :
    TableInv (cleanupConnectionCounted inner connectionId).inner := by
  have hmarked := h.withClosing (insert connectionId inner.closingConnections)
  apply TableInv.withClosing
  cases hendpoint : inner.endpointByConnection.get connectionId with
  | none => exact cleanupClientConnectionLocked_inv hmarked
  | some endpoint =>
    obtain ⟨hconn, hreg⟩ := h.endpoint_registered connectionId endpoint hendpoint
    subst hconn
    exact endpointRemoved_inv (disconnect_removed _ endpoint hmarked.bindings hmarked.reservations)
      hmarked hreg

/-- The calls about control requests keep the invariant: drawing an id does. -/
theorem AsideOnly.inv (h : TableInv inner) (haside : AsideOnly inner inner') : TableInv inner' := by
  rcases haside.corr with hcorr | ⟨endpoint, hcorr⟩
  · refine h.same ?_
    constructor
    case nextControlCorr => exact hcorr
    all_goals rw [haside.rest]
  have honly := allocateControlCorr_only inner endpoint
  refine (allocateControlCorr_inv h (Prod.eta (allocateControlCorr inner endpoint)).symm).same ?_
  constructor
  case nextControlCorr => exact hcorr
  all_goals rw [haside.rest, honly]

/-- The invariant does not read what these calls change. -/
theorem controlOnly_inv (h : TableInv inner) (hc : ControlOnly inner inner') : TableInv inner' := by
  rw [hc]
  exact h.same (by constructor <;> rfl)

/-- Every call keeps the invariant. -/
theorem Op.apply_inv (h : TableInv inner) (op : Op) : TableInv (op.apply inner) := by
  by_cases hcontrol : controlCall op = true
  · exact AsideOnly.inv h (control_aside inner hcontrol)
  by_cases hrelease : releaseCall op = true
  · obtain ⟨closes, hreleases⟩ := release_releases hrelease
    refine releases_inv hreleases ?_
    rw [published_eq]
    exact h.same (by constructor <;> rfl)
  by_cases hdrain : drainCall op = true
  · rcases drain_cases hdrain with ⟨hidle, -⟩ | ⟨_, _, _, _, hdrained, -⟩
    · rwa [hidle]
    · rw [hdrained]
      exact beginDrainLocked_inv h _
  cases op with
  | registerModuleConnection registration =>
    exact registerModuleConnectionInner_registers.inv h fun hinstalled =>
      (hinstalled.setActive installEndpoint_id).same (by constructor <;> rfl)
  | registerCandidateModuleConnection registration =>
    exact registerCandidateModuleConnectionInner_registers.inv h fun hinstalled =>
      (hinstalled.setCandidate installEndpoint_id).same (by constructor <;> rfl)
  | cutoverCandidate moduleId => exact cutoverCandidate_inv h
  | beginRouteBindRelay request => exact beginRouteBindRelayInner_inv h request
  | markRouteBindRelayEnqueued endpoint corr =>
    exact markRouteBindRelayEnqueued_inv h corr
  | abortPendingRelay endpoint corr outcome => exact abortPendingRelay_inv h endpoint
  | completePendingRelay connectionId corr outcome reads =>
    exact completePendingRelay_inv h outcome
  | beginDaemonDrain => exact controlOnly_inv h beginDaemonDrain_controlOnly
  | recordDaemonDrainResult => exact controlOnly_inv h rfl
  | cleanupConnection connectionId => exact cleanupConnectionCounted_inv h
  | releaseClientRoute | releaseModuleRoute | releaseModuleEndpointRoutes | publishScopeChanges =>
    exact absurd rfl hrelease
  | beginModuleDrain | beginEndpointDrain => exact absurd rfl hdrain
  | _ => exact absurd rfl hcontrol

/-- Every state a run reaches satisfies the invariant. -/
theorem run_inv (ops : List Op) : TableInv (run ops) :=
  List.foldlRecOn (motive := TableInv) _ _ tableInv_default fun _ h op _ => Op.apply_inv h op

/-- In every state a run reaches, the two route indexes hold the same bindings,
the two reservation maps are inverse, the reserved pairs are the pairs of the
pending relays, nothing is both reserved and bound, module keys name registered
endpoints, and no connection has both roles. -/
theorem run_routeIndexes (ops : List Op) : RouteIndexes (run ops) := (run_inv ops).toRouteIndexes

end Subconscious.ForwardingConsistency
