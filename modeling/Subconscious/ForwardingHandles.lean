import Subconscious.ForwardingSteps

/-!
# Route handles over a whole run

A reservation hands out two handles: a client slot with its epoch and a module
slot with its epoch. The epoch of a slot grows with each reservation as long
as the table keeps the slot's counter. A cleanup drops the counters of its
connection, and a channel-0 GOODBYE runs that cleanup on a connection that
goes on under the same id. So handles are distinct in the runs where no
connection reserves again after its session was cleaned up, and they repeat in
a run where one does.
-/

namespace Subconscious.ForwardingHandles

open HashMaps HashMap Protocol ForwardingState ForwardingOperations ForwardingRelays List
open ForwardingControl
open ForwardingRuns ForwardingInvariant ForwardingConsistency ForwardingSteps

variable {inner : ForwardingInner}

/-- The two handles of one reservation. -/
structure Allocation where
  clientKey : ClientRouteKey
  clientEpoch : UInt32
  moduleKey : ModuleRouteKey
  moduleEpoch : UInt32
  deriving DecidableEq, Repr

/-- The client side: connection, channel and epoch. -/
def Allocation.clientHandle (a : Allocation) : ClientRouteKey × UInt32 :=
  (a.clientKey, a.clientEpoch)

/-- The module side: endpoint, channel and epoch. -/
def Allocation.moduleHandle (a : Allocation) : ModuleRouteKey × UInt32 :=
  (a.moduleKey, a.moduleEpoch)

/-- The handles a reserved relay was given. -/
def relayAllocation (connectionId : ConnectionId) (relay : PendingRouteBindRelay) : Allocation :=
  ⟨⟨connectionId, relay.slots.clientChannel⟩, relay.slots.clientEpoch,
    ⟨relay.endpoint, relay.slots.moduleChannel⟩, relay.slots.moduleEpoch⟩

section

variable (inner : ForwardingInner)

/-- What one call allocates. -/
def allocation? : Op → Option Allocation
  | .beginRouteBindRelay request =>
    match (beginRouteBindRelayInner inner request).result with
    | .ok relay => some (relayAllocation request.clientConnectionId relay)
    | .error _ => none
  | _ => none

/-- The endpoint one call creates. -/
def creation? : Op → Option ModuleEndpointId
  | .registerModuleConnection registration =>
    (registerModuleConnectionInner inner registration).result.toOption
  | .registerCandidateModuleConnection registration =>
    (registerCandidateModuleConnectionInner inner registration).result.toOption
  | _ => none

/-- What the calls of a run give out from a table on, in order. -/
def collectFrom {α : Type} (give : ForwardingInner → Op → Option α) (inner : ForwardingInner) :
    List Op → List α
  | [] => []
  | op :: ops => (give inner op).toList ++ collectFrom give (op.apply inner) ops

/-- What a run allocates, in order. -/
def allocations (ops : List Op) : List Allocation := collectFrom allocation? .default ops

/-- The endpoints a run creates, in order. -/
def created (ops : List Op) : List ModuleEndpointId := collectFrom creation? .default ops

/-- The handles of a reservation. -/
def reservationAllocation (reservation : RouteReservation) : Allocation :=
  ⟨reservation.clientKey, reservation.clientEpoch, reservation.moduleKey, reservation.moduleEpoch⟩

/-- The handles of a bound route. -/
def routeAllocation (route : RouteBinding) : Allocation :=
  ⟨route.clientKey, route.clientEpoch, route.moduleKey, route.moduleEpoch⟩

section

variable (a : Allocation)

/-- A pending relay carries the handles. -/
def CarriesRelay : Prop :=
  ∃ key pending, inner.pendingRelays.get key = some pending ∧
    reservationAllocation pending.reservation = a

/-- A bound route carries the handles. -/
def CarriesRoute : Prop :=
  ∃ key route, inner.clientToModule.get key = some route ∧ routeAllocation route = a

/-- A frame that a client sends with its handle does not find a route. -/
def ClientFrameUnbound : Prop :=
  ∀ route, lookupDataRoute inner a.clientKey.connectionId a.clientKey.channel a.clientEpoch ≠
    .client (.bound route)

/-- A frame that the endpoint sends with its handle does not find a route. -/
def ModuleFrameUnbound : Prop :=
  ∀ connectionId route, inner.endpointByConnection.get connectionId = some a.moduleKey.endpoint →
    lookupDataRoute inner connectionId a.moduleKey.channel a.moduleEpoch ≠ .module (.bound route)

end

end

/-- What the handles of a run promise. -/
structure HandlesUnique (ops : List Op) : Prop where
  client_distinct : (allocations ops).Pairwise fun a b => a.clientHandle ≠ b.clientHandle
  module_distinct : (allocations ops).Pairwise fun a b => a.moduleHandle ≠ b.moduleHandle
  /-- A later reservation of a slot has a larger epoch. -/
  client_epochs : (allocations ops).Pairwise fun a b =>
    a.clientKey = b.clientKey → a.clientEpoch < b.clientEpoch
  module_epochs : (allocations ops).Pairwise fun a b =>
    a.moduleKey = b.moduleKey → a.moduleEpoch < b.moduleEpoch
  /-- A later binding of a slot is the same route or has a larger epoch. -/
  client_rebound : ∀ p q, ops = p ++ q → ∀ key route route',
    (run p).clientToModule.get key = some route → (run ops).clientToModule.get key = some route' →
    route' = route ∨ route.clientEpoch < route'.clientEpoch
  module_rebound : ∀ p q, ops = p ++ q → ∀ key route route',
    (run p).moduleToClient.get key = some route → (run ops).moduleToClient.get key = some route' →
    route' = route ∨ route.moduleEpoch < route'.moduleEpoch
  /-- A handle is paired with one opposite handle. -/
  client_partner : ∀ a ∈ allocations ops, ∀ b ∈ allocations ops,
    a.clientHandle = b.clientHandle → a.moduleHandle = b.moduleHandle
  module_partner : ∀ a ∈ allocations ops, ∀ b ∈ allocations ops,
    a.moduleHandle = b.moduleHandle → a.clientHandle = b.clientHandle
  /-- Once no relay and no route carries a handle, no frame with it finds a route. -/
  released : ∀ p q, ops = p ++ q → ∀ a ∈ allocations p,
    ¬ CarriesRelay (run p) a → ¬ CarriesRoute (run p) a →
    ClientFrameUnbound (run ops) a ∧ ModuleFrameUnbound (run ops) a

/-- The client session of a connection that had reserved was cleaned up. -/
def SessionEnded (ops : List Op) (connectionId : ConnectionId) : Prop :=
  ∃ p q, ops = p ++ .cleanupConnection connectionId :: q ∧
    (∃ a ∈ allocations p, a.clientKey.connectionId = connectionId) ∧
    (run p).endpointByConnection.get connectionId = none

/-- A call after the run `p` keeps handles apart: it reserves nothing for a
connection whose session was cleaned up, and it creates no endpoint a second
time, which only a wrapped generation counter can do. -/
def StepKeepsHandles (p : List Op) (op : Op) : Prop :=
  (∀ a, allocation? (run p) op = some a → ¬ SessionEnded p a.clientKey.connectionId) ∧
    ∀ endpoint, creation? (run p) op = some endpoint → endpoint ∉ created p

/-- Every call of the run keeps handles apart. -/
def RunKeepsHandles (ops : List Op) : Prop :=
  ∀ p op q, ops = p ++ op :: q → StepKeepsHandles p op

variable {α : Type}

theorem collectFrom_append :
    collectFrom give inner (p ++ q) =
      collectFrom give inner p ++ collectFrom give (p.foldl Op.apply inner) q := by
  induction p generalizing inner with
  | nil => rfl
  | cons op p ih =>
    simp only [cons_append, collectFrom, foldl_cons]
    rw [ih, append_assoc]

theorem allocations_append (p q : List Op) :
    allocations (p ++ q) = allocations p ++ collectFrom allocation? (run p) q :=
  collectFrom_append

theorem allocations_snoc :
    allocations (p ++ [op]) = allocations p ++ (allocation? (run p) op).toList := by
  rw [allocations_append]
  simp only [collectFrom, append_nil]

theorem created_snoc : created (p ++ [op]) = created p ++ (creation? (run p) op).toList := by
  rw [created, collectFrom_append]
  simp only [collectFrom, append_nil]
  rfl

theorem SessionEnded.append
    (h : SessionEnded p connectionId) (q : List Op) : SessionEnded (p ++ q) connectionId := by
  obtain ⟨p₁, p₂, rfl, hreserved, hrole⟩ := h
  exact ⟨p₁, p₂ ++ q, by simp, hreserved, hrole⟩

theorem RunKeepsHandles.take (h : RunKeepsHandles (p ++ q)) : RunKeepsHandles p := by
  intro p₁ op p₂ heq
  refine h p₁ op (p₂ ++ q) ?_
  rw [heq, append_assoc, cons_append]

/-- An allocating call is a reservation that succeeded. -/
theorem allocation?_some (h : allocation? inner op = some a) :
    ∃ request relay, op = .beginRouteBindRelay request ∧
      (beginRouteBindRelayInner inner request).result = .ok relay ∧
      a = relayAllocation request.clientConnectionId relay := by
  cases op with
  | beginRouteBindRelay request =>
    simp only [allocation?] at h
    split at h
    case h_1 relay hok =>
      cases h
      exact ⟨request, relay, rfl, hok, rfl⟩
    case h_2 => cases h
  | _ => cases h

theorem allocation?_reserved (hok : (beginRouteBindRelayInner inner request).result = .ok relay) :
    allocation? inner (.beginRouteBindRelay request) =
      some (relayAllocation request.clientConnectionId relay) := by
  simp only [allocation?, hok]

/-- A call that reserves nothing allocates nothing. -/
theorem allocation?_none
    (h : ∀ request relay, op = .beginRouteBindRelay request →
      (beginRouteBindRelayInner inner request).result ≠ .ok relay) :
    allocation? inner op = none := by
  cases halloc : allocation? inner op with
  | none => rfl
  | some =>
    obtain ⟨request, relay, hop, hok, -⟩ := allocation?_some halloc
    exact absurd hok (h request relay hop)

/-- The epochs of the slots bound the handles of the keys in use, and grow
along the list. -/
structure Bounded {K : Type} (key : Allocation → K) (epoch : Allocation → UInt32)
    (inUse : K → Prop) (slots : K → Option UInt32) (l : List Allocation) : Prop where
  bound : ∀ a ∈ l, inUse (key a) → (epoch a).toNat ≤ ((slots (key a)).getD 0).toNat
  order : l.Pairwise fun a b => key a = key b → epoch a < epoch b

/-- The slot epochs of a connection bound its handles while its session goes on. -/
def ClientHandles (ops : List Op) : Prop :=
  Bounded Allocation.clientKey Allocation.clientEpoch
    (fun key => ¬ SessionEnded ops key.connectionId) (run ops).clientSlotEpochs.get
    (allocations ops)

/-- The slot epochs of an endpoint bound its handles while it is registered. -/
structure ModuleHandles (ops : List Op) : Prop extends
    Bounded Allocation.moduleKey Allocation.moduleEpoch
      (fun key => Registered (run ops) key.endpoint) (run ops).moduleSlotEpochs.get
      (allocations ops) where
  /-- Endpoints are created before they are registered or used. -/
  seen : ∀ a ∈ allocations ops, a.moduleKey.endpoint ∈ created ops
  registered : ∀ endpoint, Registered (run ops) endpoint → endpoint ∈ created ops

theorem clientHandles_nil : ClientHandles [] := by
  refine ⟨?_, List.Pairwise.nil⟩
  nofun

theorem moduleHandles_nil : ModuleHandles [] := by
  refine ⟨⟨?_, List.Pairwise.nil⟩, ?_, ?_⟩
  · nofun
  · nofun
  · rintro endpoint ⟨moduleId, hget⟩
    cases hget

variable {key : Allocation → K} {l : List Allocation}

/-- A new handle of a slot in use takes the slot's next epoch, which is above
all earlier ones. -/
theorem Bounded.snoc [DecidableEq K]
    (h : Bounded key epoch inUse slots l) (new : Allocation) (hnew : inUse (key new))
    (hepoch : (epoch new).toNat = ((slots (key new)).getD 0).toNat + 1)
    (huse : ∀ k, inUse' k → inUse k) :
    Bounded key epoch inUse' (fun k => if k = key new then some (epoch new) else slots k)
      (l ++ [new]) := by
  have hold : ∀ a ∈ l, key a = key new → (epoch a).toNat < (epoch new).toNat := by
    intro a ha hkey
    have hbound := h.bound a ha (hkey ▸ hnew)
    rw [hkey] at hbound
    omega
  constructor
  · intro a ha hstill
    rcases mem_append.mp ha with hmem | hlast
    · split
      case isTrue hkey => exact (hold a hmem hkey).le
      case isFalse => exact h.bound a hmem (huse _ hstill)
    · rw [mem_singleton.mp hlast, if_pos rfl]
      exact le_rfl
  · rw [pairwise_append]
    refine ⟨h.order, pairwise_singleton _ _, ?_⟩
    intro a ha b hb hkey
    cases mem_singleton.mp hb
    exact UInt32.lt_iff_toNat_lt.mpr (hold a ha hkey)

section

variable (hok : (beginRouteBindRelayInner (run p) request).result = .ok relay)
include hok

theorem allocations_reserved : allocations (p ++ [.beginRouteBindRelay request]) =
    allocations p ++ [relayAllocation request.clientConnectionId relay] := by
  rw [allocations_snoc, allocation?_reserved hok, Option.toList_some]

/-- A reservation of a connection whose session goes on keeps its handles bounded. -/
theorem ClientHandles.reserve (h : ClientHandles p)
    (hr : Reserved (run p) request relay (run (p ++ [.beginRouteBindRelay request])))
    (hopen : ¬ SessionEnded p request.clientConnectionId) :
    ClientHandles (p ++ [.beginRouteBindRelay request]) := by
  have hslots : (run (p ++ [.beginRouteBindRelay request])).clientSlotEpochs.get = fun key =>
      if key = ⟨request.clientConnectionId, relay.slots.clientChannel⟩ then
        some relay.slots.clientEpoch
      else (run p).clientSlotEpochs.get key := by
    funext key
    rw [hr.clientSlotEpochs, get_insert]
  rw [ClientHandles, hslots, allocations_reserved hok]
  exact Bounded.snoc h (relayAllocation _ relay) hopen hr.clientEpoch
    fun key => mt fun hended => hended.append _

/-- A reservation keeps the handles of its endpoint bounded. -/
theorem ModuleHandles.reserve (h : ModuleHandles p)
    (hr : Reserved (run p) request relay (run (p ++ [.beginRouteBindRelay request]))) :
    ModuleHandles (p ++ [.beginRouteBindRelay request]) := by
  have hcreated : created (p ++ [.beginRouteBindRelay request]) = created p := by
    rw [created_snoc]
    exact append_nil _
  have hids : ∀ endpoint, Registered (run (p ++ [.beginRouteBindRelay request])) endpoint →
      Registered (run p) endpoint := by
    intro endpoint hreg
    rwa [Registered, hr.rest] at hreg
  have hregistered : Registered (run p) relay.endpoint := by
    obtain ⟨module, htarget, hendpoint, -⟩ := hr.target
    obtain ⟨-, hactive, -⟩ := relayTargetLocked_ok htarget
    rw [hendpoint]
    exact ⟨request.moduleId, (run_inv p).active_registered _ _ hactive⟩
  have hslots : (run (p ++ [.beginRouteBindRelay request])).moduleSlotEpochs.get = fun key =>
      if key = ⟨relay.endpoint, relay.slots.moduleChannel⟩ then some relay.slots.moduleEpoch
      else (run p).moduleSlotEpochs.get key := by
    funext key
    rw [hr.moduleSlotEpochs, get_insert]
  constructor
  · rw [hslots, allocations_reserved hok]
    exact h.toBounded.snoc (relayAllocation _ relay) hregistered hr.moduleEpoch
      fun key => hids key.endpoint
  · intro a ha
    rw [allocations_reserved hok, mem_append, mem_singleton] at ha
    rw [hcreated]
    rcases ha with hmem | rfl
    · exact h.seen a hmem
    · exact h.registered _ hregistered
  · intro endpoint hreg
    rw [hcreated]
    exact h.registered endpoint (hids endpoint hreg)

end

/-- The creating call of an installation. -/
theorem creation?_install (hop : Registering inner registration op) :
    creation? inner op = some (registration.endpoint inner) ∧ allocation? inner op = none := by
  rcases hop with ⟨rfl, hok⟩ | ⟨rfl, hok⟩
  · exact ⟨by rw [creation?, hok]; rfl, rfl⟩
  · exact ⟨by rw [creation?, hok]; rfl, rfl⟩

/-- A call that gives no handle of a cleaned up session keeps client handles bounded. -/
theorem ClientHandles.snoc (h : ClientHandles p)
    (hopen : ∀ a, allocation? (run p) op = some a → ¬ SessionEnded p a.clientKey.connectionId) :
    ClientHandles (p ++ [op]) := by
  have hquiet : allocation? (run p) op = none →
      (∀ key, ¬ SessionEnded (p ++ [op]) key.connectionId →
        (∃ a ∈ allocations p, a.clientKey = key) →
        (run (p ++ [op])).clientSlotEpochs.get key = (run p).clientSlotEpochs.get key) →
      ClientHandles (p ++ [op]) := by
    intro hnone hsame
    have hlist : allocations (p ++ [op]) = allocations p := by
      rw [allocations_snoc, hnone, Option.toList_none, append_nil]
    rw [← hlist] at hsame
    refine ⟨?_, hlist ▸ h.order⟩
    intro a ha hstill
    rw [hsame a.clientKey hstill ⟨a, ha, rfl⟩]
    exact h.bound a (hlist ▸ ha) fun hended => hstill (hended.append [op])
  have hstep := Op.apply_slots (run_inv p) op
  rw [← run_snoc] at hstep
  cases hstep with
  | same hslots hrefused =>
    refine hquiet (allocation?_none hrefused) ?_
    intro key _ _
    rw [hslots.clientSlotEpochs]
  | reserve request relay hop hok hreserved =>
    subst hop
    exact ClientHandles.reserve hok h hreserved (hopen _ (allocation?_reserved hok))
  | install registration hop hinstalled =>
    refine hquiet (creation?_install hop).2 ?_
    intro key _ _
    rw [hinstalled.clientSlotEpochs]
  | forgetClient connectionId hop hrole hslots =>
    subst hop
    refine hquiet rfl ?_
    rintro key hstill ⟨a, ha, rfl⟩
    rw [hslots.clientSlotEpochs, get_retain]
    apply filter_of_forall
    intro epoch _
    apply decide_eq_true
    intro hsame
    refine hstill ⟨p, [], by rw [hsame], ⟨a, ha, rfl⟩, ?_⟩
    rw [hsame]
    exact hrole
  | forgetModule connectionId endpoint hop hrole hslots =>
    subst hop
    refine hquiet rfl ?_
    intro key _ _
    rw [hslots.clientSlotEpochs]

/-- A call that creates no endpoint twice keeps module handles bounded. -/
theorem ModuleHandles.snoc (h : ModuleHandles p)
    (hfresh : ∀ endpoint, creation? (run p) op = some endpoint → endpoint ∉ created p) :
    ModuleHandles (p ++ [op]) := by
  have hquiet : allocation? (run p) op = none →
      (∀ endpoint, Registered (run (p ++ [op])) endpoint →
        (Registered (run p) endpoint ∧ ∀ channel,
          (run (p ++ [op])).moduleSlotEpochs.get ⟨endpoint, channel⟩ =
            (run p).moduleSlotEpochs.get ⟨endpoint, channel⟩) ∨
          creation? (run p) op = some endpoint) →
      ModuleHandles (p ++ [op]) := by
    intro hnone hbefore
    have hlist : allocations (p ++ [op]) = allocations p := by
      rw [allocations_snoc, hnone, Option.toList_none, append_nil]
    refine ⟨⟨?_, hlist ▸ h.order⟩, ?_, ?_⟩
    · intro a ha hreg
      rw [hlist] at ha
      rcases hbefore _ hreg with ⟨hreg', hepochs⟩ | hcreation
      · have hepoch := hepochs a.moduleKey.channel
        rw [hepoch]
        exact h.bound a ha hreg'
      · exact absurd (h.seen a ha) (hfresh _ hcreation)
    · intro a ha
      rw [hlist] at ha
      rw [created_snoc]
      exact mem_append_left _ (h.seen a ha)
    · intro endpoint hreg
      rw [created_snoc]
      rcases hbefore endpoint hreg with ⟨hreg', -⟩ | hcreation
      · exact mem_append_left _ (h.registered endpoint hreg')
      · exact mem_append_right _ (Option.mem_toList.mpr hcreation)
  have hstep := Op.apply_slots (run_inv p) op
  rw [← run_snoc] at hstep
  cases hstep with
  | same hslots hrefused =>
    refine hquiet (allocation?_none hrefused) fun endpoint hreg => .inl ⟨?_, ?_⟩
    · rwa [Registered, hslots.moduleIdByEndpoint] at hreg
    · exact fun channel => by rw [hslots.moduleSlotEpochs]
  | reserve request relay hop hok hreserved =>
    subst hop
    exact ModuleHandles.reserve hok h hreserved
  | install registration hop hinstalled =>
    obtain ⟨hcreation, hnone⟩ := creation?_install hop
    refine hquiet hnone fun endpoint hreg => ?_
    rw [Registered, hinstalled.moduleIdByEndpoint, get_insert] at hreg
    split at hreg
    case isTrue heq => exact .inr (heq ▸ hcreation)
    case isFalse => exact .inl ⟨hreg, fun channel => by rw [hinstalled.moduleSlotEpochs]⟩
  | forgetClient connectionId hop hrole hslots =>
    refine hquiet (by rw [hop]; rfl) fun endpoint hreg => .inl ⟨?_, ?_⟩
    · rwa [Registered, hslots.moduleIdByEndpoint] at hreg
    · exact fun channel => by rw [hslots.moduleSlotEpochs]
  | forgetModule connectionId gone hop hrole hslots =>
    refine hquiet (by rw [hop]; rfl) fun endpoint hreg => .inl ?_
    obtain ⟨moduleId, hget⟩ := hreg
    rw [hslots.moduleIdByEndpoint] at hget
    obtain ⟨hne, hget⟩ := of_get_remove hget
    refine ⟨⟨moduleId, hget⟩, ?_⟩
    intro channel
    rw [hslots.moduleSlotEpochs, get_retain]
    exact filter_of_forall fun _ _ => decide_eq_true hne

/-- In a run that keeps handles apart the slot epochs bound the handles. -/
theorem run_handles (h : RunKeepsHandles ops) : ClientHandles ops ∧ ModuleHandles ops := by
  induction ops using List.reverseRecOn with
  | nil => exact ⟨clientHandles_nil, moduleHandles_nil⟩
  | append_singleton p op ih =>
    obtain ⟨hclient, hmodule⟩ := ih h.take
    obtain ⟨hopen, hfresh⟩ := h p op [] rfl
    exact ⟨hclient.snoc hopen, hmodule.snoc hfresh⟩

/-- What a run's later tables carry comes from its earlier table or from a
reservation in between. -/
structure CarriedFrom (inner : ForwardingInner) (later : List Allocation)
    (inner' : ForwardingInner) : Prop where
  relays : ∀ a, CarriesRelay inner' a → CarriesRelay inner a ∨ a ∈ later
  routes : ∀ key route, inner'.clientToModule.get key = some route →
    inner.clientToModule.get key = some route ∨ CarriesRelay inner (routeAllocation route) ∨
      routeAllocation route ∈ later

theorem Op.apply_carried (h : TableInv inner) (op : Op) :
    CarriedFrom inner (allocation? inner op).toList (op.apply inner) := by
  have horigins := Op.apply_origins h op
  constructor
  · rintro a ⟨key, pending', hp, rfl⟩
    rcases horigins.relays key pending' hp with ⟨pending, hget, hsame⟩ | hreserved
    · left
      refine ⟨key, pending, hget, ?_⟩
      rcases hsame with rfl | rfl
      · rfl
      · rfl
    · right
      obtain ⟨request, relay, module, frame, rfl, hok, -, -, hendpoint, rfl⟩ := hreserved
      simp only [allocation?, hok, Option.toList_some, mem_singleton]
      rw [relayAllocation, hendpoint]
      rfl
  · intro key route hr
    rcases horigins.routes key route hr with hold | hcommitted
    · exact .inl hold
    · obtain ⟨_, _, _, reads, controlKey, pending, moduleId, module, -, hp, -, rfl⟩ := hcommitted
      exact .inr (.inl ⟨controlKey, pending, hp, rfl⟩)

/-- The same over any number of calls. -/
theorem foldl_carried : ∀ {inner : ForwardingInner}, TableInv inner →
    CarriedFrom inner (collectFrom allocation? inner q) (q.foldl Op.apply inner) := by
  induction q with
  | nil =>
    intro inner _
    exact ⟨fun a => .inl, fun key route => .inl⟩
  | cons op q ih =>
    intro inner h
    have hone := Op.apply_carried h op
    have hrest := ih (Op.apply_inv h op)
    constructor
    · intro a ha
      rw [collectFrom, mem_append]
      rcases hrest.relays a ha with hmid | hlater
      · rcases hone.relays a hmid with hold | hnow
        · exact .inl hold
        · exact .inr (.inl hnow)
      · exact .inr (.inr hlater)
    · intro key route hr
      rw [collectFrom, mem_append]
      rcases hrest.routes key route hr with hmid | hrelay | hlater
      · rcases hone.routes key route hmid with hold | hrelay | hnow
        · exact .inl hold
        · exact .inr (.inl hrelay)
        · exact .inr (.inr (.inl hnow))
      · rcases hone.relays _ hrelay with hold | hnow
        · exact .inr (.inl hold)
        · exact .inr (.inr (.inl hnow))
      · exact .inr (.inr (.inr hlater))

theorem run_carried (p q : List Op) :
    CarriedFrom (run p) (collectFrom allocation? (run p) q) (run (p ++ q)) := by
  rw [run_append]
  exact foldl_carried (run_inv p)

/-- What a run's table carries, the run allocated. -/
theorem carried_allocated :
    (∀ a, CarriesRelay (run ops) a → a ∈ allocations ops) ∧
      ∀ a, CarriesRoute (run ops) a → a ∈ allocations ops := by
  have hcarried := run_carried [] ops
  have hnone : ∀ a, ¬ CarriesRelay (run []) a := by
    rintro a ⟨key, pending, hget, -⟩
    cases hget
  constructor
  · intro a ha
    exact (hcarried.relays a ha).resolve_left (hnone a)
  rintro a ⟨key, route, hget, rfl⟩
  rcases hcarried.routes key route hget with hold | hrelay | hlater
  · cases hold
  · exact absurd hrelay (hnone _)
  · exact hlater

/-- Pairwise different images identify the members of a list. -/
theorem eq_of_pairwise_ne {β : Type} {f : α → β} {l : List α} (h : l.Pairwise fun a b => f a ≠ f b)
    (ha : a ∈ l) (hb : b ∈ l) (heq : f a = f b) : a = b :=
  inj_on_of_nodup_map (pairwise_map.mpr h) ha hb heq

/-- A slot with a bound route has no pending relay. -/
theorem not_relay_of_bound (h : TableInv inner)
    (hroute : inner.clientToModule.get a.clientKey = some route ∨
      inner.moduleToClient.get a.moduleKey = some route) : ¬ CarriesRelay inner a := by
  rintro ⟨key, pending, hp, rfl⟩
  have hpair := h.reserved hp
  rcases hroute with hclient | hmodule
  · rw [reservationAllocation, h.client_free _ _ hpair] at hclient
    cases hclient
  · rw [reservationAllocation, h.module_free _ _ ((h.reservations _ _).mp hpair)] at hmodule
    cases hmodule

/-- A route of the later table on a slot that the earlier table has bound is
that binding, or was reserved in between. -/
theorem rebound_cases
    (hbound : (run p).clientToModule.get route'.clientKey = some route ∨
      (run p).moduleToClient.get route'.moduleKey = some route)
    (hroute' : (run (p ++ q)).clientToModule.get route'.clientKey = some route') :
    route' = route ∨ routeAllocation route' ∈ collectFrom allocation? (run p) q := by
  rcases (run_carried p q).routes _ _ hroute' with hold | hrelay | hlater
  · left
    rcases hbound with hclient | hmodule
    · rw [hold] at hclient
      exact Option.some.inj hclient
    have hmirror := ((run_inv p).bindings.ofLeft _ _ hold).2
    rw [hmirror] at hmodule
    exact Option.some.inj hmodule
  · exact absurd hrelay (not_relay_of_bound (run_inv p) hbound)
  · exact .inr hlater

/-- A released handle is not the handle of any bound route of a later table. -/
theorem released_unbound
    (hclient : (allocations (p ++ q)).Pairwise fun a b => a.clientHandle ≠ b.clientHandle)
    (hmodule : (allocations (p ++ q)).Pairwise fun a b => a.moduleHandle ≠ b.moduleHandle)
    (ha : a ∈ allocations p) (hrelay : ¬ CarriesRelay (run p) a) (hroute : ¬ CarriesRoute (run p) a)
    {key : ClientRouteKey} (hget : (run (p ++ q)).clientToModule.get key = some route) :
    (routeAllocation route).clientHandle ≠ a.clientHandle ∧
      (routeAllocation route).moduleHandle ≠ a.moduleHandle := by
  have hmem : routeAllocation route ∈ allocations (p ++ q) :=
    (carried_allocated).2 _ ⟨key, route, hget, rfl⟩
  have hmem' : a ∈ allocations (p ++ q) := by
    rw [allocations_append]
    exact mem_append_left _ ha
  have hne : routeAllocation route ≠ a := by
    intro heq
    rcases (run_carried p q).routes key route hget with hold | hcarried | hlater
    · exact hroute ⟨key, route, hold, heq⟩
    · rw [heq] at hcarried
      exact hrelay hcarried
    rw [heq] at hlater
    rw [allocations_append, pairwise_append] at hclient
    exact hclient.2.2 a ha a hlater rfl
  exact ⟨fun heq => hne (eq_of_pairwise_ne hclient hmem hmem' heq),
    fun heq => hne (eq_of_pairwise_ne hmodule hmem hmem' heq)⟩

/-- A slot answers with its own bound route, at that route's epoch. -/
theorem slotState_bound (h : slotState bound boundEpoch reserved slotEpoch epoch = .bound route) :
    bound = some route ∧ boundEpoch route = epoch := by
  unfold slotState at h
  cases bound with
  | none =>
    dsimp only at h
    split at h
    case isTrue => cases h
    case isFalse =>
      split at h
      case isTrue | isFalse => cases h
  | some =>
    dsimp only at h
    split at h
    case isTrue hepoch =>
      cases h
      exact ⟨rfl, hepoch⟩
    case isFalse => cases h

theorem lookupDataRoute_client_bound {key : ClientRouteKey}
    (h : lookupDataRoute inner key.connectionId key.channel epoch = .client (.bound route)) :
    inner.clientToModule.get key = some route ∧ route.clientEpoch = epoch := by
  unfold lookupDataRoute at h
  cases hrole : inner.endpointByConnection.get key.connectionId with
  | some =>
    rw [hrole] at h
    cases h
  | none =>
    rw [hrole] at h
    exact slotState_bound (DataRoute.client.inj h)

theorem lookupDataRoute_module_bound {key : ModuleRouteKey}
    (hrole : inner.endpointByConnection.get connectionId = some key.endpoint)
    (h : lookupDataRoute inner connectionId key.channel epoch = .module (.bound route)) :
    inner.moduleToClient.get key = some route ∧ route.moduleEpoch = epoch := by
  unfold lookupDataRoute at h
  rw [hrole] at h
  exact slotState_bound (DataRoute.module.inj h)

/-- Ordered epochs keep the handles apart. -/
theorem distinct_of_order {epoch : Allocation → UInt32}
    (h : l.Pairwise fun a b => key a = key b → epoch a < epoch b) :
    l.Pairwise fun a b => (key a, epoch a) ≠ (key b, epoch b) := by
  refine h.imp ?_
  intro a b horder heq
  obtain ⟨hkey, hepoch⟩ := Prod.mk.inj heq
  exact absurd (hepoch ▸ horder hkey) (UInt32.lt_irrefl _)

/-- Ordered epochs on every slot make the handles unique, with all that follows. -/
theorem handlesUnique_of_order (hclients : (allocations ops).Pairwise fun a b =>
      a.clientKey = b.clientKey → a.clientEpoch < b.clientEpoch)
    (hmodules : (allocations ops).Pairwise fun a b =>
      a.moduleKey = b.moduleKey → a.moduleEpoch < b.moduleEpoch) : HandlesUnique ops := by
  have hclient : (allocations ops).Pairwise fun a b => a.clientHandle ≠ b.clientHandle :=
    distinct_of_order hclients
  have hmodule : (allocations ops).Pairwise fun a b => a.moduleHandle ≠ b.moduleHandle :=
    distinct_of_order hmodules
  refine ⟨hclient, hmodule, hclients, hmodules, ?_, ?_, ?_, ?_, ?_⟩
  · rintro p q rfl key route route' hget hget'
    obtain ⟨hkey, -⟩ := (run_inv p).bindings.ofLeft key route hget
    obtain ⟨hkey', -⟩ := (run_inv (p ++ q)).bindings.ofLeft key route' hget'
    have hmem := (carried_allocated).2 _ ⟨key, route, hget, rfl⟩
    rw [← hkey'] at hget hget'
    rcases rebound_cases (.inl hget) hget' with heq | hlater
    · exact .inl heq
    right
    rw [allocations_append, pairwise_append] at hclients
    exact hclients.2.2 _ hmem _ hlater (hkey.trans hkey'.symm)
  · rintro p q rfl key route route' hget hget'
    obtain ⟨hkey, hclientGet⟩ := (run_inv p).bindings.ofRight key route hget
    obtain ⟨hkey', hclientGet'⟩ := (run_inv (p ++ q)).bindings.ofRight key route' hget'
    have hmem := (carried_allocated).2 _ ⟨_, route, hclientGet, rfl⟩
    rw [← hkey'] at hget
    rcases rebound_cases (.inr hget) hclientGet' with heq | hlater
    · exact .inl heq
    right
    rw [allocations_append, pairwise_append] at hmodules
    exact hmodules.2.2 _ hmem _ hlater (hkey.trans hkey'.symm)
  · intro a ha b hb heq
    rw [eq_of_pairwise_ne hclient ha hb heq]
  · intro a ha b hb heq
    rw [eq_of_pairwise_ne hmodule ha hb heq]
  rintro p q rfl a ha hrelay hroute
  constructor
  · intro route hlookup
    obtain ⟨hget, hepoch⟩ := lookupDataRoute_client_bound hlookup
    obtain ⟨hkey, -⟩ := (run_inv (p ++ q)).bindings.ofLeft _ route hget
    refine (released_unbound hclient hmodule ha hrelay hroute hget).1 ?_
    exact Prod.ext hkey hepoch
  · intro connectionId route hrole hlookup
    obtain ⟨hget, hepoch⟩ := lookupDataRoute_module_bound hrole hlookup
    obtain ⟨hkey, hclientGet⟩ := (run_inv (p ++ q)).bindings.ofRight _ route hget
    refine (released_unbound hclient hmodule ha hrelay hroute hclientGet).2 ?_
    exact Prod.ext hkey hepoch

/-- In every state of a run in which no connection reserves after its session
was cleaned up, and no endpoint is created twice, the handles handed out so far
are unique. -/
theorem run_handlesUnique (ops : List Op) (h : RunKeepsHandles ops) :
    ∀ p q, ops = p ++ q → HandlesUnique p := by
  rintro p q rfl
  obtain ⟨hclients, hmodules⟩ := run_handles h.take
  exact handlesUnique_of_order hclients.order hmodules.order

/-- A module registers as connection 1; client 2 opens a route, the module
accepts, and the client closes the route and opens the next one. -/
def openAndReopen : List Op :=
  [.registerModuleConnection ⟨1, "aft", 1, .serial, ⟨1⟩, true⟩,
   .beginRouteBindRelay ⟨2, ⟨2⟩, 1, 7, "aft", .direct, none, none, 100, false, 0⟩,
   .markRouteBindRelayEnqueued ⟨1, 1⟩ 1,
   .completePendingRelay 1 1 .accepted ⟨5, false, false, 5, 0, false⟩,
   .releaseClientRoute 2 1 1,
   .beginRouteBindRelay ⟨2, ⟨2⟩, 1, 8, "aft", .direct, none, none, 100, false, 1⟩]

theorem openAndReopen_keepsHandles : RunKeepsHandles openAndReopen := by
  intro p op q heq
  have hmem : ∀ op' ∈ p ++ op :: q, ∀ connectionId, op' ≠ .cleanupConnection connectionId := by
    rw [← heq]
    simp [openAndReopen]
  constructor
  · rintro a - ⟨p', q', rfl, -⟩
    exact hmem _ (mem_append_left _ (mem_append_right p' mem_cons_self)) _ rfl
  intro endpoint hcreation
  cases p with
  | nil => simp [created, collectFrom]
  | cons first p =>
    rw [cons_append] at heq
    have hrest : ∀ op' ∈ p ++ op :: q, ∀ inner, creation? inner op' = none := by
      rw [← (List.cons.inj heq).2]
      simp [creation?]
    rw [hrest op (mem_append_right p mem_cons_self)] at hcreation
    cases hcreation

theorem openAndReopen_handlesUnique :
    RunKeepsHandles openAndReopen ∧ HandlesUnique openAndReopen ∧
      (allocations openAndReopen).length = 2 :=
  ⟨openAndReopen_keepsHandles,
    run_handlesUnique openAndReopen openAndReopen_keepsHandles openAndReopen []
      (append_nil _).symm,
    by decide⟩

/-- The same two opens with a channel-0 GOODBYE between them: the socket and
the connection id go on, the slot epochs do not. -/
def reopenedSession : List Op :=
  [.registerModuleConnection ⟨1, "aft", 1, .serial, ⟨1⟩, true⟩,
   .beginRouteBindRelay ⟨2, ⟨2⟩, 1, 7, "aft", .direct, none, none, 100, false, 0⟩,
   .markRouteBindRelayEnqueued ⟨1, 1⟩ 1,
   .completePendingRelay 1 1 .accepted ⟨5, false, false, 5, 0, false⟩,
   .cleanupConnection 2,
   .beginRouteBindRelay ⟨2, ⟨2⟩, 1, 8, "aft", .direct, none, none, 100, false, 1⟩,
   .markRouteBindRelayEnqueued ⟨1, 1⟩ 2,
   .completePendingRelay 1 2 .accepted ⟨6, false, false, 6, 1, false⟩]

/-- Both opens get client channel 1 at epoch 1, on different module channels,
and a frame with the released handle finds the newer route. -/
theorem reopenedSession_repeats_handle :
    allocations reopenedSession =
        [⟨⟨2, 1⟩, 1, ⟨⟨1, 1⟩, 1⟩, 1⟩, ⟨⟨2, 1⟩, 1, ⟨⟨1, 1⟩, 2⟩, 1⟩] ∧
      (run (reopenedSession.take 5)).clientToModule.get ⟨2, 1⟩ = none ∧
      (match lookupDataRoute (run reopenedSession) 2 1 1 with
        | .client (.bound route) => some route.moduleKey
        | _ => none) = some ⟨⟨1, 1⟩, 2⟩ ∧
      ¬ HandlesUnique reopenedSession :=
  ⟨by decide, by decide, by decide, fun h => absurd h.client_distinct (by decide)⟩

end Subconscious.ForwardingHandles
