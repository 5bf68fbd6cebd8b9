import Subconscious.ForwardingRegistry
import Subconscious.RelayWorld

/-!
# What an open sees of the daemon

The picture one open has of the daemon, and the coherence of a world that
keeps the pictures apart: keys and handles tell the opens from each other, and
everything on record belongs to one of them. The lock sections of other
parties keep a world coherent and are moves of the opens' protocols.
-/

namespace Subconscious.RelayCoherence

open HashMaps ForwardingState ForwardingOperations ForwardingTeardown ForwardingRuns
open ForwardingInvariant ForwardingConsistency ForwardingSteps ForwardingEndings ForwardingHandles
open ForwardingRegistry RouteOpenProtocol RelayWorld

variable {inner : ForwardingInner}

/-- The module's connection is removed or closed, or the daemon shuts down. -/
def lost (w : World) (o : RouteOpen) : Bool :=
  (w.table.moduleIdByEndpoint.get o.relay.endpoint).isNone
    || decide (o.relay.endpoint.connectionId ∈ w.deregistered)
    || decide (o.relay.endpoint.connectionId ∈ w.ended) || w.shuttingDown

/-- The ways to lose a module. -/
theorem lost_iff :
    lost w o = true ↔ w.table.moduleIdByEndpoint.get o.relay.endpoint = none ∨
      o.relay.endpoint.connectionId ∈ w.deregistered ∨
      o.relay.endpoint.connectionId ∈ w.ended ∨ w.shuttingDown = true := by
  simp only [lost, Bool.or_eq_true, decide_eq_true_eq, Option.isNone_iff_eq_none, or_assoc]

section

variable (w : World) (id : SenderId)

/-- The daemon as one open sees it. -/
def view (o : RouteOpen) : View where
  deadline := o.request.deadline
  phase := o.phase
  mark := (w.table.pendingRelays.get o.key).map (·.relayEnqueued)
  released := decide (o.key ∈ w.table.relaysReleasedBeforeEnqueue)
  binds := (w.queued.filterMap ModuleFrame.bindHandle).count o.allocation.moduleHandle
  outcomes := (w.settled.filter fun entry => entry.1 = id).map (·.2)
  replies := (w.replies.filter fun entry => entry.1 = id).map (·.2)
  goodbyes := (w.goodbyes.map Goodbye.handle).count (some o.allocation.moduleHandle)
  answers := (w.answers.filter fun entry => entry.1 = id).map (·.2)
  lost := lost w o
  clientEnded := decide (o.client ∈ w.ended)

/-- The route of an open was committed. -/
def Committed : Prop := ∃ time, (id, .accepted, time) ∈ w.settled

/-- The module answered with an ERROR or a body nobody can read. -/
def RefusedByModule : Prop :=
  ∃ reply, (id, reply) ∈ w.replies ∧ reply ≠ .accepted

/-- An open is committed if its picture is accepted. -/
theorem committed_iff (o : RouteOpen) : Committed w id ↔ (view w id o).Accepted := by
  constructor
  · rintro ⟨time, hmem⟩
    exact ⟨time, List.mem_map.mpr ⟨_, List.mem_filter.mpr ⟨hmem, by simp⟩, rfl⟩⟩
  rintro ⟨time, hmem⟩
  obtain ⟨⟨sender, outcome, settledAt⟩, hentry, heq⟩ := List.mem_map.mp hmem
  obtain ⟨hsettled, hid⟩ := List.mem_filter.mp hentry
  cases heq
  cases of_decide_eq_true hid
  exact ⟨_, hsettled⟩

/-- An open is refused if its picture is. -/
theorem refusedByModule_iff (o : RouteOpen) :
    RefusedByModule w id ↔ (view w id o).ModuleRefused := by
  constructor
  · rintro ⟨reply, hmem, hreply⟩
    exact ⟨reply, List.mem_map.mpr ⟨_, List.mem_filter.mpr ⟨hmem, by simp⟩, rfl⟩, hreply⟩
  rintro ⟨reply, hmem, hreply⟩
  obtain ⟨⟨sender, outcome⟩, hentry, heq⟩ := List.mem_map.mp hmem
  obtain ⟨hreplies, hid⟩ := List.mem_filter.mp hentry
  cases heq
  cases of_decide_eq_true hid
  exact ⟨_, hreplies, hreply⟩

end

/-- No endpoint is created twice, which only a wrapped generation counter can do. -/
def EndpointsOnce (w : World) : Prop := (created w.calls).Nodup

/-- Keys and handles tell the opens apart, and everything on record belongs to
an open. -/
structure Coherent (w : World) : Prop where
  table_eq : w.table = run w.calls
  handles : ModuleHandles w.calls
  known : ∀ id o, w.opens.get id = some o → id < w.nextSender ∧ o.allocation ∈ allocations w.calls
  /-- A correlation id that was drawn stays behind the counter. -/
  corr_below : ∀ id o, w.opens.get id = some o →
    Registered w.table o.relay.endpoint → CorrBelow w.table o.key
  apart : ∀ id o id' o', w.opens.get id = some o → w.opens.get id' = some o' →
    o.key = o'.key ∨ o.allocation.moduleHandle = o'.allocation.moduleHandle → id = id'
  pending : ∀ key entry, w.table.pendingRelays.get key = some entry →
    ∃ o, w.opens.get entry.sender = some o ∧ o.key = key ∧
      reservationAllocation entry.reservation = o.allocation ∧
      entry.deadline = o.request.deadline
  /-- A module that cannot be found by its slots has been let go. -/
  slotted : ∀ key entry, w.table.pendingRelays.get key = some entry →
    Slotted w.table key.1 ∨ key.1.connectionId ∈ w.deregistered
  released : ∀ key ∈ w.table.relaysReleasedBeforeEnqueue,
    ∃ id o, w.opens.get id = some o ∧ o.key = key
  settled : ∀ entry ∈ w.settled, entry.1 < w.nextSender
  replies : ∀ entry ∈ w.replies, entry.1 < w.nextSender
  answers : ∀ entry ∈ w.answers, entry.1 < w.nextSender
  goodbyes : ∀ goodbye ∈ w.goodbyes, ∃ id o, w.opens.get id = some o ∧
    goodbye.handle = some o.allocation.moduleHandle ∧
    goodbye.target.connectionId = o.relay.endpoint.connectionId
  queued : ∀ handle corr, .routeBind handle corr ∈ w.queued → ∃ id o, w.opens.get id = some o ∧
    handle = o.allocation.moduleHandle ∧ corr = o.relay.corr

variable {id : SenderId} {op : Op}

/-- The table of a coherent world is one that a run reaches. -/
theorem Coherent.inv (h : Coherent w) : TableInv w.table := by
  rw [h.table_eq]
  exact run_inv w.calls

/-- Opens with one key or one handle are one. -/
theorem Coherent.same (h : Coherent w) (ho : w.opens.get id = some o)
    (ho' : w.opens.get id' = some o')
    (hsame : o.key = o'.key ∨ o.allocation.moduleHandle = o'.allocation.moduleHandle) :
    id = id' ∧ o = o' := by
  have hid := h.apart _ _ _ _ ho ho' hsame
  subst hid
  exact ⟨rfl, Option.some.inj (ho.symm.trans ho')⟩

/-- The endpoint of an open was created. -/
theorem Coherent.endpoint_created (h : Coherent w)
    (ho : w.opens.get id = some o) : o.relay.endpoint ∈ created w.calls :=
  h.handles.seen _ (h.known id o ho).2

/-- The world is coherent before its first event. -/
theorem coherent_initial : Coherent World.initial := by
  constructor
  case table_eq => rfl
  case handles => exact moduleHandles_nil
  case released =>
    intro key hkey
    exact absurd hkey (Finset.notMem_empty key)
  all_goals simp [World.initial, ForwardingInner.default]

/-- In a list without repeats, a test that only one member's image can pass
selects at most that image. -/
theorem filter_filterMap_single {α β : Type} [DecidableEq α] {l : List α} (hnodup : l.Nodup)
    {f : α → Option β} {p : β → Bool} {a : α}
    (hother : ∀ x ∈ l, ∀ y, f x = some y → p y = true → x = a) :
    (l.filterMap f).filter p = if a ∈ l then (f a).toList.filter p else [] := by
  induction l with
  | nil => rfl
  | cons head tail ih =>
    obtain ⟨hhead, htail⟩ := List.nodup_cons.mp hnodup
    have hrest := ih htail fun x hx => hother x (List.mem_cons_of_mem head hx)
    have hsplit : (head :: tail).filterMap f = (f head).toList ++ tail.filterMap f := by
      cases hf : f head <;> simp [hf]
    rw [hsplit, List.filter_append, hrest]
    by_cases heq : head = a
    · subst heq
      rw [if_neg hhead, if_pos List.mem_cons_self, List.append_nil]
    have hempty : (f head).toList.filter p = [] := by
      cases hf : f head with
      | none => rfl
      | some y =>
        have hfail : p y ≠ true := fun hp =>
          heq (hother head List.mem_cons_self y hf hp)
        simp [hfail]
    rw [hempty, List.nil_append]
    simp [List.mem_cons, Ne.symm heq]

/-- A value that only one member's image can be is counted there. -/
theorem count_filterMap_single {α β : Type} [DecidableEq α] [BEq β] [LawfulBEq β] {l : List α}
    (hnodup : l.Nodup) {f : α → Option β} {a : α} {b : β} (hother : ∀ x ∈ l, f x = some b → x = a) :
    (l.filterMap f).count b = if a ∈ l then (f a).toList.count b else 0 := by
  have hfilter := @filter_filterMap_single α β _ l hnodup f (fun y => y == b) a
    fun x hx y hy hp => hother x hx (by rw [hy, eq_of_beq hp])
  rw [List.count_eq_length_filter, hfilter]
  split
  case isTrue => rw [List.count_eq_length_filter]
  case isFalse => rfl

/-- One lock section, with the GOODBYEs its caller goes on to send. -/
def callWith (w : World) (op : Op) (extra : List Goodbye) : World :=
  { w.invoke op with goodbyes := w.goodbyes ++ extra }

/-- A lock section may hand out nothing. -/
theorem invoke_eq : w.invoke op = callWith w op [] := by
  simp only [callWith, List.append_nil]
  rfl

/-- What a lock section changes of the picture of an open. -/
theorem view_callWith (w : World) (op : Op) (extra : List Goodbye) (id : SenderId) (o : RouteOpen) :
    view (callWith w op extra) id o =
      { view w id o with
        mark := ((op.apply w.table).pendingRelays.get o.key).map (·.relayEnqueued)
        released := decide (o.key ∈ (op.apply w.table).relaysReleasedBeforeEnqueue)
        outcomes := (view w id o).outcomes ++
          ((settlements w.table op).filter fun entry => entry.1 = id).map
            fun entry => (entry.2, w.now)
        goodbyes := (view w id o).goodbyes +
          (extra.map Goodbye.handle).count (some o.allocation.moduleHandle)
        lost := lost (callWith w op extra) o } := by
  simp only [view, callWith, World.invoke, List.filter_append, List.map_append,
    List.count_append, List.filter_map, List.map_map]
  rfl

/-- An endpoint that is registered after a call was so before, unless the call
created it. -/
theorem registered_back (h : TableInv inner) {op : Op}
    {endpoint : ModuleEndpointId} (hnew : creation? inner op ≠ some endpoint)
    (hregistered : Registered (op.apply inner) endpoint) : Registered inner endpoint := by
  obtain ⟨moduleId, hid⟩ := hregistered
  rcases Op.apply_slots h op with ⟨hslots, -⟩ | ⟨request, relay, hop, hok, hreserved⟩ |
    ⟨registration, hop, hinstalled⟩ | ⟨connectionId, hop, hrole, hslots⟩ |
    ⟨connectionId, removed, hop, hrole, hslots⟩
  · exact ⟨moduleId, by rwa [hslots.moduleIdByEndpoint] at hid⟩
  · rw [hreserved.rest] at hid
    exact ⟨moduleId, hid⟩
  · rw [hinstalled.moduleIdByEndpoint, HashMap.get_insert] at hid
    split at hid
    case isTrue heq => exact absurd (heq ▸ (creation?_install hop).1) hnew
    case isFalse => exact ⟨moduleId, hid⟩
  · rw [hslots.moduleIdByEndpoint] at hid
    exact ⟨moduleId, hid⟩
  · rw [hslots.moduleIdByEndpoint] at hid
    exact ⟨moduleId, (HashMap.of_get_remove hid).2⟩

/-- A removed endpoint is not registered any more. -/
theorem cleanup_unregistered (h : TableInv inner)
    (hrole : inner.endpointByConnection.get connectionId = some endpoint) :
    (cleanupConnectionCounted inner connectionId).inner.moduleIdByEndpoint.get endpoint = none := by
  have hstep := cleanupConnectionCounted_step h connectionId
  generalize (cleanupConnectionCounted inner connectionId).inner = inner' at hstep ⊢
  cases hstep with
  | moved _ _ hop => cases hop
  | idle _ hop => rcases hop with hop | hop <;> cases hop
  | marked _ _ hop => cases hop
  | forgotten _ _ hnone =>
    rw [hrole] at hnone
    cases hnone
  | removed _ _ hrole' hmoved =>
    rw [hrole] at hrole'
    cases hrole'
    rw [hmoved.rest]
    exact (HashMap.get_remove _ _ _).trans (if_pos rfl)

/-- A counter does not fall behind while its endpoint stays registered. -/
theorem corr_call (h : TableInv inner)
    (hnew : creation? inner op ≠ some key.1) (hregistered : Registered (op.apply inner) key.1)
    (hbelow : CorrBelow inner key) : CorrBelow (op.apply inner) key := by
  rcases Op.apply_registry h with hkept | ⟨registration, hop, -, hcorr, hok⟩ |
    ⟨registration, hop, -, hcorr, hok⟩ | ⟨connectionId, removed, hop, hrole, -, hcorr⟩
  · exact hkept.corr key hbelow
  · refine hcorr key ?_ hbelow
    rintro heq
    exact hnew (by rw [hop, creation?, hok, heq]; rfl)
  · refine hcorr key ?_ hbelow
    rintro heq
    exact hnew (by rw [hop, creation?, hok, heq]; rfl)
  refine hcorr key ?_ hbelow
  rintro rfl
  subst hop
  obtain ⟨moduleId, hid⟩ := hregistered
  exact absurd hid (by simp [Op.apply, cleanup_unregistered h hrole])

/-- The call of a run that creates no endpoint twice creates none of the known ones. -/
theorem creation?_fresh (h : Coherent w) (honce : (created (w.calls ++ [op])).Nodup)
    (ho : w.opens.get id = some o) : creation? w.table op ≠ some o.relay.endpoint := by
  intro hcreated
  rw [created_snoc, ← h.table_eq, hcreated] at honce
  exact (List.nodup_append.mp honce).2.2 _ (h.endpoint_created ho) _ (List.mem_singleton.mpr rfl) rfl

/-- A lost module stays lost. -/
theorem lost_callWith (h : Coherent w) (extra : List Goodbye)
    (honce : (created (w.calls ++ [op])).Nodup) (ho : w.opens.get id = some o)
    (hlost : lost w o = true) : lost (callWith w op extra) o = true := by
  have hback := @registered_back _ h.inv op _ (creation?_fresh h honce ho)
  rw [lost_iff] at hlost ⊢
  refine hlost.imp_left fun hgone => ?_
  cases hid : (op.apply w.table).moduleIdByEndpoint.get o.relay.endpoint with
  | none => exact hid
  | some moduleId =>
    obtain ⟨moduleId', hid'⟩ := hback ⟨moduleId, hid⟩
    rw [hgone] at hid'
    cases hid'

/-- The module may be lost at any time. -/
theorem moves_lose (v : View) (h : v.lost = true → gone = true) :
    Moves v { v with lost := gone } := by
  cases gone with
  | true => exact .single (.lose v)
  | false =>
    have hkept : v.lost = false := by simpa using h
    rw [← hkept]
    exact .refl

/-- An open whose key a lock section leaves alone. -/
structure Untouched (w : World) (op : Op) (extra : List Goodbye) (id : SenderId) (o : RouteOpen) :
    Prop where
  pending : (op.apply w.table).pendingRelays.get o.key = w.table.pendingRelays.get o.key
  released : o.key ∈ (op.apply w.table).relaysReleasedBeforeEnqueue ↔
    o.key ∈ w.table.relaysReleasedBeforeEnqueue
  settled : (settlements w.table op).filter (fun entry => entry.1 = id) = []
  goodbyes : (extra.map Goodbye.handle).count (some o.allocation.moduleHandle) = 0

/-- Such an open sees at most that its module is lost. -/
theorem Untouched.view_eq (h : Untouched w op extra id o) :
    view (callWith w op extra) id o =
      { view w id o with lost := lost (callWith w op extra) o } := by
  rw [view_callWith, h.pending, h.settled, h.goodbyes, decide_eq_decide.mpr h.released]
  simp only [List.map_nil, List.append_nil, Nat.add_zero]
  rfl

/-- So the lock section is nothing to its protocol. -/
theorem Untouched.moves (hw : Coherent w) (honce : (created (w.calls ++ [op])).Nodup)
    (ho : w.opens.get id = some o) (h : Untouched w op extra id o) :
    Moves (view w id o) (view (callWith w op extra) id o) := by
  rw [h.view_eq]
  exact moves_lose _ (lost_callWith hw extra honce ho)

/-- A GOODBYE handed out for a reservation is meant for its handle. -/
theorem handle_of_abandoned (h : TableInv inner)
    (htarget : abandonedRouteTarget inner reservation = some target) (state : GoodbyeState) :
    (Goodbye.mk target (inner.endpointByConnection.get target.connectionId) state).handle =
      some (reservation.moduleKey, reservation.moduleEpoch) := by
  obtain ⟨hconnection, hchannel, hepoch⟩ := abandonedRouteTarget_handle htarget
  have hregistered : Registered inner reservation.moduleKey.endpoint := by
    unfold abandonedRouteTarget at htarget
    split at htarget
    case h_1 moduleId module hid _ => exact ⟨moduleId, hid⟩
    case h_2 => cases htarget
  have hsession := h.registered_endpoint _ hregistered
  simp only [Goodbye.handle, hconnection, hsession, Option.map_some, hchannel, hepoch]

/-- A GOODBYE that finds no module was owed to one that is lost. -/
theorem lost_of_no_target (h : Coherent w) (hp : w.table.pendingRelays.get o.key = some entry)
    (hnone : abandonedRouteTarget w.table entry.reservation = none) : lost w o = true := by
  rw [lost_iff]
  have hendpoint := h.inv.relay_endpoint _ _ hp
  have hback := (h.inv.reservations _ _).mp (h.inv.reserved hp)
  have hregistered := h.inv.reserved_registered _ _ hback
  rcases h.slotted _ _ hp with hslotted | hderegistered
  · obtain ⟨target, htarget⟩ := abandonedRouteTarget_slotted h.inv hregistered
      (by rw [hendpoint]; exact hslotted)
    rw [hnone] at htarget
    cases htarget
  · exact .inr (.inl hderegistered)

section

variable (h : Coherent w) (ho : w.opens.get id = some o)
  (hp : w.table.pendingRelays.get key = some entry)
include h ho hp

/-- The sender of a pending relay names the open of its key. -/
theorem Coherent.sender_iff : entry.sender = id ↔ key = o.key := by
  obtain ⟨o', ho', hkey, -, -⟩ := h.pending key entry hp
  constructor
  · intro hsender
    rw [hsender, ho] at ho'
    cases ho'
    exact hkey.symm
  · intro heq
    exact (h.same ho' ho (.inl (hkey.trans heq))).1

/-- The module handle of a pending relay names the open of its key. -/
theorem Coherent.handle_iff :
    (entry.reservation.moduleKey, entry.reservation.moduleEpoch) = o.allocation.moduleHandle ↔
      key = o.key := by
  obtain ⟨o', ho', hkey, hallocation, -⟩ := h.pending key entry hp
  have hhandle : (entry.reservation.moduleKey, entry.reservation.moduleEpoch) =
      o'.allocation.moduleHandle := by
    rw [← hallocation]
    rfl
  rw [hhandle]
  constructor
  · intro heq
    obtain ⟨-, rfl⟩ := h.same ho' ho (.inr heq)
    exact hkey.symm
  · intro heq
    obtain ⟨-, rfl⟩ := h.same ho' ho (.inl (hkey.trans heq))
    rfl

end

/-- The GOODBYE is meant for an open of these keys. -/
def Meant (w : World) (own : ControlKey → Prop) (goodbye : Goodbye) : Prop :=
  ∃ id o, w.opens.get id = some o ∧ own o.key ∧
    goodbye.handle = some o.allocation.moduleHandle ∧
    goodbye.target.connectionId = o.relay.endpoint.connectionId

/-- A lock section that reserves nothing and concerns the opens of certain keys:
what it leaves pending was pending, and what it releases, settles and hands out
belonged to pending relays of these keys. -/
structure Concerns (w : World) (op : Op) (extra : List Goodbye) (own : ControlKey → Prop) :
    Prop where
  others : ∀ key, ¬own key →
    (op.apply w.table).pendingRelays.get key = w.table.pendingRelays.get key
  kept : ∀ key entry', own key → (op.apply w.table).pendingRelays.get key = some entry' →
    ∃ entry, w.table.pendingRelays.get key = some entry ∧ entry'.sender = entry.sender ∧
      entry'.reservation = entry.reservation ∧ entry'.deadline = entry.deadline
  stays : ∀ key ∈ w.table.relaysReleasedBeforeEnqueue, ¬own key →
    key ∈ (op.apply w.table).relaysReleasedBeforeEnqueue
  released : ∀ key ∈ (op.apply w.table).relaysReleasedBeforeEnqueue,
    key ∈ w.table.relaysReleasedBeforeEnqueue ∨
      ∃ entry, own key ∧ w.table.pendingRelays.get key = some entry
  settled : ∀ answer ∈ settlements w.table op, ∃ key entry, own key ∧
    w.table.pendingRelays.get key = some entry ∧ answer.1 = entry.sender
  meant : ∀ goodbye ∈ extra, Meant w own goodbye

/-- What is pending after the lock section was pending before. -/
theorem Concerns.relay (h : Concerns w op extra own)
    (hp : (op.apply w.table).pendingRelays.get key = some entry') :
    ∃ entry, w.table.pendingRelays.get key = some entry ∧ entry'.sender = entry.sender ∧
      entry'.reservation = entry.reservation ∧ entry'.deadline = entry.deadline := by
  by_cases hown : own key
  · exact h.kept key entry' hown hp
  · rw [h.others key hown] at hp
    exact ⟨entry', hp, rfl, rfl, rfl⟩

/-- A lock section without anything to do. -/
theorem Concerns.nothing (hpending : (op.apply w.table).pendingRelays = w.table.pendingRelays)
    (hreleased : (op.apply w.table).relaysReleasedBeforeEnqueue =
      w.table.relaysReleasedBeforeEnqueue)
    (hsettled : settlements w.table op = []) : Concerns w op [] fun _ => False := by
  constructor
  case others => exact fun key _ => by rw [hpending]
  case stays => exact fun key hkey _ => by rwa [hreleased]
  case released => exact fun key hkey => .inl (by rwa [hreleased] at hkey)
  all_goals simp [hsettled]

section

variable {extra : List Goodbye}
  (hreleased : (op.apply w.table).relaysReleasedBeforeEnqueue =
      w.table.relaysReleasedBeforeEnqueue ∨
    (op.apply w.table).relaysReleasedBeforeEnqueue = w.table.relaysReleasedBeforeEnqueue.erase key)
  (hmeant : ∀ goodbye ∈ extra, Meant w (· = key) goodbye)
include hreleased hmeant

/-- A lock section on the relay of one key. -/
theorem Concerns.of_key
    (hothers : ∀ other ≠ key,
      (op.apply w.table).pendingRelays.get other = w.table.pendingRelays.get other)
    (hkept : ∀ entry', (op.apply w.table).pendingRelays.get key = some entry' →
      ∃ entry, w.table.pendingRelays.get key = some entry ∧ entry'.sender = entry.sender ∧
        entry'.reservation = entry.reservation ∧ entry'.deadline = entry.deadline)
    (hsettled : ∀ answer ∈ settlements w.table op, ∃ entry,
      w.table.pendingRelays.get key = some entry ∧ answer.1 = entry.sender) :
    Concerns w op extra (· = key) := by
  constructor
  case others => exact hothers
  case kept =>
    rintro _ entry' rfl hp
    exact hkept entry' hp
  case stays =>
    intro other hother hne
    rcases hreleased with heq | heq
    · rwa [heq]
    · rw [heq]
      exact Finset.mem_erase.mpr ⟨hne, hother⟩
  case released =>
    intro other hother
    left
    rcases hreleased with heq | heq
    · rwa [heq] at hother
    · rw [heq] at hother
      exact Finset.mem_of_mem_erase hother
  case settled =>
    intro answer hanswer
    obtain ⟨entry, hp, hsender⟩ := hsettled answer hanswer
    exact ⟨key, entry, rfl, hp, hsender⟩
  case meant => exact hmeant

/-- A lock section that leaves every relay pending. -/
theorem Concerns.of_same (hpending : (op.apply w.table).pendingRelays = w.table.pendingRelays)
    (hsettled : settlements w.table op = []) : Concerns w op extra (· = key) := by
  refine .of_key hreleased hmeant ?_ ?_ (by simp [hsettled])
  · exact fun other _ => by rw [hpending]
  · exact fun entry' hp => ⟨entry', by rwa [hpending] at hp, rfl, rfl, rfl⟩

end

/-- The lock section is nothing to the other opens. -/
theorem Concerns.moves (hconcerns : Concerns w op extra own) (h : Coherent w)
    (honce : (created (w.calls ++ [op])).Nodup) (ho : w.opens.get id = some o)
    (hother : ¬own o.key) : Moves (view w id o) (view (callWith w op extra) id o) := by
  refine Untouched.moves h honce ho ⟨hconcerns.others _ hother, ?_, ?_, ?_⟩
  · refine ⟨fun hmem => ?_, fun hmem => hconcerns.stays _ hmem hother⟩
    exact (hconcerns.released _ hmem).resolve_right fun ⟨_, hown, _⟩ => hother hown
  · refine List.filter_eq_nil_iff.mpr fun answer hanswer hid => ?_
    obtain ⟨key, entry, hown, hp, hsender⟩ := hconcerns.settled answer hanswer
    rw [hsender, decide_eq_true_eq, h.sender_iff ho hp] at hid
    exact hother (hid ▸ hown)
  refine List.count_eq_zero.mpr fun hmem => ?_
  obtain ⟨goodbye, hgoodbye, hhandle⟩ := List.mem_map.mp hmem
  obtain ⟨id', o', ho', hown, hmeant, -⟩ := hconcerns.meant goodbye hgoodbye
  rw [hmeant, Option.some.injEq] at hhandle
  obtain ⟨-, rfl⟩ := h.same ho' ho (.inr hhandle)
  exact hother hown

/-- A registration replaces only a module that the registry has let go. -/
def Replaces (w : World) (op : Op) : Prop :=
  ∀ registration, op = .registerModuleConnection registration → ∀ module,
    w.table.modulesById.get registration.moduleId = some module →
    module.endpoint.connectionId ∈ w.deregistered

/-- A relay that stays pending keeps its module's slot, unless the registry
has let the module go. -/
theorem slotted_call (h : Coherent w) (hguard : Replaces w op)
    (hp : (op.apply w.table).pendingRelays.get key = some entry)
    (hslotted : Slotted w.table key.1) :
    Slotted (op.apply w.table) key.1 ∨ key.1.connectionId ∈ w.deregistered := by
  rcases Op.apply_registry h.inv with hkept | ⟨registration, hop, hslots, -, -⟩ |
    ⟨registration, hop, hslots, -, -⟩ | ⟨connectionId, endpoint, hop, hrole, hslots, -⟩
  · exact .inl (hkept.slotted _ hslotted)
  · rcases hslots _ hslotted with hkept | ⟨module, hactive, hendpoint⟩
    · exact .inl hkept
    right
    rw [← hendpoint]
    exact hguard registration hop module hactive
  · exact .inl (hslots _ hslotted)
  by_cases hkey : key.1 = endpoint
  · have hinv := Op.apply_inv h.inv op
    obtain ⟨moduleId, hid⟩ := hinv.relay_registered hp
    rw [hkey] at hid
    subst hop
    exact absurd hid (by simp [Op.apply, cleanup_unregistered h.inv hrole])
  · exact .inl (hslots _ hkey hslotted)

/-- The lock section keeps the world coherent. -/
theorem Concerns.coherent (hconcerns : Concerns w op extra own) (h : Coherent w)
    (honce : (created (w.calls ++ [op])).Nodup) (hguard : Replaces w op) :
    Coherent (callWith w op extra) := by
  constructor
  case table_eq =>
    change op.apply w.table = run (w.calls ++ [op])
    rw [run_snoc, ← h.table_eq]
  case handles =>
    apply h.handles.snoc
    intro endpoint hcreated hmem
    rw [created_snoc, hcreated] at honce
    exact (List.nodup_append.mp honce).2.2 _ hmem _ (List.mem_singleton.mpr rfl) rfl
  case known =>
    intro id o ho
    obtain ⟨hlt, hallocation⟩ := h.known id o ho
    refine ⟨hlt, ?_⟩
    change o.allocation ∈ allocations (w.calls ++ [op])
    rw [allocations_snoc]
    exact List.mem_append_left _ hallocation
  case corr_below =>
    intro id o ho hregistered
    have hnew := creation?_fresh h honce ho
    exact corr_call h.inv hnew hregistered
      (h.corr_below id o ho (registered_back h.inv hnew hregistered))
  case apart => exact h.apart
  case pending =>
    intro key entry' hp'
    obtain ⟨entry, hp, hsender, hreservation, hdeadline⟩ := hconcerns.relay hp'
    rw [hsender, hreservation, hdeadline]
    exact h.pending key entry hp
  case slotted =>
    intro key entry' hp'
    obtain ⟨entry, hp, -⟩ := hconcerns.relay hp'
    rcases h.slotted key entry hp with hslot | hderegistered
    · exact slotted_call h hguard hp' hslot
    · exact .inr hderegistered
  case released =>
    intro key hkey
    rcases hconcerns.released key hkey with hold | ⟨entry, -, hp⟩
    · exact h.released key hold
    · obtain ⟨o, ho, hkey', -⟩ := h.pending key entry hp
      exact ⟨entry.sender, o, ho, hkey'⟩
  case settled =>
    refine List.forall_mem_append.mpr ⟨h.settled, List.forall_mem_map.mpr ?_⟩
    intro answer hanswer
    obtain ⟨key, pending, -, hp, hsender⟩ := hconcerns.settled answer hanswer
    obtain ⟨o, ho, -⟩ := h.pending key pending hp
    rw [hsender]
    exact (h.known _ o ho).1
  case replies => exact h.replies
  case answers => exact h.answers
  case goodbyes =>
    refine List.forall_mem_append.mpr ⟨h.goodbyes, ?_⟩
    intro goodbye hnew
    obtain ⟨id, o, ho, -, hmeant⟩ := hconcerns.meant goodbye hnew
    exact ⟨id, o, ho, hmeant⟩
  case queued => exact h.queued

/-- A GOODBYE for a pending relay belongs to the relay's open. -/
theorem Coherent.meant_of_pending (h : Coherent w) (hp : w.table.pendingRelays.get key = some entry)
    (hown : own key) (htarget : abandonedRouteTarget w.table entry.reservation = some target) :
    Meant w own ⟨target, w.table.endpointByConnection.get target.connectionId, state⟩ := by
  obtain ⟨o, ho, hkey, hallocation, -⟩ := h.pending key entry hp
  refine ⟨entry.sender, o, ho, hkey ▸ hown, ?_, ?_⟩
  · rw [handle_of_abandoned h.inv htarget, ← hallocation]
    rfl
  have hmodule : entry.reservation.moduleKey = o.allocation.moduleKey := by
    rw [← hallocation]
    rfl
  rw [(abandonedRouteTarget_handle htarget).1, hmodule]
  rfl

/-- A sweep drops the relays of its keys and answers them. -/
theorem Concerns.of_swept (hswept : Swept w.table op keys outcome (op.apply w.table))
    (hmeant : ∀ goodbye ∈ extra, Meant w (· ∈ keys) goodbye) : Concerns w op extra (· ∈ keys) := by
  constructor
  case others =>
    intro key hkey
    rw [hswept.pending, if_neg hkey]
  case kept =>
    intro key entry' hkey hp
    rw [hswept.pending, if_pos hkey] at hp
    cases hp
  case stays => exact fun key hkey _ => (hswept.released key).mpr (.inl hkey)
  case released =>
    intro key hkey
    refine ((hswept.released key).mp hkey).imp_right fun hlisted => ?_
    obtain ⟨entry, hp⟩ := hswept.listed key hlisted.1
    exact ⟨entry, hlisted.1, hp⟩
  case settled =>
    intro answer hanswer
    rw [hswept.answers] at hanswer
    obtain ⟨key, hkey, hfound⟩ := List.mem_filterMap.mp hanswer
    obtain ⟨entry, hp, rfl⟩ := Option.map_eq_some_iff.mp hfound
    exact ⟨key, entry, hkey, hp, rfl⟩
  case meant => exact hmeant

/-- The GOODBYEs of a sweep belong to pending relays. -/
theorem swept_meant (h : Coherent w) (hhands : HandsOut w.table op keys) :
    ∀ goodbye ∈ handedOut w.table op, Meant w (· ∈ keys) goodbye := by
  intro goodbye hgoodbye
  rw [handedOut, hhands] at hgoodbye
  obtain ⟨target, htarget, rfl⟩ := List.mem_map.mp hgoodbye
  obtain ⟨key, hkey, hswept⟩ := List.mem_filterMap.mp htarget
  obtain ⟨entry, hp, hfound⟩ := Option.bind_eq_some_iff.mp hswept
  split at hfound
  case isTrue => exact h.meant_of_pending hp hkey hfound
  case isFalse => cases hfound

/-- A sweep answers the opens of its keys. -/
theorem swept_settlements (h : Coherent w) (hswept : Swept w.table op keys outcome inner')
    (ho : w.opens.get id = some o) :
    (settlements w.table op).filter (fun entry => entry.1 = id) =
      if o.key ∈ keys then [(id, outcome)] else [] := by
  rw [hswept.answers, filter_filterMap_single hswept.nodup (a := o.key)]
  · split
    case isTrue hmem =>
      obtain ⟨entry, hp⟩ := hswept.listed _ hmem
      have hsender := (h.sender_iff ho hp).mpr rfl
      simp [sweptAnswer, hp, hsender]
    case isFalse => rfl
  · intro key hkey answer hanswer htest
    obtain ⟨entry, hp⟩ := hswept.listed _ hkey
    rw [sweptAnswer, hp] at hanswer
    cases hanswer
    exact (h.sender_iff ho hp).mp (of_decide_eq_true htest)

/-- The GOODBYE a sweep hands out for a key, with the handle it is meant for. -/
theorem sweptTarget_handle (h : Coherent w) (hp : w.table.pendingRelays.get key = some entry) :
    (sweptTarget w.table key).map (fun target => (Goodbye.mk target
        (w.table.endpointByConnection.get target.connectionId) .held).handle) =
      if entry.relayEnqueued = true ∧ abandonedRouteTarget w.table entry.reservation ≠ none then
        some (some (entry.reservation.moduleKey, entry.reservation.moduleEpoch))
      else none := by
  rw [sweptTarget, hp, Option.bind_some]
  cases entry.relayEnqueued with
  | false => simp
  | true =>
    cases htarget : abandonedRouteTarget w.table entry.reservation with
    | none => simp
    | some => simp [handle_of_abandoned h.inv htarget .held]

/-- A sweep hands out one GOODBYE for each marked relay whose module is found. -/
theorem swept_goodbyes (h : Coherent w) (hswept : Swept w.table op keys outcome inner')
    (hhands : HandsOut w.table op keys) (ho : w.opens.get id = some o) :
    ((handedOut w.table op).map Goodbye.handle).count (some o.allocation.moduleHandle) =
      if o.key ∈ keys then
        ((w.table.pendingRelays.get o.key).map fun entry => owed entry.relayEnqueued
          (abandonedRouteTarget w.table entry.reservation).isNone).getD 0
      else 0 := by
  have hmap : (handedOut w.table op).map Goodbye.handle = keys.filterMap fun key =>
      (sweptTarget w.table key).map fun target => (Goodbye.mk target
        (w.table.endpointByConnection.get target.connectionId) .held).handle := by
    rw [handedOut, hhands, List.map_map, List.map_filterMap]
    rfl
  rw [hmap, count_filterMap_single hswept.nodup (a := o.key)]
  · split
    case isTrue hmem =>
      obtain ⟨entry, hp⟩ := hswept.listed _ hmem
      have hhandle := (h.handle_iff ho hp).mpr rfl
      rw [sweptTarget_handle h hp, hp, hhandle, Option.map_some, Option.getD_some]
      cases entry.relayEnqueued with
      | false => simp [owed]
      | true =>
        cases abandonedRouteTarget w.table entry.reservation with
        | none | some => simp [owed]
    case isFalse => rfl
  · intro key hkey hsome
    obtain ⟨entry, hp⟩ := hswept.listed _ hkey
    rw [sweptTarget_handle h hp] at hsome
    split at hsome
    case isTrue =>
      simp only [Option.some.injEq] at hsome
      exact (h.handle_iff ho hp).mp hsome
    case isFalse => cases hsome

/-- A sweep is a move of each open it lists and none of the others. -/
theorem swept_moves (h : Coherent w) (honce : (created (w.calls ++ [op])).Nodup)
    (hswept : Swept w.table op keys outcome (op.apply w.table)) (ho : w.opens.get id = some o)
    (hextra : extra = handedOut w.table op ∧ HandsOut w.table op keys ∨
      extra = [] ∧ (o.key ∈ keys → lost (callWith w op extra) o = true)) :
    Moves (view w id o) (view (callWith w op extra) id o) := by
  have hsettled := swept_settlements h hswept ho
  by_cases hmem : o.key ∈ keys
  · obtain ⟨entry, hp⟩ := hswept.listed _ hmem
    have hmark : (view w id o).mark = some entry.relayEnqueued := by simp [view, hp]
    obtain ⟨gone, hgone, hcount⟩ : ∃ gone : Bool,
        (gone = true → lost (callWith w op extra) o = true) ∧
        (extra.map Goodbye.handle).count (some o.allocation.moduleHandle) =
          owed entry.relayEnqueued gone := by
      rcases hextra with ⟨rfl, hhands⟩ | ⟨rfl, hlost⟩
      · refine ⟨(abandonedRouteTarget w.table entry.reservation).isNone, ?_, ?_⟩
        · intro hnone
          exact lost_callWith h _ honce ho
            (lost_of_no_target h hp (Option.isNone_iff_eq_none.mp hnone))
        · rw [swept_goodbyes h hswept hhands ho, if_pos hmem, hp]
          rfl
      · exact ⟨true, fun _ => hlost hmem, by simp [owed]⟩
    have hreleased : decide (o.key ∈ (op.apply w.table).relaysReleasedBeforeEnqueue) =
        ((view w id o).released || !entry.relayEnqueued) := by
      rw [Bool.eq_iff_iff]
      simp only [decide_eq_true_eq, hswept.released, Bool.or_eq_true, Bool.not_eq_true', view,
        Unsent, hp, Option.some.injEq, exists_eq_left', hmem, true_and]
    rw [view_callWith, hswept.pending, if_pos hmem, hsettled, if_pos hmem, hcount, hreleased]
    exact (moves_lose _ (lost_callWith h extra honce ho)).tail
      (.sweep { view w id o with lost := lost (callWith w op extra) o } entry.relayEnqueued gone
        outcome w.now hmark hswept.refusal hgone)
  · refine (Concerns.of_swept hswept ?_).moves h honce ho hmem
    rcases hextra with ⟨rfl, hhands⟩ | ⟨rfl, -⟩
    · exact swept_meant h hhands
    · simp

/-- Where nothing is abandoned, nothing is handed out. -/
theorem handedOut_nil (hextra : extra = handedOut inner op ∨ extra = [])
    (hempty : abandoned inner op = []) : extra = [] := by
  rcases hextra with rfl | rfl
  · rw [handedOut, hempty, List.map_nil]
  · rfl

/-- The lock sections of other parties are moves of every open. -/
theorem call_moves (h : Coherent w)
    (hop : relayCall op = false) (honce : (created (w.calls ++ [op])).Nodup)
    (hextra : extra = handedOut w.table op ∨ extra = [] ∧ w.shuttingDown = true)
    (ho : w.opens.get id = some o) :
    Moves (view w id o) (view (callWith w op extra) id o) := by
  have hnone := handedOut_nil (hextra.imp_right And.left)
  cases Op.apply_sweep w.table hop with
  | quiet hquiet =>
    rw [hnone hquiet.targets]
    exact (Concerns.nothing hquiet.pending hquiet.released hquiet.answers).moves h honce ho not_false
  | swept keys outcome hswept hhands =>
    apply swept_moves h honce hswept ho
    rcases hextra with rfl | ⟨rfl, hshutting⟩
    · exact .inl ⟨rfl, hhands⟩
    refine .inr ⟨rfl, fun _ => ?_⟩
    rw [lost_iff]
    exact .inr (.inr (.inr hshutting))
  | removed connectionId endpoint keys outcome hop' hrole hkeys hswept hempty =>
    apply swept_moves h honce hswept ho
    refine .inr ⟨hnone hempty, ?_⟩
    intro hmem
    rw [lost_iff]
    left
    have hendpoint : o.relay.endpoint = endpoint := ((hkeys _).mp hmem).1
    subst hop'
    rw [hendpoint]
    exact cleanup_unregistered h.inv hrole

/-- A lock section of another party keeps the world coherent. -/
theorem Coherent.call (h : Coherent w)
    (hcallable : w.callable op = true) (honce : (created (w.calls ++ [op])).Nodup)
    (hextra : extra = handedOut w.table op ∨ extra = []) : Coherent (callWith w op extra) := by
  have hop := relayCall_of_callable hcallable
  have hguard : Replaces w op := by
    rintro registration rfl module hactive
    simp only [World.callable, relayCall, hactive, Option.all_some, Bool.not_false,
      Bool.true_and, Bool.and_eq_true, decide_eq_true_eq] at hcallable
    exact hcallable.2
  have hnone := handedOut_nil hextra
  cases Op.apply_sweep w.table hop with
  | quiet hquiet =>
    rw [hnone hquiet.targets]
    exact (Concerns.nothing hquiet.pending hquiet.released hquiet.answers).coherent h honce hguard
  | swept keys outcome hswept hhands =>
    refine (Concerns.of_swept hswept ?_).coherent h honce hguard
    rcases hextra with rfl | rfl
    · exact swept_meant h hhands
    · simp
  | removed connectionId endpoint keys outcome hop' hrole hkeys hswept hempty =>
    refine (Concerns.of_swept hswept ?_).coherent h honce hguard
    simp [hnone hempty]

end Subconscious.RelayCoherence
