import Subconscious.ForwardingEndings
import Subconscious.ForwardingHandles
import Subconscious.ForwardingRoutes

/-!
# What can be read off the forwarding table

The data plane and the polls only read the table. In every run they agree with each other,
and once a connection is cleaned up nothing of it is left to read.
-/

namespace Subconscious.ForwardingQueries

open HashMaps Protocol ForwardingState ForwardingRelays ForwardingTeardown ForwardingControl
open ForwardingRuns ForwardingInvariant ForwardingFrames ForwardingConsistency ForwardingSteps
open ForwardingRoutes ForwardingEndings ForwardingHandles

/-- A handle leads to a route exactly from the two ends of it. -/
structure Resolves (inner : ForwardingInner) : Prop where
  client : ∀ key epoch route,
    lookupDataRoute inner key.connectionId key.channel epoch = .client (.bound route) ↔
      Bound inner route ∧ route.clientKey = key ∧ route.clientEpoch = epoch
  module : ∀ connectionId channel epoch route,
    lookupDataRoute inner connectionId channel epoch = .module (.bound route) ↔
      Bound inner route ∧ route.moduleEndpoint.connectionId = connectionId ∧
        route.moduleChannel = channel ∧ route.moduleEpoch = epoch

theorem run_resolves (ops : List Op) : Resolves (run ops) := by
  have h := run_inv ops
  generalize run ops = inner at h
  refine ⟨fun key epoch route => ⟨?_, ?_⟩, fun connectionId channel epoch route => ⟨?_, ?_⟩⟩
  · intro hlookup
    obtain ⟨hget, hepoch⟩ := lookupDataRoute_client_bound hlookup
    obtain ⟨rfl, hmodule⟩ := h.bindings.ofLeft key route hget
    exact ⟨⟨hget, hmodule⟩, rfl, hepoch⟩
  · rintro ⟨⟨hget, -⟩, rfl, rfl⟩
    have hrole := h.bound_role _ _ hget
    simp [lookupDataRoute, hrole, hget, slotState]
  · intro hlookup
    cases hrole : inner.endpointByConnection.get connectionId with
    | none =>
      rw [lookupDataRoute, hrole] at hlookup
      cases hlookup
    | some endpoint =>
      obtain ⟨hget, hepoch⟩ := lookupDataRoute_module_bound
        (show _ = some (ModuleRouteKey.mk endpoint channel).endpoint from hrole) hlookup
      obtain ⟨hkey, hclient⟩ := h.bindings.ofRight _ route hget
      cases hkey
      exact ⟨⟨hclient, hget⟩, (h.endpoint_registered _ _ hrole).1, rfl, hepoch⟩
  · rintro ⟨⟨-, hget⟩, rfl, rfl, rfl⟩
    have hrole := h.registered_endpoint _ (h.bound_registered _ _ hget)
    unfold RouteBinding.moduleKey at hget hrole
    simp [lookupDataRoute, hrole, hget, slotState]

/-- What a poll of a route sees. -/
inductive RoutePollSnapshot where
  | absent
  | bound (moduleId : String) (status : Option String)
  deriving DecidableEq, Repr

/-- Poll a route by its handle. -/
def routePollSnapshot (inner : ForwardingInner) (key : ClientRouteKey) (epoch : UInt32) :
    RoutePollSnapshot :=
  match inner.clientToModule.get key with
  | none => .absent
  | some route =>
    if route.clientEpoch ≠ epoch ∨ ¬ inner.moduleIdByEndpoint.contains route.moduleEndpoint then
      .absent
    else .bound route.moduleId (inner.status.get (key, epoch))

/-- A poll finds the route that a frame with the same handle finds. -/
theorem polls_agree (ops : List Op) (key : ClientRouteKey) (epoch : UInt32) :
    routePollSnapshot (run ops) key epoch =
      match lookupDataRoute (run ops) key.connectionId key.channel epoch with
      | .client (.bound route) => .bound route.moduleId ((run ops).status.get (key, epoch))
      | _ => .absent := by
  have h := run_inv ops
  generalize run ops = inner at h
  unfold routePollSnapshot lookupDataRoute
  cases hget : inner.clientToModule.get key with
  | none =>
    cases inner.endpointByConnection.get key.connectionId with
    | none =>
      simp only [hget, slotState]
      split_ifs <;> rfl
    | some => rfl
  | some route =>
    have hrole := h.bound_role key route hget
    obtain ⟨-, hmodule⟩ := h.bindings.ofLeft key route hget
    obtain ⟨moduleId, hid⟩ := h.bound_registered _ _ hmodule
    unfold RouteBinding.moduleKey at hid
    by_cases hepoch : route.clientEpoch = epoch <;> simp [hrole, hget, hid, slotState, hepoch]

/-- A call ends the routes that it closes, and only the reply that publishes a route adds it. -/
structure RoutesMove (inner : ForwardingInner) (op : Op) : Prop where
  kept : ∀ key route, inner.clientToModule.get key = some route →
    ((op.apply inner).clientToModule.get key = some route ↔ closes inner route op = false)
  added : ∀ key route, (op.apply inner).clientToModule.get key = some route →
    inner.clientToModule.get key = some route ∨ PublishedBy inner op route

theorem run_routesMove (ops : List Op) (op : Op) : RoutesMove (run ops) op := by
  have h := run_inv ops
  refine ⟨fun key route hroute => ⟨fun hstays => ?_, Op.apply_keepsRoute h hroute⟩,
    (Op.apply_origins h op).routes⟩
  cases hreply : isReply op with
  | false =>
    rw [(Op.apply_filtered h hreply).client, Option.filter_eq_some_iff] at hstays
    simpa using hstays.2
  | true => cases op <;> first | rfl | cases hreply

/-- Nothing that routes frames or binds names the connection. -/
structure Forgotten (inner : ForwardingInner) (connectionId : ConnectionId) : Prop where
  endpoints : ∀ endpoint, Registered inner endpoint → endpoint.connectionId ≠ connectionId
  routes : ∀ route, Bound inner route → route.clientConnectionId ≠ connectionId ∧
    route.moduleEndpoint.connectionId ≠ connectionId
  relays : ∀ key pending, inner.pendingRelays.get key = some pending →
    pending.reservation.clientKey.connectionId ≠ connectionId ∧ key.1.connectionId ≠ connectionId
  reserved : ∀ clientKey moduleKey, inner.reservedClient.get clientKey = some moduleKey →
    clientKey.connectionId ≠ connectionId ∧ moduleKey.endpoint.connectionId ≠ connectionId
  closing : connectionId ∉ inner.closingConnections

section

variable {inner : ForwardingInner} (h : TableInv inner)
include h

theorem cleanup_registered (hregistered :
    Registered (Op.apply inner (.cleanupConnection connectionId)) endpoint) :
    endpoint.connectionId ≠ connectionId := by
  intro hsame
  have hrole := (Op.apply_inv h _).registered_endpoint endpoint hregistered
  have hstep := Op.apply_step h (.cleanupConnection connectionId)
  rw [hsame] at hrole
  generalize Op.apply inner (.cleanupConnection connectionId) = inner' at *
  cases hstep with
  | moved _ _ hop => cases hop
  | idle _ hop => rcases hop with hop | hop <;> cases hop
  | marked _ _ hop => cases hop
  | forgotten _ _ hnone hmoved =>
    rw [forgetClientSlots, hmoved.rest] at hrole
    cases hnone.symm.trans hrole
  | removed _ _ _ hmoved =>
    rw [hmoved.rest] at hrole
    simp [forgetEndpoint] at hrole

theorem cleanup_relays (hpending :
    (Op.apply inner (.cleanupConnection connectionId)).pendingRelays.get key = some pending) :
    pending.reservation.clientKey.connectionId ≠ connectionId := by
  rintro rfl
  cases hrole : inner.endpointByConnection.get pending.reservation.clientKey.connectionId with
  | none =>
    have hswept := fun inner => (cleanupClientConnectionLocked_swept inner
      pending.reservation.clientKey.connectionId).1.pending key
    simp only [Op.apply, cleanupConnectionCounted, hrole, hswept] at hpending
    split at hpending
    case isTrue => cases hpending
    case isFalse hkept =>
      refine hkept (List.mem_map.mpr ⟨(key, pending), List.mem_filter.mpr ⟨?_, by simp⟩, rfl⟩)
      exact (HashMap.mem_toList _ _ _).mpr hpending
  | some endpoint =>
    rcases (Op.apply_origins h _).relays key pending hpending with
      ⟨was, hwas, hsame⟩ | ⟨_, _, _, _, hop, -⟩
    · have hfree := h.reserved_role _ _ (h.reserved hwas)
      rcases hsame with rfl | rfl
      all_goals cases hrole.symm.trans hfree
    · cases hop

end

theorem cleanup_forgets (ops : List Op) (connectionId : ConnectionId) :
    Forgotten (run (ops ++ [.cleanupConnection connectionId])) connectionId := by
  have h := run_inv ops
  have h' := Op.apply_inv h (.cleanupConnection connectionId)
  rw [run_snoc]
  refine ⟨fun endpoint => cleanup_registered h, ?_, ?_, ?_, ?_⟩
  · rintro route ⟨hclient, hmodule⟩
    refine ⟨?_, cleanup_registered h (h'.bound_registered _ _ hmodule)⟩
    rintro rfl
    rw [Op.apply, (cleanupConnectionCounted_filtered h _).client,
      Option.filter_eq_some_iff] at hclient
    have hrole : (run ops).endpointByConnection.get route.clientConnectionId = none :=
      h.bound_role _ _ hclient.1
    simp [closes, hrole] at hclient
  · exact fun key pending hpending =>
      ⟨cleanup_relays h hpending, cleanup_registered h (h'.relay_registered hpending)⟩
  · intro clientKey moduleKey hreserved
    obtain ⟨key, pending, hpending, rfl, rfl⟩ := (h'.reserved_iff _ _).mp hreserved
    rw [h'.relay_endpoint key pending hpending]
    exact ⟨cleanup_relays h hpending, cleanup_registered h (h'.relay_registered hpending)⟩
  · exact Finset.notMem_erase _ _

end Subconscious.ForwardingQueries
