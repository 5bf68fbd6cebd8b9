import Subconscious.ForwardingSlots

/-!
# Which routes a call closes

Every call but a module's reply filters both route indexes by one test, and a
reply closes nothing. The test names the routes by handle, by endpoint, by
connection or by the scope changes that select them.
-/

namespace Subconscious.ForwardingRoutes

open HashMaps HashMap Protocol ScopeChanges ForwardingState ForwardingRelays ForwardingTeardown
open ForwardingControl ForwardingRuns ForwardingInvariant ForwardingFrames ForwardingConsistency
open ForwardingSteps

variable {inner : ForwardingInner}

/-- Whether a call closes a bound route. -/
def closes (inner : ForwardingInner) (route : RouteBinding) : Op → Bool
  | .releaseClientRoute connectionId channel epoch =>
    route.clientKey = ⟨connectionId, channel⟩ && route.clientEpoch = epoch
  | .releaseModuleRoute connectionId channel epoch =>
    (inner.endpointByConnection.get connectionId).any fun endpoint =>
      route.moduleKey = ⟨endpoint, channel⟩ && route.moduleEpoch = epoch
  | .releaseModuleEndpointRoutes endpoint => route.moduleEndpoint = endpoint
  | .cleanupConnection connectionId =>
    match inner.endpointByConnection.get connectionId with
    | some endpoint => route.moduleEndpoint = endpoint
    | none => route.clientConnectionId = connectionId
  | .publishScopeChanges changes => (selectRoute (changesByScope changes) route).isSome
  | _ => false

/-- The routes a scope call selects are the ones its changes select. -/
theorem mem_selectedRoutes :
    selected ∈ selectedRoutes inner changes ↔
      ∃ route, inner.clientToModule.get selected.1 = some route ∧
        selectRoute (changesByScope changes) route = some selected.2.2 ∧
        selected.2.1 = route.clientEpoch := by
  unfold selectedRoutes
  rw [List.mem_filterMap]
  constructor
  · rintro ⟨⟨key, route⟩, hmem, heq⟩
    obtain ⟨reason, hreason, rfl⟩ := Option.map_eq_some_iff.mp heq
    exact ⟨route, (mem_toList _ _ _).mp hmem, hreason, rfl⟩
  · rintro ⟨route, hroute, hreason, hepoch⟩
    refine ⟨(selected.1, route), (mem_toList _ _ _).mpr hroute, ?_⟩
    rw [hreason, Option.map_some, ← hepoch]

/-- Publishing scope changes closes exactly the routes they select. -/
theorem publishScopeChanges_filtered (h : RoutesMirrored inner) (changes : List ScopeTagChange) :
    RoutesFiltered (fun route => !(selectRoute (changesByScope changes) route).isSome) inner
      (publishScopeChanges inner changes).inner := by
  have hfiltered := (publishScopeChanges_releases inner changes).filtered h
  refine filtered_congr h ⟨hfiltered.client, hfiltered.module⟩ ?_
  intro route hroute
  rw [Bool.not_inj_iff, Bool.eq_iff_iff, List.any_eq_true, Option.isSome_iff_exists]
  constructor
  · rintro ⟨selected, hmem, heq⟩
    obtain ⟨found, hfound, hreason, -⟩ := mem_selectedRoutes.mp hmem
    rw [← of_decide_eq_true (Bool.and_elim_left heq), hroute.1] at hfound
    cases hfound
    exact ⟨selected.2.2, hreason⟩
  · rintro ⟨reason, hreason⟩
    exact ⟨(route.clientKey, route.clientEpoch, reason),
      mem_selectedRoutes.mpr ⟨route, hroute.1, hreason, rfl⟩, by simp⟩

/-- A teardown closes the routes of the connection, by the role it has. -/
theorem cleanupConnectionCounted_filtered (h : TableInv inner) (connectionId : ConnectionId) :
    RoutesFiltered (fun route => !closes inner route (.cleanupConnection connectionId)) inner
      (cleanupConnectionCounted inner connectionId).inner := by
  have hstep := cleanupConnectionCounted_step h connectionId
  generalize (cleanupConnectionCounted inner connectionId).inner = inner' at hstep ⊢
  cases hstep with
  | moved _ _ hop => cases hop
  | idle _ hop => rcases hop with hop | hop <;> cases hop
  | marked _ _ hop => cases hop
  | forgotten _ _ hrole _ hroutes =>
    simp only [closes, hrole]
    exact ⟨hroutes.client, hroutes.module⟩
  | removed _ _ hrole _ hroutes =>
    simp only [closes, hrole, ← decide_not]
    exact hroutes

/-- A call that is not a reply. -/
def isReply : Op → Bool
  | .completePendingRelay _ _ _ _ => true
  | _ => false

/-- Every call but a reply filters the routes by the test of what it closes. -/
theorem Op.apply_filtered (h : TableInv inner) (hop : isReply op = false) :
    RoutesFiltered (fun route => !closes inner route op) inner (op.apply inner) := by
  by_cases haloof : aloofCall op = true
  · have hcloses : (fun route => !closes inner route op) = fun _ => true := by
      cases op <;> first | rfl | cases haloof
    have hkept := aloof_keeps inner haloof
    rw [hcloses]
    exact filtered_of_same hkept.clientToModule hkept.moduleToClient
  by_cases hdrain : drainCall op = true
  · have hcloses : (fun route => !closes inner route op) = fun _ => true := by
      cases op <;> first | rfl | cases hdrain
    rw [hcloses]
    rcases drain_cases hdrain with ⟨hidle, -⟩ | ⟨_, _, _, _, hdrained, -⟩
    · rw [hidle]
      exact filtered_of_same rfl rfl
    · rw [hdrained]
      apply filtered_of_same <;> rw [beginDrainLocked_relaysOnly]
  cases op with
  | beginRouteBindRelay request =>
    rcases beginRouteBindRelayInner_cases h with ⟨err, -, hrefused⟩ | ⟨relay, -, hreserved⟩
    · apply filtered_of_same <;> rw [Op.apply, hrefused]
    · apply filtered_of_same <;> rw [Op.apply, hreserved.rest]
  | markRouteBindRelayEnqueued =>
    simp only [Op.apply, ForwardingRelays.markRouteBindRelayEnqueued]
    split
    case isTrue => exact filtered_of_same rfl rfl
    case isFalse =>
      split
      case isTrue | isFalse => exact filtered_of_same rfl rfl
  | abortPendingRelay endpoint corr =>
    simp only [Op.apply, ForwardingRelays.abortPendingRelay]
    cases inner.pendingRelays.get (endpoint, corr) with
    | none | some => exact filtered_of_same rfl rfl
  | completePendingRelay => cases hop
  | releaseClientRoute connectionId channel epoch =>
    exact (releaseClientRouteLocked_released inner).filtered h.bindings
  | releaseModuleRoute connectionId channel epoch =>
    simp only [Op.apply, ForwardingRelays.releaseModuleRoute, closes]
    cases inner.endpointByConnection.get connectionId with
    | none => exact filtered_of_same rfl rfl
    | some endpoint => exact (releaseModuleRouteLocked_released inner).filtered h.bindings
  | releaseModuleEndpointRoutes endpoint =>
    have hfiltered := releaseEndpointRoutesLocked_filtered h.bindings endpoint
    refine filtered_congr h.bindings hfiltered ?_
    intro route _
    simp only [closes, ne_eq, decide_not]
  | cleanupConnection connectionId => exact cleanupConnectionCounted_filtered h connectionId
  | publishScopeChanges changes => exact publishScopeChanges_filtered h.bindings changes
  | beginModuleDrain | beginEndpointDrain => exact absurd rfl hdrain
  | _ => exact absurd rfl haloof

/-- A reply closes no bound route: its own pair was reserved, hence free. -/
theorem completePendingRelay_keepsRoutes (h : TableInv inner)
    (hroute : inner.clientToModule.get key = some route) :
    (completePendingRelay inner connectionId corr outcome reads).inner.clientToModule.get key =
      some route := by
  rcases completePendingRelay_cases h with ⟨heq, -⟩ | hended
  · rw [heq]
    exact hroute
  obtain ⟨endpoint, pending, -, hpending, hcompleted⟩ := hended
  generalize completePendingRelay inner connectionId corr outcome reads = step at hcompleted
  have hfree : key ≠ pending.reservation.clientKey := by
    rintro rfl
    have hreserved := (h.reserved_iff _ _).mpr ⟨(endpoint, corr), pending, hpending, rfl, rfl⟩
    rw [h.client_free _ _ hreserved] at hroute
    cases hroute
  cases hcompleted with
  | refused | stale => exact hroute
  | published moduleId module frame =>
    have hne : key ≠ (committedBinding pending moduleId module reads).clientKey := hfree
    unfold publishRoute
    dsimp only
    split
    case isTrue =>
      simp only [retractBinding, installBinding, takeRelay, get_remove, get_insert, if_neg hne]
      exact hroute
    case isFalse =>
      simp only [installBinding, takeRelay, get_insert, if_neg hne]
      exact hroute

/-- A route that a call does not close stays bound under its handle. -/
theorem Op.apply_keepsRoute (h : TableInv inner)
    (hroute : inner.clientToModule.get key = some route) (hopen : closes inner route op = false) :
    (op.apply inner).clientToModule.get key = some route := by
  cases hreply : isReply op with
  | false =>
    rw [(Op.apply_filtered h hreply).client, hroute]
    exact Option.filter_eq_some_iff.mpr ⟨rfl, by rw [hopen]; rfl⟩
  | true =>
    cases op with
    | completePendingRelay connectionId corr outcome reads =>
      exact completePendingRelay_keepsRoutes h hroute
    | _ => cases hreply

end Subconscious.ForwardingRoutes
