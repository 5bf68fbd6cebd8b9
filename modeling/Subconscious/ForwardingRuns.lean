import Subconscious.ForwardingControl

/-!
# Runs of the forwarding table

Every entry point that takes the write lock is one operation, with its
arguments and what it reads from outside. A run is any sequence of them, in
any order and with any arguments, from the empty table.
-/

namespace Subconscious.ForwardingRuns

open Protocol ScopeChanges ForwardingState ForwardingOperations ForwardingRelays ForwardingTeardown
open ForwardingControl

/-- One call of the forwarding table. -/
inductive Op where
  | registerModuleConnection (registration : Registration)
  | registerCandidateModuleConnection (registration : Registration)
  | cutoverCandidate (moduleId : String)
  | beginRouteBindRelay (request : RelayRequest)
  | markRouteBindRelayEnqueued (endpoint : ModuleEndpointId) (corr : UInt64)
  | abortPendingRelay (endpoint : ModuleEndpointId) (corr : UInt64)
      (outcome : RouteBindRelayOutcome)
  | completePendingRelay (connectionId : ConnectionId) (corr : UInt64)
      (outcome : RouteBindRelayOutcome) (reads : CompletionReads)
  | releaseClientRoute (connectionId : ConnectionId) (channel : UInt16) (epoch : UInt32)
  | releaseModuleRoute (connectionId : ConnectionId) (channel : UInt16) (epoch : UInt32)
  | releaseModuleEndpointRoutes (endpoint : ModuleEndpointId)
  | beginModuleDrain (moduleId : String) (reason : RouteCloseReason) (exclusions : FlowId → Nat)
  | beginEndpointDrain (endpoint : ModuleEndpointId) (reason : RouteCloseReason)
      (exclusions : FlowId → Nat)
  | beginDaemonDrain
  | recordDaemonDrainResult (endpoint : ModuleEndpointId) (drained : Bool)
  | cleanupConnection (connectionId : ConnectionId)
  | escalateClientDeliveryFailure (connectionId : ConnectionId) (channel : UInt16)
      (epoch : UInt32) (code message : String)
  | publishScopeChanges (changes : List ScopeTagChange)
  | beginModuleControlRpc (moduleId : String) (request : ControlRpcRequest)
  | beginEndpointHealthProbeRpc (endpoint : ModuleEndpointId) (request : ControlRpcRequest)
  | cancelModuleControlRpc (endpoint : ModuleEndpointId) (corr : UInt64)
  | tombstoneHealthProbeRpc (endpoint : ModuleEndpointId) (corr : UInt64) (now : Instant)
  | expireHealthProbeTombstone (key : ControlKey) (now : Instant)
  | completeModuleControlRpc (connectionId : ConnectionId) (corr : UInt64)
      (actualOp : Option String) (outcome : ModuleControlRpcOutcome) (now : Instant)
  | cacheStatus (endpoint : ModuleEndpointId) (channel : UInt16) (epoch : UInt32) (status : String)

/-- The table after one call. -/
def Op.apply (inner : ForwardingInner) : Op → ForwardingInner
  | .registerModuleConnection registration =>
    (registerModuleConnectionInner inner registration).inner
  | .registerCandidateModuleConnection registration =>
    (registerCandidateModuleConnectionInner inner registration).inner
  | .cutoverCandidate moduleId => (ForwardingOperations.cutoverCandidate inner moduleId).inner
  | .beginRouteBindRelay request => (beginRouteBindRelayInner inner request).inner
  | .markRouteBindRelayEnqueued endpoint corr =>
    (ForwardingRelays.markRouteBindRelayEnqueued inner endpoint corr).inner
  | .abortPendingRelay endpoint corr outcome =>
    (ForwardingRelays.abortPendingRelay inner endpoint corr outcome).inner
  | .completePendingRelay connectionId corr outcome reads =>
    (ForwardingRelays.completePendingRelay inner connectionId corr outcome reads).inner
  | .releaseClientRoute connectionId channel epoch =>
    (ForwardingRelays.releaseClientRoute inner connectionId channel epoch).inner
  | .releaseModuleRoute connectionId channel epoch =>
    (ForwardingRelays.releaseModuleRoute inner connectionId channel epoch).inner
  | .releaseModuleEndpointRoutes endpoint =>
    (ForwardingRelays.releaseModuleEndpointRoutes inner endpoint).inner
  | .beginModuleDrain moduleId reason exclusions =>
    (ForwardingTeardown.beginModuleDrain inner moduleId reason exclusions).inner
  | .beginEndpointDrain endpoint reason exclusions =>
    (ForwardingTeardown.beginEndpointDrain inner endpoint reason exclusions).inner
  | .beginDaemonDrain => (ForwardingTeardown.beginDaemonDrain inner).inner
  | .recordDaemonDrainResult endpoint drained =>
    (ForwardingTeardown.recordDaemonDrainResult inner endpoint drained).inner
  | .cleanupConnection connectionId => (cleanupConnectionCounted inner connectionId).inner
  | .escalateClientDeliveryFailure connectionId channel epoch code message =>
    (ForwardingTeardown.escalateClientDeliveryFailure inner connectionId channel epoch code
      message).inner
  | .publishScopeChanges changes => (ForwardingControl.publishScopeChanges inner changes).inner
  | .beginModuleControlRpc moduleId request =>
    (beginModuleControlRpcInner inner moduleId request).inner
  | .beginEndpointHealthProbeRpc endpoint request =>
    (ForwardingControl.beginEndpointHealthProbeRpc inner endpoint request).inner
  | .cancelModuleControlRpc endpoint corr =>
    (ForwardingControl.cancelModuleControlRpc inner endpoint corr).inner
  | .tombstoneHealthProbeRpc endpoint corr now =>
    (ForwardingControl.tombstoneHealthProbeRpc inner endpoint corr now).inner
  | .expireHealthProbeTombstone key now =>
    (ForwardingControl.expireHealthProbeTombstone inner key now).inner
  | .completeModuleControlRpc connectionId corr actualOp outcome now =>
    (ForwardingControl.completeModuleControlRpc inner connectionId corr actualOp outcome now).inner
  | .cacheStatus endpoint channel epoch status =>
    (ForwardingControl.cacheStatus inner endpoint channel epoch status).inner

/-- What one call does to objects outside the table, in order. -/
def Op.effects (inner : ForwardingInner) : Op → List Effect
  | .registerModuleConnection registration =>
    (registerModuleConnectionInner inner registration).effects
  | .registerCandidateModuleConnection registration =>
    (registerCandidateModuleConnectionInner inner registration).effects
  | .cutoverCandidate moduleId => (ForwardingOperations.cutoverCandidate inner moduleId).effects
  | .beginRouteBindRelay request => (beginRouteBindRelayInner inner request).effects
  | .markRouteBindRelayEnqueued endpoint corr =>
    (ForwardingRelays.markRouteBindRelayEnqueued inner endpoint corr).effects
  | .abortPendingRelay endpoint corr outcome =>
    (ForwardingRelays.abortPendingRelay inner endpoint corr outcome).effects
  | .completePendingRelay connectionId corr outcome reads =>
    (ForwardingRelays.completePendingRelay inner connectionId corr outcome reads).effects
  | .releaseClientRoute connectionId channel epoch =>
    (ForwardingRelays.releaseClientRoute inner connectionId channel epoch).effects
  | .releaseModuleRoute connectionId channel epoch =>
    (ForwardingRelays.releaseModuleRoute inner connectionId channel epoch).effects
  | .releaseModuleEndpointRoutes endpoint =>
    (ForwardingRelays.releaseModuleEndpointRoutes inner endpoint).effects
  | .beginModuleDrain moduleId reason exclusions =>
    (ForwardingTeardown.beginModuleDrain inner moduleId reason exclusions).effects
  | .beginEndpointDrain endpoint reason exclusions =>
    (ForwardingTeardown.beginEndpointDrain inner endpoint reason exclusions).effects
  | .beginDaemonDrain => (ForwardingTeardown.beginDaemonDrain inner).effects
  | .recordDaemonDrainResult endpoint drained =>
    (ForwardingTeardown.recordDaemonDrainResult inner endpoint drained).effects
  | .cleanupConnection connectionId => (cleanupConnectionCounted inner connectionId).effects
  | .escalateClientDeliveryFailure connectionId channel epoch code message =>
    (ForwardingTeardown.escalateClientDeliveryFailure inner connectionId channel epoch code
      message).effects
  | .publishScopeChanges changes => (ForwardingControl.publishScopeChanges inner changes).effects
  | .beginModuleControlRpc moduleId request =>
    (beginModuleControlRpcInner inner moduleId request).effects
  | .beginEndpointHealthProbeRpc endpoint request =>
    (ForwardingControl.beginEndpointHealthProbeRpc inner endpoint request).effects
  | .cancelModuleControlRpc endpoint corr =>
    (ForwardingControl.cancelModuleControlRpc inner endpoint corr).effects
  | .tombstoneHealthProbeRpc endpoint corr now =>
    (ForwardingControl.tombstoneHealthProbeRpc inner endpoint corr now).effects
  | .expireHealthProbeTombstone key now =>
    (ForwardingControl.expireHealthProbeTombstone inner key now).effects
  | .completeModuleControlRpc connectionId corr actualOp outcome now =>
    (ForwardingControl.completeModuleControlRpc inner connectionId corr actualOp outcome
      now).effects
  | .cacheStatus endpoint channel epoch status =>
    (ForwardingControl.cacheStatus inner endpoint channel epoch status).effects

/-- The table after a run. -/
def run (ops : List Op) : ForwardingInner := ops.foldl Op.apply .default

/-- A run goes on from where its first part left the table. -/
theorem run_append (p q : List Op) : run (p ++ q) = q.foldl Op.apply (run p) := List.foldl_append

/-- The last call of a run is one step. -/
theorem run_snoc (p : List Op) (op : Op) : run (p ++ [op]) = op.apply (run p) := run_append p [op]

/-- What calls keep in every table that a run reaches, they keep when made one
after the other. -/
theorem run_induction {motive : ForwardingInner → Prop} (before after : List Op)
    (h : motive (run before))
    (hstep : ∀ ops, ∀ op ∈ after, motive (run ops) → motive (op.apply (run ops))) :
    motive (run (before ++ after)) := by
  induction after using List.reverseRecOn with
  | nil =>
    rw [List.append_nil]
    exact h
  | append_singleton after op ih =>
    rw [← List.append_assoc, run_snoc]
    refine hstep _ op (List.mem_append_right _ (List.mem_singleton_self op)) ?_
    exact ih fun ops op hmem => hstep ops op (List.mem_append_left _ hmem)

end Subconscious.ForwardingRuns
