import Subconscious.ScopedTags
import Subconscious.ForwardingRoutes
import Subconscious.ScopeDrains

/-!
# The authority of live routes

A route commits under the very scope it was admitted under, and every later
call closes it unless the changed record still grants what the route carries.
So at every moment the scope of a bound route is live at the route's epoch and
its current record grants the opener the target and speaks for the same agents.
-/

namespace Subconscious.ScopedAuthority

open HashMaps ScopeRecords ScopeChanges ScopeTables ScopeSync ScopeTags ScopeDrains
open ScopeAdmissions ForwardingState ForwardingControl ForwardingSteps
open ForwardingRoutes ScopedWorld ScopedSteps ScopedTags
open ScopeRuns hiding run run_append run_induction
open ForwardingRuns hiding run run_append

/-- A list that names a scope once is read back by its name. -/
theorem changesByScope_get (hnodup : (changes.map ScopeTagChange.key).Nodup)
    {change : ScopeTagChange} (hmem : change ∈ changes) :
    (changesByScope changes).get change.key = some change := by
  have hfold : ∀ (rest : List ScopeTagChange) (map : HashMap (String × String) ScopeTagChange),
      (rest.map ScopeTagChange.key).Nodup →
      (change ∈ rest ∨ (change.key ∉ rest.map ScopeTagChange.key ∧
        map.get change.key = some change)) →
      (rest.foldl (fun map change => map.insert change.key change) map).get change.key =
        some change := by
    intro rest
    induction rest with
    | nil =>
      intro map _ hcase
      rcases hcase with hnil | ⟨-, hget⟩
      · cases hnil
      · exact hget
    | cons first rest ih =>
      intro map hnodup hcase
      rw [List.map_cons, List.nodup_cons] at hnodup
      refine ih _ hnodup.2 ?_
      rcases hcase with hin | ⟨hnot, hget⟩
      · rcases List.mem_cons.mp hin with rfl | hrest
        · exact .inr ⟨hnodup.1, by rw [HashMap.get_insert, if_pos rfl]⟩
        · exact .inl hrest
      · rw [List.map_cons, List.mem_cons, not_or] at hnot
        exact .inr ⟨hnot.2, by rw [HashMap.get_insert, if_neg hnot.1]; exact hget⟩
  exact hfold changes .empty hnodup (.inl hmem)

variable {id : LeaseId}

/-- A route no change selects is spared by all of them. -/
theorem spared_of_selectRoute (hnodup : (changes.map ScopeTagChange.key).Nodup)
    (hscope : route.scope = some scope)
    (hbefore : ∀ change ∈ changes, change.key = scope.key →
      change.before.map ScopeTag.scopeEpoch = some scope.tag.scopeEpoch)
    (h : selectRoute (changesByScope changes) route = none) :
    Spared changes scope.owner scope.scopeRef route.principal route.moduleId := by
  intro change hmem hkey
  have hat : change.key = scope.key := hkey
  unfold selectRoute at h
  rw [hscope] at h
  dsimp only at h
  rw [← hat, changesByScope_get hnodup hmem] at h
  dsimp only at h
  unfold drainReason at h
  rw [if_neg (not_not.mpr (hbefore change hmem hat))] at h
  cases hdrain : change.drain with
  | nothing => rfl
  | all =>
    rw [hdrain] at h
    cases h
  | carriers =>
    rw [hdrain] at h
    dsimp only at h
    split at h
    case isTrue => cases h
    case isFalse hopen => exact Bool.eq_false_iff.mpr hopen

/-- What stays true of a grant. -/
structure GrantOk (world : World) (grant : Grant) : Prop where
  issued : ∃ table, grant.issued = liveStamp table grant.owner grant.selector.scopeRef grant.scope
  grants : Grants grant.owner grant.scope.record grant.opener grant.targetModule
  /-- A live scope at the version of the grant is the granted one. -/
  same : ∀ live, world.scopes.live? grant.owner grant.selector.scopeRef = some live →
    live.version = grant.scope.version → live = grant.scope

/-- A bound route, the grant it came from and the scope that is live. -/
structure RouteOk (world : World) (route : RouteBinding) (scope : BoundScope) (grant : Grant)
    (live : LiveScope) : Prop where
  granted : grantAt world scope.lease = some grant
  bound : scope = grant.bound scope.lease
  principal : route.principal = grant.opener
  moduleId : route.moduleId = grant.targetModule
  current : world.scopes.live? scope.owner scope.scopeRef = some live
  keeps : Keeps scope.owner route.principal route.moduleId grant.scope live

/-- Every bound route has the authority it was admitted with. -/
structure Authorized (world : World) : Prop where
  coherent : Coherent world
  grants : ∀ id grant, grantAt world id = some grant → GrantOk world grant
  routes : ∀ key route scope, world.forwarding.clientToModule.get key = some route →
    route.scope = some scope → ∃ grant live, RouteOk world route scope grant live

section

variable (h : Authorized world)
include h

/-- A live scope with the tag of a grant is the granted one. -/
theorem Authorized.live_of_tag (hgrant : grantAt world id = some grant)
    (htag : world.forwarding.scopeTags.get (grant.owner, grant.selector.scopeRef) =
      some grant.scope.tag) :
    world.scopes.live? grant.owner grant.selector.scopeRef = some grant.scope := by
  rw [h.coherent.published] at htag
  obtain ⟨live, hlive, hsame⟩ := Option.map_eq_some_iff.mp htag
  rw [hlive, (h.grants id grant hgrant).same live hlive (congrArg ScopeTag.version hsame)]

/-- A call of the forwarding table binds only what is granted now. -/
theorem Authorized.call_routes {op : Op}
    (hroute : (op.apply world.forwarding).clientToModule.get key = some route)
    (hscope : route.scope = some scope) : ∃ grant live, RouteOk world route scope grant live := by
  rcases (Op.apply_origins h.coherent.table op).routes key route hroute with
    hbefore | ⟨_, _, _, reads, controlKey, pending, moduleId, module, -, hpending, hready, rfl⟩
  · exact h.routes key route scope hbefore hscope
  obtain ⟨grant, hgrant, hbound, hprincipal, hendpoint⟩ :=
    h.coherent.relays controlKey pending scope hpending hscope
  have htag := scopeRefusalLocked_none (hready.scopeCurrent scope hscope)
  rw [hbound] at htag
  have hmodule : moduleId = grant.targetModule := by
    have hregistered := hready.registered
    rw [hendpoint] at hregistered
    exact (Option.some.inj hregistered).symm
  refine ⟨grant, grant.scope, hgrant, hbound, hprincipal, hmodule, ?_, .refl _⟩
  rw [hbound]
  exact h.live_of_tag hgrant htag

/-- A scope call closes what it revokes. -/
theorem Authorized.publish_routes {op : ScopeOp}
    (hroute : ((Op.publishScopeChanges (op.tagChanges world.scopes)).apply
      world.forwarding).clientToModule.get key = some route) (hscope : route.scope = some scope) :
    ∃ grant before after, RouteOk world route scope grant before ∧
      (op.apply world.scopes).live? scope.owner scope.scopeRef = some after ∧
      Keeps scope.owner route.principal route.moduleId grant.scope after := by
  have hmoved := apply_tagsMoved h.coherent.versioned op
  have hfiltered := publishScopeChanges_filtered h.coherent.table.bindings
    (op.tagChanges world.scopes)
  change (publishScopeChanges _ _).inner.clientToModule.get key = _ at hroute
  rw [hfiltered.client, Option.filter_eq_some_iff] at hroute
  obtain ⟨hbefore, hopen⟩ := hroute
  have hselect : selectRoute (changesByScope (op.tagChanges world.scopes)) route = none := by
    simpa using hopen
  obtain ⟨grant, live, hok⟩ := h.routes key route scope hbefore hscope
  have hepoch : ∀ change ∈ op.tagChanges world.scopes, change.key = scope.key →
      change.before.map ScopeTag.scopeEpoch = some scope.tag.scopeEpoch := by
    intro change hmem hkey
    have howner : change.owner = scope.owner := congrArg Prod.fst hkey
    have href : change.scopeRef = scope.scopeRef := congrArg Prod.snd hkey
    rw [(hmoved.sound change hmem).1, howner, href]
    unfold tagAt
    rw [hok.current, Option.map_some, Option.map_some]
    change some live.record.scopeEpoch = _
    rw [hok.keeps.epoch, hok.bound]
    rfl
  have hspared := spared_of_selectRoute hmoved.nodup hscope hepoch hselect
  obtain ⟨after, hafter, hkeeps⟩ := apply_drainsCover h.coherent.versioned op scope.owner
    scope.scopeRef live route.principal route.moduleId hok.current hspared
  exact ⟨grant, live, after, hok, hafter, hok.keeps.trans hkeeps⟩

variable (event : Event)

/-- After an event every bound route has the authority it was admitted with. -/
theorem Authorized.step_routes
    (hroute : (step world event).forwarding.clientToModule.get key = some route)
    (hscope : route.scope = some scope) :
    ∃ grant live, RouteOk (step world event) route scope grant live := by
  have hgrant : ∀ id grant, grantAt world id = some grant →
      grantAt (step world event) id = some grant := fun _ _ => grantAt_step
  have hstep := step_tables world event
  generalize step world event = world' at hstep hroute hgrant ⊢
  have hkept : (∃ grant live, RouteOk world route scope grant live) →
      (∀ owner scopeRef, world'.scopes.live? owner scopeRef = world.scopes.live? owner scopeRef) →
      ∃ grant live, RouteOk world' route scope grant live := by
    rintro ⟨grant, live, hok⟩ hlive
    exact ⟨grant, live, hgrant _ _ hok.granted, hok.bound, hok.principal, hok.moduleId,
      (hlive _ _).trans hok.current, hok.keeps⟩
  cases hstep with
  | kept hforwarding _ hlive =>
    rw [hforwarding] at hroute
    exact hkept (h.routes key route scope hroute hscope) hlive
  | opened _ _ _ _ _ hforwarding hscopes =>
    rw [hforwarding] at hroute
    exact hkept (h.routes key route scope hroute hscope) fun _ _ => by rw [hscopes]
  | called _ _ _ hforwarding hscopes =>
    rw [hforwarding] at hroute
    exact hkept (h.call_routes hroute hscope) fun _ _ => by rw [hscopes]
  | published op _ hforwarding hscopes =>
    rw [hforwarding] at hroute
    obtain ⟨grant, before, after, hok, hafter, hkeeps⟩ := h.publish_routes hroute hscope
    refine ⟨grant, after, hgrant _ _ hok.granted, hok.bound, hok.principal, hok.moduleId, ?_,
      hkeeps⟩
    rw [hscopes]
    exact hafter

/-- After an event every grant is what its admission decided. -/
theorem Authorized.step_grants (hgrant : grantAt (step world event) id = some grant) :
    GrantOk (step world event) grant := by
  have hfresh := step_fresh world event
  have hold : ∀ live, (step world event).scopes.live? grant.owner grant.selector.scopeRef =
      some live → live.version = grant.scope.version →
      grant.scope.version ≤ world.scopes.lastVersion →
      world.scopes.live? grant.owner grant.selector.scopeRef = some live := by
    intro live hlive hversion hdrawn
    rcases hfresh.live _ _ live hlive with hbefore | ⟨hnew, -⟩
    · exact hbefore
    · omega
  rcases grantAt_of_step hgrant with hbefore | ⟨request, admission, -, -, hadmitted, hmade⟩
  · have hok := h.grants id grant hbefore
    refine ⟨hok.issued, hok.grants, ?_⟩
    intro live hlive hversion
    exact hok.same live (hold live hlive hversion (h.coherent.drawn id grant hbefore)) hversion
  have howner : grant.owner = admission.owner := by rw [hmade]; rfl
  have hselector : grant.selector = request.selector := by rw [hmade]; rfl
  have hlive := hadmitted.live
  refine ⟨⟨world.scopes, ?_⟩, ?_, ?_⟩
  · rw [howner, hselector, ← hadmitted.stamp, hmade]
    rfl
  · have hopener : grant.opener = request.opener := by rw [hmade]; rfl
    have htarget : grant.targetModule = request.targetModule := by rw [hmade]; rfl
    rw [howner, hopener, htarget]
    exact hadmitted.grants
  rw [← howner, ← hselector] at hlive
  intro live hafter hversion
  have hbefore := hold live hafter hversion (h.coherent.versioned.bounded _ _ _ hlive)
  rw [hlive] at hbefore
  exact (Option.some.inj hbefore).symm

/-- An event keeps every route authorized. -/
theorem Authorized.step : Authorized (step world event) where
  coherent := h.coherent.step event
  grants _ _ hgrant := h.step_grants event hgrant
  routes _ _ _ hroute hscope := h.step_routes event hroute hscope

end

variable (authorityOwners : Finset String)

/-- In every run every bound route is authorized. -/
theorem run_authorized (events : List Event) : Authorized (run authorityOwners events) := by
  refine run_induction authorityOwners ?_ (fun _ event h => h.step event) events
  refine ⟨run_coherent authorityOwners [], ?_, ?_⟩
  · intro id grant hgrant
    cases hgrant
  · intro key route scope hroute
    cases hroute

/-- A stamp was there, or this event sent it. -/
theorem step_stamp (h : (step world event).leases[id]? = some lease)
    (hstamp : lease.stamp = some stamp) :
    (∃ was, world.leases[id]? = some was ∧ was.stamp = some stamp) ∨
      ∃ capabilities bindProofMatches, event = .sendBind id capabilities bindProofMatches ∧
        stamp = relayedStamp lease.grant.issued capabilities := by
  have hstep := stepped world event
  generalize ScopedWorld.step world event = world' at hstep h
  have hkept : world'.leases[id]?.map Lease.stamp = world.leases[id]?.map Lease.stamp →
      ∃ was, world.leases[id]? = some was ∧ was.stamp = some stamp := by
    intro hsame
    rw [h, Option.map_some, hstamp] at hsame
    exact Option.map_eq_some_iff.mp hsame.symm
  cases hstep with
  | same => exact .inl ⟨lease, h, hstamp⟩
  | published | called => exact .inl (hkept (read_callTable fun _ _ => rfl))
  | disconnected => exact .inl (hkept rfl)
  | opened request admission scope =>
    rw [lease_reserveBind] at h
    split at h
    case isTrue =>
      cases h
      cases hstamp
    case isFalse => exact .inl ⟨lease, h, hstamp⟩
  | abandoned | forgotten =>
    exact .inl (hkept ((read_dropUnheld fun _ _ => rfl).trans (read_setLease fun _ => rfl)))
  | begun =>
    exact .inl (hkept ((read_callTable fun _ _ => rfl).trans (read_setLease fun _ => rfl)))
  | sent other capabilities bindProofMatches hevent =>
    rw [lease_setLease] at h
    obtain ⟨was, hwas, hchanged⟩ := Option.map_eq_some_iff.mp h
    split at hchanged
    case isFalse =>
      cases hchanged
      exact .inl ⟨lease, hwas, hstamp⟩
    case isTrue hid =>
      subst hid
      cases hchanged
      cases hstamp
      exact .inr ⟨capabilities, bindProofMatches, hevent, rfl⟩
  | retained => exact .inl (hkept (read_setLease fun _ => rfl))

/-- A stamp was sent by one event of the run, for what the target read then. -/
theorem run_stamped
    (h : (run authorityOwners events).leases[id]? = some lease)
    (hstamp : lease.stamp = some stamp) :
    ∃ first capabilities bindProofMatches last,
      events = first ++ .sendBind id capabilities bindProofMatches :: last ∧
      stamp = relayedStamp lease.grant.issued capabilities := by
  induction events using List.reverseRecOn generalizing lease with
  | nil => cases h
  | append_singleton events event ih =>
    rw [run_append] at h
    have hgrant : grantAt (step (run authorityOwners events) event) id = some lease.grant := by
      unfold grantAt
      rw [h]
      rfl
    rcases step_stamp h hstamp with ⟨was, hwas, hsame⟩ | ⟨capabilities, matchesProof, rfl, hsent⟩
    · obtain ⟨first, capabilities, matchesProof, last, rfl, hsent⟩ := ih hwas hsame
      have hold : grantAt (step (run authorityOwners _) event) id = some was.grant :=
        grantAt_step (by unfold grantAt; rw [hwas]; rfl)
      rw [hgrant] at hold
      refine ⟨first, capabilities, matchesProof, last ++ [event], by simp, ?_⟩
      rw [hsent, Option.some.inj hold]
    · exact ⟨events, capabilities, matchesProof, [], rfl, hsent⟩

/-- A stamp that names nothing the live record does not. -/
structure StampGranted (capabilities : Capabilities) (stamp : ScopeStamp) (live : LiveScope) :
    Prop where
  agentId : stamp.attributes.agentId = live.record.attributes.agentId
  /-- A target that reads neither field is not told who the scope works for. -/
  onBehalfOfAgent : stamp.attributes.onBehalfOfAgent =
    if relaysWorkerRun stamp capabilities || provides capabilities scopeOnBehalfOfCapability then
      live.record.attributes.onBehalfOfAgent
    else none
  flowId : stamp.attributes.flowId = live.record.attributes.flowId
  runId : stamp.attributes.runId = live.record.attributes.runId
  delegates : stamp.attributes.delegates = true → live.record.attributes.delegates = true

/-- A bound route under a scope, with the lease of its admission and the scope
that is live. -/
structure CarriesGranted (authorityOwners : Finset String) (events : List Event)
    (route : RouteBinding) (scope : BoundScope) (lease : Lease) (live : LiveScope) : Prop where
  admitted : (run authorityOwners events).leases[scope.lease]? = some lease
  current : (run authorityOwners events).scopes.live? scope.owner scope.scopeRef = some live
  epoch : live.record.scopeEpoch = scope.tag.scopeEpoch
  granted : Grants scope.owner live.record route.principal route.moduleId
  /-- The admission spoke for the agents of the live record. -/
  agentId : lease.grant.issued.attributes.agentId = live.record.attributes.agentId
  onBehalfOfAgent : lease.grant.issued.attributes.onBehalfOfAgent =
    live.record.attributes.onBehalfOfAgent
  flowId : lease.grant.issued.attributes.flowId = live.record.attributes.flowId
  runId : lease.grant.issued.attributes.runId = live.record.attributes.runId
  delegates : lease.grant.issued.attributes.delegates = true →
    live.record.attributes.delegates = true
  /-- So does the stamp of the route.bind, as far as its target reads it. -/
  stamped : ∀ stamp, lease.stamp = some stamp →
    ∃ first capabilities bindProofMatches last,
      events = first ++ .sendBind scope.lease capabilities bindProofMatches :: last ∧
      StampGranted capabilities stamp live

/-- Every bound route under a scope carries what the live record grants. -/
def RoutesGranted (authorityOwners : Finset String) (events : List Event) : Prop :=
  ∀ key route scope,
    (run authorityOwners events).forwarding.clientToModule.get key = some route →
    route.scope = some scope →
    ∃ lease live, CarriesGranted authorityOwners events route scope lease live

/-- What is granted at the admission and kept since is granted. -/
theorem stampGranted_of_keeps (h : Keeps owner principal moduleId granted live) :
    StampGranted capabilities
      (relayedStamp (liveStamp table owner scopeRef granted) capabilities) live := by
  have hsame := relayedStamp_same (liveStamp table owner scopeRef granted) capabilities
  refine ⟨?_, ?_, ?_, ?_, ?_⟩
  · rw [hsame.agentId, h.agentId]
    rfl
  · rw [relayedStamp_onBehalfOfAgent, hsame.workerRun, h.onBehalfOfAgent]
    rfl
  · rw [hsame.flowId, h.flowId]
    rfl
  · rw [hsame.runId, h.runId]
    rfl
  intro hdelegates
  rw [hsame.delegates] at hdelegates
  exact h.delegates hdelegates

/-- In every run a bound route carries what the live record grants. -/
theorem run_routesGranted (authorityOwners : Finset String) (events : List Event) :
    RoutesGranted authorityOwners events := by
  intro key route scope hroute hscope
  have hauthorized := run_authorized authorityOwners events
  obtain ⟨grant, live, hok⟩ := hauthorized.routes key route scope hroute hscope
  obtain ⟨lease, hlease, rfl⟩ := Option.map_eq_some_iff.mp hok.granted
  have hgrant := hauthorized.grants scope.lease lease.grant hok.granted
  have howner : scope.owner = lease.grant.owner := by rw [hok.bound]; rfl
  obtain ⟨table, hissued⟩ := hgrant.issued
  have hkeeps := hok.keeps
  refine ⟨lease, live, hlease, hok.current, ?_, hkeeps.grants ?_, ?_, ?_, ?_, ?_, ?_, ?_⟩
  · rw [hkeeps.epoch, hok.bound]
    rfl
  · rw [howner, hok.principal, hok.moduleId]
    exact hgrant.grants
  · rw [hissued, hkeeps.agentId]
    rfl
  · rw [hissued, hkeeps.onBehalfOfAgent]
    rfl
  · rw [hissued, hkeeps.flowId]
    rfl
  · rw [hissued, hkeeps.runId]
    rfl
  · intro hdelegates
    rw [hissued] at hdelegates
    exact hkeeps.delegates hdelegates
  intro stamp hstamp
  obtain ⟨first, capabilities, bindProofMatches, last, hevents, rfl⟩ :=
    run_stamped authorityOwners hlease hstamp
  refine ⟨first, capabilities, bindProofMatches, last, hevents, ?_⟩
  rw [hissued, ← howner]
  exact stampGranted_of_keeps hkeeps

/-- A scope that works for an agent is opened to a module without capabilities. -/
def openForAgent : List Event :=
  [.call (.registerModuleConnection ⟨1, "aft", 1, .serial, ⟨1⟩, true⟩),
    .changeScopes (callBy "head" 1 [{ ScopeRecord.new "session" 1 .worker with
      attributes := { ScopeAttributes.default with onBehalfOfAgent := some "agent" } }] none)
      0 .asStored,
    .openScoped ⟨.reserved "head", 2, "aft", ⟨.reserved "head", "session", some 1, none, false⟩,
      none, ⟨0, true, fun _ _ => true⟩⟩,
    .beginScoped 0 ⟨2, ⟨2⟩, 1, 7, "aft", .direct, none, none, 100, false, 0⟩,
    .sendBind 0 none fun _ _ => true,
    .call (.completePendingRelay 1 1 .accepted ⟨5, false, false, 5, 0, false⟩)]

set_option maxRecDepth 8000 in
/-- Its bound route carries a stamp without the agent that the record names. -/
theorem openForAgent_hides_agent :
    (((run {"head"} openForAgent).forwarding.clientToModule.get ⟨2, 1⟩).bind
      RouteBinding.scope).map BoundScope.lease = some 0 ∧
    ((run {"head"} openForAgent).leases[0]?.bind Lease.stamp).map
      (fun stamp => stamp.attributes.onBehalfOfAgent) = some none ∧
    ((run {"head"} openForAgent).scopes.live? "head" "session").map
      (fun live => live.record.attributes.onBehalfOfAgent) = some (some "agent") := by
  decide

end Subconscious.ScopedAuthority
