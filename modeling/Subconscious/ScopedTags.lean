import Subconscious.ScopedSteps
import Subconscious.ScopeTags
import Subconscious.ScopeHoldings

/-!
# Published tags

After every event the forwarding table knows the tag of each live scope and of
nothing else. A tag names one content for the whole life of the daemon, so a
bind that commits under the tag it was admitted with was admitted under the
very record and link state that are live at its commit.
-/

namespace Subconscious.ScopedTags

open HashMaps ScopeChanges ScopeTables ScopeSync ScopeTags ScopeHoldings ScopeAdmissions
open ForwardingState ForwardingRelays ForwardingControl ForwardingInvariant ForwardingConsistency
open ForwardingSteps ScopedWorld ScopedSteps
open ScopeRuns hiding run run_append run_induction
open ScopeVersions hiding run_fresh
open ForwardingRuns hiding run run_append

variable {inner : ForwardingInner}

/-- Publishing a change sets the tag of its scope alone. -/
theorem publishTag_get (tags : HashMap (String × String) ScopeTag) (change : ScopeTagChange)
    (key : String × String) :
    (publishTag tags change).get key = if key = change.key then change.after else tags.get key := by
  unfold publishTag
  cases hafter : change.after with
  | none => rw [HashMap.get_remove]
  | some => rw [HashMap.get_insert]

/-- A list that names a scope once leaves the tag it says. -/
theorem foldl_publishTag_get {changes : List ScopeTagChange}
    (hnodup : (changes.map ScopeTagChange.key).Nodup) (tags : HashMap (String × String) ScopeTag) :
    (∀ change ∈ changes, (changes.foldl publishTag tags).get change.key = change.after) ∧
      ∀ key, key ∉ changes.map ScopeTagChange.key →
        (changes.foldl publishTag tags).get key = tags.get key := by
  induction changes generalizing tags with
  | nil => exact ⟨by simp, fun _ _ => rfl⟩
  | cons first rest ih =>
    rw [List.map_cons, List.nodup_cons] at hnodup
    obtain ⟨hlisted, hunlisted⟩ := ih hnodup.2 (publishTag tags first)
    constructor
    · refine List.forall_mem_cons.mpr ⟨?_, hlisted⟩
      rw [List.foldl_cons, hunlisted _ hnodup.1, publishTag_get, if_pos rfl]
    · intro key hnot
      rw [List.map_cons, List.mem_cons, not_or] at hnot
      rw [List.foldl_cons, hunlisted key hnot.2, publishTag_get, if_neg hnot.1]

/-- Exact changes take the tags of one table to those of the next. -/
theorem publish_of_moved (h : TagsMoved table changes table')
    (htags : ∀ owner scopeRef, tags.get (owner, scopeRef) = tagAt table owner scopeRef) :
    (changes.foldl publishTag tags).get (owner, scopeRef) = tagAt table' owner scopeRef := by
  obtain ⟨hlisted, hunlisted⟩ := foldl_publishTag_get h.nodup tags
  by_cases hmem : (owner, scopeRef) ∈ changes.map ScopeTagChange.key
  · obtain ⟨change, hchange, hkey⟩ := List.mem_map.mp hmem
    have hafter := hlisted change hchange
    have hsound := (h.sound change hchange).2.1
    cases change
    cases hkey
    rw [← hsound]
    exact hafter
  · rw [hunlisted _ hmem, htags, h.same hmem]

/-- A relay is its lease's: the scope is the one granted, the principal the
opener and the endpoint one of the target module. -/
def RelayGranted (world : World) (key : ControlKey) (pending : PendingRouteBindRelayEntry)
    (scope : BoundScope) : Prop :=
  ∃ grant, grantAt world scope.lease = some grant ∧ scope = grant.bound scope.lease ∧
    pending.principal = grant.opener ∧
    world.forwarding.moduleIdByEndpoint.get key.1 = some grant.targetModule

/-- The two tables agree, and every relay of a scope comes from its lease. -/
structure Coherent (world : World) : Prop where
  table : TableInv world.forwarding
  sound : Sound world.scopes
  versioned : Versioned world.scopes
  published : ∀ owner scopeRef, world.forwarding.scopeTags.get (owner, scopeRef) =
    tagAt world.scopes owner scopeRef
  /-- A lease was admitted under a version that was drawn before. -/
  drawn : ∀ id grant, grantAt world id = some grant → grant.scope.version ≤ world.scopes.lastVersion
  relays : ∀ key pending scope, world.forwarding.pendingRelays.get key = some pending →
    pending.scope = some scope → RelayGranted world key pending scope

variable {id : LeaseId} (authorityOwners : Finset String)

/-- The relays after a call are relays from before, or the call reserved one
for a lease whose grant the request carries. -/
theorem relays_call (h : Coherent world) (op : Op)
    (hrequest : ∀ request, op = .beginRouteBindRelay request → Granted world request)
    (hpending : (op.apply world.forwarding).pendingRelays.get key = some pending)
    (hscope : pending.scope = some scope) :
    RelayGranted { world with forwarding := op.apply world.forwarding } key pending scope := by
  have hinv := Op.apply_inv h.table op
  obtain ⟨moduleId, hmoduleId⟩ := hinv.relay_registered hpending
  rcases (Op.apply_origins h.table op).relays key pending hpending with
    ⟨was, hwas, hsame⟩ | ⟨request, relay, module, frame, hop, -, hreserved, hkey, hend, rfl⟩
  · have hfields : was.scope = some scope ∧ pending.principal = was.principal := by
      rcases hsame with rfl | rfl
      · exact ⟨hscope, rfl⟩
      · exact ⟨hscope, rfl⟩
    obtain ⟨grant, hgrant, hbound, hprincipal, hid⟩ := h.relays key was scope hwas hfields.1
    refine ⟨grant, hgrant, hbound, hfields.2.trans hprincipal, ?_⟩
    rw [hmoduleId, Op.apply_sameModuleId h.table op hid hmoduleId]
  · obtain ⟨grant, hgrant, hbound, hprincipal, hmodule⟩ := hrequest request hop scope hscope
    obtain ⟨target, htarget, hendpoint, -⟩ := hreserved.target
    obtain ⟨-, hactive, -⟩ := relayTargetLocked_ok htarget
    have hid := h.table.active_registered _ _ hactive
    refine ⟨grant, hgrant, hbound, hprincipal, ?_⟩
    rw [hkey] at hmoduleId ⊢
    rw [← hendpoint] at hid
    rw [hmoduleId, Op.apply_sameModuleId h.table op hid hmoduleId, hmodule]

/-- The scopes after an event are those a call left, or the same. -/
theorem step_scopes {motive : ScopeTable → Prop} (hsame : motive world.scopes)
    (hcall : ∀ op : ScopeOp, motive (op.apply world.scopes)) (event : Event) :
    motive (step world event).scopes := by
  have hstep := step_tables world event
  generalize step world event = world' at hstep ⊢
  cases hstep with
  | kept _ hscopes =>
    rcases hscopes with hscopes | ⟨connectionId, hscopes⟩
    · rwa [hscopes]
    · rw [hscopes]
      exact hcall _
  | called _ _ _ _ hscopes | opened _ _ _ _ _ _ hscopes => rwa [hscopes]
  | published op _ _ hscopes =>
    rw [hscopes]
    exact hcall op

/-- An event draws every version it gives. -/
theorem step_fresh (world : World) (event : Event) : Fresh world.scopes (step world event).scopes :=
  step_scopes (.refl _) apply_fresh event

/-- The two tables agree again once a call's changes are published. -/
theorem Coherent.tags (h : Coherent world) (event : Event) (owner scopeRef : String) :
    (step world event).forwarding.scopeTags.get (owner, scopeRef) =
      tagAt (step world event).scopes owner scopeRef := by
  have hstep := step_tables world event
  generalize step world event = world' at hstep ⊢
  cases hstep with
  | kept hforwarding _ hlive =>
    rw [hforwarding, h.published]
    unfold tagAt
    rw [hlive]
  | called op hunpublished _ hforwarding hscopes =>
    rw [hforwarding, hscopes, Op.apply_scopeTags h.table]
    cases op with
    | publishScopeChanges changes => exact absurd rfl (hunpublished changes)
    | _ => exact h.published owner scopeRef
  | published op _ hforwarding hscopes =>
    rw [hforwarding, hscopes, Op.apply_scopeTags h.table]
    exact publish_of_moved (apply_tagsMoved h.versioned op) h.published
  | opened _ _ _ _ _ hforwarding hscopes =>
    rw [hforwarding, hscopes]
    exact h.published owner scopeRef

/-- A grant stays what it was. -/
theorem grantAt_step (h : grantAt world id = some grant) :
    grantAt (step world event) id = some grant := by
  have hstep := step_tables world event
  generalize step world event = world' at hstep ⊢
  cases hstep with
  | opened request admission scope _ _ _ _ hgrants =>
    rw [hgrants, if_neg, h]
    rintro rfl
    unfold grantAt at h
    rw [List.getElem?_eq_none (Nat.le_refl _)] at h
    cases h
  | kept _ _ _ hgrants | called _ _ _ _ _ hgrants | published _ _ _ _ hgrants => rw [hgrants, h]

/-- Along an event every relay of a scope stays its lease's. -/
theorem Coherent.relays_step (h : Coherent world) (event : Event)
    (hpending : (step world event).forwarding.pendingRelays.get key = some pending)
    (hscope : pending.scope = some scope) : RelayGranted (step world event) key pending scope := by
  have hlater : ∀ forwarding, (step world event).forwarding = forwarding →
      RelayGranted { world with forwarding := forwarding } key pending scope →
      RelayGranted (step world event) key pending scope := by
    rintro _ rfl ⟨grant, hgrant, hrest⟩
    exact ⟨grant, grantAt_step hgrant, hrest⟩
  have hstep := step_tables world event
  generalize step world event = world' at hstep hpending hlater ⊢
  cases hstep with
  | kept hforwarding | opened _ _ _ _ _ hforwarding =>
    rw [hforwarding] at hpending
    exact hlater _ hforwarding (h.relays key pending scope hpending hscope)
  | called op _ hgranted hforwarding =>
    rw [hforwarding] at hpending
    exact hlater _ hforwarding (relays_call h op hgranted hpending hscope)
  | published op _ hforwarding =>
    rw [hforwarding] at hpending
    exact hlater _ hforwarding (relays_call h _ nofun hpending hscope)

/-- The grants after an event: those from before, and the one of an open that
was admitted. -/
theorem grantAt_of_step (h : grantAt (step world event) id = some grant) :
    grantAt world id = some grant ∨
      ∃ request admission, event = .openScoped request ∧ id = world.leases.length ∧
        Admitted world.scopes request.opener request.targetModule request.selector
          request.reads.now admission grant.scope ∧
        grant = World.newGrant world request admission grant.scope := by
  have hstep := step_tables world event
  generalize step world event = world' at hstep h
  cases hstep with
  | opened request admission scope hevent hadmitted _ _ hgrants =>
    rw [hgrants] at h
    split at h
    case isTrue hid =>
      cases h
      exact .inr ⟨request, admission, hevent, hid, hadmitted, rfl⟩
    case isFalse => exact .inl h
  | kept _ _ _ hgrants | called _ _ _ _ _ hgrants | published _ _ _ _ hgrants =>
    exact .inl (by rw [← hgrants, h])

/-- An event keeps the invariant of the forwarding table. -/
theorem step_table (h : TableInv world.forwarding) : TableInv (step world event).forwarding := by
  have hstep := step_tables world event
  generalize step world event = world' at hstep ⊢
  cases hstep with
  | kept hforwarding | opened _ _ _ _ _ hforwarding => rwa [hforwarding]
  | called _ _ _ hforwarding | published _ _ hforwarding =>
    rw [hforwarding]
    exact Op.apply_inv h _

/-- An event keeps the two tables in agreement. -/
theorem Coherent.step (h : Coherent world) (event : Event) : Coherent (step world event) where
  table := step_table h.table
  sound := step_scopes (motive := Sound) h.sound (apply_sound h.sound) event
  versioned := step_scopes (motive := Versioned) h.versioned (apply_versioned h.versioned) event
  published := h.tags event
  drawn id grant hgrant := by
    refine Nat.le_trans ?_ (step_fresh world event).le
    rcases grantAt_of_step hgrant with hbefore | ⟨request, admission, -, -, hadmitted, -⟩
    · exact h.drawn id grant hbefore
    · exact h.versioned.bounded _ _ _ hadmitted.live
  relays _ _ _ hpending hscope := h.relays_step event hpending hscope

/-- In every run the two tables agree. -/
theorem run_coherent (events : List Event) : Coherent (run authorityOwners events) := by
  refine run_induction authorityOwners ?_ (fun _ event h => h.step event) events
  refine ⟨tableInv_default, ?_, ?_, ?_, ?_, ?_⟩
  · exact run_sound authorityOwners []
  · exact run_versioned authorityOwners []
  · intro owner scopeRef
    unfold tagAt
    change _ = ((ScopeTable.new authorityOwners).live? owner scopeRef).map _
    rw [new_live]
    rfl
  · intro id grant hgrant
    cases hgrant
  · intro key pending scope hpending
    cases hpending

/-- The forwarding table knows the tags of the live scopes, and each scope call
of the run published exactly the tags it moved. -/
structure PublishesTags (authorityOwners : Finset String) (events : List Event) : Prop where
  exact : ∀ owner scopeRef,
    (run authorityOwners events).forwarding.scopeTags.get (owner, scopeRef) =
      ((run authorityOwners events).scopes.live? owner scopeRef).map LiveScope.tag
  /-- A list names a scope once, -/
  once : ∀ first event last op, events = first ++ event :: last →
    scopeCall (run authorityOwners first) event = some op →
    ((op.tagChanges (run authorityOwners first).scopes).map ScopeTagChange.key).Nodup
  /-- with the tag published just before, -/
  before : ∀ first event last op, events = first ++ event :: last →
    scopeCall (run authorityOwners first) event = some op →
    ∀ change ∈ op.tagChanges (run authorityOwners first).scopes,
      change.before = (run authorityOwners first).forwarding.scopeTags.get change.key
  /-- and names those whose tag changed. -/
  changed : ∀ first event last op, events = first ++ event :: last →
    scopeCall (run authorityOwners first) event = some op → ∀ key,
    key ∈ (op.tagChanges (run authorityOwners first).scopes).map ScopeTagChange.key ↔
      (run authorityOwners first).forwarding.scopeTags.get key ≠
        (run authorityOwners (first ++ [event])).forwarding.scopeTags.get key

/-- A scope call of a world leaves the table of that call. -/
theorem step_scopeCall (h : scopeCall world event = some op) :
    (step world event).scopes = op.apply world.scopes := by
  cases event with
  | changeScopes | sweepExpired =>
    cases h
    exact callTable_scopes _
  | _ => cases h

/-- In every run the published tags are the live ones. -/
theorem run_publishesTags (authorityOwners : Finset String) (events : List Event) :
    PublishesTags authorityOwners events where
  exact := (run_coherent authorityOwners events).published
  once first event last op _ _ :=
    (apply_tagsMoved (run_coherent authorityOwners first).versioned op).nodup
  before first event last op _ _ change hchange := by
    have hcoherent := run_coherent authorityOwners first
    rw [((apply_tagsMoved hcoherent.versioned op).sound change hchange).1]
    exact (hcoherent.published change.owner change.scopeRef).symm
  changed first event last op _ hop key := by
    obtain ⟨owner, scopeRef⟩ := key
    have hcoherent := run_coherent authorityOwners first
    have hmoved := apply_tagsMoved hcoherent.versioned op
    rw [run_append, hcoherent.published, (hcoherent.step event).published, step_scopeCall hop]
    constructor
    · intro hmem
      obtain ⟨change, hchange, hkey⟩ := List.mem_map.mp hmem
      obtain ⟨hbefore, hafter, hne⟩ := hmoved.sound change hchange
      cases change
      cases hkey
      rw [← hbefore, ← hafter]
      exact hne
    · exact hmoved.complete owner scopeRef

/-- Along a run the counter gives out new versions only. -/
theorem run_fresh (first last : List Event) :
    Fresh (run authorityOwners first).scopes (run authorityOwners (first ++ last)).scopes := by
  induction last using List.reverseRecOn with
  | nil =>
    rw [List.append_nil]
    exact .refl _
  | append_singleton last event ih =>
    rw [← List.append_assoc, run_append]
    exact ih.trans (step_fresh _ event)

/-- A lease was made by one open of the run. -/
theorem run_admitted
    (h : grantAt (run authorityOwners events) id = some grant) :
    ∃ first request last admission, events = first ++ .openScoped request :: last ∧
      id = (run authorityOwners first).leases.length ∧
      Admitted (run authorityOwners first).scopes request.opener request.targetModule
        request.selector request.reads.now admission grant.scope ∧
      grant = World.newGrant (run authorityOwners first) request admission grant.scope := by
  induction events using List.reverseRecOn with
  | nil => cases h
  | append_singleton events event ih =>
    rw [run_append] at h
    rcases grantAt_of_step h with hbefore | ⟨request, admission, rfl, hid, hadmitted, hgrant⟩
    · obtain ⟨first, request, last, admission, rfl, hrest⟩ := ih hbefore
      exact ⟨first, request, last ++ [event], admission, by simp, hrest⟩
    · exact ⟨events, request, [], admission, rfl, hid, hadmitted, hgrant⟩

variable {authorityOwners} in
/-- A scope at a version drawn before was live before, as it is. -/
theorem live_before (last : List Event) {scope : LiveScope}
    (h : (run authorityOwners (first ++ last)).scopes.live? owner scopeRef = some scope)
    (hdrawn : scope.version ≤ (run authorityOwners first).scopes.lastVersion) :
    (run authorityOwners first).scopes.live? owner scopeRef = some scope := by
  rcases (run_fresh authorityOwners first last).live owner scopeRef scope h with hbefore | ⟨hlt, -⟩
  · exact hbefore
  · omega

/-- A scope that is not refused has its tag published. -/
theorem scopeRefusalLocked_none (h : scopeRefusalLocked inner scope = none) :
    inner.scopeTags.get scope.key = some scope.tag := by
  unfold scopeRefusalLocked at h
  split at h
  case h_1 current hcurrent =>
    split at h
    case isTrue heq => rw [hcurrent, heq]
    case isFalse => split at h <;> cases h
  case h_2 => cases h

/-- A tag names one content along a run, and a bind that may commit was
admitted under the content that is live. -/
structure CommitsAsAdmitted (authorityOwners : Finset String) (events : List Event) : Prop where
  /-- From its admission on, at every moment, the scope was live and the same. -/
  unchanged : ∀ key pending scope,
    (run authorityOwners events).forwarding.pendingRelays.get key = some pending →
    pending.scope = some scope →
    scopeRefusalLocked (run authorityOwners events).forwarding scope = none →
    ∃ first request last admission live, events = first ++ .openScoped request :: last ∧
      scope.lease = (run authorityOwners first).leases.length ∧
      Admitted (run authorityOwners first).scopes request.opener request.targetModule
        request.selector request.reads.now admission live ∧
      scope.owner = admission.owner ∧ scope.scopeRef = request.selector.scopeRef ∧
      ∀ mid rest, last = mid ++ rest →
        (run authorityOwners (first ++ .openScoped request :: mid)).scopes.live? scope.owner
          scope.scopeRef = some live
  /-- A version is never attached to two contents. -/
  unique : ∀ first last owner scopeRef scope owner' scopeRef' scope', events = first ++ last →
    (run authorityOwners first).scopes.live? owner scopeRef = some scope →
    (run authorityOwners events).scopes.live? owner' scopeRef' = some scope' →
    scope.version = scope'.version → owner = owner' ∧ scopeRef = scopeRef' ∧ scope = scope'
  /-- Every version so far is at most the counter, so none wraps while that
  counter fits its 64 bits. -/
  bounded : ∀ first last owner scopeRef scope, events = first ++ last →
    (run authorityOwners first).scopes.live? owner scopeRef = some scope →
    scope.version ≤ (run authorityOwners events).scopes.lastVersion
  /-- What an event made or changed is above every version before it. -/
  increasing : ∀ first event last owner scopeRef scope, events = first ++ event :: last →
    (run authorityOwners (first ++ [event])).scopes.live? owner scopeRef = some scope →
    (run authorityOwners first).scopes.live? owner scopeRef ≠ some scope →
    ∀ earlier later owner' scopeRef' scope', first = earlier ++ later →
      (run authorityOwners earlier).scopes.live? owner' scopeRef' = some scope' →
      scope'.version < scope.version
  /-- A record that a call leaves with its content and link state keeps its version. -/
  resent : ∀ first request now order last owner scopeRef scope scope',
    events = first ++ .changeScopes request now order :: last →
    (run authorityOwners first).scopes.live? owner scopeRef = some scope →
    (run authorityOwners (first ++ [.changeScopes request now order])).scopes.live? owner
      scopeRef = some scope' →
    scope'.record = scope.record → scope'.parentState = scope.parentState →
    scope'.version = scope.version

/-- In every run a bind commits under the content it was admitted under. -/
theorem run_commitsAsAdmitted (authorityOwners : Finset String) (events : List Event) :
    CommitsAsAdmitted authorityOwners events where
  unchanged key pending scope hpending hscope hrefusal := by
    have hcoherent := run_coherent authorityOwners events
    obtain ⟨grant, hgrant, hbound, -, -⟩ := hcoherent.relays key pending scope hpending hscope
    obtain ⟨first, request, last, admission, rfl, hid, hadmitted, hmade⟩ :=
      run_admitted authorityOwners hgrant
    have howner : scope.owner = admission.owner := by
      rw [hbound, hmade]
      rfl
    have hscopeRef : scope.scopeRef = request.selector.scopeRef := by
      rw [hbound, hmade]
      rfl
    have htag : scope.tag = grant.scope.tag := by
      rw [hbound]
      rfl
    have hpublished := (scopeRefusalLocked_none hrefusal).symm.trans
      (hcoherent.published scope.owner scope.scopeRef)
    obtain ⟨live, hlive, hsame⟩ := Option.map_eq_some_iff.mp hpublished.symm
    have hversion : live.version = grant.scope.version :=
      congrArg ScopeTag.version (hsame.trans htag)
    have hdrawn : live.version ≤ (run authorityOwners first).scopes.lastVersion := by
      rw [hversion]
      exact (run_coherent authorityOwners first).versioned.bounded _ _ _ hadmitted.live
    have hfirst := live_before (.openScoped request :: last) hlive hdrawn
    have heq : live = grant.scope := by
      rw [howner, hscopeRef, hadmitted.live] at hfirst
      exact (Option.some.inj hfirst).symm
    subst heq
    refine ⟨first, request, last, admission, grant.scope, rfl, hid, hadmitted, howner, hscopeRef, ?_⟩
    rintro mid rest rfl
    have hle := (run_fresh authorityOwners first (.openScoped request :: mid)).le
    refine live_before rest ?_ (Nat.le_trans hdrawn hle)
    simpa using hlive
  unique first last owner scopeRef scope owner' scopeRef' scope' hevents hscope hscope' hversion := by
    subst hevents
    exact (run_fresh authorityOwners first last).versionsName
      (run_coherent authorityOwners first).versioned _ _ _ _ _ _ hscope hscope' hversion
  bounded first last owner scopeRef scope hevents hscope := by
    subst hevents
    have hbound := (run_coherent authorityOwners first).versioned.bounded _ _ _ hscope
    exact hbound.trans (run_fresh authorityOwners first last).le
  increasing first event last owner scopeRef scope _ hafter hbefore earlier later owner' scopeRef'
      scope' hfirst hearlier := by
    rcases (run_fresh authorityOwners first [event]).live owner scopeRef scope hafter with
      hsame | ⟨hlt, -⟩
    · exact absurd hsame hbefore
    have hbounded := (run_coherent authorityOwners earlier).versioned.bounded _ _ _ hearlier
    have hle := (run_fresh authorityOwners earlier later).le
    rw [← hfirst] at hle
    omega
  resent first request now order last owner scopeRef scope scope' _ hbefore hafter hrecord
      hstate := by
    rw [run_append, step_scopeCall rfl] at hafter
    rw [change_same (run_coherent authorityOwners first).sound hbefore hafter hrecord hstate]

end Subconscious.ScopedTags
