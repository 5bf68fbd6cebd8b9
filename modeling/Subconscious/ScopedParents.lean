import Subconscious.ScopedAuthority
import Subconscious.ScopeLinks

/-!
# Stamps that name a live parent

A stamp that says linked names the parent that was live at the admission. While
the record keeps naming that parent, its end settles the link to ended and
drains every route, so a bound route that still says linked has a live parent.
A link is pending only towards an owner that has not synced, and no owner goes
back to that.

A record may be sent again at its epoch with another parent. That drains
nothing, and the routes of the old link then outlive the old parent.
-/

namespace Subconscious.ScopedParents

open Protocol ScopeRecords ScopeChanges ScopeTables ScopeChecks ScopeParents
open ScopeSync ScopeCommits ScopeVersions ScopeStaging ScopeHoldings ScopeLinks ScopeAdmissions
open ForwardingState ScopedWorld ScopedSteps ScopedTags ScopedAuthority
open ScopeRuns hiding run run_append run_induction

/-- An owner that synced stays synced. -/
def SyncedStays (table table' : ScopeTable) : Prop :=
  ∀ owner, (table.owner owner).synced = true → (table'.owner owner).synced = true

variable (table : ScopeTable)

/-- A refresh syncs nobody. -/
theorem refreshLinksTo_synced :
    ((refreshLinksTo table parentOwner order changes).table.owner owner).synced =
      (table.owner owner).synced :=
  ((refreshLinksTo_moved table parentOwner order changes).frame owner).synced

/-- A commit syncs the calling owner. -/
theorem committed_synced :
    ((committed table request reads).owner owner).synced =
      (decide (owner = request.owner) || (table.owner owner).synced) := by
  rw [committed_owner]
  by_cases howner : owner = request.owner
  · rw [if_pos howner, decide_eq_true howner]
    rfl
  · rw [if_neg howner, decide_eq_false howner]
    rfl

/-- A live scope has a synced owner, and outside the given owners a pending
link names one that has not synced. -/
structure Verified (table : ScopeTable) (except : String → Prop) : Prop where
  live : ∀ owner scopeRef scope, table.live? owner scopeRef = some scope →
    (table.owner owner).synced = true
  pending : ∀ owner scopeRef scope link parentOwner, table.live? owner scopeRef = some scope →
    scope.parentState = some .pending → scope.record.parent = some link →
    link.owner = .reserved parentOwner → ¬ except parentOwner →
    (table.owner parentOwner).synced = false

/-- More owners may be excepted. -/
theorem Verified.mono {table : ScopeTable} (h : Verified table except)
    (hexcept : ∀ owner, except owner → except' owner) : Verified table except' where
  live := h.live
  pending owner scopeRef scope link parentOwner hlive hstate hparent hreserved hnot :=
    h.pending owner scopeRef scope link parentOwner hlive hstate hparent hreserved
      (mt (hexcept parentOwner) hnot)

/-- Scopes that go leave the others verified. -/
theorem Verified.subset {table table' : ScopeTable} (h : Verified table except)
    (hsynced : ∀ owner, (table'.owner owner).synced = (table.owner owner).synced)
    (hlive : ∀ owner scopeRef scope, table'.live? owner scopeRef = some scope →
      table.live? owner scopeRef = some scope) : Verified table' except where
  live owner scopeRef scope hscope := by
    rw [hsynced]
    exact h.live owner scopeRef scope (hlive _ _ _ hscope)
  pending owner scopeRef scope link parentOwner hscope hstate hparent howner hexcept := by
    rw [hsynced]
    exact h.pending owner scopeRef scope link parentOwner (hlive _ _ _ hscope) hstate hparent
      howner hexcept

/-- A checked link is pending towards an owner that has not synced. -/
theorem checkNewLink_unsynced {table : ScopeTable}
    (h : checkNewLink table owner parent next = .ok .pending)
    (hparent : parent.owner = .reserved parentOwner) :
    parentOwner ≠ owner ∧ (table.owner parentOwner).synced = false := by
  unfold checkNewLink at h
  rw [hparent] at h
  dsimp only [reservedModuleId] at h
  split at h
  case isTrue hunsynced => exact hunsynced
  split at h
  case h_1 => cases h
  split at h
  case isTrue => cases h
  case isFalse => split at h <;> cases h

/-- A commit leaves links into the calling owner to the refresh. -/
theorem committed_verified (h : Verified table fun _ => False)
    {request : ScopeChange} {reads : ScopeReads}
    (hrefs : (request.records.map ScopeRecord.scopeRef).Nodup) :
    Verified (committed table request reads) fun owner => owner = request.owner where
  live owner scopeRef scope hlive := by
    rw [committed_synced]
    rcases live_of_committed hlive with ⟨-, hlive⟩ | ⟨howner, -⟩
    · rw [h.live owner scopeRef scope hlive, Bool.or_true]
    · rw [decide_eq_true howner, Bool.true_or]
  pending owner scopeRef scope link parentOwner hlive hstate hparent hreserved hexcept := by
    rw [committed_synced, decide_eq_false hexcept, Bool.false_or]
    rcases live_of_committed hlive with ⟨-, hother⟩ | ⟨rfl, hsynced⟩
    · exact h.pending owner scopeRef scope link parentOwner hother hstate hparent hreserved id
    cases committed_link hrefs hsynced with
    | none hnone =>
      rw [hnone] at hparent
      cases hparent
    | checked parent state next hsame hnew _ hchecked =>
      rw [hsame] at hparent
      cases hparent
      rw [hstate] at hnew
      cases hnew
      have hunsynced := (checkNewLink_unsynced hchecked hreserved).2
      rwa [others_owner, if_neg hexcept] at hunsynced
    | kept parent held hheld _ hheldParent hsame hheldState =>
      rw [hsame] at hparent
      cases hparent
      exact h.pending request.owner scopeRef held link parentOwner (live_of_expireOwner hheld)
        (hheldState.symm.trans hstate) hheldParent hreserved id

/-- A refresh settles every link into an owner's scopes. -/
theorem refreshLinksTo_verified {table : ScopeTable} (h : Verified table except)
    (parentOwner : String) (order : HashOrder) (changes : List ScopeTagChange) :
    Verified (refreshLinksTo table parentOwner order changes).table fun owner =>
      except owner ∧ owner ≠ parentOwner where
  live owner scopeRef scope hlive := by
    obtain ⟨was, hwas, -⟩ := refreshLinksTo_before hlive
    rw [refreshLinksTo_synced]
    exact h.live owner scopeRef was hwas
  pending owner scopeRef scope link linkOwner hlive hstate hparent hreserved hexcept := by
    rw [refreshLinksTo_synced]
    obtain ⟨was, hwas, hrecord, -, hupdate⟩ := refreshLinksTo_before hlive
    split at hupdate
    case h_2 update hsome =>
      obtain ⟨parent, -, -, hsettled, -⟩ := linkUpdate_some hsome
      rw [hstate, hsettled] at hupdate
      exact absurd (Option.some.inj hupdate).symm settledState_ne_pending
    rename_i hnone
    subst hupdate
    refine h.pending owner scopeRef scope link linkOwner hwas hstate hparent hreserved ?_
    intro hin
    refine hexcept ⟨hin, ?_⟩
    rintro rfl
    have hsettled := (linkUpdate_none hnone hparent hreserved).trans hstate
    exact settledState_ne_pending (Option.some.inj hsettled)

/-- A call keeps the table verified. -/
theorem apply_verified {table : ScopeTable} (h : Verified table fun _ => False) (op : ScopeOp) :
    Verified (op.apply table) fun _ => False := by
  refine apply_induction (motive := fun table' => Verified table' fun _ => False)
    (fun table' _ hlive hsynced => h.subset hsynced hlive) ?_ ?_
  · intro request reads _ haccepts
    have hcommitted := @committed_verified table h request reads (checkCall_records haccepts.checked)
    exact (refreshLinksTo_verified hcommitted request.owner reads.order _).mono
      fun owner hin => hin.2 hin.1
  · intro table' parentOwner order changes hverified
    exact (refreshLinksTo_verified hverified parentOwner order changes).mono fun owner hin => hin.1

/-- Every call leaves synced what was synced. -/
theorem apply_syncedStays (op : ScopeOp) : SyncedStays table (op.apply table) := by
  refine apply_induction (fun table' _ _ hsynced owner => (hsynced owner).trans) ?_ ?_
  · intro request reads _ _ owner hsynced
    change ((refreshLinksTo _ _ _ _).table.owner owner).synced = true
    rw [refreshLinksTo_synced, committed_synced, hsynced, Bool.or_true]
  · exact fun table' _ _ _ hstays owner hsynced =>
      (refreshLinksTo_synced table').trans (hstays owner hsynced)

/-- What the scopes and the grants of a world know of parents. -/
structure Parented (world : World) : Prop where
  links : LinksOk world.scopes
  verified : Verified world.scopes fun _ => False
  /-- The owner of a parent that a grant is linked to has synced. -/
  synced : ∀ id grant link, grantAt world id = some grant →
    grant.scope.parentState = some .linked → grant.scope.record.parent = some link →
    ∃ parentOwner, link.owner = .reserved parentOwner ∧
      (world.scopes.owner parentOwner).synced = true

/-- The parent of a linked scope is live, so its owner has synced. -/
theorem Parented.synced_of_live (h : Parented world)
    (hlive : world.scopes.live? owner scopeRef = some scope)
    (hstate : scope.parentState = some .linked) (hparent : scope.record.parent = some link) :
    ∃ parentOwner, link.owner = .reserved parentOwner ∧
      (world.scopes.owner parentOwner).synced = true := by
  obtain ⟨parentOwner, hreserved, hup⟩ :=
    h.links.parents owner scopeRef scope link hlive hstate hparent
  obtain ⟨up, hup, -⟩ := hup id
  exact ⟨parentOwner, hreserved, h.verified.live parentOwner link.scopeRef up hup⟩

/-- An event keeps what is known of parents. -/
theorem Parented.step (h : Parented world) (event : Event) : Parented (step world event) where
  links := step_scopes (motive := LinksOk) h.links (apply_linksOk h.links) event
  verified := step_scopes (motive := fun table => Verified table fun _ => False) h.verified
    (apply_verified h.verified) event
  synced id grant link hgrant hstate hparent := by
    have hstays : SyncedStays world.scopes (ScopedWorld.step world event).scopes :=
      step_scopes (motive := SyncedStays world.scopes) (fun _ hsynced => hsynced)
        (apply_syncedStays world.scopes) event
    have hbefore : ∃ parentOwner, link.owner = .reserved parentOwner ∧
        (world.scopes.owner parentOwner).synced = true := by
      rcases grantAt_of_step hgrant with hbefore | ⟨request, admission, -, -, hadmitted, -⟩
      · exact h.synced id grant link hbefore hstate hparent
      · exact h.synced_of_live hadmitted.live hstate hparent
    obtain ⟨parentOwner, hreserved, hsynced⟩ := hbefore
    exact ⟨parentOwner, hreserved, hstays parentOwner hsynced⟩

section

variable (authorityOwners : Finset String) (events : List Event)

/-- In every run that much is known of parents. -/
theorem run_parented : Parented (run authorityOwners events) := by
  refine run_induction authorityOwners ?_ (fun _ event h => h.step event) events
  refine ⟨run_linksOk authorityOwners [], ⟨?_, ?_⟩, ?_⟩
  · exact fun _ _ _ hlive => (not_live_new hlive).elim
  · exact fun _ _ _ _ _ hlive => (not_live_new hlive).elim
  · intro id grant link hgrant
    cases hgrant

/-- A stamp of a lease: the admission's own, or the one its bind was sent with. -/
def Stamped (lease : Lease) (stamp : ScopeStamp) : Prop :=
  stamp = lease.grant.issued ∨ lease.stamp = some stamp

/-- A scope that is live at a named session. -/
def LiveSession (table : ScopeTable) (link : ScopeParent) : Prop :=
  ∃ owner scope, link.owner = .reserved owner ∧ table.live? owner link.scopeRef = some scope ∧
    scope.record.scopeEpoch = link.scopeEpoch

/-- A bound route that was stamped linked has a live parent, as long as the
record of its scope names that parent. -/
def StampedParentsLive : Prop :=
  ∀ key route scope lease stamp link,
    (run authorityOwners events).forwarding.clientToModule.get key = some route →
    route.scope = some scope →
    (run authorityOwners events).leases[scope.lease]? = some lease → Stamped lease stamp →
    stamp.parent = some link → stamp.parentState = some .linked →
    ∃ live, (run authorityOwners events).scopes.live? scope.owner scope.scopeRef = some live ∧
      (live.record.parent = some link → LiveSession (run authorityOwners events).scopes link)

/-- A linked link leads to a live session. A pending one names an owner that has not synced,
of whom nothing is live yet. -/
def LinkStatesTrue (table : ScopeTable) : Prop :=
  ∀ owner scopeRef scope link, table.live? owner scopeRef = some scope →
    scope.record.parent = some link →
    (scope.parentState = some .linked → LiveSession table link) ∧
    (scope.parentState = some .pending → ∀ parentOwner, link.owner = .reserved parentOwner →
      (table.owner parentOwner).synced = false ∧
        ∀ scopeRef, table.live? parentOwner scopeRef = none)

/-- In every run the link states are true. -/
theorem run_linkStatesTrue : LinkStatesTrue (run authorityOwners events).scopes := by
  have h := run_parented authorityOwners events
  intro owner scopeRef scope link hlive hparent
  refine ⟨fun hstate => ?_, fun hstate parentOwner howner => ?_⟩
  · obtain ⟨parentOwner, howner, hup⟩ := h.links.parents _ _ _ _ hlive hstate hparent
    obtain ⟨up, hup, hepoch⟩ := hup id
    exact ⟨parentOwner, up, howner, hup, hepoch⟩
  · have hunsynced := h.verified.pending _ _ _ _ _ hlive hstate hparent howner id
    refine ⟨hunsynced, fun upRef => Option.eq_none_iff_forall_ne_some.mpr fun up hup => ?_⟩
    cases hunsynced.symm.trans (h.verified.live _ _ _ hup)

end

/-- In every run a route stamped linked has a live parent. -/
theorem run_stampedParentsLive (authorityOwners : Finset String) (events : List Event) :
    StampedParentsLive authorityOwners events := by
  intro key route scope lease stamp link hroute hscope hlease hstamped hstampParent hstampState
  have hauthorized := run_authorized authorityOwners events
  have hparented := run_parented authorityOwners events
  obtain ⟨grant, live, hok⟩ := hauthorized.routes key route scope hroute hscope
  have hgrant : lease.grant = grant := by
    have hat := hok.granted
    unfold grantAt at hat
    rw [hlease] at hat
    exact Option.some.inj hat
  obtain ⟨table, hissued⟩ := (hauthorized.grants _ _ hok.granted).issued
  have hsame : stamp.parent = grant.scope.record.parent ∧
      stamp.parentState = grant.scope.parentState := by
    rcases hstamped with rfl | hsent
    · rw [hgrant, hissued]
      exact ⟨rfl, rfl⟩
    obtain ⟨-, capabilities, -, -, -, rfl⟩ := run_stamped authorityOwners hlease hsent
    rw [hgrant, hissued, (relayedStamp_same _ capabilities).parent,
      (relayedStamp_same _ capabilities).parentState]
    exact ⟨rfl, rfl⟩
  have hparent := hsame.1.symm.trans hstampParent
  have hstate := hsame.2.symm.trans hstampState
  refine ⟨live, hok.current, ?_⟩
  intro hnamed
  have hsound := hauthorized.coherent.sound _ _ _ hok.current
  have hlinked : live.parentState = some .linked := by
    cases hnow : live.parentState with
    | none => exact absurd hnow (hsound.linked link hnamed)
    | some now =>
      cases now with
      | linked => rfl
      | ended =>
        rw [hok.keeps.ended hnow] at hstate
        cases hstate
      | pending =>
        obtain ⟨parentOwner, hreserved, hsynced⟩ :=
          hparented.synced _ _ link hok.granted hstate hparent
        rw [hparented.verified.pending _ _ live link parentOwner hok.current hnow hnamed hreserved
          id] at hsynced
        cases hsynced
  obtain ⟨parentOwner, hreserved, hup⟩ :=
    hparented.links.parents _ _ live link hok.current hlinked hnamed
  obtain ⟨up, hup, hepoch⟩ := hup id
  exact ⟨parentOwner, up, hreserved, hup, hepoch⟩

/-- The parent and child of the run below, as their owner first sends them. -/
def family : List ScopeRecord :=
  [.new "parent" 1 .head,
    { ScopeRecord.new "child" 1 .worker with parent := some ⟨.reserved "head", "parent", 1⟩ }]

/-- A route is bound under a linked child, the child is sent again without its
parent, and then the parent ends. -/
def repointedChild : List Event :=
  [.call (.registerModuleConnection ⟨1, "aft", 1, .serial, ⟨1⟩, true⟩),
    .changeScopes (callBy "head" 1 family none) 0 .asStored,
    .openScoped ⟨.reserved "head", 2, "aft", ⟨.reserved "head", "child", some 1, none, false⟩,
      none, ⟨0, true, fun _ _ => true⟩⟩,
    .beginScoped 0 ⟨2, ⟨2⟩, 1, 7, "aft", .direct, none, none, 100, false, 0⟩,
    .sendBind 0 none fun _ _ => true,
    .call (.completePendingRelay 1 1 .accepted ⟨5, false, false, 5, 0, false⟩),
    .changeScopes (callBy "head" 2 [.new "parent" 1 .head, .new "child" 1 .worker] none) 0
      .asStored,
    .changeScopes (callBy "head" 3 [.new "child" 1 .worker] none) 0 .asStored]

set_option maxRecDepth 8000 in
/-- The route is still bound under a stamp that says linked, and its parent is gone. -/
theorem repointedChild_keeps_stamp :
    (((run ∅ repointedChild).forwarding.clientToModule.get ⟨2, 1⟩).bind
      RouteBinding.scope).map BoundScope.lease = some 0 ∧
    ((run ∅ repointedChild).leases[0]?.bind Lease.stamp).map
      (fun stamp => (stamp.parent, stamp.parentState)) =
        some (some ⟨.reserved "head", "parent", 1⟩, some .linked) ∧
    ((run ∅ repointedChild).scopes.live? "head" "parent").isNone = true := by
  decide

end Subconscious.ScopedParents
