import Subconscious.ScopeTags
import Subconscious.ScopeAdmissions
import Subconscious.ForwardingControl

/-!
# What a drain leaves

A tag change names the routes it closes by their opener and target. What it
leaves open is covered: for every scope of the first table and every opener and
target that the reported changes do not close, the scope is still live at its
epoch, grants the opener what it granted, and speaks for the same agents.
-/

namespace Subconscious.ScopeDrains

open TreeMaps Protocol ScopeRecords ScopeChanges ScopeTables ScopeChecks ScopeSync
open ScopeCommits ScopeRuns ScopeVersions ScopeTags ScopeAdmissions ForwardingControl

/-- Whether a drain closes the routes of an opener to a module. -/
def closesFor (owner : String) (principal : Principal) (moduleId : String) : ScopeDrain → Bool
  | .nothing => false
  | .all _ => true
  | .carriers narrowed =>
    decide (principal ≠ .reserved owner) && carrierNarrowed narrowed principal moduleId

/-- A drain that closes nothing or everything. -/
def Blunt : ScopeDrain → Prop
  | .carriers _ => False
  | _ => True

/-- Closing everything ranks above closing for some. -/
theorem rank_all (reason : RouteCloseReason) : 2 ≤ (ScopeDrain.all reason).rank := by
  cases reason <;> decide

/-- A blunt drain adds what it closes. -/
theorem closesFor_widen (h : Blunt other) :
    closesFor owner principal moduleId (drain.widen other) =
      (closesFor owner principal moduleId drain || closesFor owner principal moduleId other) := by
  unfold ScopeDrain.widen
  cases other with
  | carriers => cases h
  | nothing =>
    rw [if_neg (show ¬ ScopeDrain.nothing.rank > drain.rank from Nat.not_lt_zero _)]
    simp [closesFor]
  | all reason =>
    have hrank := rank_all reason
    split
    case isTrue => simp [closesFor]
    rename_i hle
    cases drain with
    | all => simp [closesFor]
    | nothing =>
      change ¬ (0 < (ScopeDrain.all reason).rank) at hle
      omega
    | carriers =>
      change ¬ (1 < (ScopeDrain.all reason).rank) at hle
      omega

/-- What a carrier may open to, from one entry to the next. -/
theorem carrierAllowance_some (h : carrierAllowance record principal ≠ none) :
    principal ∈ carrierPrincipals record := by
  have hmem : ∀ (carriers : List ScopeCarrier) (seen : List Principal),
      (principal ∈ seen ∨ ∃ carrier ∈ carriers, carrier.principal = principal) →
      principal ∈ carriers.foldl (fun principals carrier =>
        if carrier.principal ∈ principals then principals
        else principals ++ [carrier.principal]) seen := by
    intro carriers
    induction carriers with
    | nil =>
      intro seen hseen
      simpa using hseen
    | cons carrier rest ih =>
      intro seen hseen
      refine ih _ ?_
      rcases hseen with hseen | ⟨found, hfound, rfl⟩
      · left
        dsimp only
        split
        case isTrue => exact hseen
        case isFalse => exact List.mem_append_left _ hseen
      rcases List.mem_cons.mp hfound with rfl | hrest
      · left
        dsimp only
        split
        case isTrue hin => exact hin
        case isFalse => exact List.mem_append_right _ (List.mem_singleton_self _)
      · exact .inr ⟨found, hrest, rfl⟩
  refine hmem record.carriers [] (.inr ?_)
  by_contra hnone
  refine h ?_
  have hempty : record.carriers.filter (fun carrier => carrier.principal = principal) = [] := by
    rw [List.filter_eq_nil_iff]
    intro carrier hcarrier heq
    exact hnone ⟨carrier, hcarrier, of_decide_eq_true heq⟩
  unfold carrierAllowance
  rw [hempty]
  rfl

/-- A carrier that a narrowing list spares keeps its permission. -/
theorem carrierPermits_of_spared
    (hspared : carrierNarrowed ((carrierPrincipals before).filterMap
      (narrowedCarrier before after)) principal moduleId = false)
    (h : carrierPermits before principal moduleId = true) :
    carrierPermits after principal moduleId = true := by
  have hlisted : principal ∈ carrierPrincipals before := by
    refine carrierAllowance_some ?_
    intro hnone
    unfold carrierPermits at h
    rw [hnone] at h
    cases h
  have hentry : ∀ targets, narrowedCarrier before after principal = some (principal, targets) →
      ∃ set, targets = some set ∧ moduleId ∈ set := by
    intro targets hnarrowed
    have hmem : (principal, targets) ∈
        (carrierPrincipals before).filterMap (narrowedCarrier before after) :=
      List.mem_filterMap.mpr ⟨principal, hlisted, hnarrowed⟩
    have hfalse := List.any_eq_false.mp hspared _ hmem
    cases targets with
    | none => simp at hfalse
    | some set => exact ⟨set, rfl, by simpa using hfalse⟩
  unfold narrowedCarrier at hentry
  unfold carrierPermits at h ⊢
  cases hwas : carrierAllowance before principal with
  | none =>
    rw [hwas] at h
    cases h
  | some was =>
    cases hnow : carrierAllowance after principal with
    | none =>
      rw [hwas, hnow] at hentry
      obtain ⟨set, hset, -⟩ := hentry none rfl
      cases hset
    | some now =>
      cases now with
      | none => rfl
      | some set =>
        rw [hwas, hnow] at hentry
        cases was with
        | none =>
          obtain ⟨set', hset, hin⟩ := hentry (some set) rfl
          cases hset
          exact decide_eq_true hin
        | some old =>
          rw [hwas] at h
          by_cases hsubset : old ⊆ set
          · exact decide_eq_true (hsubset (of_decide_eq_true h))
          dsimp only at hentry
          rw [if_neg hsubset] at hentry
          obtain ⟨set', hset, hin⟩ := hentry (some set) rfl
          cases hset
          exact decide_eq_true hin

/-- A scope that grants an opener all it granted before, for the same agents. -/
structure Keeps (owner : String) (principal : Principal) (moduleId : String)
    (before after : LiveScope) : Prop where
  epoch : after.record.scopeEpoch = before.record.scopeEpoch
  grants : Grants owner before.record principal moduleId →
    Grants owner after.record principal moduleId
  agentId : after.record.attributes.agentId = before.record.attributes.agentId
  onBehalfOfAgent : after.record.attributes.onBehalfOfAgent =
    before.record.attributes.onBehalfOfAgent
  flowId : after.record.attributes.flowId = before.record.attributes.flowId
  runId : after.record.attributes.runId = before.record.attributes.runId
  delegates : before.record.attributes.delegates = true → after.record.attributes.delegates = true
  /-- A parent that ended is one that had ended. -/
  ended : after.parentState = some .ended → before.parentState = some .ended

/-- A scope keeps what it grants. -/
theorem Keeps.refl (scope : LiveScope) : Keeps owner principal moduleId scope scope :=
  ⟨rfl, id, rfl, rfl, rfl, rfl, id, id⟩

/-- What is kept twice is kept. -/
theorem Keeps.trans (hab : Keeps owner principal moduleId a b)
    (hbc : Keeps owner principal moduleId b c) : Keeps owner principal moduleId a c where
  epoch := hbc.epoch.trans hab.epoch
  grants h := hbc.grants (hab.grants h)
  agentId := hbc.agentId.trans hab.agentId
  onBehalfOfAgent := hbc.onBehalfOfAgent.trans hab.onBehalfOfAgent
  flowId := hbc.flowId.trans hab.flowId
  runId := hbc.runId.trans hab.runId
  delegates h := hbc.delegates (hab.delegates h)
  ended h := hab.ended (hbc.ended h)

/-- What the drain of a change at one epoch leaves open is kept. -/
theorem drainForChange_keeps (hepoch : before.record.scopeEpoch = after.record.scopeEpoch)
    (h : closesFor owner principal moduleId (drainForChange before after) = false) :
    Keeps owner principal moduleId before after := by
  unfold drainForChange at h
  dsimp only at h
  set narrowed :=
    (carrierPrincipals before.record).filterMap (narrowedCarrier before.record after.record)
    with hnarrowed
  have hlist : closesFor owner principal moduleId
      (if narrowed = [] then ScopeDrain.nothing else .carriers narrowed) =
        (decide (principal ≠ .reserved owner) && carrierNarrowed narrowed principal moduleId) := by
    split
    case isTrue hempty =>
      rw [hempty]
      simp [closesFor, carrierNarrowed]
    case isFalse => rfl
  have hparts : (closesFor owner principal moduleId
        (if narrowed = [] then ScopeDrain.nothing else .carriers narrowed) = false ∧
      ¬ ((before.record.attributes.delegates && !after.record.attributes.delegates)
        || decide (before.record.attributes.agentId ≠ after.record.attributes.agentId)
        || decide (before.record.attributes.onBehalfOfAgent ≠
          after.record.attributes.onBehalfOfAgent)
        || decide (before.record.attributes.flowId ≠ after.record.attributes.flowId)
        || decide (before.record.attributes.runId ≠ after.record.attributes.runId)) = true) ∧
      ¬ (after.parentState = some .ended ∧ before.parentState ≠ some .ended) := by
    split at h
    case isTrue =>
      rw [closesFor_widen (show Blunt (.all _) from trivial)] at h
      simp [closesFor] at h
    case isFalse hended =>
      split at h
      case isTrue =>
        rw [closesFor_widen (show Blunt (.all _) from trivial)] at h
        simp [closesFor] at h
      case isFalse hattributes => exact ⟨⟨h, hattributes⟩, hended⟩
  obtain ⟨⟨hcarriers, hattributes⟩, hended⟩ := hparts
  rw [hlist] at hcarriers
  simp only [Bool.or_eq_true, not_or, decide_eq_true_eq, not_not, Bool.and_eq_true,
    Bool.not_eq_true'] at hattributes
  obtain ⟨⟨⟨⟨hdelegates, hagent⟩, hbehalf⟩, hflow⟩, hrun⟩ := hattributes
  refine ⟨hepoch.symm, ?_, hagent.symm, hbehalf.symm, hflow.symm, hrun.symm, ?_, ?_⟩
  · rintro (howner | hpermits)
    · exact .inl howner
    by_cases howner : principal = .reserved owner
    · exact .inl howner
    right
    refine carrierPermits_of_spared ?_ hpermits
    simpa [howner] using hcarriers
  · intro hwas
    by_contra hnot
    exact hdelegates ⟨hwas, Bool.not_eq_true _ ▸ hnot⟩
  · intro hafter
    by_contra hnot
    exact hended ⟨hafter, hnot⟩

/-- The reported changes spare an opener's routes to a module. -/
def Spared (changes : List ScopeTagChange) (owner scopeRef : String) (principal : Principal)
    (moduleId : String) : Prop :=
  ∀ change ∈ changes, change.key = (owner, scopeRef) →
    closesFor owner principal moduleId change.drain = false

/-- What the reported changes spare is still granted. -/
def DrainsCover (table : ScopeTable) (changes : List ScopeTagChange) (table' : ScopeTable) :
    Prop :=
  ∀ owner scopeRef before principal moduleId, table.live? owner scopeRef = some before →
    Spared changes owner scopeRef principal moduleId →
    ∃ after, table'.live? owner scopeRef = some after ∧ Keeps owner principal moduleId before after

/-- Where nothing changed nothing is revoked. -/
theorem DrainsCover.of_same
    (h : ∀ owner scopeRef, table'.live? owner scopeRef = table.live? owner scopeRef) :
    DrainsCover table changes table' := by
  intro owner scopeRef before principal moduleId hbefore _
  exact ⟨before, (h owner scopeRef).trans hbefore, .refl before⟩

/-- Two lists together report what either call revokes. -/
theorem DrainsCover.append (hab : DrainsCover a changes b) (hbc : DrainsCover b changes' c) :
    DrainsCover a (changes ++ changes') c := by
  intro owner scopeRef before principal moduleId hbefore hspared
  obtain ⟨mid, hmid, hfirst⟩ := hab owner scopeRef before principal moduleId hbefore
    fun change hmem => hspared change (List.mem_append_left _ hmem)
  obtain ⟨after, hafter, hsecond⟩ := hbc owner scopeRef mid principal moduleId hmid
    fun change hmem => hspared change (List.mem_append_right _ hmem)
  exact ⟨after, hafter, hfirst.trans hsecond⟩

/-- A commit reports what it revokes. -/
theorem committed_drainsCover (h : Versioned table) :
    DrainsCover table (synced table request reads).applied.tagChanges
      (committed table request reads) := by
  intro owner scopeRef before principal moduleId hbefore hspared
  by_cases howner : owner = request.owner
  · subst howner
    have hlive : (committed table request reads).live? request.owner scopeRef =
        (synced table request reads).state.live[scopeRef]? := by
      unfold ScopeTable.live?
      rw [committed_owner, if_pos rfl]
    have hheld : (table.owner request.owner).live[scopeRef]? = some before := hbefore
    cases hchange : tagChange request.owner (table.owner request.owner).live
        (synced table request reads).state.live scopeRef with
    | none =>
      have htag := tagChange_none hchange
      rw [hheld, Option.map_some] at htag
      obtain ⟨after, hafter, hsame⟩ := Option.map_eq_some_iff.mp htag.symm
      have hversion : after.version = before.version := congrArg ScopeTag.version hsame
      rw [hafter] at hlive
      rcases (committed_fresh table request reads).live _ _ _ hlive with hold | ⟨hnew, -⟩
      · rw [hbefore] at hold
        cases hold
        exact ⟨before, hlive, .refl before⟩
      · have hbounded := h.bounded _ _ _ hbefore
        omega
    | some change =>
      have hmem : change ∈ (synced table request reads).applied.tagChanges := by
        refine List.mem_filterMap.mpr ⟨scopeRef, ?_, hchange⟩
        rw [mem_unionKeys, hheld]
        exact .inl rfl
      have hopen := hspared change hmem (tagChange_some hchange).1
      unfold tagChange at hchange
      dsimp only at hchange
      split at hchange
      case isTrue => cases hchange
      cases hchange
      rw [hheld] at hopen
      cases hafter : (synced table request reads).state.live[scopeRef]? with
      | none =>
        rw [hafter] at hopen
        cases hopen
      | some after =>
        rw [hafter] at hopen hlive
        dsimp only at hopen
        split at hopen
        case isTrue hepoch => exact ⟨after, hlive, drainForChange_keeps hepoch hopen⟩
        case isFalse => cases hopen
  · refine ⟨before, ?_, .refl before⟩
    unfold ScopeTable.live?
    rw [committed_owner, if_neg howner]
    exact hbefore

/-- An added change names no scope twice. -/
theorem addTagChange_nodup (h : (changes.map ScopeTagChange.key).Nodup) (owner : String)
    (before after : ScopeTag) :
    ((addTagChange changes owner scopeRef before after drain).map ScopeTagChange.key).Nodup := by
  rw [addTagChange_eq h]
  split
  case isTrue =>
    rw [List.map_map, List.map_congr_left (g := ScopeTagChange.key)]
    · exact h
    intro change _
    dsimp only [Function.comp_apply]
    split <;> rfl
  case isFalse hnot =>
    rw [List.map_append, List.nodup_append]
    refine ⟨h, List.nodup_singleton _, ?_⟩
    rintro key hkey key' hkey' rfl
    obtain rfl := List.mem_singleton.mp hkey'
    exact hnot hkey

/-- What is spared after one more change was spared before, and by it. -/
theorem spared_of_addTagChange (hnodup : (changes.map ScopeTagChange.key).Nodup)
    (hblunt : Blunt drain)
    (h : Spared (addTagChange changes childOwner childRef before after drain) owner scopeRef
      principal moduleId) :
    Spared changes owner scopeRef principal moduleId ∧
      ((owner, scopeRef) = (childOwner, childRef) →
        closesFor owner principal moduleId drain = false) := by
  rw [addTagChange_eq hnodup] at h
  split at h
  case isTrue hlisted =>
    have hmoved : ∀ change ∈ changes, change.key = (owner, scopeRef) →
        change.key = (childOwner, childRef) →
        closesFor owner principal moduleId change.drain = false ∧
          closesFor owner principal moduleId drain = false := by
      intro change hmem hkey hchild
      have hopen := h (moveChange after drain change)
        (List.mem_map.mpr ⟨change, hmem, if_pos hchild⟩) hkey
      change closesFor owner principal moduleId (change.drain.widen drain) = false at hopen
      rwa [closesFor_widen hblunt, Bool.or_eq_false_iff] at hopen
    constructor
    · intro change hmem hkey
      by_cases hchild : change.key = (childOwner, childRef)
      · exact (hmoved change hmem hkey hchild).1
      · exact h change (List.mem_map.mpr ⟨change, hmem, if_neg hchild⟩) hkey
    · intro heq
      obtain ⟨change, hmem, hkey⟩ := List.mem_map.mp hlisted
      exact (hmoved change hmem (hkey.trans heq.symm) hkey).2
  case isFalse =>
    refine ⟨fun change hmem => h change (List.mem_append_left _ hmem), ?_⟩
    intro heq
    exact h _ (List.mem_append_right _ (List.mem_singleton_self _)) heq.symm

/-- An update reports a parent that ended. -/
theorem applyLinkUpdate_drainsCover {refreshed : Refreshed}
    (hnodup : (refreshed.tagChanges.map ScopeTagChange.key).Nodup)
    (h : DrainsCover table refreshed.tagChanges refreshed.table) :
    ((applyLinkUpdate refreshed update).tagChanges.map ScopeTagChange.key).Nodup ∧
      DrainsCover table (applyLinkUpdate refreshed update).tagChanges
        (applyLinkUpdate refreshed update).table := by
  cases hlive : refreshed.table.live? update.childOwner update.childRef with
  | none =>
    rw [applyLinkUpdate_of_none hlive]
    exact ⟨hnodup, h⟩
  | some scope =>
    rw [applyLinkUpdate_of_some hlive]
    refine ⟨addTagChange_nodup hnodup _ _ _, ?_⟩
    intro owner scopeRef before principal moduleId hbefore hspared
    obtain ⟨hfirst, hupdate⟩ := spared_of_addTagChange hnodup (by split <;> trivial) hspared
    obtain ⟨mid, hmid, hkeeps⟩ := h owner scopeRef before principal moduleId hbefore hfirst
    rw [live_setLive]
    split
    case isFalse => exact ⟨mid, hmid, hkeeps⟩
    rename_i hkey
    obtain ⟨rfl, rfl⟩ := hkey
    rw [hlive] at hmid
    cases hmid
    refine ⟨_, rfl, hkeeps.trans ⟨rfl, id, rfl, rfl, rfl, rfl, id, ?_⟩⟩
    intro hended
    have hopen := hupdate rfl
    rw [if_pos (Option.some.inj hended)] at hopen
    cases hopen

/-- A refresh reports what it revokes. -/
theorem refreshLinksTo_drainsCover
    (hnodup : (changes.map ScopeTagChange.key).Nodup) (h : DrainsCover table changes table')
    (parentOwner : String) :
    ((refreshLinksTo table' parentOwner order changes).tagChanges.map ScopeTagChange.key).Nodup ∧
      DrainsCover table (refreshLinksTo table' parentOwner order changes).tagChanges
        (refreshLinksTo table' parentOwner order changes).table :=
  List.foldlRecOn (motive := fun acc : Refreshed =>
    (acc.tagChanges.map ScopeTagChange.key).Nodup ∧ DrainsCover table acc.tagChanges acc.table)
    _ _ ⟨hnodup, h⟩ fun _ hacc _ _ => applyLinkUpdate_drainsCover hacc.1 hacc.2

/-- A sweep closes every route of what it ends. -/
theorem sweepOwner_drainsCover (h : DrainsCover table swept.tagChanges swept.table) :
    DrainsCover table (sweepOwner now swept owner).tagChanges
      (sweepOwner now swept owner).table := by
  unfold sweepOwner
  dsimp only
  split
  case isTrue => exact h
  refine DrainsCover.append h ?_
  intro other scopeRef before principal moduleId hbefore hspared
  refine ⟨before, ?_, .refl before⟩
  unfold ScopeTable.live?
  rw [owner_of_insert { swept.table with
    owners := swept.table.owners.insert owner
      (expireOwner owner (swept.table.owner owner) now).1 } rfl other]
  split
  case isFalse => exact hbefore
  rename_i howner
  subst howner
  cases hgone : (expireOwner other (swept.table.owner other) now).1.live[scopeRef]? with
  | some =>
    rw [← live_of_expireOwner hgone]
    exact hbefore
  | none =>
    obtain ⟨expired, hexpired, rfl⟩ := expired_of_live hbefore hgone
    have hopen := hspared _ (List.mem_map.mpr ⟨expired, hexpired, rfl⟩) rfl
    cases hopen

/-- A sweep reports what it revokes. -/
theorem sweptTable_drainsCover :
    DrainsCover table (sweptTable table now order).tagChanges (sweptTable table now order).table :=
  List.foldlRecOn (motive := fun acc : ExpirySwept =>
    DrainsCover table acc.tagChanges acc.table) _ _ (.of_same fun _ _ => rfl)
    fun _ hacc _ _ => sweepOwner_drainsCover hacc

/-- Every call reports what it revokes. -/
theorem apply_drainsCover (h : Versioned table) (op : ScopeOp) :
    DrainsCover table (op.tagChanges table) (op.apply table) := by
  cases op with
  | change request reads =>
    unfold ScopeOp.tagChanges ScopeOp.apply
    dsimp only
    by_cases haccepts : Accepts table request reads
    · rw [change_of_accepts haccepts]
      exact (refreshLinksTo_drainsCover (committed_tagsMoved).nodup (committed_drainsCover h) _).2
    · exact .of_same (refused_live haccepts)
  | sweepExpired now order =>
    refine (List.foldlRecOn (motive := fun acc : ExpirySwept =>
      (acc.tagChanges.map ScopeTagChange.key).Nodup ∧ DrainsCover table acc.tagChanges acc.table)
      _ _ ⟨(sweptTable_tagsMoved).nodup, sweptTable_drainsCover⟩ ?_).2
    exact fun _ hacc owner _ => refreshLinksTo_drainsCover hacc.1 hacc.2 owner
  | releaseConnection connectionId =>
    exact .of_same fun owner scopeRef => releaseConnection_live

end Subconscious.ScopeDrains
