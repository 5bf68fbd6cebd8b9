import Subconscious.ScopeVersions

/-!
# Tag changes

A call reports how the tags of live scopes moved. Its list comes from the
expiry, the commit and the refreshes of one call, and still it names each
scope once, with the tag before the call and the tag after it, and it names
exactly the scopes whose tag is another one.
-/

namespace Subconscious.ScopeTags

open HashMaps TreeMaps ScopeChanges ScopeTables ScopeChecks ScopeSync ScopeCommits ScopeRuns
open ScopeVersions

/-- The tag of a live scope. -/
def tagAt (table : ScopeTable) (owner scopeRef : String) : Option ScopeTag :=
  (table.live? owner scopeRef).map LiveScope.tag

/-- A list says exactly how the tags of two tables differ. -/
structure TagsMoved (table : ScopeTable) (changes : List ScopeTagChange) (table' : ScopeTable) :
    Prop where
  nodup : (changes.map ScopeTagChange.key).Nodup
  sound : ∀ change ∈ changes, change.before = tagAt table change.owner change.scopeRef ∧
    change.after = tagAt table' change.owner change.scopeRef ∧ change.before ≠ change.after
  complete : ∀ owner scopeRef, tagAt table owner scopeRef ≠ tagAt table' owner scopeRef →
    (owner, scopeRef) ∈ changes.map ScopeTagChange.key

/-- A scope no change names has the tag it had. -/
theorem TagsMoved.same (h : TagsMoved table changes table')
    (hnot : (owner, scopeRef) ∉ changes.map ScopeTagChange.key) :
    tagAt table' owner scopeRef = tagAt table owner scopeRef := by
  by_contra hne
  exact hnot (h.complete owner scopeRef fun heq => hne heq.symm)

/-- Tables with the same live scopes need no change. -/
theorem TagsMoved.of_same
    (hsame : ∀ owner scopeRef, table'.live? owner scopeRef = table.live? owner scopeRef) :
    TagsMoved table [] table' := by
  refine ⟨List.nodup_nil, fun _ hmem => absurd hmem List.not_mem_nil, ?_⟩
  intro owner scopeRef hne
  refine absurd ?_ hne
  unfold tagAt
  rw [hsame]

/-- Two lists about different scopes join. -/
theorem TagsMoved.append {changes changes' : List ScopeTagChange}
    (hab : TagsMoved a changes b) (hbc : TagsMoved b changes' c)
    (hdisjoint : ∀ key ∈ changes'.map ScopeTagChange.key, key ∉ changes.map ScopeTagChange.key) :
    TagsMoved a (changes ++ changes') c := by
  refine ⟨?_, ?_, ?_⟩
  · rw [List.map_append, List.nodup_append]
    refine ⟨hab.nodup, hbc.nodup, ?_⟩
    intro key hkey key' hkey' heq
    exact hdisjoint key' hkey' (heq ▸ hkey)
  · intro change hmem
    rcases List.mem_append.mp hmem with hfirst | hsecond
    · have hnot : change.key ∉ changes'.map ScopeTagChange.key := fun hin =>
        hdisjoint _ hin (List.mem_map_of_mem hfirst)
      have hsound := hab.sound change hfirst
      exact ⟨hsound.1, hsound.2.1.trans (hbc.same hnot).symm, hsound.2.2⟩
    · have hnot := hdisjoint _ (List.mem_map_of_mem hsecond)
      have hsound := hbc.sound change hsecond
      exact ⟨hsound.1.trans (hab.same hnot), hsound.2.1, hsound.2.2⟩
  · intro owner scopeRef hne
    rw [List.map_append, List.mem_append]
    by_cases hfirst : (owner, scopeRef) ∈ changes.map ScopeTagChange.key
    · exact .inl hfirst
    right
    apply hbc.complete
    rw [hab.same hfirst]
    exact hne

/-- A change of a scope says how its tag moved. -/
theorem tagChange_some {change : ScopeTagChange}
    (h : tagChange owner before after scopeRef = some change) :
    change.key = (owner, scopeRef) ∧ change.before = before[scopeRef]?.map LiveScope.tag ∧
      change.after = after[scopeRef]?.map LiveScope.tag ∧ change.before ≠ change.after := by
  unfold tagChange at h
  dsimp only at h
  split at h
  case isTrue => cases h
  case isFalse hne =>
    cases h
    exact ⟨rfl, rfl, rfl, hne⟩

/-- Without a change the tag is the same. -/
theorem tagChange_none (h : tagChange owner before after scopeRef = none) :
    before[scopeRef]?.map LiveScope.tag = after[scopeRef]?.map LiveScope.tag := by
  unfold tagChange at h
  dsimp only at h
  split at h
  case isTrue heq => exact heq
  case isFalse => cases h

/-- The changes of one owner describe a table in which that owner alone differs. -/
theorem tagChanges_moved (table table' : ScopeTable)
    (hothers : ∀ other, other ≠ owner → table'.owner other = table.owner other) :
    TagsMoved table (tagChanges owner (table.owner owner).live (table'.owner owner).live)
      table' := by
  have hkeys : ∀ change ∈ tagChanges owner (table.owner owner).live (table'.owner owner).live,
      ∃ scopeRef, tagChange owner (table.owner owner).live (table'.owner owner).live scopeRef =
        some change := by
    intro change hmem
    obtain ⟨scopeRef, -, hchange⟩ := List.mem_filterMap.mp hmem
    exact ⟨scopeRef, hchange⟩
  refine ⟨?_, ?_, ?_⟩
  · unfold tagChanges
    rw [List.map_filterMap, List.Nodup, List.pairwise_filterMap]
    refine (nodup_unionKeys).imp ?_
    intro scopeRef scopeRef' hne key hkey key' hkey' heq
    obtain ⟨change, hchange, rfl⟩ := Option.map_eq_some_iff.mp hkey
    obtain ⟨change', hchange', rfl⟩ := Option.map_eq_some_iff.mp hkey'
    rw [(tagChange_some hchange).1, (tagChange_some hchange').1] at heq
    exact hne (congrArg Prod.snd heq)
  · intro change hmem
    obtain ⟨scopeRef, hchange⟩ := hkeys change hmem
    obtain ⟨hkey, hbefore, hafter, hne⟩ := tagChange_some hchange
    have howner : change.owner = owner := congrArg Prod.fst hkey
    have href : change.scopeRef = scopeRef := congrArg Prod.snd hkey
    rw [howner, href]
    exact ⟨hbefore, hafter, hne⟩
  · intro other scopeRef hne
    have howner : other = owner := by
      by_contra hother
      refine hne ?_
      unfold tagAt ScopeTable.live?
      rw [hothers other hother]
    subst howner
    cases hchange : tagChange other (table.owner other).live (table'.owner other).live scopeRef with
    | none => exact absurd (tagChange_none hchange) hne
    | some change =>
      refine List.mem_map.mpr ⟨change, List.mem_filterMap.mpr ⟨scopeRef, ?_, hchange⟩,
        (tagChange_some hchange).1⟩
      rw [mem_unionKeys]
      by_contra hnot
      rw [not_or, Option.not_isSome_iff_eq_none, Option.not_isSome_iff_eq_none] at hnot
      refine hne ?_
      unfold tagAt ScopeTable.live?
      rw [hnot.1, hnot.2]

/-- A commit reports the tags it moved. -/
theorem committed_tagsMoved :
    TagsMoved table (synced table request reads).applied.tagChanges
      (committed table request reads) := by
  have hmoved := tagChanges_moved table (committed table request reads)
    (fun other hne => by rw [committed_owner, if_neg hne])
  rw [committed_owner, if_pos rfl] at hmoved
  exact hmoved

/-- The change a refresh makes to an entry of the list. -/
def moveChange (after : ScopeTag) (drain : ScopeDrain) (change : ScopeTagChange) : ScopeTagChange :=
  { change with after := some after, drain := change.drain.widen drain }

/-- A change is added, or the one of the same scope is moved. -/
theorem addTagChange_eq (hnodup : (changes.map ScopeTagChange.key).Nodup) (owner : String)
    (before after : ScopeTag) :
    addTagChange changes owner scopeRef before after drain =
      if (owner, scopeRef) ∈ changes.map ScopeTagChange.key then
        changes.map fun change =>
          if change.key = (owner, scopeRef) then moveChange after drain change else change
      else changes ++ [⟨owner, scopeRef, some before, some after, drain⟩] := by
  have hpred : ∀ change : ScopeTagChange,
      (decide (change.owner = owner ∧ change.scopeRef = scopeRef) = true) ↔
        change.key = (owner, scopeRef) := by
    intro change
    rw [decide_eq_true_iff, ScopeTagChange.key, Prod.mk.injEq]
  unfold addTagChange
  cases hfind : changes.findIdx? fun change =>
      decide (change.owner = owner ∧ change.scopeRef = scopeRef) with
  | none =>
    rw [if_neg]
    intro hmem
    obtain ⟨change, hchange, hkey⟩ := List.mem_map.mp hmem
    have hfalse := List.findIdx?_eq_none_iff.mp hfind change hchange
    rw [(hpred change).mpr hkey] at hfalse
    cases hfalse
  | some index =>
    obtain ⟨hlt, hat, -⟩ := List.findIdx?_eq_some_iff_getElem.mp hfind
    have hkey := (hpred _).mp hat
    rw [if_pos (hkey ▸ List.mem_map_of_mem (List.getElem_mem hlt))]
    apply List.ext_getElem
    · simp
    intro i hi hi'
    have hbound : i < changes.length := by simpa using hi'
    rw [List.getElem_modify, List.getElem_map]
    by_cases heq : index = i
    · subst heq
      rw [if_pos rfl, if_pos hkey]
      rfl
    rw [if_neg heq, if_neg]
    intro hkey'
    have hsame : changes[index] = changes[i] :=
      List.inj_on_of_nodup_map hnodup (List.getElem_mem hlt) (List.getElem_mem hbound)
        (hkey.trans hkey'.symm)
    exact heq ((hnodup.of_map _).getElem_inj_iff.mp hsame)

/-- One update of a live scope with a version no scope of the first table has. -/
theorem TagsMoved.addTagChange (h : TagsMoved table changes table')
    (drain : ScopeDrain) (hbefore : tagAt table' owner scopeRef = some before)
    (hafter : tagAt table'' owner scopeRef = some after)
    (hothers : ∀ owner' scopeRef', (owner', scopeRef') ≠ (owner, scopeRef) →
      tagAt table'' owner' scopeRef' = tagAt table' owner' scopeRef')
    (hfirst : tagAt table owner scopeRef ≠ some after) (hnew : before ≠ after) :
    TagsMoved table (ScopeSync.addTagChange changes owner scopeRef before after drain) table'' := by
  rw [addTagChange_eq h.nodup]
  split
  case isTrue hmem =>
    have hkeys : (changes.map fun change =>
        if change.key = (owner, scopeRef) then moveChange after drain change else change).map
          ScopeTagChange.key = changes.map ScopeTagChange.key := by
      rw [List.map_map]
      refine List.map_congr_left ?_
      intro change _
      dsimp only [Function.comp_apply]
      split <;> rfl
    refine ⟨hkeys ▸ h.nodup, ?_, ?_⟩
    · intro change hchange
      obtain ⟨was, hwas, rfl⟩ := List.mem_map.mp hchange
      have hsound := h.sound was hwas
      split
      case isTrue hkey =>
        have howner : was.owner = owner := congrArg Prod.fst hkey
        have href : was.scopeRef = scopeRef := congrArg Prod.snd hkey
        subst howner
        subst href
        exact ⟨hsound.1, hafter.symm, fun heq => hfirst (hsound.1.symm.trans heq)⟩
      case isFalse hkey =>
        rw [hothers was.owner was.scopeRef hkey]
        exact hsound
    · intro owner' scopeRef' hne
      rw [hkeys]
      by_cases hkey : (owner', scopeRef') = (owner, scopeRef)
      · rw [hkey]
        exact hmem
      · rw [hothers owner' scopeRef' hkey] at hne
        exact h.complete owner' scopeRef' hne
  case isFalse hnot =>
    refine @TagsMoved.append table table' table'' _ _ h ?_ ?_
    · refine ⟨List.nodup_singleton _, ?_, ?_⟩
      · intro change hchange
        obtain rfl := List.mem_singleton.mp hchange
        exact ⟨hbefore.symm, hafter.symm, fun heq => hnew (Option.some.inj heq)⟩
      intro owner' scopeRef' hne
      rw [List.map_singleton, List.mem_singleton]
      by_contra hkey
      exact hne (hothers owner' scopeRef' hkey).symm
    · intro key hkey
      obtain rfl := List.mem_singleton.mp hkey
      exact hnot

/-- The counter is above every version of the first table. -/
def Above (table : ScopeTable) (lastVersion : Nat) : Prop :=
  ∀ owner scopeRef scope, table.live? owner scopeRef = some scope → scope.version ≤ lastVersion

variable {refreshed : Refreshed}

/-- An update adds its scope to the list. -/
theorem applyLinkUpdate_tagsMoved (hbounded : Above refreshed.table refreshed.table.lastVersion)
    (habove : Above table refreshed.table.lastVersion)
    (h : TagsMoved table refreshed.tagChanges refreshed.table) :
    TagsMoved table (applyLinkUpdate refreshed update).tagChanges
      (applyLinkUpdate refreshed update).table := by
  cases hlive : refreshed.table.live? update.childOwner update.childRef with
  | none =>
    rw [applyLinkUpdate_of_none hlive]
    exact { h with }
  | some scope =>
    rw [applyLinkUpdate_of_some hlive]
    refine h.addTagChange _ ?_ ?_ ?_ ?_ ?_
    · unfold tagAt
      rw [hlive]
      rfl
    · unfold tagAt
      rw [live_setLive, if_pos ⟨rfl, rfl⟩]
      rfl
    · intro owner' scopeRef' hne
      unfold tagAt
      rw [live_setLive, if_neg]
      · rfl
      · rintro ⟨rfl, rfl⟩
        exact hne rfl
    · intro heq
      obtain ⟨was, hwas, htag⟩ := Option.map_eq_some_iff.mp heq
      have hold := habove _ _ was hwas
      have hversion : was.version = refreshed.table.lastVersion + 1 := congrArg ScopeTag.version htag
      omega
    · intro heq
      have hold := hbounded _ _ scope hlive
      have hversion : scope.version = refreshed.table.lastVersion + 1 :=
        congrArg ScopeTag.version heq
      omega

/-- An update draws one version, and no scope lies above it. -/
theorem applyLinkUpdate_above (h : Above refreshed.table refreshed.table.lastVersion)
    (update : LinkUpdate) :
    (applyLinkUpdate refreshed update).table.lastVersion = refreshed.table.lastVersion + 1 ∧
      Above (applyLinkUpdate refreshed update).table (refreshed.table.lastVersion + 1) := by
  cases hlive : refreshed.table.live? update.childOwner update.childRef with
  | none =>
    rw [applyLinkUpdate_of_none hlive]
    exact ⟨rfl, fun owner scopeRef scope hscope => Nat.le_succ_of_le (h owner scopeRef scope hscope)⟩
  | some =>
    rw [applyLinkUpdate_of_some hlive]
    refine ⟨rfl, ?_⟩
    intro owner scopeRef found hfound
    rw [live_setLive] at hfound
    split at hfound
    case isTrue =>
      cases hfound
      exact le_refl _
    case isFalse => exact Nat.le_succ_of_le (h owner scopeRef found hfound)

/-- A refresh keeps the list exact. -/
theorem refreshLinksTo_tagsMoved (hbounded : Above table' table'.lastVersion)
    (habove : Above table table'.lastVersion) (h : TagsMoved table changes table')
    (parentOwner : String) :
    TagsMoved table (refreshLinksTo table' parentOwner order changes).tagChanges
      (refreshLinksTo table' parentOwner order changes).table := by
  refine (List.foldlRecOn (motive := fun acc : Refreshed =>
    (Above acc.table acc.table.lastVersion ∧ Above table acc.table.lastVersion) ∧
      TagsMoved table acc.tagChanges acc.table) _ _ ⟨⟨hbounded, habove⟩, h⟩ ?_).2
  rintro acc ⟨⟨hacc, hfirst⟩, hmoved⟩ update -
  have hnext := applyLinkUpdate_above hacc update
  refine ⟨?_, applyLinkUpdate_tagsMoved hacc hfirst hmoved⟩
  rw [hnext.1]
  exact ⟨hnext.2, fun owner scopeRef scope hscope =>
    Nat.le_succ_of_le (hfirst owner scopeRef scope hscope)⟩

/-- Expiry names each scope once. -/
theorem nodup_expired (owner : String) (state : OwnerScopes) (now : Nat) :
    ((expireOwner owner state now).2.map ScopeExpired.scopeRef).Nodup := by
  unfold expireOwner
  rw [List.map_filterMap, List.Nodup, List.pairwise_filterMap]
  refine (List.pairwise_map.mp (nodup_keys state.live)).imp ?_
  intro entry entry' hne scopeRef href scopeRef' href' heq
  rw [Option.map_map] at href href'
  obtain ⟨deadline, -, rfl⟩ := Option.map_eq_some_iff.mp href
  obtain ⟨deadline', -, rfl⟩ := Option.map_eq_some_iff.mp href'
  exact hne heq

/-- The changes of a swept owner describe its expiry. -/
theorem sweepOwner_tagsMoved (now : Nat) (swept : ExpirySwept) (owner : String) :
    ∃ changes, (sweepOwner now swept owner).tagChanges = swept.tagChanges ++ changes ∧
      (∀ change ∈ changes, change.owner = owner) ∧
      TagsMoved swept.table changes (sweepOwner now swept owner).table := by
  unfold sweepOwner
  dsimp only
  split
  case isTrue => exact ⟨[], (List.append_nil _).symm, by simp, .of_same fun _ _ => rfl⟩
  set state := swept.table.owner owner with hstate
  refine ⟨_, rfl, ?_, ?_, ?_, ?_⟩
  · intro change hmem
    obtain ⟨expired, -, rfl⟩ := List.mem_map.mp hmem
    rfl
  · rw [List.map_map]
    have hnodup := nodup_expired owner state now
    rw [List.Nodup, List.pairwise_map] at hnodup ⊢
    refine hnodup.imp ?_
    intro expired expired' hne heq
    exact hne (congrArg Prod.snd heq)
  · intro change hmem
    obtain ⟨expired, hexpired, rfl⟩ := List.mem_map.mp hmem
    obtain ⟨scope, deadline, hlive, hdeadline, -⟩ := mem_expired.mp hexpired
    have hafter : tagAt
        { swept.table with
          owners := swept.table.owners.insert owner (expireOwner owner state now).1 }
        owner expired.scopeRef = none := by
      unfold tagAt ScopeTable.live?
      rw [owner_of_insert _ rfl owner, if_pos rfl, expireOwner_live, hlive]
      simp [Option.filter, hdeadline]
    refine ⟨rfl, hafter.symm, ?_⟩
    rw [hlive]
    simp
  · intro other scopeRef hne
    unfold tagAt ScopeTable.live? at hne
    rw [owner_of_insert { swept.table with
      owners := swept.table.owners.insert owner (expireOwner owner state now).1 } rfl other] at hne
    split at hne
    case isFalse => exact absurd rfl hne
    rename_i howner
    subst howner
    cases hlive : (swept.table.owner other).live[scopeRef]? with
    | none =>
      rw [expireOwner_live, hstate, hlive] at hne
      exact absurd rfl hne
    | some =>
      cases hgone : (expireOwner other state now).1.live[scopeRef]? with
      | some =>
        have hfound := live_of_expireOwner hgone
        rw [hgone, hfound] at hne
        exact absurd rfl hne
      | none =>
        obtain ⟨expired, hexpired, rfl⟩ := expired_of_live hlive hgone
        rw [List.map_map]
        exact List.mem_map.mpr ⟨expired, hexpired, rfl⟩

/-- The changes of different owners join. -/
theorem foldl_sweepOwner_tagsMoved {owners : List String} (hnodup : owners.Nodup)
    (swept : ExpirySwept) (hvisited : ∀ change ∈ swept.tagChanges, change.owner ∉ owners)
    (h : TagsMoved table swept.tagChanges swept.table) :
    TagsMoved table (owners.foldl (sweepOwner now) swept).tagChanges
      (owners.foldl (sweepOwner now) swept).table := by
  induction owners generalizing swept with
  | nil => exact h
  | cons owner rest ih =>
    rw [List.nodup_cons] at hnodup
    obtain ⟨changes, hchanges, howner, hmoved⟩ := sweepOwner_tagsMoved now swept owner
    rw [List.foldl_cons]
    refine ih hnodup.2 _ ?_ ?_
    · intro change hmem hin
      rw [hchanges] at hmem
      rcases List.mem_append.mp hmem with hfirst | hsecond
      · exact hvisited change hfirst (List.mem_cons_of_mem _ hin)
      · rw [howner change hsecond] at hin
        exact hnodup.1 hin
    rw [hchanges]
    refine h.append hmoved ?_
    intro key hkey hkey'
    obtain ⟨change, hmem, rfl⟩ := List.mem_map.mp hkey
    obtain ⟨change', hmem', heq⟩ := List.mem_map.mp hkey'
    have hsame : change'.owner = owner := (congrArg Prod.fst heq).trans (howner change hmem)
    exact hvisited change' hmem' (hsame ▸ List.mem_cons_self)

/-- A sweep reports the tags it moved. -/
theorem sweptTable_tagsMoved :
    TagsMoved table (sweptTable table now order).tagChanges (sweptTable table now order).table := by
  have hnodup : (order.arrange table.owners.keys).Nodup :=
    (order.perm _).nodup_iff.mpr table.owners.nodup_keys
  refine foldl_sweepOwner_tagsMoved hnodup _ ?_ (.of_same fun _ _ => rfl)
  nofun

/-- Every call reports exactly the tags it moved. -/
theorem apply_tagsMoved (h : Versioned table) (op : ScopeOp) :
    TagsMoved table (op.tagChanges table) (op.apply table) := by
  cases op with
  | change request reads =>
    unfold ScopeOp.tagChanges ScopeOp.apply
    dsimp only
    by_cases haccepts : Accepts table request reads
    · rw [change_of_accepts haccepts]
      have hcommitted := committed_versioned h request reads
      have hle := (committed_fresh table request reads).le
      exact refreshLinksTo_tagsMoved hcommitted.bounded
        (fun owner scopeRef scope hlive => le_trans (h.bounded owner scopeRef scope hlive) hle)
        committed_tagsMoved _
    · have hlive := refused_live haccepts
      obtain ⟨refusal, hrefused⟩ := change_of_refused haccepts
      rw [hrefused] at hlive ⊢
      exact .of_same hlive
  | sweepExpired now order =>
    have hlast : (sweptTable table now order).table.lastVersion = table.lastVersion :=
      foldl_sweepOwner_lastVersion _
    have hswept : Versioned (sweptTable table now order).table :=
      h.subset hlast fun _ _ _ => live_of_sweptTable
    refine (List.foldlRecOn (motive := fun acc : ExpirySwept =>
      (Versioned acc.table ∧ table.lastVersion ≤ acc.table.lastVersion) ∧
        TagsMoved table acc.tagChanges acc.table) _ _
      ⟨⟨hswept, hlast.ge⟩, sweptTable_tagsMoved⟩ ?_).2
    rintro acc ⟨⟨hversioned, hle⟩, hmoved⟩ owner -
    refine ⟨⟨refreshLinksTo_versioned hversioned, ?_⟩, ?_⟩
    · exact le_trans hle (refreshLinksTo_fresh).le
    · exact refreshLinksTo_tagsMoved hversioned.bounded
        (fun o r scope hlive => le_trans (h.bounded o r scope hlive) hle) hmoved owner
  | releaseConnection connectionId =>
    exact .of_same fun owner scopeRef => releaseConnection_live

end Subconscious.ScopeTags
