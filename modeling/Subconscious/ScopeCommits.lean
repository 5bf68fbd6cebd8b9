import Subconscious.ScopeSync

/-!
# What a scope call leaves in the table

The steps of a call in closed form. Expiry keeps the scopes whose deadline is
ahead. A commit gives every staged record a live scope that is the held one or
has a version nobody had. A refresh touches exactly the scopes whose link
settles to another state, and nothing of them but the link and the version.
-/

namespace Subconscious.ScopeCommits

open HashMaps TreeMaps ScopeRecords ScopeChanges ScopeTables ScopeChecks ScopeParents ScopeSync

variable {scopeRef : String} (table : ScopeTable)

/-- Storing one owner's scopes changes the lookup of that owner alone. -/
theorem owner_of_insert (table' : ScopeTable) {table : ScopeTable}
    (h : table'.owners = table.owners.insert owner state) (other : String) :
    table'.owner other = if other = owner then state else table.owner other := by
  unfold ScopeTable.owner
  rw [h, HashMap.get_insert]
  split
  case isTrue | isFalse => rfl

/-- Taking an owner out and storing it again is storing it. -/
theorem owner_of_remove_insert (table table' : ScopeTable)
    (h : table'.owners = (table.owners.remove owner).insert owner state) :
    table'.owner other = if other = owner then state else table.owner other := by
  unfold ScopeTable.owner
  rw [h, HashMap.get_insert, HashMap.get_remove]
  split
  case isTrue | isFalse => rfl

/-- A live scope belongs to an owner the table walks over. -/
theorem mem_keys_of_live {table : ScopeTable} (h : table.live? owner scopeRef = some scope) :
    owner ∈ table.owners.keys := by
  rw [HashMap.mem_keys]
  cases howner : table.owners.get owner with
  | some state => exact ⟨state, rfl⟩
  | none =>
    have hdefault : table.owner owner = .default := by
      unfold ScopeTable.owner
      rw [howner]
      rfl
    have hempty : (OwnerScopes.default.live)[scopeRef]? = some scope := by
      rw [← hdefault]
      exact h
    simp [OwnerScopes.default] at hempty

/-- The lookup of a table in which one live scope was replaced. -/
theorem live_setLive (owner : String) (other : String) :
    (setLive table owner scopeRef scope).live? other otherRef =
      if other = owner ∧ otherRef = scopeRef then some scope else table.live? other otherRef := by
  unfold ScopeTable.live?
  have howner := owner_of_insert (setLive table owner scopeRef scope) rfl other
  rw [howner]
  by_cases hother : other = owner
  · subst hother
    rw [if_pos rfl, get_insert]
    by_cases href : otherRef = scopeRef
    · rw [if_pos href, if_pos ⟨rfl, href⟩]
    · rw [if_neg href, if_neg (fun h => href h.2)]
  · rw [if_neg hother, if_neg (fun h => hother h.1)]

/-- Expiry keeps the scopes whose deadline has not passed, as they are. -/
theorem expireOwner_live :
    (expireOwner owner state now).1.live[scopeRef]? =
      state.live[scopeRef]?.filter fun scope => (scope.passedDeadline now).isNone :=
  get_retain state.live _ scopeRef

/-- What is live after expiry was live before. -/
theorem live_of_expireOwner (h : (expireOwner owner state now).1.live[scopeRef]? = some scope) :
    state.live[scopeRef]? = some scope := by
  rw [expireOwner_live] at h
  exact (Option.filter_eq_some_iff.mp h).1

/-- The expired list names the scopes whose deadline passed. -/
theorem mem_expired :
    expired ∈ (expireOwner owner state now).2 ↔
      ∃ scope deadline, state.live[expired.scopeRef]? = some scope ∧
        scope.passedDeadline now = some deadline ∧
        expired = ⟨owner, expired.scopeRef, scope.record.scopeEpoch, deadline⟩ := by
  unfold expireOwner
  rw [List.mem_filterMap]
  constructor
  · rintro ⟨⟨scopeRef, scope⟩, hmem, heq⟩
    obtain ⟨deadline, hdeadline, rfl⟩ := Option.map_eq_some_iff.mp heq
    exact ⟨scope, deadline, mem_toList.mp hmem, hdeadline, rfl⟩
  · rintro ⟨scope, deadline, hlive, hdeadline, heq⟩
    refine ⟨(expired.scopeRef, scope), mem_toList.mpr hlive, ?_⟩
    rw [hdeadline, Option.map_some, ← heq]

/-- A scope that expiry dropped is on the list. -/
theorem expired_of_live (hlive : state.live[scopeRef]? = some scope)
    (hgone : (expireOwner owner state now).1.live[scopeRef]? = none) :
    ∃ expired ∈ (expireOwner owner state now).2, expired.scopeRef = scopeRef := by
  rw [expireOwner_live, hlive] at hgone
  cases hdeadline : scope.passedDeadline now with
  | none => simp [Option.filter, hdeadline] at hgone
  | some deadline =>
    exact ⟨⟨owner, scopeRef, scope.record.scopeEpoch, deadline⟩,
      mem_expired.mpr ⟨scope, deadline, hlive, hdeadline, rfl⟩, rfl⟩

section commit

variable (old : TreeMap String LiveScope) (newLinkStates : HashMap String ParentState)
  (scopeRef : String) (record : ScopeRecord) (lastVersion : Nat)

/-- The held scope of the same session, if there is one. -/
def heldSession : Option LiveScope :=
  old[scopeRef]?.filter fun held => held.record.scopeEpoch = record.scopeEpoch

/-- A held scope at the epoch is the session. -/
theorem heldSession_of_held (hheld : old[scopeRef]? = some held)
    (hepoch : held.record.scopeEpoch = record.scopeEpoch) :
    heldSession old scopeRef record = some held := by
  unfold heldSession
  rw [hheld]
  simp [hepoch]

section

variable {old newLinkStates scopeRef record lastVersion}
  (h : (commitRecord old newLinkStates scopeRef record lastVersion).1 = scope)
include h

/-- A committed scope has the staged record, -/
theorem commitRecord_record : scope.record = record := by
  subst h
  unfold commitRecord
  dsimp only
  split
  · split <;> rfl
  · rfl

/-- the link state that was settled for it, -/
theorem commitRecord_parentState :
    scope.parentState = committedParentState record (heldSession old scopeRef record)
      (newLinkStates.get scopeRef) := by
  subst h
  unfold commitRecord heldSession
  dsimp only
  split
  case h_1 held hheld =>
    rw [hheld]
    split <;> rfl
  case h_2 hnone => rw [hnone]

/-- and the counters of its session. -/
theorem commitRecord_cells :
    scope.cells =
      ((heldSession old scopeRef record).map LiveScope.cells).getD (lastVersion + 1) := by
  subst h
  unfold commitRecord heldSession
  dsimp only
  split
  case h_1 held hheld =>
    rw [hheld]
    split <;> rfl
  case h_2 hnone =>
    rw [hnone]
    rfl

/-- A committed scope is the held one, or its version is new. -/
theorem commitRecord_kept_or_fresh :
    let drawn := (commitRecord old newLinkStates scopeRef record lastVersion).2
    (old[scopeRef]? = some scope ∧ drawn = lastVersion) ∨
      (scope.version = lastVersion + 1 ∧ drawn = lastVersion + 1) := by
  subst h
  unfold commitRecord
  dsimp only
  split
  case h_1 held hheld =>
    have hold := (Option.filter_eq_some_iff.mp hheld).1
    split
    case isTrue hsame =>
      obtain ⟨hrecord, hstate⟩ := hsame
      refine .inl ⟨hold.trans (congrArg some ?_), rfl⟩
      rw [← hstate, ← hrecord]
    case isFalse => exact .inr ⟨rfl, rfl⟩
  case h_2 => exact .inr ⟨rfl, rfl⟩

end

variable {newLinkStates old} in
/-- Content that is the same keeps the scope and draws no version. -/
theorem commitRecord_of_same (hheld : heldSession old scopeRef record = some held)
    (hrecord : held.record = record)
    (hstate : held.parentState =
      committedParentState record (some held) (newLinkStates.get scopeRef)) :
    commitRecord old newLinkStates scopeRef record lastVersion = (held, lastVersion) := by
  unfold heldSession at hheld
  unfold commitRecord
  rw [hheld]
  dsimp only
  rw [if_pos ⟨hrecord, hstate⟩, ← hrecord]
  rw [← hrecord] at hstate
  rw [← hstate]

end commit

section

variable (old : TreeMap String LiveScope) (newLinkStates : HashMap String ParentState)
  (entries : List (String × ScopeRecord)) (lastVersion : Nat)

/-- Versions only grow. -/
theorem commitRecords_le :
    lastVersion ≤ (commitRecords old newLinkStates entries lastVersion).2 := by
  induction entries generalizing lastVersion with
  | nil => exact le_refl _
  | cons entry rest ih =>
    have hrest := ih (commitRecord old newLinkStates entry.1 entry.2 lastVersion).2
    have hfirst := @commitRecord_kept_or_fresh _ old newLinkStates entry.1 entry.2 lastVersion rfl
    simp only [commitRecords]
    omega

/-- The refs of the committed scopes are those of the staged records. -/
theorem commitRecords_refs :
    (commitRecords old newLinkStates entries lastVersion).1.map Prod.fst =
      entries.map Prod.fst := by
  induction entries generalizing lastVersion with
  | nil => rfl
  | cons entry rest ih =>
    simp only [commitRecords, List.map_cons]
    rw [ih]

end

/-- Every committed scope comes from one staged record and one point of the
version counter. -/
theorem mem_commitRecords
    (h : (scopeRef, scope) ∈ (commitRecords old newLinkStates entries lastVersion).1) :
    ∃ record drawn, (scopeRef, record) ∈ entries ∧ lastVersion ≤ drawn ∧
      (commitRecord old newLinkStates scopeRef record drawn).1 = scope ∧
      (commitRecord old newLinkStates scopeRef record drawn).2 ≤
        (commitRecords old newLinkStates entries lastVersion).2 := by
  induction entries generalizing lastVersion with
  | nil => simp [commitRecords] at h
  | cons entry rest ih =>
    have hfirst := @commitRecord_kept_or_fresh _ old newLinkStates entry.1 entry.2 lastVersion rfl
    have hle := commitRecords_le old newLinkStates rest
      (commitRecord old newLinkStates entry.1 entry.2 lastVersion).2
    simp only [commitRecords, List.mem_cons] at h ⊢
    rcases h with heq | hmem
    · cases heq
      exact ⟨entry.2, lastVersion, .inl rfl, le_refl _, rfl, hle⟩
    · obtain ⟨record, drawn, hentry, hdrawn, hscope, hbound⟩ := ih hmem
      exact ⟨record, drawn, .inr hentry, by omega, hscope, hbound⟩

/-- No two committed scopes share a new version. -/
theorem commitRecords_distinct
    (hold : ∀ (r : String) held, old[r]? = some held → held.version ≤ lastVersion)
    (ha : a ∈ (commitRecords old newLinkStates entries lastVersion).1)
    (hb : b ∈ (commitRecords old newLinkStates entries lastVersion).1)
    (hnew : lastVersion < a.2.version) (heq : a.2.version = b.2.version) : a.1 = b.1 := by
  induction entries generalizing lastVersion with
  | nil => simp [commitRecords] at ha
  | cons entry rest ih =>
    have hfirst := @commitRecord_kept_or_fresh _ old newLinkStates entry.1 entry.2 lastVersion rfl
    set first := commitRecord old newLinkStates entry.1 entry.2 lastVersion with hfirstEq
    have hlater : ∀ c ∈ (commitRecords old newLinkStates rest first.2).1,
        c.2.version ≤ lastVersion ∨ first.2 < c.2.version := by
      intro c hc
      obtain ⟨record, drawn, -, hdrawn, hscope, -⟩ := mem_commitRecords hc
      rcases commitRecord_kept_or_fresh hscope with ⟨hkept, -⟩ | ⟨hversion, -⟩
      · exact .inl (hold _ _ hkept)
      · exact .inr (by omega)
    have hheld : ∀ (r : String) held, old[r]? = some held → held.version ≤ first.2 := by
      intro r held hr
      have := hold r held hr
      omega
    simp only [commitRecords, ← hfirstEq, List.mem_cons] at ha hb
    have hfirstVersion : lastVersion < first.1.version → first.1.version = first.2 := by
      intro hlt
      rcases hfirst with ⟨hkept, -⟩ | ⟨hversion, hlast⟩
      · have := hold _ _ hkept
        omega
      · omega
    rcases ha with rfl | ha <;> rcases hb with rfl | hb
    · rfl
    · have hversion := hfirstVersion hnew
      dsimp only at hnew heq
      rcases hlater b hb with hb' | hb' <;> omega
    · have hversion := hfirstVersion (by dsimp only at heq; omega)
      dsimp only at heq
      rcases hlater a ha with ha' | ha' <;> omega
    · rcases hlater a ha with ha' | ha'
      · omega
      · exact ih hheld ha hb ha'

section commitOwner

variable (change : ScopeChange) (before : TreeMap String LiveScope)
  (swept : OwnerScopes × List ScopeExpired) (settled : LinkSettling) (lastVersion : Nat)

/-- No ref is committed twice. -/
theorem commitOwner_nodup :
    ((commitRecords swept.1.live settled.newLinkStates settled.next.toList lastVersion).1.map
      Prod.fst).Nodup := by
  rw [commitRecords_refs]
  exact nodup_keys settled.next

/-- A committed scope comes from the staged record of its ref. -/
theorem live_of_commitOwner {change before swept settled lastVersion}
    (h : (commitOwner change before swept settled lastVersion).state.live[scopeRef]? = some scope) :
    ∃ drawn, settled.next[scopeRef]? = some scope.record ∧ lastVersion ≤ drawn ∧
      (commitRecord swept.1.live settled.newLinkStates scopeRef scope.record drawn).1 = scope ∧
      (commitRecord swept.1.live settled.newLinkStates scopeRef scope.record drawn).2 ≤
        (commitOwner change before swept settled lastVersion).lastVersion := by
  have hmem := (get_ofList (commitOwner_nodup swept settled lastVersion)).mp h
  obtain ⟨record, drawn, hentry, hdrawn, hscope, hbound⟩ := mem_commitRecords hmem
  obtain rfl := commitRecord_record hscope
  exact ⟨drawn, mem_toList.mp hentry, hdrawn, hscope, hbound⟩

/-- The staged records are committed, and nothing else. -/
theorem commitOwner_records (scopeRef : String) :
    (commitOwner change before swept settled lastVersion).state.live[scopeRef]?.map
      LiveScope.record = settled.next[scopeRef]? := by
  cases hlive : (commitOwner change before swept settled lastVersion).state.live[scopeRef]? with
  | some =>
    obtain ⟨-, hnext, -⟩ := live_of_commitOwner hlive
    exact hnext.symm
  | none =>
    refine (Option.eq_none_iff_forall_not_mem.mpr fun record hnext => ?_).symm
    have hkey : scopeRef ∈ (commitRecords swept.1.live settled.newLinkStates settled.next.toList
        lastVersion).1.map Prod.fst := by
      rw [commitRecords_refs]
      exact List.mem_map.mpr ⟨(scopeRef, record), mem_toList.mpr hnext, rfl⟩
    obtain ⟨⟨found, scope⟩, hmem, rfl⟩ := List.mem_map.mp hkey
    have hfound := (get_ofList (commitOwner_nodup swept settled lastVersion)).mpr hmem
    cases hlive.symm.trans hfound

/-- A commit only draws versions. -/
theorem commitOwner_le :
    lastVersion ≤ (commitOwner change before swept settled lastVersion).lastVersion :=
  commitRecords_le _ _ _ _

end commitOwner

/-- The scope an update is about. -/
def LinkUpdate.key (update : LinkUpdate) : String × String := (update.childOwner, update.childRef)

/-- An update is about the scope it was made for. -/
theorem linkUpdate_key {table : ScopeTable}
    (h : linkUpdate table parentOwner childOwner entry = some update) :
    LinkUpdate.key update = (childOwner, entry.1) := by
  unfold linkUpdate at h
  split at h
  case h_1 => cases h
  split at h
  case isTrue => cases h
  dsimp only at h
  split at h
  case isTrue => cases h
  case isFalse =>
    cases h
    rfl

/-- A refresh updates exactly the live scopes whose link settles elsewhere. -/
theorem mem_linkUpdates {table : ScopeTable} :
    update ∈ linkUpdates table parentOwner order ↔
      ∃ scope, table.live? update.childOwner update.childRef = some scope ∧
        linkUpdate table parentOwner update.childOwner (update.childRef, scope) = some update := by
  unfold linkUpdates
  rw [List.mem_flatMap]
  constructor
  · rintro ⟨childOwner, -, hmem⟩
    obtain ⟨⟨childRef, scope⟩, hentry, hupdate⟩ := List.mem_filterMap.mp hmem
    have hkey := linkUpdate_key hupdate
    cases update
    cases hkey
    exact ⟨scope, mem_toList.mp hentry, hupdate⟩
  · rintro ⟨scope, hlive, hupdate⟩
    refine ⟨update.childOwner, (order.perm _).mem_iff.mpr (mem_keys_of_live hlive), ?_⟩
    exact List.mem_filterMap.mpr ⟨(update.childRef, scope), mem_toList.mpr hlive, hupdate⟩

/-- No scope is updated twice. -/
theorem nodup_linkUpdates : ((linkUpdates table parentOwner order).map LinkUpdate.key).Nodup := by
  unfold linkUpdates
  rw [List.map_flatMap, List.nodup_flatMap]
  constructor
  · intro childOwner _
    rw [List.map_filterMap, List.Nodup, List.pairwise_filterMap]
    refine (List.pairwise_map.mp (nodup_keys (table.owner childOwner).live)).imp ?_
    intro entry entry' hne key hkey key' hkey' heq
    obtain ⟨update, hupdate, rfl⟩ := Option.map_eq_some_iff.mp hkey
    obtain ⟨update', hupdate', rfl⟩ := Option.map_eq_some_iff.mp hkey'
    rw [linkUpdate_key hupdate, linkUpdate_key hupdate'] at heq
    exact hne (congrArg Prod.snd heq)
  · have hnodup : (order.arrange table.owners.keys).Nodup :=
      (order.perm _).nodup_iff.mpr table.owners.nodup_keys
    refine hnodup.imp ?_
    intro owner owner' hne key hkey hkey'
    obtain ⟨update, hmem, rfl⟩ := List.mem_map.mp hkey
    obtain ⟨update', hmem', heq⟩ := List.mem_map.mp hkey'
    obtain ⟨entry, -, hupdate⟩ := List.mem_filterMap.mp hmem
    obtain ⟨entry', -, hupdate'⟩ := List.mem_filterMap.mp hmem'
    rw [linkUpdate_key hupdate, linkUpdate_key hupdate'] at heq
    exact hne (congrArg Prod.fst heq).symm

/-- What of an owner no link touches. -/
structure SameOwner (state state' : OwnerScopes) : Prop where
  authority : state'.authority = state.authority
  synced : state'.synced = state.synced
  tombstones : state'.tombstones = state.tombstones

/-- A table in which some links moved. -/
structure LinksMoved (table : ScopeTable) (updates : List LinkUpdate) (table' : ScopeTable) :
    Prop where
  le : table.lastVersion ≤ table'.lastVersion
  frame : ∀ owner, SameOwner (table.owner owner) (table'.owner owner)
  kept : ∀ owner scopeRef, (owner, scopeRef) ∉ updates.map LinkUpdate.key →
    table'.live? owner scopeRef = table.live? owner scopeRef
  moved : ∀ update ∈ updates, ∀ scope,
    table.live? update.childOwner update.childRef = some scope →
      ∃ version, table.lastVersion < version ∧ version ≤ table'.lastVersion ∧
        table'.live? update.childOwner update.childRef =
          some { scope with parentState := some update.settled, version := version }
  distinct : ∀ update ∈ updates, ∀ update' ∈ updates, ∀ scope scope',
    table'.live? update.childOwner update.childRef = some scope →
    table'.live? update'.childOwner update'.childRef = some scope' →
    scope.version = scope'.version → LinkUpdate.key update = LinkUpdate.key update'

/-- Replacing a live scope leaves the rest of its owner. -/
theorem setLive_frame (owner scopeRef : String) (scope : LiveScope) (other : String) :
    SameOwner (table.owner other) ((setLive table owner scopeRef scope).owner other) := by
  rw [owner_of_insert (setLive table owner scopeRef scope) rfl other]
  split
  case isTrue h =>
    subst h
    exact ⟨rfl, rfl, rfl⟩
  case isFalse => exact ⟨rfl, rfl, rfl⟩

/-- Drawing a version changes no live scope. -/
theorem live_drawn (owner : String) :
    ScopeTable.live? { table with lastVersion := version } owner scopeRef =
      table.live? owner scopeRef := rfl

/-- The update of a scope that is gone draws a version all the same. -/
theorem applyLinkUpdate_of_none
    (hlive : refreshed.table.live? update.childOwner update.childRef = none) :
    applyLinkUpdate refreshed update = { refreshed with
      table.lastVersion := refreshed.table.lastVersion + 1 } := by
  simp only [applyLinkUpdate, live_drawn, hlive]

/-- One update of a live scope. -/
theorem applyLinkUpdate_of_some
    (hlive : refreshed.table.live? update.childOwner update.childRef = some scope) :
    applyLinkUpdate refreshed update =
      let version := refreshed.table.lastVersion + 1
      { table := setLive { refreshed.table with lastVersion := version }
          update.childOwner update.childRef
          { scope with parentState := some update.settled, version := version }
        tagChanges := addTagChange refreshed.tagChanges update.childOwner update.childRef scope.tag
          ⟨scope.record.scopeEpoch, version⟩
          (if update.settled = .ended then .all .scopeParentEnded else .nothing) } := by
  simp only [applyLinkUpdate, live_drawn, hlive]
  rfl

/-- The links of a list of different live scopes move one by one. -/
theorem foldl_applyLinkUpdate_moved
    (hnodup : (updates.map LinkUpdate.key).Nodup) (refreshed : Refreshed)
    (hlive : ∀ update ∈ updates,
      ∃ scope, refreshed.table.live? update.childOwner update.childRef = some scope) :
    LinksMoved refreshed.table updates (updates.foldl applyLinkUpdate refreshed).table := by
  induction updates generalizing refreshed with
  | nil =>
    refine ⟨le_refl _, fun owner => ⟨rfl, rfl, rfl⟩, fun _ _ _ => rfl, ?_, ?_⟩
    · nofun
    · nofun
  | cons first rest ih =>
    obtain ⟨scope, hscope⟩ := hlive first List.mem_cons_self
    rw [List.map_cons, List.nodup_cons] at hnodup
    have htable := congrArg Refreshed.table (applyLinkUpdate_of_some hscope)
    dsimp only at htable
    set next := applyLinkUpdate refreshed first with hnext
    have hlast : next.table.lastVersion = refreshed.table.lastVersion + 1 := by
      rw [htable]
      rfl
    have hother : ∀ owner scopeRef, (owner, scopeRef) ≠ LinkUpdate.key first →
        next.table.live? owner scopeRef = refreshed.table.live? owner scopeRef := by
      intro owner scopeRef hne
      rw [htable, live_setLive, if_neg]
      · rfl
      · rintro ⟨rfl, rfl⟩
        exact hne rfl
    have hfirst : next.table.live? first.childOwner first.childRef =
        some { scope with
          parentState := some first.settled
          version := refreshed.table.lastVersion + 1 } := by
      rw [htable, live_setLive, if_pos ⟨rfl, rfl⟩]
    have hne : ∀ update ∈ rest, LinkUpdate.key update ≠ LinkUpdate.key first := by
      intro update hmem heq
      exact hnodup.1 (heq ▸ List.mem_map_of_mem hmem)
    have hrest := ih hnodup.2 next (fun update hmem => by
      rw [hother _ _ (hne update hmem)]
      exact hlive update (List.mem_cons_of_mem _ hmem))
    rw [List.foldl_cons, ← hnext]
    have hfirstKept := hrest.kept first.childOwner first.childRef hnodup.1
    have hle := hrest.le
    refine ⟨by omega, ?_, ?_, ?_, ?_⟩
    · intro owner
      have hframe := setLive_frame
        { refreshed.table with lastVersion := refreshed.table.lastVersion + 1 } first.childOwner
        first.childRef { scope with
          parentState := some first.settled
          version := refreshed.table.lastVersion + 1 } owner
      rw [← htable] at hframe
      have hframe' := hrest.frame owner
      exact ⟨hframe'.authority.trans hframe.authority, hframe'.synced.trans hframe.synced,
        hframe'.tombstones.trans hframe.tombstones⟩
    · intro owner scopeRef hnot
      rw [List.map_cons, List.mem_cons, not_or] at hnot
      rw [hrest.kept owner scopeRef hnot.2, hother owner scopeRef hnot.1]
    · intro update hmem held hheld
      rcases List.mem_cons.mp hmem with rfl | hmem
      · rw [hscope] at hheld
        cases hheld
        exact ⟨_, Nat.lt_succ_self _, by omega, hfirstKept.trans hfirst⟩
      · rw [← hother _ _ (hne update hmem)] at hheld
        obtain ⟨version, hlt, hbound, hmoved⟩ := hrest.moved update hmem held hheld
        exact ⟨version, by omega, hbound, hmoved⟩
    · have habove : ∀ update ∈ rest, ∀ held,
          (rest.foldl applyLinkUpdate next).table.live? update.childOwner update.childRef =
            some held → refreshed.table.lastVersion + 1 < held.version := by
        intro update hmem held hheld
        obtain ⟨was, hwas⟩ := hlive update (List.mem_cons_of_mem _ hmem)
        rw [← hother _ _ (hne update hmem)] at hwas
        obtain ⟨version, hlt, -, hmoved⟩ := hrest.moved update hmem was hwas
        rw [hmoved] at hheld
        cases hheld
        dsimp only
        omega
      have hfirstVersion : ∀ held,
          (rest.foldl applyLinkUpdate next).table.live? first.childOwner first.childRef =
            some held → held.version = refreshed.table.lastVersion + 1 := by
        intro held hheld
        rw [hfirstKept, hfirst] at hheld
        cases hheld
        rfl
      intro update hmem update' hmem' held held' hheld hheld' heq
      rcases List.mem_cons.mp hmem with rfl | hin <;>
        rcases List.mem_cons.mp hmem' with rfl | hin'
      · rfl
      · have hlow := hfirstVersion held hheld
        have hhigh := habove update' hin' held' hheld'
        omega
      · have hhigh := habove update hin held hheld
        have hlow := hfirstVersion held' hheld'
        omega
      · exact hrest.distinct update hin update' hin' held held' hheld hheld' heq

section

variable (parentOwner : String) (order : HashOrder) (changes : List ScopeTagChange)

/-- A refresh moves the links that settle elsewhere. -/
theorem refreshLinksTo_moved :
    LinksMoved table (linkUpdates table parentOwner order)
      (refreshLinksTo table parentOwner order changes).table := by
  refine foldl_applyLinkUpdate_moved (nodup_linkUpdates table) ⟨table, changes⟩ ?_
  intro update hmem
  obtain ⟨scope, hscope, -⟩ := mem_linkUpdates.mp hmem
  exact ⟨scope, hscope⟩

section

variable (owner scopeRef : String)

variable {table scopeRef owner} in
/-- What a refresh makes of one live scope. -/
theorem refreshLinksTo_live (hlive : table.live? owner scopeRef = some scope) :
    let table' := (refreshLinksTo table parentOwner order changes).table
    match linkUpdate table parentOwner owner (scopeRef, scope) with
    | none => table'.live? owner scopeRef = some scope
    | some update => ∃ version, table.lastVersion < version ∧ version ≤ table'.lastVersion ∧
        table'.live? owner scopeRef =
          some { scope with parentState := some update.settled, version := version } := by
  have hmoved := refreshLinksTo_moved table parentOwner order changes
  cases hupdate : linkUpdate table parentOwner owner (scopeRef, scope) with
  | none =>
    dsimp only
    rw [hmoved.kept owner scopeRef, hlive]
    intro hmem
    obtain ⟨update, hupdates, hkey⟩ := List.mem_map.mp hmem
    obtain ⟨found, hfound, hsome⟩ := mem_linkUpdates.mp hupdates
    cases update
    cases hkey
    rw [hlive] at hfound
    cases hfound
    rw [hupdate] at hsome
    cases hsome
  | some update =>
    have hkey := linkUpdate_key hupdate
    cases update
    cases hkey
    exact hmoved.moved _ (mem_linkUpdates.mpr ⟨scope, hlive, hupdate⟩) scope hlive

variable {parentOwner} in
/-- A refresh brings nothing to life. -/
theorem refreshLinksTo_live_none (hnone : table.live? owner scopeRef = none) :
    (refreshLinksTo table parentOwner order changes).table.live? owner scopeRef = none := by
  rw [(refreshLinksTo_moved table parentOwner order changes).kept owner scopeRef, hnone]
  intro hmem
  obtain ⟨update, hupdates, hkey⟩ := List.mem_map.mp hmem
  obtain ⟨found, hfound, -⟩ := mem_linkUpdates.mp hupdates
  cases update
  cases hkey
  rw [hnone] at hfound
  cases hfound

/-- A refresh leaves every record as it is. -/
theorem refreshLinksTo_record :
    ((refreshLinksTo table parentOwner order changes).table.live? owner scopeRef).map
        LiveScope.record = (table.live? owner scopeRef).map LiveScope.record := by
  cases hbefore : table.live? owner scopeRef with
  | none => rw [refreshLinksTo_live_none table order changes owner scopeRef hbefore]
  | some =>
    have hafter := refreshLinksTo_live parentOwner order changes hbefore
    split at hafter
    case h_1 => rw [hafter]
    obtain ⟨version, -, -, hmoved⟩ := hafter
    rw [hmoved]
    rfl

end

end

/-- A live scope after a refresh, with the one before it. -/
theorem refreshLinksTo_before {table : ScopeTable}
    (h : (refreshLinksTo table parentOwner order changes).table.live? owner scopeRef = some scope) :
    ∃ was, table.live? owner scopeRef = some was ∧ was.record = scope.record ∧
      was.cells = scope.cells ∧
      match linkUpdate table parentOwner owner (scopeRef, was) with
      | none => scope = was
      | some update => scope.parentState = some update.settled := by
  cases hbefore : table.live? owner scopeRef with
  | none =>
    rw [refreshLinksTo_live_none table order changes owner scopeRef hbefore] at h
    cases h
  | some was =>
    refine ⟨was, rfl, ?_⟩
    have hafter := refreshLinksTo_live parentOwner order changes hbefore
    cases hupdate : linkUpdate table parentOwner owner (scopeRef, was) with
    | none =>
      rw [hupdate] at hafter
      rw [hafter] at h
      cases h
      exact ⟨rfl, rfl, rfl⟩
    | some =>
      rw [hupdate] at hafter
      obtain ⟨version, -, -, hmoved⟩ := hafter
      rw [hmoved] at h
      cases h
      exact ⟨rfl, rfl, rfl⟩

end Subconscious.ScopeCommits
