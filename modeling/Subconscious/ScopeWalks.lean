import Subconscious.OrbitWalks
import Subconscious.ScopeParents

/-!
# Walks up the parent links

A link is followed while the epoch it names is the live one, so the walks are
those of a partial function on owner, ref and epoch. A walk meets every live
scope once at most and never runs out of fuel. A walk that answers no has met
no cycle through the child, and that stays true when it trusts what earlier
walks over the same set have found out. Where links name the child at its live
epoch only, the walk that trusts them answers as the one that does not.
-/

namespace Subconscious.ScopeWalks

open HashMaps TreeMaps OrbitWalks ScopeRecords ScopeTables ScopeParents

/-- The key of the scope a link names. -/
def linkKey (link : ScopeParent) : Option ScopeLinkKey :=
  (reservedModuleId link.owner).map fun owner => (owner, link.scopeRef, link.scopeEpoch)

/-- The owner and ref of a key. -/
def pair (key : ScopeLinkKey) : String × String := (key.1, key.2.1)

section walks

variable (table : ScopeTable) (overlay : Overlay)

/-- The key is that of a live session. -/
def Standing (key : ScopeLinkKey) : Prop :=
  ∃ record, lookup table overlay key.1 key.2.1 = some record ∧ record.scopeEpoch = key.2.2

/-- The key the link of a live session leads to. -/
def upLink (key : ScopeLinkKey) : Option ScopeLinkKey :=
  match lookup table overlay key.1 key.2.1 with
  | none => none
  | some record => if record.scopeEpoch ≠ key.2.2 then none else record.parent.bind linkKey

/-- The link of the live session of a key. -/
def climb (key : ScopeLinkKey) : Option ScopeParent :=
  match lookup table overlay key.1 key.2.1 with
  | none => none
  | some record => if record.scopeEpoch ≠ key.2.2 then none else record.parent

theorem upLink_eq (key : ScopeLinkKey) :
    upLink table overlay key = (climb table overlay key).bind linkKey := by
  unfold upLink climb
  split
  case h_1 => rfl
  case h_2 => split <;> rfl

/-- A key that leads on is that of a live session. -/
theorem standing_of_climb (h : climb table overlay key = some up) : Standing table overlay key := by
  unfold climb at h
  split at h
  case h_1 => cases h
  case h_2 record hlookup =>
    split at h
    case isTrue => cases h
    case isFalse hepoch => exact ⟨record, hlookup, not_not.mp hepoch⟩

/-- The live session of an owner and a ref is one. -/
theorem standing_inj (h : Standing table overlay key) (h' : Standing table overlay key')
    (hpair : pair key = pair key') : key = key' := by
  obtain ⟨record, hlookup, hepoch⟩ := h
  obtain ⟨record', hlookup', hepoch'⟩ := h'
  obtain ⟨owner, scopeRef, scopeEpoch⟩ := key
  obtain ⟨owner', scopeRef', scopeEpoch'⟩ := key'
  cases hpair
  rw [hlookup] at hlookup'
  cases hlookup'
  dsimp only at hepoch hepoch'
  rw [← hepoch, ← hepoch']

/-- The owners and refs of everything live. -/
def liveKeys : List (String × String) :=
  (table.owners.toList.flatMap fun entry => entry.2.live.keys.map fun scopeRef => (entry.1, scopeRef))
    ++ match overlay with
      | some (owner, next) => next.keys.map fun scopeRef => (owner, scopeRef)
      | none => []

theorem length_liveKeys : (liveKeys table overlay).length = liveScopes table overlay := by
  unfold liveKeys liveScopes
  rw [List.length_append, List.length_flatMap]
  congr 1
  · congr 1
    apply List.map_congr_left
    intro entry _
    rw [List.length_map, Std.ExtTreeMap.length_keys]
  · cases overlay with
    | none => rfl
    | some => rw [List.length_map, Std.ExtTreeMap.length_keys]

theorem mem_keys_of_get {m : TreeMap String V} (h : m[k]? = some v) : k ∈ m.keys := by
  rw [Std.ExtTreeMap.mem_keys, ← Std.ExtTreeMap.isSome_getElem?_iff_mem, h]
  rfl

theorem mem_liveKeys_of_live
    (h : table.live? owner scopeRef = some scope) : (owner, scopeRef) ∈ liveKeys table overlay := by
  refine List.mem_append_left _ ?_
  unfold ScopeTable.live? ScopeTable.owner at h
  cases howner : table.owners.get owner with
  | none =>
    rw [howner] at h
    simp [OwnerScopes.default] at h
  | some state =>
    rw [howner] at h
    rw [List.mem_flatMap]
    exact ⟨(owner, state), (HashMap.mem_toList _ _ _).mpr howner,
      List.mem_map.mpr ⟨scopeRef, mem_keys_of_get h, rfl⟩⟩

variable {visited : HashMap ScopeLinkKey Nat}

theorem pair_mem_liveKeys (h : Standing table overlay key) : pair key ∈ liveKeys table overlay := by
  obtain ⟨record, hlookup, -⟩ := h
  unfold lookup at hlookup
  split at hlookup
  case h_1 owner next =>
    split at hlookup
    case isTrue howner =>
      refine List.mem_append_right _ ?_
      rw [howner]
      exact List.mem_map.mpr ⟨key.2.1, mem_keys_of_get hlookup, rfl⟩
    case isFalse =>
      obtain ⟨scope, hscope, -⟩ := Option.map_eq_some_iff.mp hlookup
      exact mem_liveKeys_of_live table _ hscope
  case h_2 =>
    obtain ⟨scope, hscope, -⟩ := Option.map_eq_some_iff.mp hlookup
    exact mem_liveKeys_of_live table _ hscope

variable {path : List ScopeLinkKey}

/-- Different live sessions are no more than there are live scopes. -/
theorem length_le_liveScopes (hnodup : path.Nodup)
    (hstanding : ∀ key ∈ path, Standing table overlay key) :
    path.length ≤ liveScopes table overlay := by
  have hpairs : (path.map pair).Nodup := List.Nodup.map_on (fun key hkey key' hkey' heq =>
      standing_inj table overlay (hstanding key hkey) (hstanding key' hkey') heq) hnodup
  have hsubset : path.map pair ⊆ liveKeys table overlay := by
    intro found hfound
    obtain ⟨key, hkey, rfl⟩ := List.mem_map.mp hfound
    exact pair_mem_liveKeys table overlay (hstanding key hkey)
  have hle := (List.subperm_of_subset hpairs hsubset).length_le
  rw [List.length_map, length_liveKeys] at hle
  exact hle

/-- A walk so far: the keys it has met, none of them the child's. -/
structure Walking (childOwner childRef : String) (fuel : Nat) (link : ScopeParent)
    (path : List ScopeLinkKey) : Prop where
  trail : Trail (upLink table overlay) path (linkKey link)
  nodup : path.Nodup
  standing : ∀ key ∈ path, Standing table overlay key
  other : ∀ key ∈ path, pair key ≠ (childOwner, childRef)
  fuel : liveScopes table overlay + 2 ≤ fuel + path.length

theorem Walking.start (childOwner childRef : String) (link : ScopeParent) :
    Walking table overlay childOwner childRef (liveScopes table overlay + 2) link [] where
  trail := .nil _
  nodup := List.nodup_nil
  standing := nofun
  other := nofun
  fuel := le_refl _

variable {table overlay} {fuel : Nat}

/-- A walk has fuel left. -/
theorem Walking.fuel_pos (h : Walking table overlay childOwner childRef fuel link path) :
    0 < fuel := by
  have hlength := length_le_liveScopes table overlay h.nodup h.standing
  have hfuel := h.fuel
  omega

theorem owner_of_linkKey (h : linkKey link = some key) :
    reservedModuleId link.owner = some key.1 ∧ link.scopeRef = key.2.1 ∧
      link.scopeEpoch = key.2.2 := by
  obtain ⟨owner, howner, rfl⟩ := Option.map_eq_some_iff.mp h
  exact ⟨howner, rfl, rfl⟩

theorem pair_eq_iff : pair key = (childOwner, childRef) ↔ key.1 = childOwner ∧ key.2.1 = childRef :=
  Prod.mk_inj

/-- A walk goes on over one more live session. -/
theorem Walking.step (h : Walking table overlay childOwner childRef (fuel + 1) link path)
    (hkey : linkKey link = some key) (hchild : pair key ≠ (childOwner, childRef))
    (hnew : key ∉ path) (hup : climb table overlay key = some up) :
    Walking table overlay childOwner childRef fuel up (path ++ [key]) := by
  have htrail := h.trail
  rw [hkey] at htrail
  have hnext : upLink table overlay key = linkKey up := by
    rw [upLink_eq, hup]
    rfl
  have hstanding := standing_of_climb table overlay hup
  refine ⟨hnext ▸ htrail.extend, ?_, ?_, ?_, ?_⟩
  · exact List.concat_eq_append ▸ h.nodup.concat hnew
  · exact List.forall_mem_append.mpr ⟨h.standing, List.forall_mem_singleton.mpr hstanding⟩
  · exact List.forall_mem_append.mpr ⟨h.other, List.forall_mem_singleton.mpr hchild⟩
  · have hfuel := h.fuel
    rw [List.length_append, List.length_singleton]
    omega

/-- One step of a walk, by the key of its link. -/
theorem walk_succ (hkey : linkKey link = some key) (visited : Finset (String × String)) :
    walk table overlay childOwner childRef (fuel + 1) link visited =
      if pair key = (childOwner, childRef) then true
      else if pair key ∈ visited then false
      else match climb table overlay key with
        | none => false
        | some up => walk table overlay childOwner childRef fuel up (insert (pair key) visited) := by
  obtain ⟨howner, href, hepoch⟩ := owner_of_linkKey hkey
  simp only [walk, howner, href, hepoch, pair_eq_iff, climb]
  congr 2
  cases lookup table overlay key.1 key.2.1 with
  | none => rfl
  | some record =>
    by_cases hstale : record.scopeEpoch = key.2.2
    · cases hparent : record.parent <;> simp [hstale, hparent, pair]
    · simp [hstale]

/-- A walk that answers no meets no session of the child. -/
theorem walk_false (h : Walking table overlay childOwner childRef fuel link path)
    {visited : Finset (String × String)}
    (hvisited : ∀ found, found ∈ visited ↔ ∃ key ∈ path, pair key = found)
    (hwalk : walk table overlay childOwner childRef fuel link visited = false) :
    ∀ key, linkKey link = some key → ∀ met, Reaches (upLink table overlay) key met →
      pair met ≠ (childOwner, childRef) := by
  induction fuel generalizing link path visited with
  | zero =>
    have hpos := h.fuel_pos
    omega
  | succ fuel ih =>
    intro key hkey met hmet
    rw [walk_succ hkey] at hwalk
    split at hwalk
    case isTrue => cases hwalk
    rename_i hchild
    have hdead : climb table overlay key = none → pair met ≠ (childOwner, childRef) := by
      intro hnone
      have hup := upLink_eq table overlay key
      rw [hnone] at hup
      exact hmet.eq_of_dead hup ▸ hchild
    split at hwalk
    case isTrue hseen =>
      by_cases hstands : Standing table overlay key
      · obtain ⟨found, hfound, hpair⟩ := (hvisited _).mp hseen
        have hsame := standing_inj table overlay (h.standing found hfound) hstands hpair
        rw [hsame] at hfound
        have htrail := h.trail
        rw [hkey] at htrail
        exact h.other met (htrail.mem_of_back hfound hfound hmet)
      · refine hdead ?_
        cases hup : climb table overlay key with
        | none => rfl
        | some => exact absurd (standing_of_climb table overlay hup) hstands
    case isFalse hunseen =>
      cases hup : climb table overlay key with
      | none => exact hdead hup
      | some up =>
        rw [hup] at hwalk
        have hnew : key ∉ path := fun hmem => hunseen ((hvisited _).mpr ⟨_, hmem, rfl⟩)
        have hmore : ∀ found, found ∈ insert (pair key) visited ↔
            ∃ met ∈ path ++ [key], pair met = found := by
          intro found
          rw [Finset.mem_insert, hvisited]
          constructor
          · rintro (rfl | ⟨met, hin, rfl⟩)
            · exact ⟨key, List.mem_append_right _ (List.mem_singleton_self _), rfl⟩
            · exact ⟨met, List.mem_append_left _ hin, rfl⟩
          rintro ⟨met, hin, rfl⟩
          rcases List.mem_append.mp hin with hold | hlast
          · exact .inr ⟨met, hold, rfl⟩
          · obtain rfl := List.mem_singleton.mp hlast
            exact .inl rfl
        rcases Relation.ReflTransGen.cases_head hmet with rfl | ⟨next, hfirst, hrest⟩
        · exact hchild
        · rw [upLink_eq, hup] at hfirst
          exact ih (h.step hkey hchild hnew hup) hmore hwalk next hfirst met hrest

/-- What earlier walks over the same set have found out: the keys on no cycle,
and cycles whose keys lead to each other. -/
structure CacheOk (table : ScopeTable) (overlay : Overlay) (cache : LinkCycleCache) : Prop where
  acyclic : ∀ key ∈ cache.acyclic, ¬ OnCycle (upLink table overlay) key
  cycles : ∀ key cycle, cache.cycles.get key = some cycle → cycle < cache.members.length ∧
    pair key ∈ cache.members.getD cycle ∅ ∧
    ∀ up, upLink table overlay key = some up → cache.cycles.get up = some cycle

theorem CacheOk.default (table : ScopeTable) (overlay : Overlay) :
    CacheOk table overlay .default := by
  refine ⟨?_, nofun⟩
  intro key hmem
  exact absurd hmem (Finset.notMem_empty key)

/-- Everything reached from a remembered cycle is one of its members. -/
theorem CacheOk.members_of_reaches (h : CacheOk table overlay cache)
    (hkey : cache.cycles.get key = some cycle) (hmet : Reaches (upLink table overlay) key met) :
    cache.cycles.get met = some cycle ∧ pair met ∈ cache.members.getD cycle ∅ := by
  have hmem : met ∈ {k | cache.cycles.get k = some cycle} :=
    hmet.mem_of_closed (fun a ha b hb => (h.cycles a cycle ha).2.2 b hb) hkey
  exact ⟨hmem, (h.cycles met cycle hmem).2.1⟩

/-- More keys on no cycle may be remembered. -/
theorem CacheOk.extend (h : CacheOk table overlay cache)
    (hkeys : ∀ key ∈ keys, ¬ OnCycle (upLink table overlay) key) :
    CacheOk table overlay (cache.extend keys) := by
  refine ⟨?_, h.cycles⟩
  intro key hmem
  rcases Finset.mem_union.mp hmem with hold | hnew
  · exact h.acyclic key hold
  · exact hkeys key (List.mem_toFinset.mp hnew)

theorem get_foldl_insert_cycle (keys : List ScopeLinkKey) (cycles : HashMap ScopeLinkKey Nat) :
    (keys.foldl (fun cycles key => cycles.insert key cycle) cycles).get key =
      if key ∈ keys then some cycle else cycles.get key := by
  induction keys generalizing cycles with
  | nil => simp
  | cons first rest ih =>
    rw [List.foldl_cons, ih, HashMap.get_insert]
    by_cases hrest : key ∈ rest
    · simp [hrest]
    by_cases hfirst : key = first
    · simp [hfirst]
    · simp [hrest, hfirst]

/-- A walk with a cache: its keys are news to the cache. -/
structure CachedWalking (table : ScopeTable) (overlay : Overlay) (childOwner childRef : String)
    (fuel : Nat) (link : ScopeParent) (visited : HashMap ScopeLinkKey Nat)
    (path : List ScopeLinkKey) (cache : LinkCycleCache) : Prop where
  walking : Walking table overlay childOwner childRef fuel link path
  known : CacheOk table overlay cache
  unknown : ∀ key ∈ path, cache.cycles.get key = none
  places : ∀ key index, visited.get key = some index ↔ path[index]? = some key

/-- The places of a longer path. -/
theorem visited_insert (h : ∀ key index, visited.get key = some index ↔ path[index]? = some key)
    (hnew : last ∉ path) (key : ScopeLinkKey) (index : Nat) :
    (visited.insert last path.length).get key = some index ↔
      (path ++ [last])[index]? = some key := by
  rw [HashMap.get_insert]
  by_cases hkey : key = last
  · subst hkey
    rw [if_pos rfl, Option.some.injEq]
    constructor
    · rintro rfl
      exact List.getElem?_concat_length
    intro hget
    have hlt := (List.getElem?_eq_some_iff.mp hget).1
    rw [List.length_append, List.length_singleton] at hlt
    by_contra hne
    rw [List.getElem?_append_left (by omega)] at hget
    exact hnew (List.mem_of_getElem? hget)
  · rw [if_neg hkey, h, List.getElem?_append]
    split
    case isTrue => rfl
    case isFalse hlt =>
      constructor
      · exact fun hget => absurd (List.getElem?_eq_some_iff.mp hget).1 hlt
      · exact fun hget => absurd (List.mem_singleton.mp (List.mem_of_getElem? hget)) hkey

section

variable (h : CachedWalking table overlay childOwner childRef fuel link visited path cache)
include h

/-- A cycle that the walk ran into is remembered, with the keys before it. -/
theorem CachedWalking.addCycle (hkey : linkKey link = some key) (hstart : path[start]? = some key) :
    CacheOk table overlay (cache.addCycle path start) := by
  have htrail := h.walking.trail
  rw [hkey] at htrail
  unfold LinkCycleCache.addCycle
  refine ⟨?_, ?_⟩
  · intro found hmem
    rcases Finset.mem_union.mp hmem with hold | hnew
    · exact h.known.acyclic found hold
    · exact htrail.not_onCycle_before h.walking.nodup hstart (List.mem_toFinset.mp hnew)
  intro found cycle hget
  rw [get_foldl_insert_cycle] at hget
  rw [List.length_append, List.length_singleton]
  split at hget
  case isTrue hin =>
    cases hget
    refine ⟨Nat.lt_succ_self _, ?_, ?_⟩
    · rw [List.getD_eq_getElem?_getD, List.getElem?_append_right (le_refl _), Nat.sub_self]
      exact List.mem_toFinset.mpr (List.mem_map.mpr ⟨found, hin, rfl⟩)
    · intro up hup
      rw [get_foldl_insert_cycle, if_pos (htrail.closed_from hstart hin hup)]
  case isFalse hnot =>
    obtain ⟨hlt, hmember, hclosed⟩ := h.known.cycles found cycle hget
    refine ⟨by omega, ?_, ?_⟩
    · rw [List.getD_eq_getElem?_getD, List.getElem?_append_left hlt,
        ← List.getD_eq_getElem?_getD]
      exact hmember
    intro up hup
    have hold := hclosed up hup
    rw [get_foldl_insert_cycle, if_neg]
    · exact hold
    intro hin
    rw [h.unknown up (List.mem_of_mem_drop hin)] at hold
    cases hold

omit h in
/-- A walk with a cache goes on over one more live session. -/
theorem CachedWalking.step
    (h : CachedWalking table overlay childOwner childRef (fuel + 1) link visited path cache)
    (hkey : linkKey link = some key) (hchild : pair key ≠ (childOwner, childRef))
    (hcached : cache.cycles.get key = none) (hseen : visited.get key = none)
    (hup : climb table overlay key = some up) :
    CachedWalking table overlay childOwner childRef fuel up (visited.insert key path.length)
      (path ++ [key]) cache := by
  have hnew : key ∉ path := by
    intro hin
    obtain ⟨index, hindex⟩ := List.getElem?_of_mem hin
    rw [(h.places _ _).mpr hindex] at hseen
    cases hseen
  exact ⟨h.walking.step hkey hchild hnew hup, h.known,
    List.forall_mem_append.mpr ⟨h.unknown, List.forall_mem_singleton.mpr hcached⟩,
    visited_insert h.places hnew⟩

omit h in
/-- One step of a walk with a cache, by the key of its link. -/
theorem walkCached_succ (hkey : linkKey link = some key) :
    walkCached table overlay childOwner childRef (fuel + 1) link visited path cache =
      if pair key = (childOwner, childRef) then (true, cache)
      else if key ∈ cache.acyclic then (false, cache.extend path)
      else match cache.cycles.get key with
        | some cycle =>
          if (childOwner, childRef) ∈ cache.members.getD cycle ∅ then (true, cache)
          else (false, cache.extend path)
        | none =>
          match visited.get key with
          | some start => (false, cache.addCycle path start)
          | none =>
            match climb table overlay key with
            | none => (false, cache.extend (path ++ [key]))
            | some up => walkCached table overlay childOwner childRef fuel up
                (visited.insert key path.length) (path ++ [key]) cache := by
  obtain ⟨howner, href, hepoch⟩ := owner_of_linkKey hkey
  simp only [walkCached, howner, href, hepoch, pair_eq_iff, climb, Prod.mk.eta]
  congr 2
  cases cache.cycles.get key with
  | some => rfl
  | none =>
    cases visited.get key with
    | some => rfl
    | none =>
      cases lookup table overlay key.1 key.2.1 with
      | none => rfl
      | some record =>
        by_cases hstale : record.scopeEpoch = key.2.2
        · cases hparent : record.parent <;> simp [hstale, hparent]
        · simp [hstale]

/-- A walk that answers no meets no cycle through the child, and what it has
found out is right. -/
theorem walkCached_false
    (hwalk : (walkCached table overlay childOwner childRef fuel link visited path cache).1 = false)
    :
    CacheOk table overlay
        (walkCached table overlay childOwner childRef fuel link visited path cache).2 ∧
      ∀ key, linkKey link = some key → OnCycle (upLink table overlay) key →
        ∀ met, Reaches (upLink table overlay) key met → pair met ≠ (childOwner, childRef) := by
  induction fuel generalizing link visited path cache with
  | zero =>
    have hpos := h.walking.fuel_pos
    omega
  | succ fuel ih =>
    cases hkey : linkKey link with
    | none =>
      unfold walkCached
      rw [Option.map_eq_none_iff.mp hkey]
      refine ⟨h.known.extend fun key => h.walking.trail.not_onCycle hkey, ?_⟩
      nofun
    | some key =>
      have htrail := h.walking.trail
      rw [hkey] at htrail
      rw [walkCached_succ hkey] at hwalk ⊢
      split at hwalk
      case isTrue => cases hwalk
      rename_i hchild
      rw [if_neg hchild]
      have hoff : ∀ keys : List ScopeLinkKey, ¬ OnCycle (upLink table overlay) key →
          (∀ met ∈ keys, met ∈ path ++ [key]) → CacheOk table overlay (cache.extend keys) ∧
            ∀ first, some key = some first → OnCycle (upLink table overlay) first →
              ∀ met, Reaches (upLink table overlay) first met →
                pair met ≠ (childOwner, childRef) := by
        intro keys hnot hkeys
        refine ⟨h.known.extend fun met hmem hcycle => ?_, ?_⟩
        · rcases List.mem_append.mp (hkeys met hmem) with hin | hlast
          · exact hnot (hcycle.of_reaches (htrail.reaches_next hin))
          · exact hnot (List.mem_singleton.mp hlast ▸ hcycle)
        · rintro first ⟨⟩ hcycle
          exact absurd hcycle hnot
      split at hwalk
      case isTrue hacyclic =>
        rw [if_pos hacyclic]
        exact hoff path (h.known.acyclic _ hacyclic) fun met => List.mem_append_left _
      rename_i hacyclic
      rw [if_neg hacyclic]
      cases hcached : cache.cycles.get key with
      | some cycle =>
        rw [hcached] at hwalk
        dsimp only at hwalk ⊢
        split at hwalk
        case isTrue => cases hwalk
        rename_i hmember
        rw [if_neg hmember]
        refine ⟨h.known.extend fun met hin hcycle => ?_, ?_⟩
        · have hback := hcycle.reaches_back (htrail.reaches_next hin)
          have hknown := (h.known.members_of_reaches hcached hback).1
          rw [h.unknown met hin] at hknown
          cases hknown
        · rintro first ⟨⟩ - met hmet heq
          have hmet' := (h.known.members_of_reaches hcached hmet).2
          rw [heq] at hmet'
          exact hmember hmet'
      | none =>
        rw [hcached] at hwalk
        cases hseen : visited.get key with
        | some =>
          have hstart := (h.places _ _).mp hseen
          refine ⟨h.addCycle hkey hstart, ?_⟩
          rintro first ⟨⟩ - met hmet
          have hin := List.mem_of_getElem? hstart
          exact h.walking.other met (htrail.mem_of_back hin hin hmet)
        | none =>
          rw [hseen] at hwalk
          have hnext := upLink_eq table overlay key
          cases hup : climb table overlay key with
          | none =>
            rw [hup] at hnext
            exact hoff (path ++ [key]) (not_onCycle_of_dead Relation.ReflTransGen.refl hnext)
              fun _ hin => hin
          | some up =>
            rw [hup] at hwalk hnext
            obtain ⟨hcache, hrest⟩ := ih (h.step hkey hchild hcached hseen hup) hwalk
            refine ⟨hcache, ?_⟩
            rintro first ⟨⟩ hcycle met hmet
            rcases Relation.ReflTransGen.cases_head hmet with rfl | ⟨next, hfirst, hmet⟩
            · exact hchild
            · exact hrest next (hnext.symm.trans hfirst)
                (hcycle.of_reaches (.single hfirst)) met hmet

end

end walks

/-- A link that is said to close no cycle leads to no session of the child. -/
theorem linkClosesCycle_false (h : linkClosesCycle table overlay childOwner childRef parent = false)
    (hkey : linkKey parent = some key) (hmet : Reaches (upLink table overlay) key met) :
    pair met ≠ (childOwner, childRef) :=
  walk_false (Walking.start table overlay childOwner childRef parent) (by simp) h key hkey met hmet

/-- A walk with a cache starts with no key met. -/
theorem CachedWalking.start (hcache : CacheOk table overlay cache)
    (childOwner childRef : String) (parent : ScopeParent) :
    CachedWalking table overlay childOwner childRef (liveScopes table overlay + 2) parent .empty []
      cache :=
  ⟨.start table overlay childOwner childRef parent, hcache, nofun, by simp⟩

/-- A link that is said to close no cycle, with the cache so far: it closes none
through the child, and the cache after it is right. -/
theorem linkClosesCycleCached_false (hcache : CacheOk table overlay cache)
    (h : (linkClosesCycleCached table overlay childOwner childRef parent cache).1 = false) :
    CacheOk table overlay (linkClosesCycleCached table overlay childOwner childRef parent cache).2 ∧
      ∀ key, linkKey parent = some key → OnCycle (upLink table overlay) key →
        ∀ met, Reaches (upLink table overlay) key met → pair met ≠ (childOwner, childRef) :=
  walkCached_false (.start hcache childOwner childRef parent) h

/-- One question: whether the link of a child closes a cycle. -/
structure LinkQuery where
  childOwner : String
  childRef : String
  parent : ScopeParent

section agreement

variable (table : ScopeTable) (overlay : Overlay)

/-- The answer with a cache, and the cache after it. -/
def LinkQuery.cached (query : LinkQuery) (cache : LinkCycleCache) : Bool × LinkCycleCache :=
  linkClosesCycleCached table overlay query.childOwner query.childRef query.parent cache

/-- The cache that questions over one set leave. -/
def cacheAfter (queries : List LinkQuery) : LinkCycleCache :=
  queries.foldl (fun cache query => (query.cached table overlay cache).2) .default

/-- The walk from a link meets a session of the child. -/
def Meets (childOwner childRef : String) (link : ScopeParent) : Prop :=
  ∃ key met, linkKey link = some key ∧ Reaches (upLink table overlay) key met ∧
    pair met = (childOwner, childRef)

/-- The link is the one the set holds for the child, and no link above it names the
child at an epoch that is not live. -/
def LinkQuery.Held (query : LinkQuery) : Prop :=
  ∃ record, lookup table overlay query.childOwner query.childRef = some record ∧
    record.parent = some query.parent ∧
    ∀ key met, linkKey query.parent = some key → Reaches (upLink table overlay) key met →
      pair met = (query.childOwner, query.childRef) → record.scopeEpoch = met.2.2

/-- The members of a remembered cycle are met from each of its keys. -/
def MembersMet (cache : LinkCycleCache) : Prop :=
  ∀ key cycle, cache.cycles.get key = some cycle → ∀ found ∈ cache.members.getD cycle ∅,
    ∃ met, Reaches (upLink table overlay) key met ∧ pair met = found

variable {table overlay}

/-- What a link leads on to is met from the link. -/
theorem Meets.of_climb (h : Meets table overlay childOwner childRef up)
    (hkey : linkKey link = some key) (hup : climb table overlay key = some up) :
    Meets table overlay childOwner childRef link := by
  obtain ⟨next, met, hnext, hmet, hpair⟩ := h
  refine ⟨key, met, hkey, .head ?_ hmet, hpair⟩
  rw [upLink_eq, hup]
  exact hnext

/-- A walk that answers yes has met the child. -/
theorem walk_true (h : walk table overlay childOwner childRef fuel link visited = true) :
    Meets table overlay childOwner childRef link := by
  induction fuel generalizing link visited with
  | zero => cases h
  | succ fuel ih =>
    cases hkey : linkKey link with
    | none =>
      unfold walk at h
      rw [Option.map_eq_none_iff.mp hkey] at h
      cases h
    | some key =>
      rw [walk_succ hkey] at h
      split at h
      case isTrue hchild => exact ⟨key, key, hkey, .refl, hchild⟩
      split at h
      case isTrue => cases h
      split at h
      case h_1 => cases h
      case h_2 up hup => exact (ih h).of_climb hkey hup

/-- The walk answers yes just when a session of the child is above the link, with cycles
above it or without. -/
theorem linkClosesCycle_iff_meets (table : ScopeTable) (overlay : Overlay)
    (childOwner childRef : String) (parent : ScopeParent) :
    linkClosesCycle table overlay childOwner childRef parent = true ↔
      Meets table overlay childOwner childRef parent := by
  constructor
  · exact walk_true
  rintro ⟨key, met, hkey, hmet, hpair⟩
  by_contra hno
  exact linkClosesCycle_false (Bool.eq_false_iff.mpr hno) hkey hmet hpair

section

variable (h : CachedWalking table overlay childOwner childRef fuel link visited path cache)
  (hmet : MembersMet table overlay cache)
include h hmet

/-- A cycle that the walk ran into is remembered by keys that meet all of it. -/
theorem CachedWalking.membersMet (hkey : linkKey link = some key)
    (hfirst : path[first]? = some key) :
    MembersMet table overlay (cache.addCycle path first) := by
  have htrail := h.walking.trail
  rw [hkey] at htrail
  intro found cycle hget name hname
  simp only [LinkCycleCache.addCycle, get_foldl_insert_cycle] at hget hname
  split at hget
  case isTrue hin =>
    cases hget
    rw [List.getD_eq_getElem?_getD, List.getElem?_append_right (le_refl _), Nat.sub_self] at hname
    obtain ⟨met, hdrop, rfl⟩ := List.mem_map.mp (List.mem_toFinset.mp hname)
    obtain ⟨index, hindex⟩ := List.getElem?_of_mem hdrop
    rw [List.getElem?_drop,
      ← List.getElem?_append_left (List.getElem?_eq_some_iff.mp hindex).1] at hindex
    have hback := htrail.reaches_next (List.mem_of_mem_drop hin)
    exact ⟨met, hback.trans (htrail.reaches hfirst hindex (Nat.le_add_right _ _)), rfl⟩
  case isFalse =>
    obtain ⟨hlt, -⟩ := h.known.cycles found cycle hget
    rw [List.getD_eq_getElem?_getD, List.getElem?_append_left hlt,
      ← List.getD_eq_getElem?_getD] at hname
    exact hmet found cycle hget name hname

/-- A walk with a cache that answers yes has met the child and leaves the cache alone. -/
theorem walkCached_true :
    let found := walkCached table overlay childOwner childRef fuel link visited path cache
    (found.1 = true → found.2 = cache ∧ Meets table overlay childOwner childRef link) ∧
      MembersMet table overlay found.2 := by
  induction fuel generalizing link visited path with
  | zero => exact ⟨fun hno => absurd hno Bool.false_ne_true, hmet⟩
  | succ fuel ih =>
    cases hkey : linkKey link with
    | none =>
      unfold walkCached
      rw [Option.map_eq_none_iff.mp hkey]
      exact ⟨by simp, hmet⟩
    | some key =>
      rw [walkCached_succ hkey]
      split
      case isTrue hchild => exact ⟨fun _ => ⟨rfl, key, key, hkey, .refl, hchild⟩, hmet⟩
      rename_i hchild
      split
      case isTrue => exact ⟨by simp, hmet⟩
      split
      case h_1 cycle hcached =>
        split
        case isTrue hmember =>
          obtain ⟨met, hreach, hpair⟩ := hmet key cycle hcached _ hmember
          exact ⟨fun _ => ⟨rfl, key, met, hkey, hreach, hpair⟩, hmet⟩
        case isFalse => exact ⟨by simp, hmet⟩
      case h_2 hcached =>
        split
        case h_1 start hseen =>
          exact ⟨by simp, h.membersMet hmet hkey ((h.places _ _).mp hseen)⟩
        case h_2 hseen =>
          split
          case h_1 => exact ⟨by simp, hmet⟩
          case h_2 up hup =>
            obtain ⟨htrue, hafter⟩ := ih (h.step hkey hchild hcached hseen hup)
            exact ⟨fun hfound => ⟨(htrue hfound).1, (htrue hfound).2.of_climb hkey hup⟩, hafter⟩

end

/-- Whatever was asked, the cache is right. -/
theorem cacheAfter_ok (queries : List LinkQuery) :
    CacheOk table overlay (cacheAfter table overlay queries) ∧
      MembersMet table overlay (cacheAfter table overlay queries) := by
  refine List.foldlRecOn (motive := fun cache => CacheOk table overlay cache ∧
    MembersMet table overlay cache) queries _ ⟨.default table overlay, nofun⟩ ?_
  rintro cache ⟨hok, hmet⟩ query -
  obtain ⟨htrue, hafter⟩ := walkCached_true (.start hok query.childOwner _ query.parent) hmet
  refine ⟨?_, hafter⟩
  cases hfound : (query.cached table overlay cache).1 with
  | true =>
    rw [LinkQuery.cached, linkClosesCycleCached, (htrue hfound).1]
    exact hok
  | false => exact (linkClosesCycleCached_false hok hfound).1

/-- Whatever was asked before, the answer with the cache is the one without it. -/
theorem cached_agrees (queries : List LinkQuery) (query : LinkQuery)
    (hheld : query.Held table overlay) :
    (query.cached table overlay (cacheAfter table overlay queries)).1 =
      linkClosesCycle table overlay query.childOwner query.childRef query.parent := by
  obtain ⟨hok, hmembers⟩ := @cacheAfter_ok table overlay queries
  rw [Bool.eq_iff_iff]
  constructor
  · intro hfound
    obtain ⟨-, key, met, hkey, hmet, hpair⟩ :=
      (walkCached_true (.start hok query.childOwner query.childRef query.parent) hmembers).1 hfound
    by_contra hno
    exact linkClosesCycle_false (Bool.eq_false_iff.mpr hno) hkey hmet hpair
  · intro hfound
    obtain ⟨key, met, hkey, hmet, hpair⟩ := walk_true hfound
    by_contra hno
    obtain ⟨-, hfree⟩ := linkClosesCycleCached_false hok (Bool.eq_false_iff.mpr hno)
    have hup : upLink table overlay met = some key := by
      obtain ⟨record, hlookup, hparent, hlive⟩ := hheld
      obtain ⟨howner, href⟩ := pair_eq_iff.mp hpair
      rw [upLink, howner, href, hlookup]
      simp [hlive key met hkey hmet hpair, hparent, hkey]
    exact hfree key hkey (.tail' hmet hup) met hmet hpair

end agreement

/-- Three scopes of one owner, each with a link to the first session of the next; `c` is
live at the given epoch. -/
def linkRing (scopeEpoch : Nat) : Overlay :=
  let record scopeRef scopeEpoch up :=
    { ScopeRecord.new scopeRef scopeEpoch .head with parent := some ⟨.reserved "m", up, 1⟩ }
  some ("m", (((∅ : TreeMap String ScopeRecord).insert "a" (record "a" 1 "b")).insert "b"
    (record "b" 1 "c")).insert "c" (record "c" scopeEpoch "a"))

/-- The question whether a link to the first session of `a` closes a cycle. -/
def linkToRing (childRef : String) : LinkQuery := ⟨"m", childRef, .reserved "m", "a", 1⟩

theorem cached_agrees_ring :
    ((linkToRing "c").cached (.new ∅) (linkRing 1)
      (cacheAfter (.new ∅) (linkRing 1) [linkToRing "x"])).1 =
        linkClosesCycle (.new ∅) (linkRing 1) "m" "c" (linkToRing "c").parent := by
  refine cached_agrees [linkToRing "x"] (linkToRing "c") ⟨_, rfl, rfl, ?_⟩
  intro key met hkey hmet _
  cases hkey
  let ring : List ScopeLinkKey := [("m", "a", 1), ("m", "b", 1), ("m", "c", 1)]
  have hclosed : ∀ key ∈ ring, ∀ up ∈ upLink (.new ∅) (linkRing 1) key, up ∈ ring := by
    decide +kernel
  have hone : ∀ key ∈ ring, 1 = key.2.2 := by decide
  exact hone met (hmet.mem_of_closed (s := {key | key ∈ ring}) hclosed (by decide))

/-- When the first session of `c` has ended, a walk from `a` stops at the link to it and takes
all it met for acyclic. The walk for `c` then never gets to that link, which names the child. -/
theorem cached_misses_ended_session :
    ((linkToRing "c").cached (.new ∅) (linkRing 2)
        (cacheAfter (.new ∅) (linkRing 2) [linkToRing "x"])).1 = false ∧
      linkClosesCycle (.new ∅) (linkRing 2) "m" "c" (linkToRing "c").parent = true := by
  decide +kernel

end Subconscious.ScopeWalks
