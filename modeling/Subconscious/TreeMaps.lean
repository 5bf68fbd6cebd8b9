import Mathlib.Data.List.Nodup
import Mathlib.Data.List.Induction

/-!
# Ordered maps

A tree map whose lookups read as equations with a decidable equality of keys.
The map itself is the extensional tree map of the standard library; what is
added is filtering that evaluates, lists without repeated keys as maps, and
the lookup rules in one form.
-/

namespace Subconscious.TreeMaps

open Std List

/-- A map ordered by its keys. -/
abbrev TreeMap (K V : Type) [Ord K] := ExtTreeMap K V compare

variable {K V W : Type} [Ord K] [TransOrd K] [LawfulEqOrd K]

/-- A store answers for its key. -/
theorem get_insert [DecidableEq K] (m : TreeMap K V) (k k' : K) (v : V) :
    (m.insert k v)[k']? = if k' = k then some v else m[k']? := by
  rw [ExtTreeMap.getElem?_insert]
  by_cases h : k' = k
  · rw [if_pos h, if_pos (Std.compare_eq_iff_eq.mpr h.symm)]
  · rw [if_neg h, if_neg (fun heq => h (Std.compare_eq_iff_eq.mp heq).symm)]

/-- A removal answers for its key. -/
theorem get_erase [DecidableEq K] (m : TreeMap K V) (k' : K) :
    (m.erase k)[k']? = if k' = k then none else m[k']? := by
  rw [ExtTreeMap.getElem?_erase]
  by_cases h : k' = k
  · rw [if_pos h, if_pos (Std.compare_eq_iff_eq.mpr h.symm)]
  · rw [if_neg h, if_neg (fun heq => h (Std.compare_eq_iff_eq.mp heq).symm)]

variable {m : TreeMap K V}

/-- The entry list and the lookup hold the same pairs. -/
theorem mem_toList : (k, v) ∈ m.toList ↔ m[k]? = some v :=
  ExtTreeMap.mem_toList_iff_getElem?_eq_some

/-- No key is listed twice. -/
theorem nodup_keys (m : TreeMap K V) : (m.toList.map Prod.fst).Nodup := by
  rw [List.Nodup, pairwise_map]
  refine m.distinct_keys_toList.imp ?_
  intro a b hne heq
  exact hne (Std.compare_eq_iff_eq.mpr heq)

/-- Maps with the same lookups are the same. -/
theorem ext_get (h : ∀ k : K, m[k]? = m'[k]?) : m = m' := ExtTreeMap.ext_getElem? h

omit [LawfulEqOrd K] in
/-- The last key is not below any other. -/
theorem le_getLast_keys (h : k ∈ m.keys) :
    ∃ last, m.keys.getLast? = some last ∧ (k = last ∨ compare k last = .lt) := by
  have hordered : m.keys.Pairwise fun a b => compare a b = .lt := ExtTreeMap.ordered_keys
  generalize m.keys = keys at h hordered
  induction keys using reverseRecOn with
  | nil => cases h
  | append_singleton keys last =>
    refine ⟨last, List.getLast?_concat, ?_⟩
    rcases List.mem_append.mp h with hfirst | hlast
    · exact .inr ((List.pairwise_append.mp hordered).2.2 k hfirst last (mem_singleton_self _))
    · exact .inl (List.mem_singleton.mp hlast)

/-- The least key is listed first. -/
theorem toList_of_least (hget : m[k]? = some v)
    (hleast : ∀ k' v', m[k']? = some v' → k' = k ∨ compare k k' = .lt) :
    ∃ rest, m.toList = (k, v) :: rest := by
  have hordered : m.toList.Pairwise fun a b => compare a.1 b.1 = .lt :=
    ExtTreeMap.ordered_keys_toList
  have hmem := mem_toList.mpr hget
  cases hlist : m.toList with
  | nil =>
    rw [hlist] at hmem
    cases hmem
  | cons entry rest =>
    rw [hlist] at hmem hordered
    rcases List.mem_cons.mp hmem with rfl | hrest
    · exact ⟨rest, rfl⟩
    have hbelow := (List.pairwise_cons.mp hordered).1 _ hrest
    have hentry : m[entry.1]? = some entry.2 := mem_toList.mp (hlist ▸ mem_cons_self)
    rcases hleast entry.1 entry.2 hentry with heq | hlt
    · rw [heq, Std.compare_self] at hbelow
      cases hbelow
    · rw [@OrientedCmp.eq_swap _ compare _ _ _, hlt] at hbelow
      cases hbelow

/-- The map of a list of entries. -/
def ofList (l : List (K × V)) : TreeMap K V := ExtTreeMap.ofList l compare

/-- A list without repeated keys is looked up by membership. -/
theorem get_ofList (hnodup : (l.map Prod.fst).Nodup) {k : K} :
    (ofList l)[k]? = some v ↔ (k, v) ∈ l := by
  have hdistinct : l.Pairwise fun a b => ¬ compare a.1 b.1 = .eq := by
    rw [List.Nodup, pairwise_map] at hnodup
    exact hnodup.imp fun hne heq => hne (Std.compare_eq_iff_eq.mp heq)
  constructor
  · intro hget
    by_cases hk : k ∈ l.map Prod.fst
    · obtain ⟨⟨k', v'⟩, hmem, rfl⟩ := List.mem_map.mp hk
      have hsame : (ofList l)[k']? = some v' :=
        ExtTreeMap.getElem?_ofList_of_mem (Std.compare_eq_iff_eq.mpr rfl) hdistinct hmem
      rw [hsame] at hget
      cases hget
      exact hmem
    have hnone : (ofList l)[k]? = none := by
      let _ : DecidableEq K := fun a b => decidable_of_iff (compare a b = .eq) Std.compare_eq_iff_eq
      have : LawfulBEqCmp (compare : K → K → Ordering) :=
        ⟨fun {a b} => Std.compare_eq_iff_eq.trans beq_iff_eq.symm⟩
      apply ExtTreeMap.getElem?_ofList_of_contains_eq_false
      simpa using hk
    rw [hnone] at hget
    cases hget
  · exact fun hmem => ExtTreeMap.getElem?_ofList_of_mem (Std.compare_eq_iff_eq.mpr rfl) hdistinct hmem

/-- Keep the entries that pass a test. -/
def retain (m : TreeMap K V) (keep : K → V → Bool) : TreeMap K V :=
  ofList (m.toList.filter fun entry => keep entry.1 entry.2)

/-- A lookup in a filtered map filters. -/
theorem get_retain (m : TreeMap K V) (keep : K → V → Bool) (k : K) :
    (retain m keep)[k]? = m[k]?.filter (keep k) := by
  have hnodup : ((m.toList.filter fun entry => keep entry.1 entry.2).map Prod.fst).Nodup :=
    (nodup_keys m).sublist (List.filter_sublist.map Prod.fst)
  apply Option.ext
  intro v
  rw [retain, get_ofList hnodup, mem_filter, mem_toList, Option.filter_eq_some_iff]

/-- Change every value, each under its key. -/
def mapValues (f : K → V → W) (m : TreeMap K V) : TreeMap K W :=
  ofList (m.toList.map fun entry => (entry.1, f entry.1 entry.2))

/-- A lookup in a changed map changes the value. -/
theorem get_mapValues (f : K → V → W) (m : TreeMap K V) (k : K) :
    (mapValues f m)[k]? = m[k]?.map (f k) := by
  have hnodup : ((m.toList.map fun entry => (entry.1, f entry.1 entry.2)).map Prod.fst).Nodup := by
    rw [map_map]
    exact nodup_keys m
  apply Option.ext
  intro w
  rw [mapValues, get_ofList hnodup, mem_map, Option.map_eq_some_iff]
  constructor
  · rintro ⟨⟨k', v⟩, hmem, heq⟩
    cases heq
    exact ⟨v, mem_toList.mp hmem, rfl⟩
  · rintro ⟨v, hget, rfl⟩
    exact ⟨(k, v), mem_toList.mpr hget, rfl⟩

/-- The keys of two maps in order, each once. -/
def unionKeys (m : TreeMap K V) (m' : TreeMap K W) : List K :=
  (m'.toList.foldl (fun keys entry => keys.insert entry.1 ()) (mapValues (fun _ _ => ()) m)).keys

omit [LawfulEqOrd K] in
/-- No key is listed twice. -/
theorem nodup_unionKeys : (unionKeys m m').Nodup := ExtTreeMap.nodup_keys

/-- Entering the keys of a list adds these. -/
theorem get_foldl_insert (l : List (K × W)) (keys : TreeMap K Unit) :
    (l.foldl (fun keys entry => keys.insert entry.1 ()) keys)[k]? = some () ↔
      keys[k]? = some () ∨ k ∈ l.map Prod.fst := by
  let _ : DecidableEq K := fun a b => decidable_of_iff (compare a b = .eq) Std.compare_eq_iff_eq
  induction l generalizing keys with
  | nil => simp
  | cons entry l ih =>
    have hrest := ih (keys.insert entry.1 ())
    rw [get_insert] at hrest
    rw [foldl_cons, map_cons, mem_cons]
    refine hrest.trans ?_
    by_cases hk : k = entry.1
    · simp [hk]
    · simp [hk]

/-- The keys listed are those of either map. -/
theorem mem_unionKeys : k ∈ unionKeys m m' ↔ m[k]?.isSome ∨ m'[k]?.isSome := by
  have hkeys : ∀ keys : TreeMap K Unit, k ∈ keys.keys ↔ keys[k]? = some () := by
    intro keys
    rw [ExtTreeMap.mem_keys, ← ExtTreeMap.isSome_getElem?_iff_mem]
    cases keys[k]? <;> simp
  rw [unionKeys, hkeys, get_foldl_insert, get_mapValues]
  constructor
  · rintro (hleft | hright)
    · left
      cases hm : m[k]? with
      | none => simp [hm] at hleft
      | some => rfl
    · right
      obtain ⟨⟨k', w⟩, hmem, rfl⟩ := List.mem_map.mp hright
      rw [mem_toList.mp hmem]
      rfl
  · rintro (hleft | hright)
    · left
      obtain ⟨v, hv⟩ := Option.isSome_iff_exists.mp hleft
      rw [hv]
      rfl
    · right
      obtain ⟨w, hw⟩ := Option.isSome_iff_exists.mp hright
      exact List.mem_map.mpr ⟨(k, w), mem_toList.mpr hw, rfl⟩

end Subconscious.TreeMaps
