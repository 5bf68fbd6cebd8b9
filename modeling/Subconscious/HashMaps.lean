import Mathlib.Data.List.AList
import Mathlib.Data.Finset.Basic

/-!
# Hash maps with a lookup calculus

A hash map is a list of entries with distinct keys. Every later statement
reads a map only through its lookup, so the order of the entries, which is
the iteration order of the map, is never part of a result. The lookup of
each operation is one rewriting rule, and iteration is membership in the
entry list.
-/

namespace Subconscious.HashMaps

open List

universe u v

/-- A finite map from keys to values, with one entry for each key. -/
def HashMap (K : Type u) (V : Type v) := AList fun _ : K => V

variable {α : Type u} {o : Option α} {p : α → Bool}

/-- A test that every value passes filters nothing. -/
theorem filter_of_forall (h : ∀ a, o = some a → p a = true) : o.filter p = o := by
  apply Option.ext
  intro a
  rw [Option.filter_eq_some_iff]
  exact ⟨fun ha => ha.1, fun ha => ⟨ha, h a ha⟩⟩

/-- Two tests that agree on the value filter alike. -/
theorem filter_congr_of (h : ∀ a, o = some a → p a = q a) : o.filter p = o.filter q := by
  apply Option.ext
  intro a
  rw [Option.filter_eq_some_iff, Option.filter_eq_some_iff]
  constructor
  · rintro ⟨ha, hp⟩
    exact ⟨ha, (h a ha).symm.trans hp⟩
  · rintro ⟨ha, hq⟩
    exact ⟨ha, (h a ha).trans hq⟩

namespace HashMap

variable {K : Type u} {V : Type v}

/-- The map without entries. -/
def empty : HashMap K V := (∅ : AList fun _ : K => V)

instance : Inhabited (HashMap K V) := ⟨empty⟩

section

variable (m : HashMap K V)

/-- The entries in iteration order. -/
def toList : List (K × V) := m.entries.map fun e => (e.1, e.2)

/-- The keys in iteration order. -/
def keys : List K := m.toList.map Prod.fst

/-- The values in iteration order. -/
def values : List V := m.toList.map Prod.snd

/-- Iteration visits every key once. -/
theorem nodup_keys : m.keys.Nodup := by
  have h : m.keys = m.entries.map Sigma.fst := by
    simp only [keys, toList, map_map]
    rfl
  rw [h]
  exact m.nodupKeys

end

variable [DecidableEq K]

section

variable (m : HashMap K V)

/-- The value stored under a key. -/
def get (k : K) : Option V := AList.lookup k m

/-- Whether a key has a value. -/
def contains (k : K) : Bool := (m.get k).isSome

/-- Every entry of a map is one of another map. -/
def Within (m m' : HashMap K V) : Prop := ∀ k v, m.get k = some v → m'.get k = some v

/-- Store a value, replacing the value the key had. -/
def insert (m : HashMap K V) (k : K) (v : V) : HashMap K V := AList.insert k v m

/-- Drop a key with its value. -/
def remove (k : K) : HashMap K V := AList.erase k m

/-- Keep exactly the entries that pass the test. -/
def retain (p : K → V → Bool) : HashMap K V :=
  ⟨m.entries.filter fun e => p e.1 e.2, m.nodupKeys.sublist (filter_sublist)⟩

/-- Change every value in place. -/
def mapValues (f : V → V) : HashMap K V where
  entries := m.entries.map fun e => ⟨e.1, f e.2⟩
  nodupKeys := by
    have hkeys : (m.entries.map fun e => (⟨e.1, f e.2⟩ : Sigma fun _ : K => V)).keys =
        m.entries.keys := by
      simp only [List.keys, map_map, Function.comp_def]
    rw [List.NodupKeys, hkeys]
    exact m.nodupKeys

/-- Change the value of a key in place, when the key has one. -/
def modify (k : K) (f : V → V) : HashMap K V :=
  match m.get k with
  | some v => m.insert k (f v)
  | none => m

@[simp, grind =] theorem get_empty (k : K) : (empty : HashMap K V).get k = none := rfl

@[simp, grind =] theorem get_insert (k k' : K) (v : V) :
    (m.insert k v).get k' = if k' = k then some v else m.get k' := by
  split
  case isTrue h =>
    rw [h]
    exact AList.lookup_insert m
  case isFalse h => exact AList.lookup_insert_ne h

@[simp, grind =] theorem get_remove (k k' : K) :
    (m.remove k).get k' = if k' = k then none else m.get k' := by
  split
  case isTrue h =>
    rw [h]
    exact AList.lookup_erase k m
  case isFalse h => exact AList.lookup_erase_ne h

end

variable {m : HashMap K V} {k : K}

/-- Removing an absent key changes nothing. -/
theorem remove_of_get_none (h : m.get k = none) : m.remove k = m := by
  apply AList.ext
  exact kerase_of_notMem_keys (AList.lookup_eq_none.mp h)

section

variable (m : HashMap K V)

@[simp] theorem remove_remove (k : K) : (m.remove k).remove k = m.remove k :=
  remove_of_get_none (by simp)

@[simp, grind =] theorem contains_eq (k : K) : m.contains k = (m.get k).isSome := rfl

/-- The entry list and the lookup hold the same pairs. -/
theorem mem_toList (k : K) (v : V) : (k, v) ∈ m.toList ↔ m.get k = some v := by
  have h := AList.mem_lookup_iff (a := k) (b := v) (s := m)
  rw [Option.mem_def] at h
  unfold get toList
  rw [h, mem_map]
  constructor
  · rintro ⟨⟨k', v'⟩, hm, he⟩
    cases he
    exact hm
  · intro hm
    exact ⟨⟨k, v⟩, hm, rfl⟩

/-- A key is iterated exactly when it has a value. -/
theorem mem_keys : k ∈ m.keys ↔ ∃ v, m.get k = some v := by
  unfold keys
  rw [mem_map]
  constructor
  · rintro ⟨⟨k', v⟩, hm, rfl⟩
    exact ⟨v, (mem_toList m k' v).mp hm⟩
  · rintro ⟨v, hv⟩
    exact ⟨(k, v), (mem_toList m k v).mpr hv, rfl⟩

/-- A value is iterated exactly when some key holds it. -/
theorem mem_values : v ∈ m.values ↔ ∃ k, m.get k = some v := by
  unfold values
  rw [mem_map]
  constructor
  · rintro ⟨⟨k, v'⟩, hm, rfl⟩
    exact ⟨k, (mem_toList m k v').mp hm⟩
  · rintro ⟨k, hk⟩
    exact ⟨(k, v), (mem_toList m k v).mpr hk, rfl⟩

@[simp, grind =] theorem get_retain (p : K → V → Bool) (k : K) :
    (m.retain p).get k = (m.get k).filter (p k) := by
  have hmem : ∀ v, (m.retain p).get k = some v ↔ m.get k = some v ∧ p k v = true := by
    intro v
    rw [← mem_toList, ← mem_toList]
    simp only [toList, retain, mem_map, mem_filter]
    constructor
    · rintro ⟨e, ⟨hm, hp⟩, he⟩
      cases he
      exact ⟨⟨e, hm, rfl⟩, hp⟩
    · rintro ⟨⟨e, hm, he⟩, hp⟩
      cases he
      exact ⟨e, ⟨hm, hp⟩, rfl⟩
  apply Option.ext
  intro v
  rw [hmem, Option.filter_eq_some_iff]

@[simp, grind =] theorem get_mapValues (f : V → V) (k : K) :
    (m.mapValues f).get k = (m.get k).map f := by
  apply Option.ext
  intro v
  rw [← mem_toList, Option.map_eq_some_iff]
  simp only [toList, mapValues, map_map, mem_map]
  constructor
  · rintro ⟨e, hm, he⟩
    cases he
    exact ⟨e.2, (mem_toList m e.1 e.2).mp (mem_map.mpr ⟨e, hm, rfl⟩), rfl⟩
  rintro ⟨w, hw, rfl⟩
  obtain ⟨e, hm, he⟩ := mem_map.mp ((mem_toList m k w).mpr hw)
  cases he
  exact ⟨e, hm, rfl⟩

@[simp, grind =] theorem get_modify (k k' : K) (f : V → V) :
    (m.modify k f).get k' = if k' = k then (m.get k).map f else m.get k' := by
  unfold modify
  cases hk : m.get k with
  | none => split <;> simp_all
  | some => simp

end

variable {k' : K} {v v' : V}

/-- An entry after a store is the stored one, or one of another key. -/
theorem of_get_insert (h : (m.insert k v).get k' = some v') :
    k' = k ∧ v = v' ∨ k' ≠ k ∧ m.get k' = some v' := by
  rw [get_insert] at h
  split at h
  case isTrue heq => exact .inl ⟨heq, Option.some.inj h⟩
  case isFalse hne => exact .inr ⟨hne, h⟩

/-- An entry after a removal is one of another key. -/
theorem of_get_remove (h : (m.remove k).get k' = some v') : k' ≠ k ∧ m.get k' = some v' := by
  rw [get_remove] at h
  split at h
  case isTrue => cases h
  case isFalse hne => exact ⟨hne, h⟩

/-- An entry after a change is the changed one, or one of another key. -/
theorem of_get_modify (h : (m.modify k f).get k' = some v') :
    (k' = k ∧ ∃ old, m.get k' = some old ∧ f old = v') ∨ k' ≠ k ∧ m.get k' = some v' := by
  rw [get_modify] at h
  split at h
  case isTrue heq => exact .inl ⟨heq, heq ▸ Option.map_eq_some_iff.mp h⟩
  case isFalse hne => exact .inr ⟨hne, h⟩

/-- What the stored entry and all old ones satisfy, every entry after a store does. -/
theorem forall_insert {P : K → V → Prop} (hnew : P k v) (hold : ∀ k v, m.get k = some v → P k v)
    (k' : K) (v' : V) (h : (m.insert k v).get k' = some v') : P k' v' := by
  rcases of_get_insert h with ⟨rfl, rfl⟩ | ⟨-, hother⟩
  · exact hnew
  · exact hold k' v' hother

/-- What all entries satisfy, every entry of a filtered map does. -/
theorem forall_filter {m' : HashMap K V} {keep : K → V → Bool} {P : K → V → Prop}
    (hfilter : ∀ k, m'.get k = (m.get k).filter (keep k)) (hold : ∀ k v, m.get k = some v → P k v)
    (k : K) (v : V) (h : m'.get k = some v) : P k v := by
  rw [hfilter, Option.filter_eq_some_iff] at h
  exact hold k v h.1

/-- A stored entry comes first, before the entries of the other keys. -/
theorem values_insert : (m.insert k v).values = v :: (m.remove k).values := rfl

/-- A map iterates over a key it has and over the others. -/
theorem values_perm_remove (h : m.get k = some v) : m.values.Perm (v :: (m.remove k).values) := by
  have hkey : k ∈ m.entries.keys := by
    have hmem := (mem_toList m k v).mpr h
    obtain ⟨e, he, heq⟩ := mem_map.mp hmem
    cases heq
    exact mem_map.mpr ⟨e, he, rfl⟩
  obtain ⟨w, front, back, -, hsplit, herase⟩ := exists_of_kerase hkey
  have hentry : (k, w) ∈ m.toList := by
    refine mem_map.mpr ⟨⟨k, w⟩, ?_, rfl⟩
    rw [hsplit]
    exact mem_append_right _ mem_cons_self
  have hsame : v = w := Option.some.inj (h.symm.trans ((mem_toList m k w).mp hentry))
  have hentries : m.entries.Perm (⟨k, w⟩ :: (m.remove k).entries) := by
    change m.entries.Perm (⟨k, w⟩ :: m.entries.kerase k)
    rw [herase, hsplit]
    exact perm_middle
  rw [hsame]
  exact (hentries.map fun e => (e.1, e.2)).map Prod.snd

omit [DecidableEq K] in
/-- Changed values are iterated in their old order. -/
theorem values_mapValues : (m.mapValues f).values = m.values.map f := by
  simp only [values, toList, mapValues, map_map, Function.comp_def]

end HashMap

end Subconscious.HashMaps
