import Mathlib.Logic.Relation
import Mathlib.Data.List.Nodup
import Mathlib.Data.Set.Basic

/-!
# Walks of a partial function

Every key has at most one successor. A walk from a key either ends or comes
back to a key it has met. What a walk reaches stays in every set that is closed
under successors, and a key on a cycle is reached again from whatever it
reaches.
-/

namespace Subconscious.OrbitWalks

open List

universe u

variable {K : Type u} (up : K → Option K)

/-- One key is met on the walk from another. -/
def Reaches : K → K → Prop := Relation.ReflTransGen fun a b => up a = some b

/-- A walk from the key comes back to it. -/
def OnCycle (a : K) : Prop := Relation.TransGen (fun a b => up a = some b) a a

variable {up}

/-- A closed set holds everything reached from it. -/
theorem Reaches.mem_of_closed {s : Set K} (hclosed : ∀ a ∈ s, ∀ b, up a = some b → b ∈ s) {a b : K}
    (ha : a ∈ s) (h : Reaches up a b) : b ∈ s := by
  induction h with
  | refl => exact ha
  | tail _ hstep ih => exact hclosed _ ih _ hstep

variable {a b : K}

/-- A key without a successor reaches itself only. -/
theorem Reaches.eq_of_dead (h : Reaches up a b) (hdead : up a = none) : a = b := by
  rcases Relation.ReflTransGen.cases_head h with rfl | ⟨c, hc, -⟩
  · rfl
  · rw [hdead] at hc
    cases hc

/-- What a key of a cycle reaches, reaches the key. -/
theorem OnCycle.reaches_back (h : OnCycle up a) (hab : Reaches up a b) : Reaches up b a := by
  have hclosed : ∀ c ∈ {c | Reaches up c a}, ∀ d, up c = some d → d ∈ {c | Reaches up c a} := by
    intro c hc d hd
    rcases Relation.ReflTransGen.cases_head hc with rfl | ⟨e, he, hea⟩
    · obtain ⟨e, he, hea⟩ := Relation.TransGen.head'_iff.mp h
      rw [hd] at he
      cases he
      exact hea
    · rw [hd] at he
      cases he
      exact hea
  exact hab.mem_of_closed hclosed Relation.ReflTransGen.refl

/-- Everything on the walk from a cycle is on the cycle. -/
theorem OnCycle.of_reaches (h : OnCycle up a) (hab : Reaches up a b) : OnCycle up b := by
  have hback := h.reaches_back hab
  rcases Relation.ReflTransGen.cases_head hback with rfl | ⟨c, hc, hca⟩
  · exact h
  · exact Relation.TransGen.head' hc (hca.trans hab)

/-- A walk that ends is on no cycle. -/
theorem not_onCycle_of_dead (hab : Reaches up a b) (hdead : up b = none) : ¬ OnCycle up a := by
  intro h
  obtain ⟨c, hc, -⟩ := Relation.TransGen.head'_iff.mp (h.of_reaches hab)
  rw [hdead] at hc
  cases hc

variable (up)

/-- A list of keys, each the successor of the one before, and what follows the last. -/
def Trail (path : List K) (next : Option K) : Prop :=
  ∀ (i : Nat) a, path[i]? = some a → up a = (path ++ next.toList)[i + 1]?

variable {up}

/-- No key is no trail yet. -/
theorem Trail.nil (next : Option K) : Trail up [] next := by
  intro i a h
  simp at h

variable {path : List K} {key : K}

/-- A trail goes on at the key that follows. -/
theorem Trail.extend (h : Trail up path (some key)) : Trail up (path ++ [key]) (up key) := by
  intro i a ha
  by_cases hlt : i < path.length
  · rw [List.getElem?_append_left hlt] at ha
    have hstep := h i a ha
    rw [Option.toList_some] at hstep
    have hbound : i + 1 < (path ++ [key]).length := by
      rw [length_append, length_singleton]
      omega
    rw [hstep, List.getElem?_append_left hbound]
  · rw [List.getElem?_append_right (Nat.le_of_not_lt hlt), List.getElem?_singleton] at ha
    split at ha
    case isFalse => cases ha
    rename_i hzero
    cases ha
    have hi : i = path.length := by omega
    subst hi
    have hend : path.length + 1 = (path ++ [key]).length := by
      rw [length_append, length_singleton]
    rw [hend, List.getElem?_append_right (le_refl _), Nat.sub_self]
    cases up key with
    | none | some => rfl

section

variable {next : Option K} {path : List K} (h : Trail up path next)
include h

variable {a b : K}

/-- Along a trail every key reaches the later ones. -/
theorem Trail.reaches {i j : Nat} (ha : path[i]? = some a) (hb : (path ++ next.toList)[j]? = some b)
    (hij : i ≤ j) : Reaches up a b := by
  induction j generalizing b with
  | zero =>
    obtain rfl : i = 0 := by omega
    rw [List.getElem?_append_left (List.getElem?_eq_some_iff.mp ha).1, ha] at hb
    cases hb
    exact Relation.ReflTransGen.refl
  | succ j ih =>
    rcases Nat.lt_or_ge j i with hlt | hge
    · obtain rfl : i = j + 1 := by omega
      rw [List.getElem?_append_left (List.getElem?_eq_some_iff.mp ha).1, ha] at hb
      cases hb
      exact Relation.ReflTransGen.refl
    have hj : j < path.length := by
      have hbound := (List.getElem?_eq_some_iff.mp hb).1
      have hnext : next.toList.length ≤ 1 := by cases next <;> simp
      rw [length_append] at hbound
      omega
    have hget : path[j]? = some path[j] := List.getElem?_eq_getElem hj
    have hprev : (path ++ next.toList)[j]? = some path[j] := by
      rw [List.getElem?_append_left hj]
      exact hget
    exact (ih hprev hge).tail ((h j _ hget).trans hb)

variable {key : K}

omit h in
/-- Every key of a trail reaches what follows it. -/
theorem Trail.reaches_next (h : Trail up path (some key)) (ha : a ∈ path) : Reaches up a key := by
  obtain ⟨i, hi⟩ := List.getElem?_of_mem ha
  refine h.reaches hi ?_ (Nat.le_of_lt (List.getElem?_eq_some_iff.mp hi).1)
  rw [List.getElem?_append_right (le_refl _), Nat.sub_self]
  rfl

/-- The successor of a key of a trail is on the trail or follows it. -/
theorem Trail.mem_succ (ha : a ∈ path) (hb : up a = some b) : b ∈ path ∨ next = some b := by
  obtain ⟨i, hi⟩ := List.getElem?_of_mem ha
  rw [h i a hi] at hb
  have hmem := mem_of_getElem? hb
  rcases mem_append.mp hmem with hpath | hnext
  · exact .inl hpath
  · exact .inr (Option.mem_toList.mp hnext)

omit h in
/-- A trail that comes back to one of its keys holds everything they reach. -/
theorem Trail.mem_of_back (h : Trail up path (some key)) (hkey : key ∈ path) (ha : a ∈ path)
    (hab : Reaches up a b) : b ∈ path := by
  refine hab.mem_of_closed (s := {c | c ∈ path}) ?_ ha
  intro c hc d hd
  rcases h.mem_succ hc hd with hin | hnext
  · exact hin
  · exact Option.some.inj hnext ▸ hkey

/-- No key of a trail with a dead end is on a cycle. -/
theorem Trail.not_onCycle (hnext : next = none) (ha : a ∈ path) : ¬ OnCycle up a := by
  subst hnext
  obtain ⟨i, hi⟩ := List.getElem?_of_mem ha
  have hpos : path.length - 1 < path.length := by
    have := (List.getElem?_eq_some_iff.mp hi).1
    omega
  have hlast : path[path.length - 1]? = some path[path.length - 1] := List.getElem?_eq_getElem hpos
  have hreach : Reaches up a path[path.length - 1] := by
    refine h.reaches hi (j := path.length - 1) ?_ ?_
    · simp
    · have := (List.getElem?_eq_some_iff.mp hi).1
      omega
  refine not_onCycle_of_dead hreach ?_
  rw [h _ _ hlast]
  apply List.getElem?_eq_none
  simp
  omega

end

variable {start : Nat}

/-- When a trail comes back to one of its keys, what stands from there on is closed. -/
theorem Trail.closed_from (h : Trail up path (some key)) (hstart : path[start]? = some key)
    (ha : a ∈ path.drop start) (hb : up a = some b) : b ∈ path.drop start := by
  obtain ⟨i, hi⟩ := List.getElem?_of_mem ha
  rw [List.getElem?_drop] at hi
  rw [h _ a hi, Option.toList_some] at hb
  by_cases hlt : start + i + 1 < path.length
  · rw [List.getElem?_append_left hlt] at hb
    refine mem_of_getElem? (i := i + 1) ?_
    rw [List.getElem?_drop]
    exact hb
  rw [List.getElem?_append_right (Nat.le_of_not_lt hlt), List.getElem?_singleton] at hb
  split at hb
  case isFalse => cases hb
  cases hb
  refine mem_of_getElem? (i := 0) ?_
  rw [List.getElem?_drop]
  exact hstart

/-- The keys before the place a trail comes back to are on no cycle. -/
theorem Trail.not_onCycle_before (h : Trail up path (some key)) (hnodup : path.Nodup)
    (hstart : path[start]? = some key) (ha : a ∈ path.take start) : ¬ OnCycle up a := by
  intro hcycle
  obtain ⟨i, hi⟩ := List.getElem?_of_mem ha
  have hlt : i < start := by
    have hbound := (List.getElem?_eq_some_iff.mp hi).1
    rw [length_take] at hbound
    omega
  rw [List.getElem?_take_of_lt hlt] at hi
  have hkey : key ∈ path.drop start := by
    refine mem_of_getElem? (i := 0) ?_
    rw [List.getElem?_drop]
    exact hstart
  have hmem : a ∈ path.drop start :=
    (hcycle.reaches_back (h.reaches_next (mem_of_getElem? hi))).mem_of_closed
      (s := {c | c ∈ path.drop start}) (fun c hc d => h.closed_from hstart hc) hkey
  obtain ⟨j, hj⟩ := List.getElem?_of_mem hmem
  rw [List.getElem?_drop] at hj
  have hsame : i = start + j :=
    (List.getElem?_inj (List.getElem?_eq_some_iff.mp hi).1 hnodup).mp (hi.trans hj.symm)
  omega

end Subconscious.OrbitWalks
