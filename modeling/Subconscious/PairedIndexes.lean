import Subconscious.HashMaps

/-!
# Two maps that index one set of values

Two indexes are mirrored when each value stands under its own key in both,
and two key maps are inverse when each undoes the other. Both notions are
kept by entering a value whose keys are free, and by filtering both maps
with one test. A loop of removals is such a filter.
-/

namespace Subconscious.PairedIndexes

open HashMaps HashMap

universe u v w

variable {K₁ : Type u} {K₂ : Type v} {V : Type w} [DecidableEq K₁] [DecidableEq K₂]

/-- The two indexes hold the same values, each under its own two keys. -/
structure Mirrored (left : V → K₁) (right : V → K₂) (byLeft : HashMap K₁ V)
    (byRight : HashMap K₂ V) : Prop where
  ofLeft : ∀ k v, byLeft.get k = some v → left v = k ∧ byRight.get (right v) = some v
  ofRight : ∀ k v, byRight.get k = some v → right v = k ∧ byLeft.get (left v) = some v

section Mirrored

variable {left : V → K₁} {right : V → K₂} {byLeft byLeft' : HashMap K₁ V}
  {byRight byRight' : HashMap K₂ V}

/-- Two empty indexes are mirrored. -/
theorem mirrored_empty : Mirrored left right (.empty : HashMap K₁ V) (.empty : HashMap K₂ V) :=
  ⟨fun k v h => by simp at h, fun k v h => by simp at h⟩

section

variable (h : Mirrored left right byLeft byRight)
include h

/-- The right index mirrors the left one as well. -/
theorem Mirrored.symm : Mirrored right left byRight byLeft := ⟨h.ofRight, h.ofLeft⟩

/-- An entered value whose right key is free has its mirror, and so has each other. -/
theorem Mirrored.insert_left (hright : byRight.get (right v) = none)
    (hw : (byLeft.insert (left v) v).get k = some w) :
    left w = k ∧ (byRight.insert (right v) v).get (right w) = some w := by
  rcases of_get_insert hw with ⟨rfl, rfl⟩ | ⟨-, hw⟩
  · exact ⟨rfl, by simp⟩
  obtain ⟨hkey, hmirror⟩ := h.ofLeft k w hw
  have hne : right w ≠ right v := by
    intro heq
    rw [heq, hright] at hmirror
    cases hmirror
  refine ⟨hkey, ?_⟩
  rw [get_insert, if_neg hne]
  exact hmirror

/-- A value whose two keys are free may enter both indexes. -/
theorem Mirrored.insert (v : V) (hleft : byLeft.get (left v) = none)
    (hright : byRight.get (right v) = none) :
    Mirrored left right (byLeft.insert (left v) v) (byRight.insert (right v) v) :=
  ⟨fun _ _ => h.insert_left hright, fun _ _ => h.symm.insert_left hleft⟩

/-- A value that passes the test keeps its mirror. -/
theorem Mirrored.filter_left (keep : V → Bool)
    (hleft : ∀ k, byLeft'.get k = (byLeft.get k).filter keep)
    (hright : ∀ k, byRight'.get k = (byRight.get k).filter keep) (hv : byLeft'.get k = some v) :
    left v = k ∧ byRight'.get (right v) = some v := by
  rw [hleft, Option.filter_eq_some_iff] at hv
  obtain ⟨hkey, hmirror⟩ := h.ofLeft k v hv.1
  refine ⟨hkey, ?_⟩
  rw [hright, Option.filter_eq_some_iff]
  exact ⟨hmirror, hv.2⟩

/-- Filtering both indexes by one test of the values keeps them mirrored. -/
theorem Mirrored.filter (keep : V → Bool) (hleft : ∀ k, byLeft'.get k = (byLeft.get k).filter keep)
    (hright : ∀ k, byRight'.get k = (byRight.get k).filter keep) :
    Mirrored left right byLeft' byRight' :=
  ⟨fun _ _ => h.filter_left keep hleft hright, fun _ _ => h.symm.filter_left keep hright hleft⟩

/-- Removing one value from both indexes filters them by its right key. -/
theorem Mirrored.remove_right (hv : byRight.get (right v) = some v) :
    (∀ k, (byLeft.remove (left v)).get k =
        (byLeft.get k).filter fun w => right w ≠ right v) ∧
      ∀ k, (byRight.remove (right v)).get k =
        (byRight.get k).filter fun w => right w ≠ right v := by
  have hl := (h.ofRight _ v hv).2
  constructor
  · intro k
    rw [get_remove]
    split
    case isTrue hk =>
      rw [hk, hl, Option.filter_some_neg (by simp)]
    rename_i hk
    symm
    apply filter_of_forall
    intro w hw
    obtain ⟨hkey, hmirror⟩ := h.ofLeft k w hw
    have hne : right w ≠ right v := by
      intro heq
      rw [heq, hv] at hmirror
      cases hmirror
      exact hk hkey.symm
    simpa using hne
  · intro k
    rw [get_remove]
    split
    case isTrue hk =>
      rw [hk, hv, Option.filter_some_neg (by simp)]
    case isFalse hk =>
      symm
      apply filter_of_forall
      intro w hw
      have hkey := (h.ofRight k w hw).1
      have hne : right w ≠ right v := fun heq => hk (hkey.symm.trans heq)
      simpa using hne

end

end Mirrored

/-- Each of the two key maps undoes the other. -/
def Inverse (forward : HashMap K₁ K₂) (backward : HashMap K₂ K₁) : Prop :=
  ∀ k₁ k₂, forward.get k₁ = some k₂ ↔ backward.get k₂ = some k₁

section Inverse

variable {forward forward' : HashMap K₁ K₂} {backward backward' : HashMap K₂ K₁}

/-- Two empty maps are inverse. -/
theorem inverse_empty : Inverse (.empty : HashMap K₁ K₂) (.empty : HashMap K₂ K₁) := by
  intro k₁ k₂
  simp

section

variable (h : Inverse forward backward)
include h

/-- The backward map is undone as well. -/
theorem Inverse.symm : Inverse backward forward := fun k₂ k₁ => (h k₁ k₂).symm

/-- What an entered pair and the others say forward, they say backward. -/
theorem Inverse.insert_forward (hbackward : backward.get k₂ = none)
    (hj : (forward.insert k₁ k₂).get j₁ = some j₂) :
    (backward.insert k₂ k₁).get j₂ = some j₁ := by
  rcases of_get_insert hj with ⟨rfl, rfl⟩ | ⟨-, hj⟩
  · simp
  rw [h] at hj
  have hne : j₂ ≠ k₂ := by
    intro heq
    rw [heq, hbackward] at hj
    cases hj
  rw [get_insert, if_neg hne]
  exact hj

/-- A pair of free keys may enter both maps. -/
theorem Inverse.insert (hforward : forward.get k₁ = none) (hbackward : backward.get k₂ = none) :
    Inverse (forward.insert k₁ k₂) (backward.insert k₂ k₁) :=
  fun _ _ => ⟨h.insert_forward hbackward, h.symm.insert_forward hforward⟩

/-- Filtering both maps by one test of the forward keys keeps them inverse. -/
theorem Inverse.filter (keep : K₁ → Bool)
    (hforward : ∀ k, forward'.get k = (forward.get k).filter fun _ => keep k)
    (hbackward : ∀ k, backward'.get k = (backward.get k).filter keep) :
    Inverse forward' backward' := by
  intro k₁ k₂
  rw [hforward, hbackward, Option.filter_eq_some_iff, Option.filter_eq_some_iff, h k₁ k₂]

/-- Removing one pair filters both maps by its forward key. -/
theorem Inverse.remove (hk : forward.get k₁ = some k₂) :
    (∀ k, (forward.remove k₁).get k = (forward.get k).filter fun _ => k ≠ k₁) ∧
      ∀ k, (backward.remove k₂).get k = (backward.get k).filter fun j => j ≠ k₁ := by
  constructor
  · intro k
    rw [get_remove]
    by_cases heq : k = k₁
    · simp [heq]
    · rw [if_neg heq, filter_of_forall (fun _ _ => by simpa using heq)]
  intro k
  rw [get_remove]
  split
  case isTrue heq =>
    rw [heq, (h k₁ k₂).mp hk, Option.filter_some_neg (by simp)]
  rename_i hne
  symm
  apply filter_of_forall
  intro j hj
  have hjne : j ≠ k₁ := by
    intro heq
    rw [heq, ← h k₁ k, hk] at hj
    exact hne (Option.some.inj hj).symm
  simpa using hjne

end

end Inverse

end Subconscious.PairedIndexes
