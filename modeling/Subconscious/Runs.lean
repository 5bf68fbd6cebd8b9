import Mathlib.Data.List.Basic

/-!
# Runs under a condition on each step

A machine is a function from a state and a step to the next state, and a run
is the fold of its steps. A condition on steps may read the state a step is
taken in. What every step keeps under the condition, a run keeps whose steps
all meet it.
-/

namespace Subconscious.Runs

variable {State Step : Type*} {next : State → Step → State} {condition : State → Step → Prop}

/-- Every step of a run meets a condition in the state it starts from. -/
def Throughout (next : State → Step → State) (condition : State → Step → Prop) (state : State) :
    List Step → Prop
  | [] => True
  | step :: steps => condition state step ∧ Throughout next condition (next state step) steps

/-- A condition that can be decided can be decided along a run. -/
instance Throughout.decidable [∀ state step, Decidable (condition state step)] :
    ∀ state steps, Decidable (Throughout next condition state steps)
  | _, [] => .isTrue trivial
  | state, step :: steps => @instDecidableAnd _ _ _ (decidable (next state step) steps)

/-- A run meets the condition in its first part and in what follows it. -/
theorem throughout_append (steps rest : List Step) :
    Throughout next condition state (steps ++ rest) ↔
      Throughout next condition state steps ∧
        Throughout next condition (steps.foldl next state) rest := by
  induction steps generalizing state with
  | nil => exact ⟨fun h => ⟨trivial, h⟩, And.right⟩
  | cons step steps ih => exact (and_congr_right fun _ => ih).trans and_assoc.symm

/-- What every step keeps under the condition, a run under the condition keeps. -/
theorem Throughout.induction (inv : State → Prop)
    (hstep : ∀ state step, condition state step → inv state → inv (next state step))
    (h : Throughout next condition state steps)
    (hinv : inv state) : inv (steps.foldl next state) := by
  induction steps generalizing state with
  | nil => exact hinv
  | cons step steps ih => exact ih h.2 (hstep state step h.1 hinv)

/-- What grows twice by entries of one kind grows by such entries. -/
theorem appended_trans {α : Type*} {kind : α → Prop} {first second third : List α}
    (h : ∃ new, second = first ++ new ∧ ∀ entry ∈ new, kind entry)
    (h' : ∃ new, third = second ++ new ∧ ∀ entry ∈ new, kind entry) :
    ∃ new, third = first ++ new ∧ ∀ entry ∈ new, kind entry := by
  obtain ⟨new, rfl, hnew⟩ := h
  obtain ⟨new', rfl, hnew'⟩ := h'
  exact ⟨new ++ new', List.append_assoc _ _ _, List.forall_mem_append.mpr ⟨hnew, hnew'⟩⟩

end Subconscious.Runs
