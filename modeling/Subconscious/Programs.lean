import Mathlib.Data.List.Basic
import Mathlib.Data.List.Induction
import Mathlib.Logic.Basic

/-!
# Programs that call their environment

A program is a tree of calls: each node names a call and goes on with its
answer. The environment proposes an answer and a transition function says what
the call does to the shared state and what it is really answered with. A run
follows a script of proposed answers and stops where the script ends, so a
script that ends early is a crash.

`Ensures` is the weakest precondition of a program: an invariant holds after
every single call, other parties may act between two calls, and a postcondition
holds when the program is done.
-/

namespace Subconscious.Programs

open List

/-- Calls, and what each of them is answered with. -/
structure Interface where
  Call : Type
  Answer : Call → Type

/-- A program over an interface. -/
inductive Program (I : Interface) (α : Type) where
  | done (value : α)
  | call (call : I.Call) (next : I.Answer call → Program I α)

namespace Program

variable {I : Interface} {α β : Type}

/-- Go on with the result. -/
def bind : Program I α → (α → Program I β) → Program I β
  | done value, rest => rest value
  | call made next, rest => call made fun answer => (next answer).bind rest

instance : Monad (Program I) where
  pure := done
  bind := bind

/-- One call, and its answer. -/
def ask (made : I.Call) : Program I (I.Answer made) := call made done

end Program

open Program

/-- A program that ends with a value or an error. -/
abbrev Attempt (I : Interface) (ε α : Type) := ExceptT ε (Program I) α

section attempt

variable {I : Interface} {ε ε' α β : Type}

/-- A call whose answer may be an error of its own. -/
def attempt (made : I.Call) (read : I.Answer made → Except ε α) : Attempt I ε α :=
  Program.bind (Program.ask made) fun answer => .done (read answer)

/-- A decision without a call. -/
def decided (result : Except ε α) : Attempt I ε α := Program.done result

/-- Run the rest whatever became of the first part. -/
def settle (first : Attempt I ε α) (rest : Except ε α → Attempt I ε' β) : Attempt I ε' β :=
  Program.bind (ExceptT.run first) rest

/-- Report the errors of a part as errors of the whole. -/
def rephrase (wrap : ε → ε') (part : Attempt I ε α) : Attempt I ε' α :=
  settle part fun result => decided (result.mapError wrap)

end attempt

section runs

variable {I : Interface} {S α β : Type}
  (act : S → (made : I.Call) → I.Answer made → S × I.Answer made)

/-- Proposed answers, one for each call. -/
abbrev Answers (I : Interface) := (made : I.Call) → I.Answer made

/-- Follow a program along a script. What is left of it is `done` when it ran to its end. -/
def run : Program I α → S → List (Answers I) → S × Program I α
  | .done value, state, _ => (state, .done value)
  | .call made next, state, [] => (state, .call made next)
  | .call made next, state, answers :: script =>
    let made' := act state made (answers made)
    run (next made'.2) made'.1 script

/-- Whatever is proposed and whatever others do between two calls, the
invariant holds after every call and the postcondition at the end. -/
def Ensures (rely : S → S → Prop) (inv : S → Prop) :
    Program I α → (α → S → Prop) → S → Prop
  | .done value, post, state => post value state
  | .call made next, post, state => ∀ state', rely state state' → ∀ proposed,
      inv (act state' made proposed).1 ∧
        Ensures rely inv (next (act state' made proposed).2) post (act state' made proposed).1

variable {act} {rely : S → S → Prop} {inv : S → Prop}

variable {program : Program I α} {post : α → S → Prop} {state : S}

/-- A weaker postcondition holds. -/
theorem Ensures.mono (h : Ensures act rely inv program post state)
    (hpost : ∀ value state, post value state → post' value state) :
    Ensures act rely inv program post' state := by
  induction program generalizing state with
  | done value => exact hpost value state h
  | call made next ih =>
    intro state' hrely proposed
    obtain ⟨hinv, hrest⟩ := h state' hrely proposed
    exact ⟨hinv, ih _ hrest⟩

/-- A program ensures what it ensures that the rest ensures. -/
theorem Ensures.bind {post : β → S → Prop}
    (h : Ensures act rely inv program
      (fun value state => Ensures act rely inv (rest value) post state) state) :
    Ensures act rely inv (program.bind rest) post state := by
  induction program generalizing state with
  | done => exact h
  | call made next ih =>
    intro state' hrely proposed
    obtain ⟨hinv, hrest⟩ := h state' hrely proposed
    exact ⟨hinv, ih _ hrest⟩

/-- A stronger invariant that is reached anyway. -/
theorem Ensures.weaken (h : Ensures act rely inv program post state)
    (hinv : ∀ state, inv state → inv' state) : Ensures act rely inv' program post state := by
  induction program generalizing state with
  | done => exact h
  | call made next ih =>
    intro state' hrely proposed
    obtain ⟨hstate, hrest⟩ := h state' hrely proposed
    exact ⟨hinv _ hstate, ih _ hrest⟩

/-- Soundness: along every script, finished or not. -/
theorem Ensures.run (h : Ensures act Eq inv program post state) (hstate : inv state)
    (script : List (Answers I)) :
    inv (run act program state script).1 ∧
      ∀ value, (Programs.run act program state script).2 = .done value →
        post value (Programs.run act program state script).1 := by
  induction program generalizing state script with
  | done =>
    refine ⟨hstate, ?_⟩
    intro other hother
    cases hother
    exact h
  | call made next ih =>
    cases script with
    | nil =>
      refine ⟨hstate, ?_⟩
      nofun
    | cons answers script =>
      obtain ⟨hinv, hrest⟩ := h state rfl (answers made)
      exact ih _ hrest hinv script

/-- Some answers lead a program to a result. -/
inductive Reaches (act : S → (made : I.Call) → I.Answer made → S × I.Answer made) :
    Program I α → S → α → S → Prop where
  | done (value : α) (state : S) : Reaches act (.done value) state value state
  | call {made : I.Call} {next : I.Answer made → Program I α} {state final : S} {value : α}
      (proposed : I.Answer made)
      (rest : Reaches act (next (act state made proposed).2) (act state made proposed).1 value
        final) :
      Reaches act (.call made next) state value final

/-- A program that ends was led there by answers. -/
theorem Ensures.reached (h : Ensures act Eq inv program post state) :
    Ensures act Eq inv program
      (fun value final => post value final ∧ Reaches act program state value final) state := by
  induction program generalizing state with
  | done value => exact ⟨h, .done value state⟩
  | call made next ih =>
    rintro state' rfl proposed
    obtain ⟨hinv, hrest⟩ := h state rfl proposed
    refine ⟨hinv, (ih _ hrest).mono ?_⟩
    rintro value final ⟨hpost, hreaches⟩
    exact ⟨hpost, .call proposed hreaches⟩

section attempt

variable {ε ε' : Type}

variable {part : Attempt I ε α} {state : S}

/-- The rest of an attempt follows its success. -/
theorem Ensures.attempt_bind {post : Except ε β → S → Prop}
    (h : Ensures act rely inv part.run (fun result state => match result with
      | .ok value => Ensures act rely inv (rest value).run post state
      | .error error => post (.error error) state) state) :
    Ensures act rely inv (part >>= rest).run post state := by
  refine Ensures.bind (h.mono ?_)
  intro result state' hresult
  cases result with
  | ok | error => exact hresult

/-- The rest follows either result. -/
theorem Ensures.settle {post : Except ε' β → S → Prop}
    (h : Ensures act rely inv first.run
      (fun result state => Ensures act rely inv (rest result).run post state) state) :
    Ensures act rely inv (settle first rest).run post state :=
  Ensures.bind h

/-- The results are those with the errors reworded. -/
theorem Ensures.rephrase {post : Except ε' α → S → Prop}
    (h : Ensures act rely inv part.run
      (fun result state => post (result.mapError wrap) state) state) :
    Ensures act rely inv (rephrase wrap part).run post state :=
  Ensures.settle h

end attempt

section attempts

variable {ε ε' : Type} {ok : α → S → Prop} {bad : S → Prop} {state : S}

variable (act rely inv) in
/-- What holds when an attempt succeeds, and what when it fails. -/
def Attempts (part : Attempt I ε α) (ok : α → S → Prop) (bad : S → Prop) (state : S) : Prop :=
  Ensures act rely inv part.run (fun result state => match result with
    | .ok value => ok value state
    | .error _ => bad state) state

variable {part : Attempt I ε α} {ok' : β → S → Prop}

/-- The rest follows a success. -/
theorem Attempts.bind (h : Attempts act rely inv part ok bad state)
    (hrest : ∀ value state, ok value state → Attempts act rely inv (rest value) ok' bad state) :
    Attempts act rely inv (part >>= rest) ok' bad state := by
  refine Ensures.attempt_bind (Ensures.mono h ?_)
  intro result state' hresult
  cases result with
  | ok value => exact hrest value state' hresult
  | error => exact hresult

variable {bad' : S → Prop}

section

variable (h : Attempts act rely inv part ok bad state)
include h

/-- Weaker invariants and weaker results. -/
theorem Attempts.imp {ok' : α → S → Prop} (hinv : ∀ state, inv state → inv' state)
    (hok : ∀ value state, ok value state → ok' value state)
    (hbad : ∀ state, bad state → bad' state) : Attempts act rely inv' part ok' bad' state := by
  refine Ensures.mono (Ensures.weaken h hinv) ?_
  intro result state' hresult
  cases result with
  | ok value => exact hok value state' hresult
  | error => exact hbad state' hresult

/-- A weaker result of a success holds. -/
theorem Attempts.mono {ok' : α → S → Prop} (hok : ∀ value state, ok value state → ok' value state) :
    Attempts act rely inv part ok' bad state :=
  h.imp (fun _ => id) hok fun _ => id

omit h in
/-- A decision gives its result at once. -/
theorem Attempts.decided {result : Except ε α} (hok : ∀ value, result = .ok value → ok value state)
    (hbad : bad state) : Attempts act rely inv (decided result) ok bad state := by
  cases result with
  | ok value => exact hok value rfl
  | error => exact hbad

/-- Rewording errors changes no outcome. -/
theorem Attempts.rephrase : Attempts act rely inv (rephrase wrap part) ok bad state := by
  refine Ensures.rephrase (Ensures.mono h ?_)
  intro result state' hresult
  cases result with
  | ok | error => exact hresult

end

/-- The rest follows a success and a failure alike. -/
theorem Attempts.settle {rest : Except ε α → Attempt I ε' β}
    (h : Attempts act rely inv first ok bad state)
    (hok : ∀ value state, ok value state → Attempts act rely inv (rest (.ok value)) ok' bad' state)
    (hbad : ∀ error state, bad state → Attempts act rely inv (rest (.error error)) ok' bad' state) :
    Attempts act rely inv (settle first rest) ok' bad' state := by
  refine Ensures.settle (Ensures.mono h ?_)
  intro result state' hresult
  cases result with
  | ok value => exact hok value state' hresult
  | error error => exact hbad error state' hresult

/-- An attempt that succeeds was led there by answers. -/
theorem Attempts.reached (h : Attempts act Eq inv part ok bad state) :
    Attempts act Eq inv part
      (fun value final => ok value final ∧ Reaches act part.run state (.ok value) final) bad state := by
  refine Ensures.mono (Ensures.reached h) ?_
  rintro result final ⟨hresult, hreaches⟩
  cases result with
  | ok => exact ⟨hresult, hreaches⟩
  | error => exact hresult

end attempts

end runs

section logs

variable {I : Interface} {S : Type}

/-- A call that was made, with the state around it. -/
structure Step (I : Interface) (S : Type) where
  before : S
  call : I.Call
  answer : I.Answer call
  after : S

/-- A state with everything that was called so far, in order. -/
structure Logged (I : Interface) (S : Type) where
  state : S
  log : List (Step I S)

/-- Make a call and write it down. -/
def logging (act : S → (made : I.Call) → I.Answer made → S × I.Answer made) (now : Logged I S)
    (made : I.Call) (proposed : I.Answer made) : Logged I S × I.Answer made :=
  let made' := act now.state made proposed
  (⟨made'.1, now.log ++ [⟨now.state, made, made'.2, made'.1⟩]⟩, made'.2)

variable (act : S → (made : I.Call) → I.Answer made → S × I.Answer made)

section

variable (now : Logged I S) (made : I.Call) (proposed : I.Answer made)

@[simp] theorem logging_state :
    (logging act now made proposed).1.state = (act now.state made proposed).1 := rfl

@[simp] theorem logging_log :
    (logging act now made proposed).1.log =
      now.log ++ [⟨now.state, made, (act now.state made proposed).2,
        (act now.state made proposed).1⟩] := rfl

end

/-- A log only grows. -/
theorem Reaches.log {α : Type} {program : Program I α} {now final : Logged I S} {value : α}
    (h : Reaches (logging act) program now value final) : now.log <+: final.log := by
  induction h with
  | done => exact prefix_refl _
  | call proposed rest ih => exact (prefix_append _ _).trans ih

/-- Every entry is fine after the ones before it. -/
def Each {α : Type} (fine : List α → α → Prop) (entries : List α) : Prop :=
  ∀ earlier entry later, entries = earlier ++ entry :: later → fine earlier entry

section each

variable {α : Type} {fine : List α → α → Prop}

/-- There is nothing to check in an empty list. -/
theorem each_nil : Each fine [] := by
  intro earlier entry later hno
  exact absurd hno.symm (append_ne_nil_of_right_ne_nil _ (cons_ne_nil _ _))

/-- One more entry has to be fine after the others. -/
theorem Each.snoc (h : Each fine entries)
    (hentry : fine entries entry) : Each fine (entries ++ [entry]) := by
  intro earlier other later heq
  rcases eq_nil_or_concat later with rfl | ⟨later, last, rfl⟩
  · obtain ⟨rfl, hlast⟩ := append_inj' heq rfl
    cases hlast
    exact hentry
  have hsplit : entries ++ [entry] = (earlier ++ other :: later) ++ [last] := by
    rw [heq, concat_eq_append, append_assoc, cons_append]
  obtain ⟨hinit, -⟩ := append_inj' hsplit rfl
  exact h earlier other later hinit

/-- Entries that are fine after anything. -/
theorem Each.append (h : Each fine entries)
    (hmore : ∀ earlier, ∀ entry ∈ more, fine earlier entry) : Each fine (entries ++ more) := by
  induction more using List.reverseRecOn with
  | nil =>
    rw [append_nil]
    exact h
  | append_singleton more last ih =>
    rw [← append_assoc]
    refine (ih fun earlier entry hentry => hmore earlier entry (mem_append_left _ hentry)).snoc ?_
    exact hmore _ last (mem_append_right _ (mem_singleton_self _))

end each

end logs

end Subconscious.Programs
