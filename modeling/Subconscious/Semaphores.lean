import Mathlib.Data.Option.Basic

/-!
# Counting semaphores

A semaphore is given by what its users may rely on: how many permits are free
and whether it is closed are all they see of it, a permit comes only from an
open semaphore that has one, and a permit that is added is free. A waiting
acquire is a caller that tries again.
-/

namespace Subconscious.Semaphores

/-- The operations of a semaphore and the laws its users rely on. -/
class Semaphore (S : Type) where
  /-- An open semaphore with the given permits. -/
  new : Nat → S
  /-- The free permits. -/
  permits : S → Nat
  /-- No permit will be handed out again. -/
  closed : S → Bool
  /-- Take one permit, or nothing. -/
  tryAcquire : S → Option S
  /-- Free that many permits more. -/
  addPermits : S → Nat → S
  /-- Hand out nothing from now on. -/
  close : S → S
  ext : ∀ {s s'}, permits s = permits s' → closed s = closed s' → s = s'
  permits_new : ∀ n, permits (new n) = n
  closed_new : ∀ n, closed (new n) = false
  /-- A permit comes only from an open semaphore that has one. -/
  of_tryAcquire : ∀ {s s'}, tryAcquire s = some s' →
    closed s = false ∧ closed s' = false ∧ permits s = permits s' + 1
  permits_addPermits : ∀ s n, permits (addPermits s n) = permits s + n
  closed_addPermits : ∀ s n, closed (addPermits s n) = closed s
  closed_close : ∀ s, closed (close s) = true

attribute [simp] Semaphore.permits_new Semaphore.closed_new Semaphore.permits_addPermits
  Semaphore.closed_addPermits Semaphore.closed_close

/-- A permit that was taken and goes back leaves no trace. -/
theorem addPermits_of_tryAcquire [Semaphore S] {s s' : S}
    (h : Semaphore.tryAcquire s = some s') : Semaphore.addPermits s' 1 = s := by
  obtain ⟨hclosed, hclosed', hpermits⟩ := Semaphore.of_tryAcquire h
  refine Semaphore.ext ?_ ?_
  · rw [Semaphore.permits_addPermits, hpermits]
  · rw [Semaphore.closed_addPermits, hclosed', hclosed]

/-- The semaphore that is no more than its free permits and whether it is closed. -/
@[ext] structure Counter where
  permits : Nat
  closed : Bool
  deriving DecidableEq, Repr

instance : Semaphore Counter where
  new permits := ⟨permits, false⟩
  permits := Counter.permits
  closed := Counter.closed
  tryAcquire s := if s.closed || s.permits = 0 then none else some { s with permits := s.permits - 1 }
  addPermits s n := { s with permits := s.permits + n }
  close s := { s with closed := true }
  ext hpermits hclosed := Counter.ext hpermits hclosed
  permits_new _ := rfl
  closed_new _ := rfl
  of_tryAcquire := by
    intro s s' h
    split at h
    case isTrue => cases h
    case isFalse hfree =>
      cases h
      rw [Bool.or_eq_true, decide_eq_true_iff, not_or, Bool.not_eq_true] at hfree
      exact ⟨hfree.1, hfree.1, (Nat.succ_pred_eq_of_ne_zero hfree.2).symm⟩
  permits_addPermits _ _ := rfl
  closed_addPermits _ _ := rfl
  closed_close _ := rfl

end Subconscious.Semaphores
