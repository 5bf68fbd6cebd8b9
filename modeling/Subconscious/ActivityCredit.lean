import Mathlib.Order.Nat
import Subconscious.ActivityNumbers

/-!
# The rate credit of activity entries

A module may append sixty ordinary entries at once, and one more for each 100 ms
that pass. Its credit is refilled when an ordinary entry looks at it, and charged
once the line is written. Entries about the daemon's lifecycle neither refill the
credit nor pay; the first entry of a module sets its clock, whatever it is about.
-/

namespace Subconscious.ActivityCredit

open ActivityNumbers

/-- The credit of one module. -/
structure Bucket where
  creditMs : Nat
  updatedMs : Nat
  deriving DecidableEq, Repr

/-- The sum saturates in the source, which the cap hides. -/
def Bucket.available (bucket : Bucket) (now : Nat) : Bool × Bucket :=
  let creditMs := min (bucket.creditMs + (now - bucket.updatedMs)) 6000
  (100 ≤ creditMs, ⟨creditMs, max bucket.updatedMs now⟩)

/-- Why an append fails. -/
inductive ActivityError where
  | invalid (code : String)
  | unavailable
  | rateLimited
  deriving DecidableEq, Repr

/-- An entry of the module, with what `validate` finds wrong in it, the clock its
append reads and how its write ends. -/
structure Append where
  lifecycle : Bool
  invalid : Option String := none
  now : Nat
  write : Write := .written
  deriving DecidableEq, Repr

/-- The writer as one module sees it. Beside its bucket stand the largest clock
reading of its entries, the largest one among its first and its ordinary entries,
and the number of ordinary entries it appended. -/
structure Writer where
  ledger : Ledger
  bucket : Option Bucket := none
  largest : Nat := 0
  limited : Nat := 0
  appended : Nat := 0
  deriving DecidableEq, Repr

/-- The answer of an append is the number of its entry. -/
def Writer.append (writer : Writer) (entry : Append) : Except ActivityError Nat × Writer :=
  match entry.lifecycle, entry.invalid with
  | false, some code => (.error (.invalid code), writer)
  | lifecycle, _ =>
    if writer.ledger.sink = false ∨ writer.ledger.nextSeq = u64Max then
      (.error .unavailable, writer)
    else
      let bucket := writer.bucket.getD ⟨6000, entry.now⟩
      let (available, bucket) := if lifecycle then (true, bucket) else bucket.available entry.now
      let limited :=
        if lifecycle ∧ writer.bucket.isSome then writer.limited
        else max writer.limited entry.now
      let writer :=
        { writer with bucket := some bucket, largest := max writer.largest entry.now, limited }
      if available = false then (.error .rateLimited, writer)
      else
        let ledger := ActivityNumbers.append writer.ledger entry.write
        match entry.write with
        | .failed _ => (.error .unavailable, { writer with ledger })
        | .written =>
          (.ok writer.ledger.nextSeq,
            if lifecycle then { writer with ledger }
            else
              { writer with
                ledger
                bucket := some { bucket with creditMs := bucket.creditMs - 100 }
                appended := writer.appended + 1 })

/-- What happens to the writer. -/
inductive Event where
  | append (entry : Append)
  | configure (config : ActivityConfig) (opened : Bool)
  deriving DecidableEq, Repr

/-- One event. -/
def Writer.step (writer : Writer) : Event → Writer
  | .append entry => (writer.append entry).2
  | .configure config opened =>
    { writer with ledger := configure writer.ledger config opened }

/-- The writer after some events. -/
def run (ledger : Ledger) (events : List Event) : Writer :=
  events.foldl Writer.step { ledger }

/-- The credit of the module, without what the next look at it adds. -/
def Writer.credit (writer : Writer) : Nat := (writer.bucket.map Bucket.creditMs).getD 6000

/-- What the module spent since a start is covered by its first sixty entries and
by the time its credit has seen. -/
structure Charged (start now : Writer) : Prop where
  fresh : now.bucket = none → now.limited = 0
  updated : ∀ bucket, now.bucket = some bucket → bucket.updatedMs = now.limited
  capped : now.credit ≤ 6000
  spent : 100 * now.appended + now.credit + start.limited ≤
    100 * start.appended + 6000 + now.limited

/-- The bucket is replaced, and what was taken from it is counted. -/
theorem Charged.replaced (h : Charged start now) (hbucket : now'.bucket = some bucket)
    (hupdated : bucket.updatedMs = now'.limited) (hcapped : bucket.creditMs ≤ 6000)
    (hspent : 100 * now'.appended + bucket.creditMs + now.limited ≤
      100 * now.appended + now.credit + now'.limited) : Charged start now' := by
  have hcredit : now'.credit = bucket.creditMs := by simp [Writer.credit, hbucket]
  have hstart := h.spent
  refine ⟨?_, ?_, ?_, ?_⟩
  · simp [hbucket]
  · simp [hbucket, hupdated]
  · rw [hcredit]
    exact hcapped
  · omega

/-- The bucket an entry finds, and what a look at it adds. -/
structure Found (now : Writer) (clock : Nat) (bucket : Bucket) : Prop where
  credit : bucket.creditMs = now.credit
  updated : bucket.updatedMs = if now.bucket.isSome then now.limited else max now.limited clock
  seen : (bucket.available clock).2.updatedMs = max now.limited clock
  kept : now.credit ≤ (bucket.available clock).2.creditMs
  gained : (bucket.available clock).2.creditMs + now.limited ≤ now.credit + max now.limited clock

theorem Charged.found (h : Charged start now) (clock : Nat) :
    Found now clock (now.bucket.getD ⟨6000, clock⟩) := by
  have hcapped := h.capped
  unfold Writer.credit at hcapped
  cases hbucket : now.bucket with
  | none =>
    have hlimited := h.fresh hbucket
    constructor
    all_goals simp [Bucket.available, Writer.credit, hbucket, hlimited]
  | some bucket =>
    have hupdated := h.updated bucket hbucket
    rw [hbucket, Option.map_some, Option.getD_some] at hcapped
    constructor
    all_goals simp [Bucket.available, Writer.credit, hbucket, hupdated]
    all_goals omega

/-- One append, by how it ends. -/
theorem Charged.append (h : Charged start now) (entry : Append) :
    Charged start (now.append entry).2 ∧
      ((now.append entry).1.isOk = false → now.credit ≤ (now.append entry).2.credit) ∧
      ((now.append entry).1 = .error .rateLimited → (now.append entry).2.credit < 100) := by
  have hcapped := h.capped
  have hfound := h.found entry.now
  unfold Writer.append
  generalize now.bucket.getD ⟨6000, entry.now⟩ = bucket at hfound ⊢
  obtain ⟨hcredit, hupdated, hseen, hkept, hgained⟩ := hfound
  have hfilled : (bucket.available entry.now).2.creditMs ≤ 6000 := Nat.min_le_right _ _
  split
  case h_1 => exact ⟨h, fun _ => Nat.le_refl _, nofun⟩
  case h_2 =>
    split
    case isTrue => exact ⟨h, fun _ => Nat.le_refl _, nofun⟩
    case isFalse =>
      cases entry.lifecycle with
      | true =>
        have hlater : now.limited ≤ bucket.updatedMs := by
          rw [hupdated]
          split <;> omega
        simp only [if_true, true_and, Bool.true_eq_false, if_false]
        cases entry.write with
        | failed | written =>
          refine ⟨h.replaced rfl hupdated (hcredit.trans_le hcapped) ?_, ?_, nofun⟩
          · dsimp only
            omega
          · exact fun _ => hcredit.ge
      | false =>
        simp only [Bool.false_eq_true, if_false, false_and]
        split
        case isTrue hrate =>
          refine ⟨h.replaced rfl hseen hfilled ?_, fun _ => hkept, fun _ => ?_⟩
          · dsimp only
            omega
          · exact Nat.lt_of_not_le (of_decide_eq_false hrate)
        case isFalse hrate =>
          have hpays : 100 ≤ (bucket.available entry.now).2.creditMs :=
            of_decide_eq_true (eq_true_of_ne_false hrate)
          cases entry.write with
          | failed =>
            refine ⟨h.replaced rfl hseen hfilled ?_, fun _ => hkept, nofun⟩
            dsimp only
            omega
          | written =>
            refine ⟨h.replaced rfl hseen ((Nat.sub_le _ _).trans hfilled) ?_, nofun, nofun⟩
            dsimp only
            omega

theorem Charged.run (h : Charged start now) (events : List Event) :
    Charged start (events.foldl Writer.step now) := by
  refine List.foldlRecOn (motive := Charged start) events _ h ?_
  intro now h event _
  cases event with
  | append entry => exact (h.append entry).1
  | configure => exact ⟨h.fresh, h.updated, h.capped, h.spent⟩

/-- Between two points of a run the module appends at most sixty ordinary entries,
and one for each 100 ms between the largest clock readings of its first and its
ordinary entries. An append that fails takes nothing from the credit, and the limit
refuses an entry only when less than 100 ms are left. -/
theorem appended_within_credit (ledger : Ledger) (first second : List Event) :
    (run ledger (first ++ second)).appended ≤ (run ledger first).appended + 60 +
        ((run ledger (first ++ second)).limited - (run ledger first).limited) / 100 ∧
      ∀ entry, ((run ledger first).append entry).1.isOk = false →
        (run ledger first).credit ≤ ((run ledger first).append entry).2.credit ∧
          (((run ledger first).append entry).1 = .error .rateLimited →
            ((run ledger first).append entry).2.credit < 100) := by
  have hfirst : Charged { ledger } (run ledger first) :=
    Charged.run ⟨fun _ => rfl, by simp, Nat.le_refl _, Nat.le_refl _⟩ first
  refine ⟨?_, fun entry hfailed => ?_⟩
  · have hstart : Charged (run ledger first) (run ledger first) := by
      refine ⟨hfirst.fresh, hfirst.updated, hfirst.capped, ?_⟩
      have hcapped := hfirst.capped
      omega
    have hspent := (hstart.run second).spent
    unfold ActivityCredit.run at hspent ⊢
    rw [List.foldl_append]
    omega
  · obtain ⟨-, hkept, hrate⟩ := hfirst.append entry
    exact ⟨hkept hfailed, hrate⟩

/-- A lifecycle entry reads a late clock, which then steps back: the largest reading
stays, and the credit is refilled below it. -/
theorem lifecycle_reading_uncounted :
    let first := [.append ⟨false, none, 0, .written⟩, .append ⟨true, none, 9000, .written⟩]
    let second := List.replicate 59 (.append ⟨false, none, 0, .written⟩) ++
      List.replicate 2 (.append ⟨false, none, 200, .written⟩)
    (run { sink := true } (first ++ second)).largest = (run { sink := true } first).largest ∧
      (run { sink := true } first).appended + 60 <
        (run { sink := true } (first ++ second)).appended := by
  decide +kernel

end Subconscious.ActivityCredit
