import FleetCompliance.Evaluation.Engine
import Mathlib.Algebra.BigOperators.Group.List.Basic
import Mathlib.Algebra.Order.Ring.Nat

/-!
# Tallies and their verdicts

A total is lost at the first addition that leaves the words, and is not found
again. So it seems to depend on where a sum stands at each of its steps. But
words are not negative, and a sum that has left them does not come back: the
total is lost exactly if the sum of all numbers is too large for a word
(`Total.foldl_plus`), whatever the order and the steps of the additions.

A tally has a verdict if it has a total, and the verdict says no more than
the tally (`Verdict.counted?_eq_some_iff`). An evaluation comes to a verdict
in this way only (`conclude_eq_ok_iff`), and there are two ways for it to come
to none.
-/

namespace FleetCompliance

/-! ## Steps that may fail -/

/-- A step gives a result if what it begins with does, and what goes on from there. -/
theorem bind_eq_ok_iff {ε α β : Type} {x : Except ε α} {f : α → Except ε β} {b : β} :
    x >>= f = .ok b ↔ ∃ a, x = .ok a ∧ f a = .ok b := by
  cases x with
  | error fault => exact iff_of_false (fun h => nomatch h) fun ⟨_, h, _⟩ => nomatch h
  | ok a =>
    refine ⟨fun h => ⟨a, rfl, h⟩, ?_⟩
    rintro ⟨a', ha, h⟩
    obtain rfl := Except.ok.inj ha
    exact h

/-- A step after which nothing can fail has the fault of what it begins with. -/
theorem bind_pure_eq_error_iff {ε α β : Type} {x : Except ε α} {f : α → β} {fault : ε} :
    (do return f (← x)) = Except.error fault ↔ x = .error fault := by
  cases x with
  | error cause =>
    exact Iff.intro (fun h => congrArg _ (Except.error.inj h))
      (fun h => congrArg _ (Except.error.inj h))
  | ok a => exact Iff.intro (fun h => nomatch h) (fun h => nomatch h)

/-! ## Totals -/

namespace Total

variable {n : ℕ} {x : UInt64}

/-- A number that is small enough for a word has a total. -/
theorem ofNat_of_lt (h : n < 2 ^ 64) : ofNat n = some (UInt64.ofNat n) := if_pos h

/-- **A total is the word of its number.** -/
theorem ofNat_eq_some_iff : ofNat n = some x ↔ x.toNat = n := by
  unfold ofNat
  constructor
  · intro h
    obtain ⟨hlt, hx⟩ := Option.ite_none_right_eq_some.mp h
    rw [← Option.some.inj hx]
    exact UInt64.toNat_ofNat_of_lt' hlt
  · rintro rfl
    rw [if_pos x.toNat_lt, UInt64.ofNat_toNat]

/-- **There is none if the number is too large for a word.** -/
theorem ofNat_eq_none_iff : ofNat n = none ↔ 2 ^ 64 ≤ n := by
  rw [ofNat, ite_eq_right_iff, ← Nat.not_lt]
  exact ⟨fun h hlt => Option.some_ne_none _ (h hlt), fun h hlt => absurd hlt h⟩

/-- **A word is added to the number of a total.** If there was no total before
there is none after. -/
theorem ofNat_plus (n : ℕ) (x : UInt64) : (ofNat n).plus x = ofNat (n + x.toNat) := by
  unfold plus
  by_cases hn : n < 2 ^ 64
  · rw [ofNat_of_lt hn, Option.bind_some, UInt64.toNat_ofNat_of_lt' hn]
  · have hle : 2 ^ 64 ≤ n := Nat.not_lt.mp hn
    rw [ofNat_eq_none_iff.mpr hle, Option.bind_none,
      ofNat_eq_none_iff.mpr (hle.trans (Nat.le_add_right _ _))]

/-- A number that is added as a word is added itself, if it fits into one. -/
theorem ofNat_plus_ofNat {m : ℕ} (h : m < 2 ^ 64) :
    (ofNat n).plus (UInt64.ofNat m) = ofNat (n + m) := by
  rw [ofNat_plus, UInt64.toNat_ofNat_of_lt' h]

/-- The total is there if the sum fits. -/
theorem ofNat_plus_ofNat_of_lt {m : ℕ} (h : n + m < 2 ^ 64) :
    (ofNat n).plus (UInt64.ofNat m) = some (UInt64.ofNat (n + m)) := by
  rw [ofNat_plus_ofNat (lt_of_le_of_lt (Nat.le_add_left _ _) h), ofNat_of_lt h]

/-- **Words added one after the other** make the total of the sum of their
numbers. -/
theorem foldl_plus (n : ℕ) (xs : List UInt64) :
    xs.foldl plus (ofNat n) = ofNat (n + (xs.map UInt64.toNat).sum) := by
  induction xs generalizing n with
  | nil => rfl
  | cons x xs ih =>
    rw [List.foldl_cons, ofNat_plus, ih, List.map_cons, List.sum_cons, Nat.add_assoc]

end Total

/-! ## Verdicts of tallies -/

/-- **A tally has a verdict** if it is the tally of that verdict. -/
theorem Verdict.counted?_eq_some_iff {t : Tally} {v : Verdict UInt64} :
    t.counted? = some v ↔ t = v.tally := by
  unfold counted?
  rw [Option.map_eq_some_iff]
  constructor
  · rintro ⟨n, hn, rfl⟩
    rw [tally, ← hn]
  · rintro rfl
    exact ⟨v.violations, rfl, rfl⟩

/-- It has none if it has no total. -/
theorem Verdict.counted?_eq_none_iff {t : Tally} : t.counted? = none ↔ t.violations = none :=
  Option.map_eq_none_iff

section Conclusions

variable {Fault : Type} {refused : EngineFault → Fault} {overflow : Fault}
  {outcome : Except EngineFault Tally}

/-- **An evaluation comes to a verdict** if it leaves the tally of that
verdict. -/
theorem conclude_eq_ok_iff {v : Verdict UInt64} :
    conclude refused overflow outcome = .ok v ↔ outcome = .ok v.tally := by
  cases outcome with
  | error fault => exact Iff.intro (fun h => nomatch h) (fun h => nomatch h)
  | ok t =>
    rw [Except.ok.injEq, ← Verdict.counted?_eq_some_iff, conclude]
    cases t.counted? <;> simp

/-- **It comes to a fault** if it is refused, or leaves a tally without a
total. -/
theorem conclude_eq_error_iff {fault : Fault} :
    conclude refused overflow outcome = .error fault
      ↔ (∃ cause, outcome = .error cause ∧ refused cause = fault)
        ∨ ∃ t : Tally, outcome = .ok t ∧ t.violations = none ∧ overflow = fault := by
  cases outcome with
  | error cause => simp [conclude]
  | ok t =>
    simp only [reduceCtorEq, false_and, exists_false, false_or, Except.ok.injEq,
      ← Verdict.counted?_eq_none_iff, conclude]
    cases ht : t.counted? <;> simp [ht]

end Conclusions

end FleetCompliance
