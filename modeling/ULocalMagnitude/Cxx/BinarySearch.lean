import Mathlib.Order.Basic
import Mathlib.Tactic.Common

/-!
# Binary search

`std::lower_bound` and `std::upper_bound` halve a range of positions by a test on
the element in its middle.  What the search guarantees without any assumption on
the test is local: the position before the result passes the test, the position
at the result fails it.  On a partitioned range, which is what a sorted sequence
gives, that makes the result the partition point.
-/

namespace ULocalMagnitude
namespace Cxx

/-- The loop of `std::lower_bound` on the `length` positions from `first`.  Each
round at least halves the length, so `fuel` rounds suffice for that many
positions. -/
def searchPosition (test : Nat → Bool) : (fuel first length : Nat) → Nat
  | 0, first, _ => first
  | fuel + 1, first, length =>
      if length = 0 then first
      else
        let half := length / 2
        let middle := first + half
        if test middle then searchPosition test fuel (middle + 1) (length - half - 1)
        else searchPosition test fuel first half

/-- The position a binary search over the first `n` positions returns. -/
def partitionPosition (test : Nat → Bool) (n : Nat) : Nat := searchPosition test n 0 n

/-- The loop invariant: the tests on both sides of the remaining range are known. -/
structure SearchInvariant (test : Nat → Bool) (n first length : Nat) : Prop where
  le : first + length ≤ n
  before : 0 < first → test (first - 1) = true
  after : first + length < n → test (first + length) = false

theorem searchPosition_invariant {test : Nat → Bool} {n fuel first length : Nat}
    (hfuel : length ≤ fuel) (h : SearchInvariant test n first length) :
    SearchInvariant test n (searchPosition test fuel first length) 0 := by
  induction fuel generalizing first length with
  | zero =>
      obtain rfl : length = 0 := by omega
      exact h
  | succ fuel ih =>
      by_cases hlength : length = 0
      · subst hlength
        simpa [searchPosition] using h
      · simp only [searchPosition, hlength, if_false]
        cases hmiddle : test (first + length / 2) with
        | true =>
            refine ih (by omega) ⟨by have := h.le; omega, fun _ => hmiddle, ?_⟩
            intro hlt
            have hend : first + length / 2 + 1 + (length - length / 2 - 1) =
                first + length := by omega
            rw [hend] at hlt ⊢
            exact h.after hlt
        | false =>
            exact ih (by omega) ⟨by have := h.le; omega, h.before, fun _ => hmiddle⟩

theorem partitionPosition_invariant (test : Nat → Bool) (n : Nat) :
    SearchInvariant test n (partitionPosition test n) 0 :=
  searchPosition_invariant (Nat.le_refl n) ⟨by omega, by omega, by omega⟩

theorem partitionPosition_le (test : Nat → Bool) (n : Nat) :
    partitionPosition test n ≤ n := (partitionPosition_invariant test n).le

/-- The position before the result passes the test. -/
theorem test_before_partitionPosition {test : Nat → Bool} {n : Nat}
    (h : 0 < partitionPosition test n) : test (partitionPosition test n - 1) = true :=
  (partitionPosition_invariant test n).before h

/-- The position at the result fails the test. -/
theorem test_at_partitionPosition {test : Nat → Bool} {n : Nat}
    (h : partitionPosition test n < n) : test (partitionPosition test n) = false :=
  (partitionPosition_invariant test n).after h

end Cxx
end ULocalMagnitude
