import ULocalMagnitude.Cxx.Exceptions
import Mathlib.Algebra.Order.Ring.Int

/-!
# Signed integers

An operation on `int64_t` whose result leaves the 64 bits has no meaning, and neither has
the conversion of a floating-point number that is out of range.  Each of these operations
is the one on unbounded integers under `int64`, which says whether the result is there.

From a start, something that goes on for a length ends at a number that is there exactly
when there is `room` for the length.
-/

namespace ULocalMagnitude
namespace Cxx

variable {α : Type}

/-- The number is one of type `int64_t`. -/
def InInt64 (z : Int) : Prop := -2 ^ 63 ≤ z ∧ z < 2 ^ 63

instance : DecidablePred InInt64 := fun z =>
  inferInstanceAs (Decidable (-2 ^ 63 ≤ z ∧ z < 2 ^ 63))

/-- The result of an operation on `int64_t`, or of a conversion to it. -/
def int64 (z : Int) : Throws Int :=
  if InInt64 z then .ok z else .error .undefinedBehavior

/-- `std::numeric_limits<int64_t>::max()` -/
def greatestInt64 : Int := 2 ^ 63 - 1

theorem inInt64_toInt (x : Int64) : InInt64 x.toInt := ⟨x.le_toInt, x.toInt_lt⟩

theorem int64_bind_eq_ok {z : Int} {f : Int → Throws α} {a : α} :
    (int64 z >>= f) = .ok a ↔ InInt64 z ∧ f z = .ok a := by
  unfold int64
  by_cases h : InInt64 z
  · simp [h]
  · simp [h]

/-- An operation is undefined or has its result. -/
theorem int64_bind_cases (z : Int) (f : Int → Throws α) :
    (int64 z >>= f) = .error .undefinedBehavior ∨ (int64 z >>= f) = f z := by
  unfold int64
  by_cases h : InInt64 z
  · exact Or.inr (by rw [if_pos h, bind_ok])
  · exact Or.inl (by rw [if_neg h, bind_error])

theorem inInt64_iff_of_nonneg {z : Int} (h : 0 ≤ z) : InInt64 z ↔ z ≤ greatestInt64 := by
  unfold InInt64 greatestInt64
  omega

/-! ## Room behind a start -/

/-- How far it is from the start, or from zero if that is later, to the greatest number. -/
def room (start : Int) : Int := greatestInt64 - max 0 start

theorem room_nonneg {start : Int} (h : InInt64 start) : 0 ≤ room start := by
  unfold InInt64 at h
  unfold room greatestInt64
  omega

/-- A length and the end that it leads to are there when there is room for it. -/
theorem inInt64_add_iff {start length : Int} (hstart : InInt64 start) (hlength : 0 ≤ length) :
    InInt64 length ∧ InInt64 (start + length) ↔ length ≤ room start := by
  unfold InInt64 at *
  unfold room greatestInt64
  omega

end Cxx
end ULocalMagnitude
