import Mathlib.Algebra.Order.Floor.Ring
import Mathlib.Algebra.Order.Field.Basic
import Mathlib.Data.List.Sort
import Mathlib.Data.Rat.Floor
import Mathlib.Tactic.Linarith
import Mathlib.Tactic.Ring
import Mathlib.Tactic.NormNum

/-!
# Doubles

A `double` is a number, a NaN or one of the two infinities.  The numbers are
those of any ordered field `F` with a floor, and the two zeros are one.  The special
values follow IEEE 754: a comparison with a NaN is false, an invalid operation
gives a NaN.

What the standard leaves to the implementation are the operations of `Arithmetic`: how the
result of an operation is rounded, where it overflows to an infinity, the functions of
`<cmath>` that have no exact definition over a field, and the order in which `std::sort`
leaves what its comparison does not tell apart.  In `ExactArithmetic` nothing is rounded.
At `ℚ` every definition of this development evaluates; at `ℝ` the logarithm and the
Euclidean norm are the real ones.
-/

namespace ULocalMagnitude
namespace Cxx

/-- The values of type `double`. -/
inductive Double (F : Type) where
  | finite (x : F)
  | nan
  | posInf
  | negInf
deriving DecidableEq, Repr

namespace Double

variable {F : Type}

/-- `std::isfinite` -/
def isFinite : Double F → Bool
  | finite _ => true
  | _ => false

/-- The number a finite double is. -/
def val [Zero F] : Double F → F
  | finite x => x
  | _ => 0

@[simp] theorem isFinite_finite (x : F) : (finite x).isFinite = true := rfl

@[simp] theorem val_finite [Zero F] (x : F) : (finite x).val = x := rfl

theorem exists_finite {d : Double F} (h : d.isFinite = true) : ∃ x, d = finite x := by
  cases d with
  | finite x => exact ⟨x, rfl⟩
  | nan => simp [isFinite] at h
  | posInf => simp [isFinite] at h
  | negInf => simp [isFinite] at h

section Comparison

variable [LinearOrder F]

/-! ## Comparison -/

/-- `a < b` -/
def Lt : Double F → Double F → Prop
  | finite x, finite y => x < y
  | finite _, posInf => True
  | negInf, finite _ => True
  | negInf, posInf => True
  | _, _ => False

/-- `a <= b` -/
def Le : Double F → Double F → Prop
  | finite x, finite y => x ≤ y
  | finite _, posInf => True
  | posInf, posInf => True
  | negInf, finite _ => True
  | negInf, posInf => True
  | negInf, negInf => True
  | _, _ => False

instance : LT (Double F) := ⟨Lt⟩

instance : LE (Double F) := ⟨Le⟩

instance decidableLt (a b : Double F) : Decidable (a < b) :=
  match a, b with
  | finite x, finite y => inferInstanceAs (Decidable (x < y))
  | finite _, posInf => isTrue trivial
  | negInf, finite _ => isTrue trivial
  | negInf, posInf => isTrue trivial
  | finite _, nan => isFalse id
  | finite _, negInf => isFalse id
  | nan, finite _ => isFalse id
  | nan, nan => isFalse id
  | nan, posInf => isFalse id
  | nan, negInf => isFalse id
  | posInf, finite _ => isFalse id
  | posInf, nan => isFalse id
  | posInf, posInf => isFalse id
  | posInf, negInf => isFalse id
  | negInf, nan => isFalse id
  | negInf, negInf => isFalse id

instance decidableLe (a b : Double F) : Decidable (a ≤ b) :=
  match a, b with
  | finite x, finite y => inferInstanceAs (Decidable (x ≤ y))
  | finite _, posInf => isTrue trivial
  | posInf, posInf => isTrue trivial
  | negInf, finite _ => isTrue trivial
  | negInf, posInf => isTrue trivial
  | negInf, negInf => isTrue trivial
  | finite _, nan => isFalse id
  | finite _, negInf => isFalse id
  | nan, finite _ => isFalse id
  | nan, nan => isFalse id
  | nan, posInf => isFalse id
  | nan, negInf => isFalse id
  | posInf, finite _ => isFalse id
  | posInf, nan => isFalse id
  | posInf, negInf => isFalse id
  | negInf, nan => isFalse id

@[simp] theorem finite_lt_finite {x y : F} : finite x < finite y ↔ x < y := Iff.rfl

@[simp] theorem finite_le_finite {x y : F} : finite x ≤ finite y ↔ x ≤ y := Iff.rfl

@[simp] theorem not_lt_nan (a : Double F) : ¬ a < nan := by
  cases a with
  | finite x => exact id
  | nan => exact id
  | posInf => exact id
  | negInf => exact id

@[simp] theorem not_nan_lt (a : Double F) : ¬ nan < a := by
  cases a with
  | finite x => exact id
  | nan => exact id
  | posInf => exact id
  | negInf => exact id

/-- What is below something is not above it. -/
theorem not_lt_of_le {a b : Double F} (h : a ≤ b) : ¬ b < a := by
  cases a with
  | finite x =>
      cases b with
      | finite y => exact fun hlt => not_lt.mpr (finite_le_finite.mp h) (finite_lt_finite.mp hlt)
      | nan => exact not_nan_lt _
      | posInf => exact id
      | negInf => exact h.elim
  | nan => exact not_lt_nan b
  | posInf => cases b <;> first | exact id | exact h.elim
  | negInf => cases b <;> exact id

/-- What lies between two numbers is a number. -/
theorem exists_finite_of_bounds {d : Double F} {x y : F} (hx : finite x ≤ d)
    (hy : d ≤ finite y) : ∃ z, d = finite z := by
  cases d with
  | finite z => exact ⟨z, rfl⟩
  | nan => exact hx.elim
  | posInf => exact hy.elim
  | negInf => exact hx.elim

theorem le_of_lt {a b : Double F} (h : a < b) : a ≤ b := by
  cases a with
  | finite x =>
      cases b with
      | finite y => exact (finite_lt_finite.mp h).le
      | nan => exact h.elim
      | posInf => trivial
      | negInf => exact h.elim
  | nan => exact absurd h (not_nan_lt b)
  | posInf => cases b <;> exact h.elim
  | negInf =>
      cases b with
      | finite y => trivial
      | nan => exact h.elim
      | posInf => trivial
      | negInf => exact h.elim

/-! ## Sorting -/

/-- `<` on the first entries is a strict weak ordering of the rows, as `std::sort` requires:
there is no NaN, or no two of them compare. -/
def IsOrdered (rows : List (Double F × Double F)) : Prop :=
  (∀ row ∈ rows, row.1 ≠ nan) ∨ ∀ a ∈ rows, ∀ b ∈ rows, ¬ a.1 < b.1

instance (rows : List (Double F × Double F)) : Decidable (IsOrdered rows) :=
  inferInstanceAs (Decidable (_ ∨ _))

/-- The first entry of `a` is a NaN, or neither is one and that of `b` is not smaller. -/
def RowLe (a b : Double F × Double F) : Prop := a.1 = nan ∨ b.1 ≠ nan ∧ ¬ b.1 < a.1

instance decidableRowLe (a b : Double F × Double F) : Decidable (RowLe a b) :=
  inferInstanceAs (Decidable (_ ∨ _))

theorem not_lt_trans {a b c : Double F} (hb : b ≠ nan) (hab : ¬ b < a) (hbc : ¬ c < b) :
    ¬ c < a := by
  intro hca
  cases b with
  | nan => exact hb rfl
  | finite y =>
      cases a with
      | finite x =>
          cases c with
          | finite z =>
              exact absurd (finite_lt_finite.mp hca)
                (not_lt.mpr ((not_lt.mp hab).trans (not_lt.mp hbc)))
          | nan => exact hca
          | posInf => exact hca
          | negInf => exact hbc trivial
      | nan => exact not_lt_nan c hca
      | posInf => exact hab trivial
      | negInf => cases c <;> exact hca
  | posInf =>
      cases a with
      | finite x =>
          cases c with
          | finite z => exact hbc trivial
          | nan => exact hca
          | posInf => exact hca
          | negInf => exact hbc trivial
      | nan => exact not_lt_nan c hca
      | posInf => exact hbc hca
      | negInf => cases c <;> exact hca
  | negInf =>
      cases a with
      | finite x => exact hab trivial
      | nan => exact not_lt_nan c hca
      | posInf => exact hab trivial
      | negInf => cases c <;> exact hca

theorem rowLe_total (a b : Double F × Double F) : RowLe a b ∨ RowLe b a := by
  by_cases ha : a.1 = nan
  · exact Or.inl (Or.inl ha)
  by_cases hb : b.1 = nan
  · exact Or.inr (Or.inl hb)
  by_cases hlt : b.1 < a.1
  · exact Or.inr (Or.inr ⟨ha, not_lt_of_le (le_of_lt hlt)⟩)
  · exact Or.inl (Or.inr ⟨hb, hlt⟩)

theorem rowLe_trans {a b c : Double F × Double F} (hab : RowLe a b) (hbc : RowLe b c) :
    RowLe a c := by
  rcases hab with ha | ⟨hb, hab⟩
  · exact Or.inl ha
  · rcases hbc with hb' | ⟨hc, hbc⟩
    · exact absurd hb' hb
    · exact Or.inr ⟨hc, not_lt_trans hb hab hbc⟩

/-- One of the sorting algorithms: it keeps the order of what it cannot tell apart. -/
def stableSort (rows : List (Double F × Double F)) : List (Double F × Double F) :=
  rows.insertionSort RowLe

theorem stableSort_perm (rows : List (Double F × Double F)) :
    (stableSort rows).Perm rows := List.perm_insertionSort _ _

theorem stableSort_sorted {rows : List (Double F × Double F)} (h : IsOrdered rows) :
    (stableSort rows).Pairwise fun a b => ¬ b.1 < a.1 := by
  have htotal : Std.Total (RowLe : Double F × Double F → _) := ⟨rowLe_total⟩
  have htrans : IsTrans (Double F × Double F) RowLe := ⟨fun _ _ _ => rowLe_trans⟩
  have hsorted : (stableSort rows).Pairwise RowLe := List.pairwise_insertionSort _ rows
  have hmem {row : Double F × Double F} (hrow : row ∈ stableSort rows) : row ∈ rows :=
    (stableSort_perm rows).mem_iff.mp hrow
  rcases h with hnumbers | hapart
  · refine hsorted.imp_of_mem fun ha _ hle => ?_
    rcases hle with hnan | ⟨-, hle⟩
    · exact absurd hnan (hnumbers _ (hmem ha))
    · exact hle
  · exact hsorted.imp_of_mem fun ha hb _ => hapart _ (hmem hb) _ (hmem ha)

end Comparison

end Double

/-! ## Arithmetic -/

/-- An ordered field with a floor, and what the implementation does with its numbers. -/
class Arithmetic (F : Type) extends
    Field F, LinearOrder F, IsStrictOrderedRing F, FloorRing F where
  /-- The double for the exact result of an operation; an infinity where it overflows. -/
  round : F → Double F
  round_mono : ∀ x y, x ≤ y → round x ≤ round y
  /-- Whole numbers with 53 bits are doubles. -/
  round_natCast : ∀ n : ℕ, n ≤ 2 ^ 53 → round n = .finite n
  /-- `std::log10` at the positive numbers -/
  log10 : F → F
  /-- `std::hypot` -/
  hypot : F → F → F
  hypot_nonneg : ∀ x y, 0 ≤ hypot x y
  /-- `std::sort` by the first entries -/
  sort : List (Double F × Double F) → List (Double F × Double F)
  sort_perm : ∀ rows, Double.IsOrdered rows → (sort rows).Perm rows
  sort_sorted : ∀ rows, Double.IsOrdered rows →
    (sort rows).Pairwise fun a b => ¬ b.1 < a.1

/-- No operation rounds or overflows. -/
class IsExact (F : Type) [Arithmetic F] : Prop where
  round_eq : ∀ x : F, Arithmetic.round x = .finite x

/-- Arithmetic without rounding and without overflow. -/
class ExactArithmetic (F : Type) extends Arithmetic F, IsExact F

/-! The literals that more than one module has in its definitions; with an instance of
its own a literal is one term everywhere. -/

instance atLeastTwo_two : Nat.AtLeastTwo 2 := ⟨le_rfl⟩

instance atLeastTwo_ten : Nat.AtLeastTwo 10 := ⟨by decide⟩

instance atLeastTwo_thousand : Nat.AtLeastTwo 1000 := ⟨by decide⟩

instance atLeastTwo_lowestDepth : Nat.AtLeastTwo 8600 := ⟨by decide⟩

instance atLeastTwo_lowestDatum : Nat.AtLeastTwo 10000 := ⟨by decide⟩

instance atLeastTwo_greatestDepth : Nat.AtLeastTwo 900000 := ⟨by decide⟩

namespace Double

variable {F : Type} [Arithmetic F]

/-- `-a` -/
def neg : Double F → Double F
  | finite x => finite (-x)
  | nan => nan
  | posInf => negInf
  | negInf => posInf

/-- `a + b` -/
def add : Double F → Double F → Double F
  | finite x, finite y => Arithmetic.round (x + y)
  | nan, _ => nan
  | _, nan => nan
  | posInf, negInf => nan
  | negInf, posInf => nan
  | posInf, _ => posInf
  | _, posInf => posInf
  | negInf, _ => negInf
  | _, negInf => negInf

instance : Neg (Double F) := ⟨neg⟩

instance : Add (Double F) := ⟨add⟩

/-- `a - b` -/
instance : Sub (Double F) := ⟨fun a b => a + -b⟩

/-- An infinity times a number of the given sign. -/
def scaledInf (negative : Bool) (y : F) : Double F :=
  if y = 0 then nan
  else if (decide (y < 0)) = negative then posInf
  else negInf

/-- `a * b` -/
def mul : Double F → Double F → Double F
  | finite x, finite y => Arithmetic.round (x * y)
  | nan, _ => nan
  | _, nan => nan
  | finite x, posInf => scaledInf false x
  | finite x, negInf => scaledInf true x
  | posInf, finite y => scaledInf false y
  | negInf, finite y => scaledInf true y
  | posInf, posInf => posInf
  | posInf, negInf => negInf
  | negInf, posInf => negInf
  | negInf, negInf => posInf

/-- `a / b`; a zero divisor counts as `+0`. -/
def div : Double F → Double F → Double F
  | finite x, finite y =>
      if y ≠ 0 then Arithmetic.round (x / y)
      else if x = 0 then nan
      else if 0 < x then posInf
      else negInf
  | nan, _ => nan
  | _, nan => nan
  | finite _, posInf => finite 0
  | finite _, negInf => finite 0
  | posInf, finite y => if y < 0 then negInf else posInf
  | negInf, finite y => if y < 0 then posInf else negInf
  | _, _ => nan

instance : Mul (Double F) := ⟨mul⟩

instance : Div (Double F) := ⟨div⟩

/-- `std::abs` -/
def abs : Double F → Double F
  | finite x => finite |x|
  | nan => nan
  | posInf => posInf
  | negInf => posInf

/-- `std::log10` -/
def log10 : Double F → Double F
  | finite x =>
      if 0 < x then Arithmetic.round (Arithmetic.log10 x)
      else if x = 0 then negInf
      else nan
  | nan => nan
  | posInf => posInf
  | negInf => nan

/-- `std::hypot` -/
def hypot : Double F → Double F → Double F
  | finite x, finite y => Arithmetic.round (Arithmetic.hypot x y)
  | posInf, _ => posInf
  | negInf, _ => posInf
  | _, posInf => posInf
  | _, negInf => posInf
  | nan, _ => nan
  | _, nan => nan

/-- The integer part, towards zero. -/
def trunc (x : F) : ℤ := if x < 0 then ⌈x⌉ else ⌊x⌋

/-- `std::fmod(a, m)` for a positive number `m` -/
def fmod (a : Double F) (m : F) : Double F :=
  match a with
  | finite x => finite (x - m * (trunc (x / m) : F))
  | _ => nan

@[simp] theorem neg_finite (x : F) : -finite x = finite (-x) := rfl

/-! ### Special values -/

/-- A sum that is a number has numbers for its terms. -/
theorem isFinite_of_add {a b : Double F} (h : (a + b).isFinite = true) :
    a.isFinite = true ∧ b.isFinite = true := by
  cases a <;> cases b <;> first | exact ⟨rfl, rfl⟩ | exact absurd h Bool.false_ne_true

theorem isFinite_neg (a : Double F) : (-a).isFinite = a.isFinite := by
  cases a <;> rfl

theorem isFinite_of_sub {a b : Double F} (h : (a - b).isFinite = true) :
    a.isFinite = true ∧ b.isFinite = true := by
  have hterms : a.isFinite = true ∧ (-b).isFinite = true := isFinite_of_add h
  rwa [isFinite_neg] at hterms

theorem scaledInf_not_isFinite (negative : Bool) (y : F) :
    (scaledInf negative y).isFinite = false := by
  unfold scaledInf
  split
  · rfl
  · split <;> rfl

/-- A product that is a number has numbers for its factors. -/
theorem isFinite_of_mul {a b : Double F} (h : (a * b).isFinite = true) :
    a.isFinite = true ∧ b.isFinite = true := by
  have hscaled (negative : Bool) (y : F) : (scaledInf negative y).isFinite ≠ true := by
    simp [scaledInf_not_isFinite]
  cases a <;> cases b <;> first
    | exact ⟨rfl, rfl⟩
    | exact absurd h Bool.false_ne_true
    | exact absurd h (hscaled _ _)

/-- Only a number can be divided with a number as the result. -/
theorem isFinite_of_div {a b : Double F} (h : (a / b).isFinite = true) :
    a.isFinite = true := by
  cases a with
  | finite x => rfl
  | nan => exact h
  | posInf =>
      cases b with
      | finite y =>
          have hdiv : (posInf / finite y : Double F) = if y < 0 then negInf else posInf := rfl
          rw [hdiv] at h
          split at h <;> exact h
      | nan => exact h
      | posInf => exact h
      | negInf => exact h
  | negInf =>
      cases b with
      | finite y =>
          have hdiv : (negInf / finite y : Double F) = if y < 0 then posInf else negInf := rfl
          rw [hdiv] at h
          split at h <;> exact h
      | nan => exact h
      | posInf => exact h
      | negInf => exact h

/-- Only a positive number has a number for its logarithm. -/
theorem pos_of_log10 {a : Double F} (h : (log10 a).isFinite = true) :
    ∃ x, a = finite x ∧ 0 < x := by
  cases a with
  | finite x =>
      refine ⟨x, rfl, ?_⟩
      by_contra hpos
      have hlog : log10 (finite x) = if x = 0 then negInf else nan := if_neg hpos
      rw [hlog] at h
      split at h <;> exact absurd h Bool.false_ne_true
  | nan => exact absurd h Bool.false_ne_true
  | posInf => exact absurd h Bool.false_ne_true
  | negInf => exact absurd h Bool.false_ne_true

theorem round_zero : Arithmetic.round (0 : F) = finite 0 := by
  have hround := Arithmetic.round_natCast (F := F) 0 (Nat.zero_le _)
  rwa [Nat.cast_zero] at hround

/-- Rounding does not change a sign. -/
theorem not_round_lt_zero {x : F} (h : 0 ≤ x) : ¬ Arithmetic.round x < finite 0 := by
  have hmono := Arithmetic.round_mono 0 x h
  rw [round_zero] at hmono
  exact not_lt_of_le hmono

theorem not_hypot_lt_zero (a b : Double F) : ¬ hypot a b < finite 0 := by
  cases a <;> cases b <;> first
    | exact not_round_lt_zero (Arithmetic.hypot_nonneg _ _)
    | exact id

theorem add_comm (a b : Double F) : a + b = b + a := by
  cases a <;> cases b <;>
    first | rfl | exact congrArg Arithmetic.round (by ring)

theorem mul_comm (a b : Double F) : a * b = b * a := by
  cases a <;> cases b <;>
    first | rfl | exact congrArg Arithmetic.round (by ring)

theorem posInf_mul_finite {y : F} (h : 0 < y) : (posInf * finite y : Double F) = posInf := by
  show scaledInf false y = posInf
  simp [scaledInf, h.ne', h.le]

theorem negInf_mul_finite {y : F} (h : 0 < y) : (negInf * finite y : Double F) = negInf := by
  show scaledInf true y = negInf
  simp [scaledInf, h.ne', h.le]

/-! ### Exact arithmetic -/

section Exact

variable [IsExact F]

@[simp] theorem finite_add_finite (x y : F) : finite x + finite y = finite (x + y) :=
  IsExact.round_eq (x + y)

@[simp] theorem finite_sub_finite (x y : F) : finite x - finite y = finite (x - y) :=
  (finite_add_finite x (-y)).trans (congrArg finite (sub_eq_add_neg x y).symm)

@[simp] theorem finite_mul_finite (x y : F) : finite x * finite y = finite (x * y) :=
  IsExact.round_eq (x * y)

theorem finite_div_finite (x : F) {y : F} (h : y ≠ 0) :
    finite x / finite y = finite (x / y) :=
  (if_pos h).trans (IsExact.round_eq (x / y))

theorem log10_finite {x : F} (h : 0 < x) :
    log10 (finite x) = finite (Arithmetic.log10 x) :=
  (if_pos h).trans (IsExact.round_eq (Arithmetic.log10 x))

@[simp] theorem hypot_finite (x y : F) :
    hypot (finite x) (finite y) = finite (Arithmetic.hypot x y) :=
  IsExact.round_eq (Arithmetic.hypot x y)

/-- A sum is a number exactly when both terms are. -/
theorem isFinite_add (a b : Double F) :
    (a + b).isFinite = (a.isFinite && b.isFinite) := by
  cases a <;> cases b <;> first | rfl | rw [finite_add_finite]; rfl

/-- A product is a number exactly when both factors are. -/
theorem isFinite_mul (a b : Double F) :
    (a * b).isFinite = (a.isFinite && b.isFinite) := by
  cases a <;> cases b <;> first
    | rfl
    | exact scaledInf_not_isFinite _ _
    | rw [finite_mul_finite]; rfl

theorem add_right_comm (a b c : Double F) : a + b + c = a + c + b := by
  have hround {x y : F} (z : Double F) (hz : ∀ w : F, finite w + z = z) :
      finite x + finite y + z = finite x + z + finite y := by
    rw [finite_add_finite, hz, hz, add_comm, hz]
  cases a <;> cases b <;> cases c <;> first
    | rfl
    | exact hround _ fun _ => rfl
    | exact (hround _ fun _ => rfl).symm
    | simp only [finite_add_finite]; exact congrArg finite (by ring)

/-- Dividing by one positive number and multiplying by another one is one
multiplication, also for the special values. -/
theorem div_mul_finite (a : Double F) {x y : F} (hx : 0 < x) (hy : 0 < y) :
    a / finite x * finite y = a * finite (y / x) := by
  have hyx : 0 < y / x := div_pos hy hx
  cases a with
  | finite z =>
      have hz : z / x * y = z * (y / x) := by ring
      rw [finite_div_finite z hx.ne', finite_mul_finite, finite_mul_finite, hz]
  | nan => rfl
  | posInf =>
      have hdiv : (posInf / finite x : Double F) = posInf := if_neg hx.not_gt
      rw [hdiv, posInf_mul_finite hy, posInf_mul_finite hyx]
  | negInf =>
      have hdiv : (negInf / finite x : Double F) = negInf := if_neg hx.not_gt
      rw [hdiv, negInf_mul_finite hy, negInf_mul_finite hyx]

end Exact

/-! ## Text -/

/-- The nearest integer, ties to even. -/
def roundEven (x : F) : ℤ :=
  let lower := ⌊x⌋
  let rest := x - lower
  if 2 * rest < 1 ∨ (2 * rest = 1 ∧ lower % 2 = 0) then lower else lower + 1

/-- `std::to_string`: six decimals. -/
def toString : Double F → String
  | finite x =>
      let millionths := (roundEven (|x| * 1000000)).toNat
      let decimals := Nat.repr (millionths % 1000000)
      (if x < 0 then "-" else "") ++ Nat.repr (millionths / 1000000) ++ "." ++
        String.ofList (List.replicate (6 - decimals.length) '0') ++ decimals
  | nan => "nan"
  | posInf => "inf"
  | negInf => "-inf"

end Double

end Cxx
end ULocalMagnitude
