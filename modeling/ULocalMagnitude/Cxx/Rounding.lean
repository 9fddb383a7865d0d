import ULocalMagnitude.Cxx.Double
import Mathlib.Data.Nat.Log

/-!
# Integers as floating-point numbers

An integer is converted to a floating-point type by keeping as many of its highest bits
as the significand has, rounding to the nearest and from the middle to the even one.
Numbers that fit stay as they are, a power of two as a factor passes through, and no
number falls below the greatest power of two in it.  The exponents of `float` and
`double` reach beyond all integers of 64 bits.

The other direction is the value of a word that has the layout of IEEE 754.
-/

namespace ULocalMagnitude
namespace Cxx

/-- The quotient rounded to the nearest integer, ties to even. -/
def roundedQuotient (n unit : Nat) : Nat :=
  if 2 * (n % unit) < unit ∨ (2 * (n % unit) = unit ∧ n / unit % 2 = 0) then n / unit
  else n / unit + 1

/-- The weight of the lowest bit that is kept of a number. -/
def lowestUnit (precision n : Nat) : Nat := 2 ^ (Nat.log 2 n + 1 - precision)

/-- The number in a format with a significand of the given number of bits. -/
def roundTo (precision n : Nat) : Nat :=
  lowestUnit precision n * roundedQuotient n (lowestUnit precision n)

/-- `float` has a significand of 24 bits. -/
def floatPrecision : Nat := 24

/-- `double` has a significand of 53 bits. -/
def doublePrecision : Nat := 53

/-! From the middle the even neighbour is taken. -/

example : roundTo floatPrecision (2 ^ 24 + 1) = 2 ^ 24 := by decide +kernel

example : roundTo floatPrecision (2 ^ 24 + 3) = 2 ^ 24 + 4 := by decide +kernel

/-- A signed integer as a `double`. -/
def roundToDouble (z : Int) : Int := z.sign * roundTo doublePrecision z.natAbs

theorem roundedQuotient_of_dvd {n unit : Nat} (hunit : 0 < unit) (h : unit ∣ n) :
    unit * roundedQuotient n unit = n := by
  have hexact : 2 * (n % unit) < unit := by
    rw [Nat.mod_eq_zero_of_dvd h]
    exact hunit
  rw [roundedQuotient, if_pos (Or.inl hexact), Nat.mul_div_cancel' h]

/-- A common factor does not matter. -/
theorem roundedQuotient_mul {factor : Nat} (hfactor : 0 < factor) (n unit : Nat) :
    roundedQuotient (factor * n) (factor * unit) = roundedQuotient n unit := by
  unfold roundedQuotient
  have hdouble : 2 * (factor * (n % unit)) = factor * (2 * (n % unit)) := by ring
  simp only [Nat.mul_div_mul_left _ _ hfactor, Nat.mul_mod_mul_left, hdouble,
    Nat.mul_lt_mul_left hfactor, Nat.mul_right_inj hfactor.ne']

theorem lowestUnit_pos (precision n : Nat) : 0 < lowestUnit precision n :=
  Nat.two_pow_pos _

theorem le_roundedQuotient (n unit : Nat) : n / unit ≤ roundedQuotient n unit := by
  unfold roundedQuotient
  split
  · exact le_rfl
  · exact Nat.le_add_right _ 1

section Precision

variable {precision : Nat} (hprecision : 0 < precision)

include hprecision

/-- A number that fits into the significand is exact. -/
theorem roundTo_of_lt {n : Nat} (h : n < 2 ^ precision) : roundTo precision n = n := by
  refine roundedQuotient_of_dvd (lowestUnit_pos precision n) ?_
  have hlog : Nat.log 2 n < precision := by
    by_cases hn : n = 0
    · rw [hn, Nat.log_zero_right]
      exact hprecision
    · exact (Nat.log_lt_iff_lt_pow (by decide) hn).mpr h
  have hbits : Nat.log 2 n + 1 - precision = 0 := by omega
  unfold lowestUnit
  rw [hbits, pow_zero]
  exact Nat.one_dvd n

theorem roundTo_zero : roundTo precision 0 = 0 :=
  roundTo_of_lt hprecision (Nat.two_pow_pos precision)

theorem roundTo_two_mul (n : Nat) : roundTo precision (2 * n) = 2 * roundTo precision n := by
  by_cases hn : n = 0
  · rw [hn, Nat.mul_zero, roundTo_zero hprecision]
  have hlog : Nat.log 2 (2 * n) = Nat.log 2 n + 1 := by
    rw [Nat.mul_comm, Nat.log_mul_base (by decide) hn]
  by_cases hfits : Nat.log 2 n + 1 ≤ precision
  · -- Nothing was lost of `n`, and of its double only a zero is.
    have hexact : n < 2 ^ precision :=
      lt_of_lt_of_le (Nat.lt_pow_succ_log_self (by decide) n)
        (Nat.pow_le_pow_right (by decide) hfits)
    rw [roundTo_of_lt hprecision hexact]
    refine roundedQuotient_of_dvd (lowestUnit_pos precision _) ?_
    have hunit : lowestUnit precision (2 * n) ∣ 2 ^ 1 := by
      unfold lowestUnit
      rw [hlog]
      exact Nat.pow_dvd_pow 2 (by omega)
    exact Dvd.dvd.mul_right hunit n
  · -- The lowest unit doubles with the number, and the quotient stays the same.
    have hunit : lowestUnit precision (2 * n) = 2 * lowestUnit precision n := by
      unfold lowestUnit
      rw [hlog, ← pow_succ']
      congr 1
      omega
    unfold roundTo
    rw [hunit, roundedQuotient_mul Nat.two_pos, Nat.mul_assoc]

/-- Powers of two pass through. -/
theorem roundTo_two_pow_mul (k n : Nat) :
    roundTo precision (2 ^ k * n) = 2 ^ k * roundTo precision n := by
  induction k with
  | zero => rw [pow_zero, Nat.one_mul, Nat.one_mul]
  | succ k ih => rw [pow_succ', Nat.mul_assoc, roundTo_two_mul hprecision, ih, Nat.mul_assoc]

/-- The greatest power of two in a number stays below it. -/
theorem two_pow_log_le_roundTo {n : Nat} (h : 2 ^ precision ≤ n) :
    2 ^ Nat.log 2 n ≤ roundTo precision n := by
  have hn : n ≠ 0 := (lt_of_lt_of_le (Nat.two_pow_pos precision) h).ne'
  have hbits : precision ≤ Nat.log 2 n := (Nat.le_log_iff_pow_le (by decide) hn).mpr h
  have hsplit : 2 ^ Nat.log 2 n = lowestUnit precision n * 2 ^ (precision - 1) := by
    unfold lowestUnit
    rw [← pow_add]
    congr 1
    omega
  have hquotient : 2 ^ (precision - 1) ≤ n / lowestUnit precision n := by
    rw [Nat.le_div_iff_mul_le (lowestUnit_pos precision n), Nat.mul_comm, ← hsplit]
    exact Nat.pow_log_le_self 2 hn
  calc 2 ^ Nat.log 2 n
      = lowestUnit precision n * 2 ^ (precision - 1) := hsplit
    _ ≤ lowestUnit precision n * (n / lowestUnit precision n) :=
        Nat.mul_le_mul_left _ hquotient
    _ ≤ roundTo precision n := Nat.mul_le_mul_left _ (le_roundedQuotient n _)

/-- Only zero is rounded to zero. -/
theorem roundTo_ne_zero {n : Nat} (h : n ≠ 0) : roundTo precision n ≠ 0 := by
  by_cases hfits : n < 2 ^ precision
  · rw [roundTo_of_lt hprecision hfits]
    exact h
  · have hpower := two_pow_log_le_roundTo hprecision (Nat.not_lt.mp hfits)
    exact (lt_of_lt_of_le (Nat.two_pow_pos _) hpower).ne'

/-- A number that fits is the rounded value of no number that does not. -/
theorem roundTo_eq_iff_of_lt {m n : Nat} (hm : m < 2 ^ precision) :
    roundTo precision n = m ↔ n = m := by
  constructor
  · intro h
    by_cases hn : n < 2 ^ precision
    · rw [← h, roundTo_of_lt hprecision hn]
    · have hbeyond : 2 ^ precision ≤ n := Nat.not_lt.mp hn
      -- Rounding does not leave the power of two, which is beyond `m`.
      have hlog := two_pow_log_le_roundTo hprecision hbeyond
      have hpow : 2 ^ precision ≤ 2 ^ Nat.log 2 n := by
        refine Nat.pow_le_pow_right (by decide) ?_
        exact (Nat.le_log_iff_pow_le (by decide)
          (lt_of_lt_of_le (Nat.two_pow_pos precision) hbeyond).ne').mpr hbeyond
      omega
  · rintro rfl
    exact roundTo_of_lt hprecision hm

end Precision

/-- Integers of up to 53 bits are doubles, and the bound as well. -/
theorem roundToDouble_of_le {z : Int} (h : z.natAbs ≤ 2 ^ 53) : roundToDouble z = z := by
  have hexact : roundTo doublePrecision z.natAbs = z.natAbs := by
    rcases Nat.lt_or_eq_of_le h with hlt | heq
    · exact roundTo_of_lt (by decide) hlt
    · -- The bound is a power of two.
      have hone : roundTo doublePrecision 1 = 1 := roundTo_of_lt (by decide) (by decide)
      have hpower := @roundTo_two_pow_mul doublePrecision (by decide) 53 1
      rw [hone, Nat.mul_one] at hpower
      rw [heq, hpower]
  unfold roundToDouble
  rw [hexact, Int.sign_mul_natAbs]

/-! ## Words in the layout of IEEE 754 -/

/-- The layout of a word: a sign bit, the bits of the exponent and those of the fraction. -/
structure BinaryFormat where
  exponentBits : Nat
  fractionBits : Nat

/-- `float` -/
def binary32 : BinaryFormat := { exponentBits := 8, fractionBits := 23 }

/-- `double` -/
def binary64 : BinaryFormat := { exponentBits := 11, fractionBits := 52 }

namespace BinaryFormat

variable (format : BinaryFormat) (word : Nat)

def fraction : Nat := word % 2 ^ format.fractionBits

def exponent : Nat := word / 2 ^ format.fractionBits % 2 ^ format.exponentBits

def negative : Bool :=
  word / 2 ^ (format.fractionBits + format.exponentBits) % 2 == 1

/-- The exponent of the lowest bit of the significand. -/
def scale : Int :=
  (max 1 (format.exponent word) : Int) - (2 ^ (format.exponentBits - 1) - 1) -
    format.fractionBits

/-- The significand as an integer; numbers with the lowest exponent have no hidden bit. -/
def significand : Nat :=
  if format.exponent word = 0 then format.fraction word
  else 2 ^ format.fractionBits + format.fraction word

variable {F : Type} [Arithmetic F]

/-- The value of a word. -/
def value : Double F :=
  if format.exponent word = 2 ^ format.exponentBits - 1 then
    if format.fraction word ≠ 0 then .nan
    else if format.negative word then .negInf
    else .posInf
  else
    let magnitude : F := (format.significand word : F) * (2 : F) ^ format.scale word
    .finite (if format.negative word then -magnitude else magnitude)

end BinaryFormat

end Cxx
end ULocalMagnitude
