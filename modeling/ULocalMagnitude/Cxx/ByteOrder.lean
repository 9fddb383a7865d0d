import ULocalMagnitude.Cxx.Text
import Mathlib.Data.Nat.Basic
import Mathlib.Tactic.Ring

/-!
# Byte order

Numbers in memory.  `littleEndian` writes a number into a given number of bytes, the
lowest one first, and `ofLittleEndian` reads it; a host reads its memory in its own
order.
-/

namespace ULocalMagnitude
namespace Cxx

/-- The lowest bytes of a number, the lowest one first. -/
def littleEndian : Nat → Nat → Bytes
  | 0, _ => []
  | width + 1, number => UInt8.ofNat number :: littleEndian width (number / 256)

/-- The number with the given bytes, the lowest one first. -/
def ofLittleEndian (memory : Bytes) : Nat :=
  memory.foldr (fun byte number => byte.toNat + 256 * number) 0

@[simp] theorem length_littleEndian (width number : Nat) :
    (littleEndian width number).length = width := by
  induction width generalizing number with
  | zero => rfl
  | succ width ih => rw [littleEndian, List.length_cons, ih]

/-- Reading gives the number that was written, as far as it fits. -/
theorem ofLittleEndian_littleEndian {width number : Nat} (h : number < 256 ^ width) :
    ofLittleEndian (littleEndian width number) = number := by
  induction width generalizing number with
  | zero =>
      rw [pow_zero, Nat.lt_one_iff] at h
      rw [h]
      rfl
  | succ width ih =>
      have hrest : number / 256 < 256 ^ width := by
        rw [pow_succ] at h
        omega
      have hlow : (UInt8.ofNat number).toNat = number % 256 := UInt8.toNat_ofNat'
      have hread : ofLittleEndian (littleEndian (width + 1) number) =
          (UInt8.ofNat number).toNat +
            256 * ofLittleEndian (littleEndian width (number / 256)) := rfl
      rw [hread, ih hrest, hlow]
      omega

/-- `std::endian` -/
inductive Endian where
  | little
  | big
deriving DecidableEq

/-- The number that a host reads from its memory. -/
def Endian.read (native : Endian) (memory : Bytes) : Nat :=
  match native with
  | .little => ofLittleEndian memory
  | .big => ofLittleEndian memory.reverse

/-! ## Numbers one after another -/

/-- The bytes of words of one width, word by word. -/
def littleEndianWords (width : Nat) (words : List Nat) : Bytes :=
  words.flatMap (littleEndian width)

theorem length_littleEndianWords (width : Nat) (words : List Nat) :
    (littleEndianWords width words).length = width * words.length := by
  induction words with
  | nil => rfl
  | cons word words ih =>
      unfold littleEndianWords at ih ⊢
      rw [List.flatMap_cons, List.length_append, length_littleEndian, ih, List.length_cons]
      ring

/-- The bytes of each word are at its place. -/
theorem take_drop_littleEndianWords (width : Nat) (words : List Nat) {i word : Nat}
    (h : words[i]? = some word) :
    ((littleEndianWords width words).drop (i * width)).take width =
      littleEndian width word := by
  induction words generalizing i with
  | nil => cases h
  | cons first words ih =>
      have hwords : littleEndianWords width (first :: words) =
          littleEndian width first ++ littleEndianWords width words := List.flatMap_cons
      have hlength := length_littleEndian width first
      rw [hwords]
      cases i with
      | zero =>
          obtain rfl : first = word := Option.some.inj h
          rw [Nat.zero_mul, List.drop_zero, List.take_left' hlength]
      | succ i =>
          -- The bytes of the first word are skipped as a whole.
          have hskip : (i + 1) * width = (littleEndian width first).length + i * width := by
            rw [hlength]
            ring
          rw [hskip, List.drop_append, List.drop_eq_nil_of_le (Nat.le_add_right ..),
            Nat.add_sub_cancel_left, List.nil_append]
          exact ih h

end Cxx
end ULocalMagnitude
