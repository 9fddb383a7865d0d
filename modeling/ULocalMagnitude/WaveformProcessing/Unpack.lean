import ULocalMagnitude.Cxx.ByteOrder
import ULocalMagnitude.Cxx.Exceptions
import ULocalMagnitude.Cxx.Rounding

/-!
# Samples from bytes

The function template `unpack` of `waveformProcessing/packet.cpp`, for its four sample
types.  The expected size of the data is computed in the arithmetic of the sample type,
so it is the product of size and number only for numbers that the type can hold; bytes
behind the end of the data are read when it is more than there is.
-/

namespace ULocalMagnitude
namespace WaveformProcessing

open Cxx

variable {F : Type} [Arithmetic F]

/-- The types that `setData` is instantiated for. -/
inductive SampleType where
  | int32
  | int64
  | float
  | double
deriving DecidableEq

namespace SampleType

/-- `sizeof(T)` -/
def size : SampleType → Nat
  | .int32 => 4
  | .int64 => 8
  | .float => 4
  | .double => 8

/-- `sizeof(T)*static_cast<T> (nSamples)`.  A signed factor becomes a `size_t` modulo
`2^64`, while a `size_t` becomes the floating-point type of the other factor. -/
def expectedSize (type : SampleType) (nSamples : UInt32) : Nat :=
  match type with
  | .int32 => ((4 * nSamples.toBitVec.toInt) % 2 ^ 64).toNat
  | .int64 => (8 * nSamples.toNat) % 2 ^ 64
  | .float => 4 * roundTo floatPrecision nSamples.toNat
  | .double => 8 * roundTo doublePrecision nSamples.toNat

/-- `data.size()` in the comparison with the expected size. -/
def comparedSize (type : SampleType) (size : Nat) : Nat :=
  match type with
  | .int32 => size
  | .int64 => size
  | .float => roundTo floatPrecision size
  | .double => roundTo doublePrecision size

/-- `std::to_string(expectedSize)` -/
def expectedSizeText (type : SampleType) (nSamples : UInt32) : String :=
  match type with
  | .int32 => Nat.repr (type.expectedSize nSamples)
  | .int64 => Nat.repr (type.expectedSize nSamples)
  | .float => Nat.repr (type.expectedSize nSamples) ++ ".000000"
  | .double => Nat.repr (type.expectedSize nSamples) ++ ".000000"

/-- The value of a word of the type, as a `double`. -/
def value (type : SampleType) (word : Nat) : Double F :=
  match type with
  | .int32 => .finite ((BitVec.ofNat 32 word).toInt : F)
  | .int64 => .finite (roundToDouble (BitVec.ofNat 64 word).toInt : F)
  | .float => binary32.value word
  | .double => binary64.value word

end SampleType

/-- `data.data() + j` up to `data.data() + j + dataTypeSize` -/
def readBytes (data : Bytes) (j dataTypeSize : Nat) : Throws Bytes :=
  if j + dataTypeSize ≤ data.length then .ok ((data.drop j).take dataTypeSize)
  else .error .undefinedBehavior

/-- The loops over the samples, from sample `i` on.  The bytes are copied to the union in
order or reversed, and its value is what the host reads there. -/
def unpackFrom (type : SampleType) (native : Endian) (data : Bytes) (swapBytes : Bool) :
    Nat → Nat → Throws (List (Double F))
  | _, 0 => return []
  | i, remaining + 1 => do
      let bytes ← readBytes data (i * type.size) type.size
      let cArray := if swapBytes then bytes.reverse else bytes
      let sample := type.value (native.read cArray)
      return sample :: (← unpackFrom type native data swapBytes (i + 1) remaining)

/-- `unpack` -/
def unpack (type : SampleType) (native : Endian) (data : Bytes) (nSamples : UInt32)
    (swapBytes : Bool) : Throws (List (Double F)) := do
  throwIf (data = []) (.invalidArgument "Data is empty")
  throwIf (data.length % type.size ≠ 0)
    (.invalidArgument ("Data must be divisible by " ++ Nat.repr type.size))
  throwIf (type.comparedSize data.length ≠ type.expectedSize nSamples)
    (.invalidArgument ("Data size must be " ++ type.expectedSizeText nSamples))
  unpackFrom type native data swapBytes 0 nSamples.toNat

/-- `std::endian::native == std::endian::little ? false : true` -/
def swapBytes (native : Endian) : Bool := !decide (native = .little)

/-! ## The loop -/

/-- The little-endian word of sample `i`. -/
def wordAt (type : SampleType) (data : Bytes) (i : Nat) : Nat :=
  ofLittleEndian ((data.drop (i * type.size)).take type.size)

/-- Swapped where the host needs it, the union holds the little-endian word. -/
theorem read_swapped (native : Endian) (memory : Bytes) :
    native.read (if swapBytes native then memory.reverse else memory) =
      ofLittleEndian memory := by
  cases native with
  | little => rfl
  | big => exact congrArg ofLittleEndian (List.reverse_reverse memory)

section Loop

variable (type : SampleType) (native : Endian) (data : Bytes)

/-- Each sample is the same on all hosts, and so is the loop. -/
theorem unpackFrom_native (other : Endian) (i remaining : Nat) :
    unpackFrom (F := F) type native data (swapBytes native) i remaining =
      unpackFrom type other data (swapBytes other) i remaining := by
  induction remaining generalizing i with
  | zero => rfl
  | succ remaining ih => simp only [unpackFrom, read_swapped, ih]

/-- Inside of the data the loop reads sample after sample. -/
theorem unpackFrom_eq_ok {i remaining : Nat} (h : (i + remaining) * type.size ≤ data.length) :
    unpackFrom (F := F) type native data (swapBytes native) i remaining =
      .ok ((List.range' i remaining).map fun k => type.value (wordAt type data k)) := by
  induction remaining generalizing i with
  | zero => rfl
  | succ remaining ih =>
      have hnext : (i + 1 + remaining) * type.size ≤ data.length := by
        rwa [Nat.add_right_comm, Nat.add_assoc]
      have hinside : i * type.size + type.size ≤ data.length := by
        rw [← Nat.succ_mul]
        exact le_trans (Nat.mul_le_mul_right _ (by omega)) h
      rw [unpackFrom, readBytes, if_pos hinside, bind_ok, ih hnext, bind_ok, read_swapped]
      rfl

/-- It gets behind the end where there are fewer bytes than the samples need. -/
theorem unpackFrom_eq_error {i remaining : Nat} (hpositive : 0 < remaining)
    (h : data.length < (i + remaining) * type.size) :
    unpackFrom (F := F) type native data (swapBytes native) i remaining =
      .error .undefinedBehavior := by
  induction remaining generalizing i with
  | zero => exact absurd hpositive (Nat.lt_irrefl 0)
  | succ remaining ih =>
      rw [unpackFrom, readBytes]
      by_cases hinside : i * type.size + type.size ≤ data.length
      · rw [if_pos hinside, bind_ok]
        cases remaining with
        | zero =>
            rw [← Nat.succ_mul] at hinside
            -- The last sample is inside of the data, so there are enough bytes.
            exact absurd h (Nat.not_lt.mpr hinside)
        | succ remaining =>
            have hnext : data.length < (i + 1 + (remaining + 1)) * type.size := by
              rwa [Nat.add_right_comm, Nat.add_assoc]
            rw [ih (Nat.succ_pos remaining) hnext, bind_error]
      · rw [if_neg hinside, bind_error]

end Loop

/-! ## Accepted data -/

/-- The data passes the three checks. -/
structure Passes (type : SampleType) (data : Bytes) (nSamples : UInt32) : Prop where
  nonempty : data ≠ []
  divisible : data.length % type.size = 0
  size : type.comparedSize data.length = type.expectedSize nSamples

instance (type : SampleType) (data : Bytes) (nSamples : UInt32) :
    Decidable (Passes type data nSamples) :=
  decidable_of_iff (data ≠ [] ∧ data.length % type.size = 0 ∧
      type.comparedSize data.length = type.expectedSize nSamples)
    ⟨fun h => ⟨h.1, h.2.1, h.2.2⟩, fun h => ⟨h.nonempty, h.divisible, h.size⟩⟩

/-- Only data that is not there has the size of no samples. -/
theorem comparedSize_ne_zero (type : SampleType) {size : Nat} (h : size ≠ 0) :
    type.comparedSize size ≠ 0 := by
  cases type with
  | int32 => exact h
  | int64 => exact h
  | float => exact roundTo_ne_zero (by decide) h
  | double => exact roundTo_ne_zero (by decide) h

theorem expectedSize_zero (type : SampleType) : type.expectedSize 0 = 0 := by
  cases type with
  | int32 => rfl
  | int64 => rfl
  | float => exact congrArg (4 * ·) (roundTo_zero (by decide))
  | double => exact congrArg (8 * ·) (roundTo_zero (by decide))

/-- Data that passes has samples. -/
theorem Passes.nSamples_pos {type : SampleType} {data : Bytes} {nSamples : UInt32}
    (h : Passes type data nSamples) : 0 < nSamples.toNat := by
  refine Nat.pos_of_ne_zero fun hzero => ?_
  have hnone : nSamples = 0 := UInt32.toNat_inj.mp hzero
  have hsize := h.size
  rw [hnone, expectedSize_zero] at hsize
  exact comparedSize_ne_zero type (List.length_eq_zero_iff.not.mpr h.nonempty) hsize

/-- The samples of data that holds them. -/
def samples (type : SampleType) (data : Bytes) (nSamples : UInt32) : List (Double F) :=
  (List.range nSamples.toNat).map fun k => type.value (wordAt type data k)

theorem unpack_native (type : SampleType) (native other : Endian) (data : Bytes)
    (nSamples : UInt32) :
    unpack (F := F) type native data nSamples (swapBytes native) =
      unpack type other data nSamples (swapBytes other) := by
  unfold unpack
  rw [unpackFrom_native type native data other]

section Cases

variable {type : SampleType} (native : Endian) {data : Bytes} {nSamples : UInt32}

theorem unpack_of_passes (h : Passes type data nSamples) :
    unpack (F := F) type native data nSamples (swapBytes native) =
      unpackFrom type native data (swapBytes native) 0 nSamples.toNat := by
  unfold unpack
  rw [throwIf_neg h.nonempty, bind_ok, throwIf_neg (not_not.mpr h.divisible), bind_ok,
    throwIf_neg (not_not.mpr h.size), bind_ok]

/-- Other data is refused. -/
theorem unpack_of_not_passes (h : ¬ Passes type data nSamples) :
    ∃ what, unpack (F := F) type native data nSamples (swapBytes native) =
      .error (.invalidArgument what) := by
  unfold unpack
  -- The first check that fails throws.
  by_cases hempty : data = []
  · rw [throwIf_pos hempty]
    exact ⟨_, rfl⟩
  rw [throwIf_neg hempty, bind_ok]
  by_cases hdivisible : data.length % type.size = 0
  · have hsize : type.comparedSize data.length ≠ type.expectedSize nSamples :=
      fun hsame => h ⟨hempty, hdivisible, hsame⟩
    rw [throwIf_neg (not_not.mpr hdivisible), bind_ok, throwIf_pos hsize]
    exact ⟨_, rfl⟩
  · rw [throwIf_pos hdivisible]
    exact ⟨_, rfl⟩

/-- Data that is passed and long enough gives its samples. -/
theorem unpack_eq_ok (h : Passes type data nSamples)
    (henough : nSamples.toNat * type.size ≤ data.length) :
    unpack (F := F) type native data nSamples (swapBytes native) =
      .ok (samples type data nSamples) := by
  rw [unpack_of_passes native h, unpackFrom_eq_ok type native data (by rwa [Nat.zero_add]),
    ← List.range_eq_range']
  rfl

/-- Data that is passed but too short is read behind its end. -/
theorem unpack_eq_undefinedBehavior (h : Passes type data nSamples)
    (hshort : data.length < nSamples.toNat * type.size) :
    unpack (F := F) type native data nSamples (swapBytes native) =
      .error .undefinedBehavior := by
  have hpositive : 0 < nSamples.toNat := by
    by_contra hzero
    -- For no samples the data can not be too short.
    rw [Nat.eq_zero_of_not_pos hzero, Nat.zero_mul] at hshort
    exact absurd hshort (Nat.not_lt_zero _)
  rw [unpack_of_passes native h]
  exact unpackFrom_eq_error type native data hpositive (by rwa [Nat.zero_add])

/-- What is returned are the samples, and the host does not matter. -/
theorem unpack_eq_ok_iff {result : List (Double F)} :
    unpack type native data nSamples (swapBytes native) = .ok result ↔
      Passes type data nSamples ∧ nSamples.toNat * type.size ≤ data.length ∧
        samples type data nSamples = result := by
  constructor
  · intro h
    by_cases hpasses : Passes type data nSamples
    · by_cases henough : nSamples.toNat * type.size ≤ data.length
      · rw [unpack_eq_ok native hpasses henough] at h
        exact ⟨hpasses, henough, Except.ok.inj h⟩
      · rw [unpack_eq_undefinedBehavior native hpasses (Nat.not_le.mp henough)] at h
        cases h
    · obtain ⟨what, hwhat⟩ := unpack_of_not_passes (F := F) native hpasses
      rw [hwhat] at h
      cases h
  · rintro ⟨hpasses, henough, rfl⟩
    exact unpack_eq_ok native hpasses henough

end Cases

theorem length_samples (type : SampleType) (data : Bytes) (nSamples : UInt32) :
    (samples (F := F) type data nSamples).length = nSamples.toNat := by
  unfold samples
  rw [List.length_map, List.length_range]

end WaveformProcessing
end ULocalMagnitude
