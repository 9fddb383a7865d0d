import ULocalMagnitude.WaveformProcessing.Packet
import ULocalMagnitude.Rationals

/-!
# Samples of packets

Data is meant to be accepted with exactly the size that the number of samples asks for.
The comparison is exact for 64-bit integers and doubles.  It refuses every number of
32-bit integers that is no 32-bit integer itself, and it takes floats for equal that are
so only after rounding.  Accepted data is decoded alike on both kinds of hosts.
-/

namespace ULocalMagnitude
namespace Properties

open Cxx WaveformProcessing
open Packet (setData)

variable {F : Type} [Arithmetic F]

/-- The data is accepted exactly with the size for the number of samples, gives as many
samples when it is, and leaves the packet alone when it is not; no byte behind the end is
read. -/
structure ReadsExactly (type : SampleType) (native : Endian) (packet : Packet F)
    (data : Bytes) (nSamples : UInt32) : Prop where
  accepts : (∃ after, (setData type native data nSamples).call packet = .ok after) ↔
    data ≠ [] ∧ data.length = type.size * nSamples.toNat
  samples : ∀ after, (setData type native data nSamples).call packet = .ok after →
    after.mData.length = nSamples.toNat
  inBounds : (setData type native data nSamples).call packet ≠ .error .undefinedBehavior
  unchanged : ∀ reason, (setData type native data nSamples).call packet = .error reason →
    (setData type native data nSamples).state packet = packet

/-- The comparison of sizes is exact: 32-bit integers are few enough, or the size is
neither that of so many nor the one that wraps around to it; floats are as many as the
ones that round to the same number. -/
def SizeIsExact : SampleType → Nat → UInt32 → Prop
  | .int32, size, nSamples => 2 ^ 31 ≤ nSamples.toNat →
      size ≠ 4 * nSamples.toNat ∧ size ≠ 2 ^ 64 - 4 * (2 ^ 32 - nSamples.toNat)
  | .int64, _, _ => True
  | .float, size, nSamples => size ≠ 0 → size % 4 = 0 →
      roundTo floatPrecision (size / 4) = roundTo floatPrecision nSamples.toNat →
        size / 4 = nSamples.toNat
  | .double, _, _ => True

/-! ## Expected sizes -/

theorem expectedSize_int32_of_lt {nSamples : UInt32} (h : nSamples.toNat < 2 ^ 31) :
    SampleType.int32.expectedSize nSamples = 4 * nSamples.toNat := by
  have hint : nSamples.toBitVec.toInt = nSamples.toNat := by
    rw [BitVec.toInt_eq_toNat_cond, UInt32.toNat_toBitVec, if_pos (by omega)]
  calc SampleType.int32.expectedSize nSamples
      = ((4 * nSamples.toBitVec.toInt) % 2 ^ 64).toNat := rfl
    _ = 4 * nSamples.toNat := by
        rw [hint]
        omega

theorem expectedSize_int32_of_le {nSamples : UInt32} (h : 2 ^ 31 ≤ nSamples.toNat) :
    SampleType.int32.expectedSize nSamples = 2 ^ 64 - 4 * (2 ^ 32 - nSamples.toNat) := by
  have hlt : nSamples.toNat < 2 ^ 32 := nSamples.toNat_lt
  have hint : nSamples.toBitVec.toInt = (nSamples.toNat : Int) - 2 ^ 32 := by
    rw [BitVec.toInt_eq_toNat_cond, UInt32.toNat_toBitVec, if_neg (by omega)]
    norm_num
  calc SampleType.int32.expectedSize nSamples
      = ((4 * nSamples.toBitVec.toInt) % 2 ^ 64).toNat := rfl
    _ = 2 ^ 64 - 4 * (2 ^ 32 - nSamples.toNat) := by
        rw [hint]
        omega

theorem expectedSize_int64 (nSamples : UInt32) :
    SampleType.int64.expectedSize nSamples = 8 * nSamples.toNat := by
  have hlt : nSamples.toNat < 2 ^ 32 := nSamples.toNat_lt
  calc SampleType.int64.expectedSize nSamples
      = (8 * nSamples.toNat) % 2 ^ 64 := rfl
    _ = 8 * nSamples.toNat := by omega

theorem expectedSize_double (nSamples : UInt32) :
    SampleType.double.expectedSize nSamples = 8 * nSamples.toNat := by
  have hexact : roundTo doublePrecision nSamples.toNat = nSamples.toNat :=
    roundTo_of_lt (by decide) (lt_trans nSamples.toNat_lt (by decide))
  calc SampleType.double.expectedSize nSamples
      = 8 * roundTo doublePrecision nSamples.toNat := rfl
    _ = 8 * nSamples.toNat := by rw [hexact]

/-- Sizes that are multiples of four are compared by the numbers of floats. -/
theorem comparedSize_float_eq_iff {size : Nat} {nSamples : UInt32} (h : size % 4 = 0) :
    SampleType.float.comparedSize size = SampleType.float.expectedSize nSamples ↔
      roundTo floatPrecision (size / 4) = roundTo floatPrecision nSamples.toNat := by
  have hround : roundTo floatPrecision size = 4 * roundTo floatPrecision (size / 4) := by
    have hsize : size = 2 ^ 2 * (size / 4) := by omega
    calc roundTo floatPrecision size
        = roundTo floatPrecision (2 ^ 2 * (size / 4)) := by rw [← hsize]
      _ = 4 * roundTo floatPrecision (size / 4) := roundTo_two_pow_mul (by decide) 2 _
  calc SampleType.float.comparedSize size = SampleType.float.expectedSize nSamples
      ↔ roundTo floatPrecision size = 4 * roundTo floatPrecision nSamples.toNat := Iff.rfl
    _ ↔ roundTo floatPrecision (size / 4) = roundTo floatPrecision nSamples.toNat := by
        rw [hround, Nat.mul_right_inj (by decide)]

/-! ## Accepted sizes -/

/-- The data is not empty and has the size for the number of samples. -/
def Sized (type : SampleType) (data : Bytes) (nSamples : UInt32) : Prop :=
  data ≠ [] ∧ data.length = type.size * nSamples.toNat

theorem passes_iff {type : SampleType} {data : Bytes} {nSamples : UInt32} :
    Passes type data nSamples ↔ data ≠ [] ∧ data.length % type.size = 0 ∧
      type.comparedSize data.length = type.expectedSize nSamples :=
  ⟨fun h => ⟨h.nonempty, h.divisible, h.size⟩, fun h => ⟨h.1, h.2.1, h.2.2⟩⟩

/-- The checks are for the right size exactly where the comparison is exact. -/
theorem passes_iff_sized_iff (type : SampleType) (data : Bytes) (nSamples : UInt32) :
    (Passes type data nSamples ↔ Sized type data nSamples) ↔
      SizeIsExact type data.length nSamples := by
  have hlt : nSamples.toNat < 2 ^ 32 := nSamples.toNat_lt
  have hempty : data ≠ [] ↔ data.length ≠ 0 := List.length_eq_zero_iff.not.symm
  rw [passes_iff, Sized, hempty]
  generalize data.length = size
  cases type with
  | int32 =>
      change (size ≠ 0 ∧ size % 4 = 0 ∧ size = SampleType.int32.expectedSize nSamples ↔
        size ≠ 0 ∧ size = 4 * nSamples.toNat) ↔ (2 ^ 31 ≤ nSamples.toNat →
          size ≠ 4 * nSamples.toNat ∧ size ≠ 2 ^ 64 - 4 * (2 ^ 32 - nSamples.toNat))
      -- From `2^31` on the number of samples is negative, and the product wraps around.
      by_cases hsmall : nSamples.toNat < 2 ^ 31
      · rw [expectedSize_int32_of_lt hsmall]
        omega
      · rw [expectedSize_int32_of_le (Nat.not_lt.mp hsmall)]
        omega
  | int64 =>
      change (size ≠ 0 ∧ size % 8 = 0 ∧ size = SampleType.int64.expectedSize nSamples ↔
        size ≠ 0 ∧ size = 8 * nSamples.toNat) ↔ True
      rw [expectedSize_int64, iff_true]
      omega
  | float =>
      change (size ≠ 0 ∧ size % 4 = 0 ∧
          SampleType.float.comparedSize size = SampleType.float.expectedSize nSamples ↔
        size ≠ 0 ∧ size = 4 * nSamples.toNat) ↔ (size ≠ 0 → size % 4 = 0 →
          roundTo floatPrecision (size / 4) = roundTo floatPrecision nSamples.toNat →
            size / 4 = nSamples.toNat)
      by_cases hdivisible : size % 4 = 0
      · rw [comparedSize_float_eq_iff hdivisible]
        by_cases hsame : size / 4 = nSamples.toNat
        · have hsize : size = 4 * nSamples.toNat := by omega
          exact iff_of_true
            ⟨fun h => ⟨h.1, hsize⟩, fun h => ⟨h.1, hdivisible, by rw [hsame]⟩⟩
            fun _ _ _ => hsame
        · -- The size is wrong, and it is refused unless both numbers round to the same one.
          have hsize : size ≠ 4 * nSamples.toNat := by omega
          tauto
      · have hsize : size ≠ 4 * nSamples.toNat := by omega
        tauto
  | double =>
      -- The expected size fits into 53 bits, so no other size is rounded to it.
      have hsize : roundTo doublePrecision size = 8 * nSamples.toNat ↔
          size = 8 * nSamples.toNat :=
        roundTo_eq_iff_of_lt (by decide) (by unfold doublePrecision; omega)
      change (size ≠ 0 ∧ size % 8 = 0 ∧
          roundTo doublePrecision size = SampleType.double.expectedSize nSamples ↔
        size ≠ 0 ∧ size = 8 * nSamples.toNat) ↔ True
      rw [expectedSize_double, hsize, iff_true]
      omega

section Setter

variable (type : SampleType) (native : Endian) (packet : Packet F) (data : Bytes)
  (nSamples : UInt32)

variable {type data nSamples} in
/-- Data that passes with too few bytes is read behind its end. -/
theorem call_setData_of_short (hpasses : Passes type data nSamples)
    (hshort : data.length < nSamples.toNat * type.size) :
    (setData type native data nSamples).call packet = .error .undefinedBehavior := by
  unfold setData
  rw [Method.call_lift_bind, throwIf_neg hpasses.nonempty, bind_ok, Method.call_lift_bind,
    unpack_eq_undefinedBehavior native hpasses hshort, bind_error]

/-- Data is accepted exactly with its size, and never read behind its end, exactly where
the comparison of sizes is exact. -/
theorem data_is_read_exactly_iff :
    ReadsExactly type native packet data nSamples ↔
      SizeIsExact type data.length nSamples := by
  have hcall : (∃ after, (setData type native data nSamples).call packet = .ok after) ↔
      Passes type data nSamples ∧ nSamples.toNat * type.size ≤ data.length := by
    simp only [Packet.call_setData_eq_ok, exists_and_left, exists_eq', and_true]
  rw [← passes_iff_sized_iff]
  constructor
  · intro hexact
    constructor
    · intro hpasses
      by_cases henough : nSamples.toNat * type.size ≤ data.length
      · exact hexact.accepts.mp (hcall.mpr ⟨hpasses, henough⟩)
      · -- The loop would get behind the end.
        exact absurd (call_setData_of_short native packet hpasses (Nat.not_le.mp henough))
          hexact.inBounds
    · intro hsized
      exact (hcall.mp (hexact.accepts.mpr hsized)).1
  · intro hiff
    have henough (hpasses : Passes type data nSamples) :
        nSamples.toNat * type.size ≤ data.length := by
      rw [(hiff.mp hpasses).2, Nat.mul_comm]
    refine ⟨?_, ?_, ?_, fun _ herror =>
      (Packet.setter_atomic native (.data type data nSamples)).state_of_call_error herror⟩
    · rw [hcall]
      exact ⟨fun h => hiff.mp h.1, fun h => ⟨hiff.mpr h, henough (hiff.mpr h)⟩⟩
    · intro after hafter
      obtain ⟨-, -, rfl⟩ := Packet.call_setData_eq_ok.mp hafter
      exact length_samples type data nSamples
    · intro hfault
      unfold setData at hfault
      by_cases hnonempty : data = []
      · rw [Method.call_lift_bind, throwIf_pos hnonempty] at hfault
        cases hfault
      rw [Method.call_lift_bind, throwIf_neg hnonempty, bind_ok, Method.call_lift_bind]
        at hfault
      by_cases hpasses : Passes type data nSamples
      · rw [unpack_eq_ok native hpasses (henough hpasses), bind_ok] at hfault
        cases hfault
      · obtain ⟨what, hwhat⟩ := unpack_of_not_passes (F := F) native hpasses
        rw [hwhat] at hfault
        cases hfault

end Setter

/-- 64 MiB are taken for one float more than there are: as a `float`, their number and
the number of samples are the same. -/
theorem floats_are_read_behind_the_end :
    ¬ ReadsExactly .float .little ({} : Packet ℚ) (List.replicate (2 ^ 26) 0) 16777217 := by
  have hlength : (List.replicate (2 ^ 26) (0 : UInt8)).length = 2 ^ 26 :=
    List.length_replicate
  have hsame : roundTo floatPrecision (2 ^ 26 / 4) = roundTo floatPrecision 16777217 := by
    decide +kernel
  have hnonempty : List.replicate (2 ^ 26) (0 : UInt8) ≠ [] := by
    rw [← List.length_pos_iff, hlength]
    decide
  have hpasses : Passes .float (List.replicate (2 ^ 26) 0) 16777217 := by
    refine passes_iff.mpr ⟨hnonempty, ?_, ?_⟩
    · rw [hlength]
      decide
    · rw [hlength]
      exact (comparedSize_float_eq_iff (by decide)).mpr hsame
  intro hexact
  refine hexact.inBounds (call_setData_of_short .little {} hpasses ?_)
  rw [hlength]
  decide

/-! ## Decoding -/

/-- Setting the little-endian bytes of the words, one after another, gives the values. -/
def Decodes (type : SampleType) (native : Endian) (packet : Packet F) (words : List Nat)
    (values : List (Double F)) : Prop :=
  ∃ after, (setData type native (littleEndianWords type.size words)
      (UInt32.ofNat words.length)).call packet = .ok after ∧ after.getData = .ok values

section Decoding

variable (type : SampleType) {words : List Nat}

/-- The bytes of fewer than `2^28` words pass the checks. -/
theorem passes_littleEndianWords (hnonempty : words ≠ []) (hlength : words.length < 2 ^ 28) :
    Passes type (littleEndianWords type.size words) (UInt32.ofNat words.length) := by
  have hcount : (UInt32.ofNat words.length).toNat = words.length :=
    UInt32.toNat_ofNat_of_lt' (lt_trans hlength (by decide))
  have hsize := length_littleEndianWords type.size words
  have hpositive : 0 < words.length := List.length_pos_iff.mpr hnonempty
  refine passes_iff.mpr ⟨?_, ?_, ?_⟩
  · rw [← List.length_pos_iff, hsize]
    exact Nat.mul_pos (by cases type <;> decide) hpositive
  · rw [hsize, Nat.mul_mod_right]
  · rw [hsize]
    cases type with
    | int32 =>
        rw [expectedSize_int32_of_lt (by omega), hcount]
        rfl
    | int64 =>
        rw [expectedSize_int64, hcount]
        rfl
    | float =>
        refine (comparedSize_float_eq_iff (Nat.mul_mod_right 4 _)).mpr ?_
        rw [hcount]
        exact congrArg _ (Nat.mul_div_cancel_left _ (by decide))
    | double =>
        rw [expectedSize_double, hcount]
        exact roundTo_of_lt (by decide) (by
          have height : SampleType.double.size = 8 := rfl
          rw [height, doublePrecision]
          omega)

/-- The samples of the words are their values. -/
theorem samples_littleEndianWords (hlength : words.length < 2 ^ 28)
    (hfits : ∀ word ∈ words, word < 256 ^ type.size) :
    samples (F := F) type (littleEndianWords type.size words) (UInt32.ofNat words.length) =
      words.map type.value := by
  have hcount : (UInt32.ofNat words.length).toNat = words.length :=
    UInt32.toNat_ofNat_of_lt' (lt_trans hlength (by decide))
  unfold samples
  rw [hcount]
  refine List.ext_getElem (by rw [List.length_map, List.length_map, List.length_range]) ?_
  intro i hi hwords
  rw [List.length_map] at hwords
  have hword : wordAt type (littleEndianWords type.size words) i = words[i] := by
    unfold wordAt
    rw [take_drop_littleEndianWords type.size words (List.getElem?_eq_getElem hwords)]
    exact ofLittleEndian_littleEndian (hfits _ (List.getElem_mem hwords))
  rw [List.getElem_map, List.getElem_map, List.getElem_range, hword]

theorem decodes_words (native : Endian) (packet : Packet F) (hnonempty : words ≠ [])
    (hlength : words.length < 2 ^ 28) (hfits : ∀ word ∈ words, word < 256 ^ type.size) :
    Decodes type native packet words (words.map type.value) := by
  have henough : (UInt32.ofNat words.length).toNat * type.size ≤
      (littleEndianWords type.size words).length := by
    rw [length_littleEndianWords, Nat.mul_comm]
    exact Nat.mul_le_mul_left _ (Nat.mod_le _ _)
  refine ⟨_, Packet.call_setData_eq_ok.mpr
    ⟨passes_littleEndianWords type hnonempty hlength, henough, rfl⟩, ?_⟩
  rw [samples_littleEndianWords type hlength hfits]
  rfl

/-- The words of a bit width are those of its bytes. -/
theorem decodes_bitVec {width : Nat} (native : Endian) (packet : Packet F)
    (hwidth : 2 ^ width = 256 ^ type.size) {values : List (BitVec width)}
    (hnonempty : values ≠ []) (hlength : values.length < 2 ^ 28) :
    Decodes type native packet (values.map BitVec.toNat)
      (values.map fun value => type.value value.toNat) := by
  have hfits : ∀ word ∈ values.map BitVec.toNat, word < 256 ^ type.size := by
    intro word hword
    obtain ⟨value, -, rfl⟩ := List.mem_map.mp hword
    rw [← hwidth]
    exact value.isLt
  have hdecodes := decodes_words (F := F) type native packet (by simpa using hnonempty)
    (by simpa using hlength) hfits
  rwa [List.map_map] at hdecodes

end Decoding

/-- Fewer than `2^28` samples are decoded on both kinds of hosts: 32-bit integers to
themselves, 64-bit integers to the nearest doubles, which are themselves up to `2^53`,
and the words of floating-point numbers to their values.  For all data, the host does
not matter. -/
theorem samples_are_decoded_alike (native : Endian) (packet : Packet F) :
    (∀ values : List (BitVec 32), values ≠ [] → values.length < 2 ^ 28 →
      Decodes .int32 native packet (values.map BitVec.toNat)
        (values.map fun value => .finite (value.toInt : F))) ∧
    (∀ values : List (BitVec 64), values ≠ [] → values.length < 2 ^ 28 →
      Decodes .int64 native packet (values.map BitVec.toNat)
        (values.map fun value => .finite (roundToDouble value.toInt : F)) ∧
      ((∀ value ∈ values, value.toInt.natAbs ≤ 2 ^ 53) →
        Decodes .int64 native packet (values.map BitVec.toNat)
          (values.map fun value => .finite (value.toInt : F)))) ∧
    (∀ words : List (BitVec 32), words ≠ [] → words.length < 2 ^ 28 →
      Decodes .float native packet (words.map BitVec.toNat)
        (words.map fun word => binary32.value word.toNat)) ∧
    (∀ words : List (BitVec 64), words ≠ [] → words.length < 2 ^ 28 →
      Decodes .double native packet (words.map BitVec.toNat)
        (words.map fun word => binary64.value word.toNat)) ∧
    ∀ (type : SampleType) (data : Bytes) (nSamples : UInt32) (other : Endian),
      (setData type native data nSamples).call packet =
        (setData type other data nSamples).call packet := by
  refine ⟨?_, ?_, ?_, ?_, ?_⟩
  · intro values hnonempty hlength
    have hdecodes := decodes_bitVec .int32 native packet rfl hnonempty hlength
    simpa only [SampleType.value, BitVec.ofNat_toNat, BitVec.setWidth_eq] using hdecodes
  · intro values hnonempty hlength
    have hdecodes := decodes_bitVec .int64 native packet rfl hnonempty hlength
    simp only [SampleType.value, BitVec.ofNat_toNat, BitVec.setWidth_eq] at hdecodes
    refine ⟨hdecodes, fun hsmall => ?_⟩
    -- All values are their own nearest doubles.
    have hexact : ∀ value ∈ values, (.finite (roundToDouble value.toInt : F) : Double F) =
        .finite (value.toInt : F) := by
      intro value hvalue
      rw [roundToDouble_of_le (hsmall value hvalue)]
    rwa [List.map_congr_left hexact] at hdecodes
  · intro words hnonempty hlength
    exact decodes_bitVec .float native packet rfl hnonempty hlength
  · intro words hnonempty hlength
    exact decodes_bitVec .double native packet rfl hnonempty hlength
  · intro type data nSamples other
    unfold setData
    rw [unpack_native type native other]

/-- A negative number and a positive one reach a big-endian host. -/
theorem negative_sample_is_decoded :
    Decodes .int32 .big ({} : Packet ℚ) [4294967294, 3] [.finite (-2), .finite 3] := by
  have hdecodes := (samples_are_decoded_alike .big ({} : Packet ℚ)).1 [-2#32, 3#32]
    (by decide) (by decide)
  exact hdecodes

end Properties
end ULocalMagnitude
