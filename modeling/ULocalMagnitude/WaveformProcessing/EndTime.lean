import ULocalMagnitude.Cxx.Integers
import ULocalMagnitude.WaveformProcessing.Packet

/-!
# The end time in 64 bits

The setters of a packet end with `updateEndTime`, which rounds the sampling period to
nanoseconds and goes on from the start time for the periods between the samples.  In
`Packet.updateEndTime` the integers are unbounded; here they are those of the code, and
what does not fit into them is undefined.

The longest period that fits follows from the start time and the number of samples, and
the rounded period is no longer than it for the sampling rates above a bound.
-/

namespace ULocalMagnitude
namespace WaveformProcessing

open Cxx

variable {F : Type} [ExactArithmetic F]

namespace Packet

/-- `updateEndTime`, on integers of type `int64_t`.  The conversion of `mData.size ()` to
this type is defined for every size. -/
def updateEndTime64 (packet : Packet F) : Throws (Packet F) :=
  if !packet.mHasStartTime then return packet
  else if !packet.mHasData then return packet
  else if packet.mSamplingRate ≤ .finite 0 then return packet
  else do
    let period ← int64 (samplingPeriodNanoSeconds packet.mSamplingRate)
    let steps ← int64 ((packet.mData.length : Int) - 1)
    let duration ← int64 (period * steps)
    let _endTime ← int64 (packet.mStartTime + duration)
    return { packet with mEndTime := packet.mEndTime }

/-- It does what it does on unbounded integers, or it is undefined. -/
theorem updateEndTime64_cases (packet : Packet F) :
    packet.updateEndTime64 = .ok packet.updateEndTime ∨
      packet.updateEndTime64 = .error .undefinedBehavior := by
  rw [updateEndTime_eq]
  unfold updateEndTime64
  split
  · exact Or.inl rfl
  · split
    · exact Or.inl rfl
    · split
      · exact Or.inl rfl
      · -- One operation after the other is undefined or has its result.
        rcases int64_bind_cases (samplingPeriodNanoSeconds packet.mSamplingRate) _
          with h | h
        · exact Or.inr h
        rw [h]
        rcases int64_bind_cases ((packet.mData.length : Int) - 1) _ with h | h
        · exact Or.inr h
        rw [h]
        rcases int64_bind_cases (samplingPeriodNanoSeconds packet.mSamplingRate *
          ((packet.mData.length : Int) - 1)) _ with h | h
        · exact Or.inr h
        rw [h]
        rcases int64_bind_cases packet.endTime _ with h | h
        · exact Or.inr h
        · exact Or.inl h

/-- The numbers on the way to an end time fit into `int64_t`. -/
structure Fits (startTime : Int) (samplingRate : Double F) (nSamples : Int) : Prop where
  period : InInt64 (samplingPeriodNanoSeconds samplingRate)
  steps : InInt64 (nSamples - 1)
  duration : InInt64 (samplingPeriodNanoSeconds samplingRate * (nSamples - 1))
  endTime : InInt64 (startTime + samplingPeriodNanoSeconds samplingRate * (nSamples - 1))

/-- Where something is missing nothing is computed. -/
theorem updateEndTime64_of_missing {packet : Packet F}
    (hfinite : packet.mSamplingRate.isFinite = true)
    (h : packet.hasStartTime = false ∨ packet.hasData = false ∨
      packet.hasSamplingRate = false) : packet.updateEndTime64 = .ok packet := by
  obtain ⟨rate, hrate⟩ := Double.exists_finite hfinite
  unfold updateEndTime64
  rcases h with hstart | hdata | hmissing
  · rw [if_pos (by rw [← hasStartTime, hstart]; rfl)]
    rfl
  · split
    · rfl
    · rw [if_pos (by rw [← hasData, hdata]; rfl)]
      rfl
  · have hnot : packet.mSamplingRate ≤ .finite 0 := by
      unfold hasSamplingRate at hmissing
      rw [hrate] at hmissing ⊢
      exact not_lt.mp (of_decide_eq_false hmissing)
    rw [if_pos hnot, ite_self, ite_self]
    rfl

/-- With everything set it returns when what it computes fits. -/
theorem exists_updateEndTime64_iff {packet : Packet F} {rate : F}
    (hstart : packet.hasStartTime = true) (hdata : packet.hasData = true)
    (hrate : packet.mSamplingRate = .finite rate) (hpositive : 0 < rate) :
    (∃ after, packet.updateEndTime64 = .ok after) ↔
      Fits packet.mStartTime packet.mSamplingRate packet.mData.length := by
  have hnot : ¬ packet.mSamplingRate ≤ .finite 0 := by
    rw [hrate]
    exact not_le.mpr hpositive
  unfold updateEndTime64
  rw [if_neg (by rw [← hasStartTime, hstart]; decide),
    if_neg (by rw [← hasData, hdata]; decide), if_neg hnot]
  simp only [int64_bind_eq_ok]
  constructor
  · rintro ⟨_, hperiod, hsteps, hduration, hend, -⟩
    exact ⟨hperiod, hsteps, hduration, hend⟩
  · intro hfits
    exact ⟨_, hfits.period, hfits.steps, hfits.duration, hfits.endTime, rfl⟩

/-! ## The longest period -/

/-- The longest sampling period with which the last sample is in time. -/
def longestPeriod (startTime nSamples : Int) : Int :=
  if nSamples = 1 then greatestInt64 else room startTime / (nSamples - 1)

/-- The rounded period of a positive sampling rate. -/
theorem samplingPeriodNanoSeconds_finite {rate : F} (h : 0 < rate) :
    samplingPeriodNanoSeconds (.finite rate) = ⌊10 ^ 9 / rate + 1 / 2⌋ := by
  have hbillion : (1000000000 : F) = 10 ^ 9 := by norm_num
  have hperiod : ¬ (10 ^ 9 / rate : F) < 0 := not_lt.mpr (by positivity)
  unfold samplingPeriodNanoSeconds
  rw [Double.finite_div_finite _ h.ne', Double.val_finite, hbillion]
  exact if_neg hperiod

theorem samplingPeriodNanoSeconds_nonneg {rate : F} (h : 0 < rate) :
    0 ≤ samplingPeriodNanoSeconds (.finite rate) := by
  rw [samplingPeriodNanoSeconds_finite h]
  exact Int.floor_nonneg.mpr (by positivity)

/-- A rounded period is no longer than a bound for all sampling rates above another one. -/
theorem samplingPeriodNanoSeconds_le_iff {rate : F} (hrate : 0 < rate) {bound : Int}
    (hbound : 0 ≤ bound) :
    samplingPeriodNanoSeconds (.finite rate) ≤ bound ↔
      10 ^ 9 / ((bound : F) + 1 / 2) < rate := by
  have hpositive : (0 : F) < bound + 1 / 2 := by
    have : (0 : F) ≤ bound := Int.cast_nonneg hbound
    positivity
  rw [samplingPeriodNanoSeconds_finite hrate, ← Int.lt_add_one_iff, Int.floor_lt,
    Int.cast_add, Int.cast_one, div_lt_comm₀ hpositive hrate]
  constructor
  · intro h
    linarith
  · intro h
    linarith

section LongestPeriod

variable {startTime nSamples : Int} (hstart : InInt64 startTime) (hone : 1 ≤ nSamples)

include hstart hone

theorem longestPeriod_nonneg : 0 ≤ longestPeriod startTime nSamples := by
  unfold longestPeriod
  split
  · decide
  · exact Int.ediv_nonneg (room_nonneg hstart) (by omega)

/-- Everything fits when the period is no longer than that. -/
theorem fits_iff (hmany : InInt64 nSamples) {rate : F} (hrate : 0 < rate) :
    Fits startTime (.finite rate) nSamples ↔
      samplingPeriodNanoSeconds (.finite rate) ≤ longestPeriod startTime nSamples := by
  have hsteps : InInt64 (nSamples - 1) := by
    unfold InInt64 at hmany ⊢
    omega
  have hnonneg := samplingPeriodNanoSeconds_nonneg hrate
  unfold longestPeriod
  split
  case isTrue hsingle =>
    -- There is no step, so the period is all that counts.
    have hzero : samplingPeriodNanoSeconds (.finite rate : Double F) * (nSamples - 1) = 0 := by
      rw [hsingle, sub_self, mul_zero]
    rw [← inInt64_iff_of_nonneg hnonneg]
    constructor
    · intro hfits
      exact hfits.period
    · intro hperiod
      refine ⟨hperiod, hsteps, ?_, ?_⟩
      · rw [hzero]
        decide
      · rw [hzero, add_zero]
        exact hstart
  case isFalse hseveral =>
    have hpositive : 0 < nSamples - 1 := by omega
    rw [Int.le_ediv_iff_mul_le hpositive,
      ← inInt64_add_iff hstart (mul_nonneg hnonneg hpositive.le)]
    constructor
    · intro hfits
      exact ⟨hfits.duration, hfits.endTime⟩
    · rintro ⟨hduration, hend⟩
      -- The period is at most the duration.
      have hle : samplingPeriodNanoSeconds (.finite rate : Double F) ≤
          samplingPeriodNanoSeconds (.finite rate : Double F) * (nSamples - 1) :=
        le_mul_of_one_le_right hnonneg (by omega)
      refine ⟨?_, hsteps, hduration, hend⟩
      exact (inInt64_iff_of_nonneg hnonneg).mpr (hle.trans
        ((inInt64_iff_of_nonneg (hnonneg.trans hle)).mp hduration))

/-- Everything fits for the sampling rates above a bound. -/
theorem fits_iff_lt (hmany : InInt64 nSamples) {rate : F} (hrate : 0 < rate) :
    Fits startTime (.finite rate) nSamples ↔
      10 ^ 9 / ((longestPeriod startTime nSamples : F) + 1 / 2) < rate := by
  rw [fits_iff hstart hone hmany hrate,
    samplingPeriodNanoSeconds_le_iff hrate (longestPeriod_nonneg hstart hone)]

end LongestPeriod

end Packet

end WaveformProcessing
end ULocalMagnitude
