import ULocalMagnitude.WaveformProcessing.Unpack
import ULocalMagnitude.Cxx.Objects

/-!
# Packets

`waveformProcessing/packet.cpp`: the samples of a packet with its start time and its
sampling rate.  The end time is kept in a field that all three setters update.  Times are
nanoseconds, as unbounded integers.
-/

namespace ULocalMagnitude
namespace WaveformProcessing

open Cxx

variable {F : Type} [Arithmetic F]

/-- `Packet::PacketImpl`; `std::make_unique` zeroes the times. -/
structure Packet (F : Type) [Arithmetic F] where
  mData : List (Double F) := []
  mStartTime : Int := 0
  mEndTime : Int := 0
  mSamplingRate : Double F := .finite 0
  mHasStartTime : Bool := false
  mHasData : Bool := false

namespace Packet

/-- `std::round` of a number: to the nearest integer, from the middle away from zero. -/
def roundAway (x : F) : ℤ := if x < 0 then -⌊-x + 1 / 2⌋ else ⌊x + 1 / 2⌋

/-- `static_cast<int64_t> (std::round(1.e9/mSamplingRate))` -/
def samplingPeriodNanoSeconds (samplingRate : Double F) : Int :=
  roundAway (.finite 1000000000 / samplingRate : Double F).val

/-- The `endTime` that `updateEndTime` computes. -/
def endTime (packet : Packet F) : Int :=
  packet.mStartTime +
    samplingPeriodNanoSeconds packet.mSamplingRate * ((packet.mData.length : Int) - 1)

def updateEndTime (packet : Packet F) : Packet F :=
  if !packet.mHasStartTime then packet
  else if !packet.mHasData then packet
  else if packet.mSamplingRate ≤ .finite 0 then packet
  else
    -- The member is assigned to itself, not the computed value to the member.
    let _endTime := packet.endTime
    { packet with mEndTime := packet.mEndTime }

/-- Data -/
def setData (type : SampleType) (native : Endian) (data : Bytes) (nSamples : UInt32) :
    Method (Packet F) Unit := do
  throwIf (data = []) (.invalidArgument "Data is empty")
  let samples ← liftM (unpack (F := F) type native data nSamples (swapBytes native))
  modify fun packet => updateEndTime { packet with mData := samples, mHasData := true }

def hasData (packet : Packet F) : Bool := packet.mHasData

def getData (packet : Packet F) : Throws (List (Double F)) := do
  throwIf (!packet.hasData) (.runtimeError "Data not set")
  return packet.mData

/-- Start time -/
def setStartTime (startTime : Int) : Method (Packet F) Unit :=
  modify fun packet =>
    updateEndTime { packet with mStartTime := startTime, mHasStartTime := true }

def hasStartTime (packet : Packet F) : Bool := packet.mHasStartTime

/-- Sampling rate -/
def setSamplingRate (samplingRate : Double F) : Method (Packet F) Unit := do
  throwIf (!samplingRate.isFinite) (.invalidArgument "Sampling rate not finite")
  throwIf (samplingRate ≤ .finite 0) (.invalidArgument "Sampling rate is not positive")
  modify fun packet => updateEndTime { packet with mSamplingRate := samplingRate }

def hasSamplingRate (packet : Packet F) : Bool := decide (packet.mSamplingRate > .finite 0)

def getSamplingRate (packet : Packet F) : Throws (Double F) := do
  throwIf (!packet.hasSamplingRate) (.runtimeError "Sampling rate not set")
  return packet.mSamplingRate

/-- Returns the end time, as its sibling does. -/
def getStartTime (packet : Packet F) : Throws Int := do
  throwIf (!packet.hasStartTime) (.runtimeError "Start time not set")
  throwIf (!packet.hasSamplingRate) (.runtimeError "Sampling rate not set")
  throwIf (!packet.hasData) (.runtimeError "Data not set")
  return packet.mEndTime

def getEndTime (packet : Packet F) : Throws Int := do
  throwIf (!packet.hasStartTime) (.runtimeError "Start time not set")
  throwIf (!packet.hasSamplingRate) (.runtimeError "Sampling rate not set")
  throwIf (!packet.hasData) (.runtimeError "Data not set")
  return packet.mEndTime

/-! ## The calls on a packet -/

/-- A setter with its arguments. -/
inductive Setter (F : Type) where
  | startTime (newStartTime : Int)
  | samplingRate (newSamplingRate : Double F)
  | data (type : SampleType) (newData : Bytes) (nSamples : UInt32)

def Setter.method (native : Endian) : Setter F → Method (Packet F) Unit
  | .startTime newStartTime => setStartTime newStartTime
  | .samplingRate newSamplingRate => setSamplingRate newSamplingRate
  | .data type newData nSamples => setData type native newData nSamples

theorem setter_atomic (native : Endian) (setter : Setter F) :
    (setter.method native).Atomic := by
  cases setter with
  | startTime newStartTime => exact .modify _
  | samplingRate newSamplingRate => exact .lift_bind fun _ => .lift_bind fun _ => .modify _
  | data type newData nSamples => exact .lift_bind fun _ => .lift_bind fun _ => .modify _

/-- The cached end time is never changed. -/
@[simp] theorem updateEndTime_eq (packet : Packet F) : packet.updateEndTime = packet := by
  unfold updateEndTime
  split
  · rfl
  · split
    · rfl
    · split
      · rfl
      · rfl

theorem call_setData_eq_ok {type : SampleType} {native : Endian} {data : Bytes}
    {nSamples : UInt32} {packet after : Packet F} :
    (setData type native data nSamples).call packet = .ok after ↔
      Passes type data nSamples ∧ nSamples.toNat * type.size ≤ data.length ∧
        { packet with mData := samples type data nSamples, mHasData := true } = after := by
  simp only [setData, Method.call_lift_bind, Method.call_modify, throwIf_bind_eq_ok]
  simp only [bind_eq_ok, unpack_eq_ok_iff, updateEndTime_eq, Except.ok.injEq]
  constructor
  · rintro ⟨-, _, ⟨hpasses, henough, rfl⟩, hafter⟩
    exact ⟨hpasses, henough, hafter⟩
  · rintro ⟨hpasses, henough, hafter⟩
    exact ⟨hpasses.nonempty, _, ⟨hpasses, henough, rfl⟩, hafter⟩

theorem call_setSamplingRate_eq_ok {samplingRate : Double F} {packet after : Packet F} :
    (setSamplingRate samplingRate).call packet = .ok after ↔
      (∃ x, samplingRate = .finite x ∧ 0 < x) ∧
        { packet with mSamplingRate := samplingRate } = after := by
  simp only [setSamplingRate, Method.call_lift_bind, Method.call_modify, throwIf_bind_eq_ok,
    updateEndTime_eq, Except.ok.injEq, Bool.not_eq_true', Bool.not_eq_false]
  constructor
  · rintro ⟨hfinite, hpositive, hafter⟩
    obtain ⟨x, rfl⟩ := Double.exists_finite hfinite
    exact ⟨⟨x, rfl, not_le.mp hpositive⟩, hafter⟩
  · rintro ⟨⟨x, rfl, hpositive⟩, hafter⟩
    exact ⟨rfl, not_le.mpr hpositive, hafter⟩

@[simp] theorem call_setStartTime (startTime : Int) (packet : Packet F) :
    (setStartTime startTime).call packet =
      .ok { packet with mStartTime := startTime, mHasStartTime := true } := by
  simp [setStartTime]

end Packet

end WaveformProcessing
end ULocalMagnitude
