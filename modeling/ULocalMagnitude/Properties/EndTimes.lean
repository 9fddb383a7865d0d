import ULocalMagnitude.Properties.PacketTimes
import ULocalMagnitude.WaveformProcessing.EndTime
import ULocalMagnitude.WaveformProcessing.PacketMessage

/-!
# End times of packets

All that the setters check is that the sampling rate is positive, but `updateEndTime`
computes in 64 bits.  After any calls it is defined exactly for sampling rates above a
bound, which follows from the start time and the number of samples.  Below the bound the
sampling period is too long for the samples behind the first one, or too long altogether.
-/

namespace ULocalMagnitude
namespace Properties

open Cxx WaveformProcessing
open Packet (Setter longestPeriod)

variable {F : Type} [ExactArithmetic F]

/-- A call on a packet; start times come from timestamps. -/
inductive Call (F : Type) where
  | startTime (timestamp : Api.Timestamp)
  | samplingRate (newSamplingRate : Double F)
  | data (type : SampleType) (newData : Bytes) (nSamples : UInt32)

/-- `TimeUtil::TimestampToNanoseconds` is a parameter. -/
def Call.setter (timestampToNanoseconds : Api.Timestamp → Int64) : Call F → Setter F
  | .startTime timestamp => .startTime (timestampToNanoseconds timestamp).toInt
  | .samplingRate newSamplingRate => .samplingRate newSamplingRate
  | .data type newData nSamples => .data type newData nSamples

/-- The sampling rate that was accepted last is above the bound for the start time and the
number of samples that were. -/
def IsFastEnough (given : Given F) : Prop :=
  ∀ startTime samplingRate nSamples, given.startTime = some startTime →
    given.samplingRate = some (.finite samplingRate) → given.nSamples = some nSamples →
      10 ^ 9 / ((longestPeriod startTime nSamples.toNat : F) + 1 / 2) < samplingRate

/-! ## Arguments of accepted calls -/

/-- The sampling rate is a number, and what was accepted is in range. -/
structure InRange (run : Packet F × Given F) : Prop where
  samplingRate : run.1.mSamplingRate.isFinite = true
  startTime : ∀ startTime, run.2.startTime = some startTime → InInt64 startTime
  nSamples : ∀ nSamples, run.2.nSamples = some nSamples → 0 < nSamples.toNat

theorem inRange_new : InRange (({}, {}) : Packet F × Given F) where
  samplingRate := rfl
  startTime := fun _ h => nomatch h
  nSamples := fun _ h => nomatch h

section Runs

variable {timestampToNanoseconds : Api.Timestamp → Int64} {native : Endian}

theorem InRange.record {call : Call F} {packet after : Packet F} {given : Given F}
    (hrange : InRange (packet, given))
    (h : ((call.setter timestampToNanoseconds).method native).call packet = .ok after) :
    InRange (after, given.record (call.setter timestampToNanoseconds)) := by
  cases call with
  | startTime timestamp =>
      have hset : (Packet.setStartTime
        (timestampToNanoseconds timestamp).toInt).call packet = .ok after := h
      rw [Packet.call_setStartTime] at hset
      cases hset
      exact { hrange with
        startTime := fun _ hsome => by
          rw [← Option.some.inj hsome]
          exact inInt64_toInt _ }
  | samplingRate newSamplingRate =>
      obtain ⟨⟨rate, rfl, -⟩, rfl⟩ := Packet.call_setSamplingRate_eq_ok.mp h
      exact { hrange with samplingRate := rfl }
  | data type newData nSamples =>
      obtain ⟨hpasses, -, rfl⟩ := Packet.call_setData_eq_ok.mp h
      exact { hrange with
        nSamples := fun _ hsome => by
          rw [← Option.some.inj hsome]
          exact hpasses.nSamples_pos }

theorem inRange_callNext {run : Packet F × Given F} (hrange : InRange run) (call : Call F) :
    InRange (callNext native run (call.setter timestampToNanoseconds)) := by
  unfold callNext
  cases hcall : ((call.setter timestampToNanoseconds).method native).call run.1 with
  | ok after => exact hrange.record hcall
  | error reason =>
      rw [(Packet.setter_atomic native _).state_of_call_error hcall]
      exact hrange

theorem inRange_callAll (calls : List (Call F)) :
    InRange (callAll native (calls.map (Call.setter timestampToNanoseconds))) := by
  refine List.foldlRecOn (motive := InRange) _ (callNext native) inRange_new
    fun run hrange setter hsetter => ?_
  obtain ⟨call, -, rfl⟩ := List.mem_map.mp hsetter
  exact inRange_callNext hrange call

end Runs

/-! ## When the end time can be computed -/

/-- With all three arguments it is the sampling rate that decides. -/
theorem Keeps.exists_updateEndTime64_iff {packet : Packet F} {given : Given F}
    (hkeeps : Keeps packet given) (hrange : InRange (packet, given)) {startTime : Int}
    {nSamples : UInt32} {samplingRate : F} (hstart : given.startTime = some startTime)
    (hrate : given.samplingRate = some (.finite samplingRate))
    (hdata : given.nSamples = some nSamples) :
    (∃ after, packet.updateEndTime64 = .ok after) ↔
      10 ^ 9 / ((longestPeriod startTime nSamples.toNat : F) + 1 / 2) < samplingRate := by
  have hone : 0 < nSamples.toNat := hrange.nSamples _ hdata
  have hmany : nSamples.toNat < 2 ^ 32 := nSamples.toNat_lt
  have hpositive : 0 < samplingRate := by
    have hhas := hkeeps.hasSamplingRate
    rw [hrate, Packet.hasSamplingRate, hkeeps.samplingRate _ hrate] at hhas
    exact of_decide_eq_true hhas
  rw [Packet.exists_updateEndTime64_iff (by rw [hkeeps.hasStartTime, hstart]; rfl)
    (by rw [hkeeps.hasData, hdata]; rfl) (hkeeps.samplingRate _ hrate) hpositive,
    hkeeps.startTime _ hstart, hkeeps.samplingRate _ hrate, hkeeps.nSamples _ hdata]
  refine Packet.fits_iff_lt (hrange.startTime _ hstart) (by omega) ?_ hpositive
  unfold InInt64
  omega

/-- Where an argument is missing nothing is computed, and nothing is asked for. -/
theorem Keeps.updateEndTime64_iff {packet : Packet F} {given : Given F}
    (hkeeps : Keeps packet given) (hrange : InRange (packet, given)) :
    (∃ after, packet.updateEndTime64 = .ok after) ↔ IsFastEnough given := by
  have hmissing (h : given.startTime = none ∨ given.nSamples = none ∨
      given.samplingRate = none) : packet.updateEndTime64 = .ok packet := by
    refine Packet.updateEndTime64_of_missing hrange.samplingRate ?_
    rw [hkeeps.hasStartTime, hkeeps.hasData, hkeeps.hasSamplingRate]
    rcases h with h | h | h
    · exact Or.inl (by rw [h]; rfl)
    · exact Or.inr (Or.inl (by rw [h]; rfl))
    · exact Or.inr (Or.inr (by rw [h]; rfl))
  constructor
  · intro hreturns startTime samplingRate nSamples hstart hrate hdata
    exact (hkeeps.exists_updateEndTime64_iff hrange hstart hrate hdata).mp hreturns
  · intro hfast
    cases hstart : given.startTime with
    | none => exact ⟨packet, hmissing (Or.inl hstart)⟩
    | some startTime =>
        cases hdata : given.nSamples with
        | none => exact ⟨packet, hmissing (Or.inr (Or.inl hdata))⟩
        | some nSamples =>
            cases hrate : given.samplingRate with
            | none => exact ⟨packet, hmissing (Or.inr (Or.inr hrate))⟩
            | some samplingRate =>
                -- An accepted sampling rate is a number.
                have hfinite := hrange.samplingRate
                rw [hkeeps.samplingRate _ hrate] at hfinite
                obtain ⟨rate, rfl⟩ := Double.exists_finite hfinite
                exact (hkeeps.exists_updateEndTime64_iff hrange hstart hrate hdata).mpr
                  (hfast startTime rate nSamples hstart hrate hdata)

/-- After any calls the end time can be computed in 64 bits exactly when the sampling rate
is high enough for the start time and the number of samples. -/
theorem end_time_fits_iff (timestampToNanoseconds : Api.Timestamp → Int64) (native : Endian)
    (calls : List (Call F)) :
    (∃ after, (callAll native
        (calls.map (Call.setter timestampToNanoseconds))).1.updateEndTime64 = .ok after) ↔
      IsFastEnough (callAll native (calls.map (Call.setter timestampToNanoseconds))).2 :=
  (keeps_callAll native _).updateEndTime64_iff (inRange_callAll calls)

/-- The nanoseconds of a timestamp. -/
def nanosecondsOf (timestamp : Api.Timestamp) : Int64 :=
  timestamp.seconds * 1000000000 + timestamp.nanos.toInt64

/-- Two samples, one second apart, from the last nanosecond on that there is. -/
theorem last_second_overflows :
    ¬ ∃ after, (callAll .little ([.startTime { seconds := 9223372036, nanos := 854775807 },
      .samplingRate (.finite 1 : Double ℚ), .data .int32 [0, 0, 0, 0, 0, 0, 0, 0] 2].map
        (Call.setter nanosecondsOf))).1.updateEndTime64 = .ok after := by
  rintro ⟨after, hreturns⟩
  have hundefined : (callAll .little
      ([.startTime { seconds := 9223372036, nanos := 854775807 },
        .samplingRate (.finite 1 : Double ℚ), .data .int32 [0, 0, 0, 0, 0, 0, 0, 0] 2].map
          (Call.setter nanosecondsOf))).1.updateEndTime64.isOk = false := by decide +kernel
  rw [hreturns] at hundefined
  cases hundefined

/-! ## Packets from messages -/

/-- The arguments that the constructor takes from a message. -/
def Given.ofMessage (timestampToNanoseconds : Api.Timestamp → Int64)
    (message : Api.Packet F) : Given F where
  startTime := message.startTime.map fun timestamp => (timestampToNanoseconds timestamp).toInt
  samplingRate := message.samplingRate
  nSamples := some (message.numberOfSamples.getD 0)

/-- The constructor makes three calls on a new packet. -/
theorem exists_callAll_of_ofMessage {timestampToNanoseconds : Api.Timestamp → Int64}
    {native : Endian} {message : Api.Packet F} {packet : Packet F}
    (h : Packet.ofMessage timestampToNanoseconds native message = .ok packet) :
    ∃ calls : List (Call F),
      callAll native (calls.map (Call.setter timestampToNanoseconds)) =
        (packet, Given.ofMessage timestampToNanoseconds message) := by
  obtain ⟨timestamp, samplingRate, dataType, data, type, started, sampled, hstart, hrate, -,
    -, -, hstarted, hsampled, hpacket⟩ := Packet.ofMessage_eq_ok.mp h
  have hfirst (given : Given F) : callNext native ({}, given)
      (.startTime (timestampToNanoseconds timestamp).toInt) =
        (started, given.record (.startTime (timestampToNanoseconds timestamp).toInt)) :=
    callNext_of_ok hstarted
  have hsecond (given : Given F) :
      callNext native (started, given) (.samplingRate samplingRate) =
        (sampled, given.record (.samplingRate samplingRate)) :=
    callNext_of_ok hsampled
  have hthird (given : Given F) : callNext native (sampled, given)
      (.data type data (message.numberOfSamples.getD 0)) =
        (packet, given.record (.data type data (message.numberOfSamples.getD 0))) :=
    callNext_of_ok hpacket
  refine ⟨[.startTime timestamp, .samplingRate samplingRate,
    .data type data (message.numberOfSamples.getD 0)], ?_⟩
  unfold Given.ofMessage
  rw [hstart, hrate]
  show callNext native (callNext native (callNext native ({}, {}) _) _) _ = _
  rw [Call.setter, Call.setter, Call.setter, hfirst, hsecond, hthird]
  rfl

/-- The end time of a packet from a message fits when the sampling rate is high enough. -/
theorem end_time_of_message_fits_iff {timestampToNanoseconds : Api.Timestamp → Int64}
    {native : Endian} {message : Api.Packet F} {packet : Packet F}
    (h : Packet.ofMessage timestampToNanoseconds native message = .ok packet) :
    (∃ after, packet.updateEndTime64 = .ok after) ↔
      IsFastEnough (Given.ofMessage timestampToNanoseconds message) := by
  obtain ⟨calls, hrun⟩ := exists_callAll_of_ofMessage h
  have hkeeps := keeps_callAll native (calls.map (Call.setter timestampToNanoseconds))
  have hrange : InRange (callAll native
      (calls.map (Call.setter timestampToNanoseconds))) := inRange_callAll calls
  rw [hrun] at hkeeps hrange
  exact hkeeps.updateEndTime64_iff hrange

end Properties
end ULocalMagnitude
