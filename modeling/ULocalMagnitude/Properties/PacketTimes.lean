import ULocalMagnitude.WaveformProcessing.Packet
import ULocalMagnitude.Rationals

/-!
# Times of packets

Whatever setters are called, and in whatever order, a packet keeps the arguments that it
accepted last, and `updateEndTime` computes the right end time from them.  It then assigns
the member to itself.  The end time stays at zero, and `getStartTime` returns it as well.
-/

namespace ULocalMagnitude
namespace Properties

open Cxx WaveformProcessing
open Packet (Setter samplingPeriodNanoSeconds)

variable {F : Type} [ExactArithmetic F]

/-! ## Runs -/

/-- The arguments that were accepted last. -/
structure Given (F : Type) where
  startTime : Option Int := none
  samplingRate : Option (Double F) := none
  nSamples : Option UInt32 := none

def Given.record (given : Given F) : Setter F → Given F
  | .startTime newStartTime => { given with startTime := some newStartTime }
  | .samplingRate newSamplingRate => { given with samplingRate := some newSamplingRate }
  | .data _ _ nSamples => { given with nSamples := some nSamples }

/-- The next call, whose arguments are recorded when it returns. -/
def callNext (native : Endian) (run : Packet F × Given F) (setter : Setter F) :
    Packet F × Given F :=
  match (setter.method native).call run.1 with
  | .ok after => (after, run.2.record setter)
  | .error _ => ((setter.method native).state run.1, run.2)

theorem callNext_of_ok {native : Endian} {run : Packet F × Given F} {setter : Setter F}
    {after : Packet F} (h : (setter.method native).call run.1 = .ok after) :
    callNext native run setter = (after, run.2.record setter) := by
  unfold callNext
  rw [h]

/-- The calls one after another on a new packet. -/
def callAll (native : Endian) (setters : List (Setter F)) : Packet F × Given F :=
  setters.foldl (callNext native) ({}, {})

/-- The times are those of the arguments that were accepted last. -/
def TimesFollow (packet : Packet F) (given : Given F) : Prop :=
  ∀ startTime samplingRate nSamples, given.startTime = some startTime →
    given.samplingRate = some samplingRate → given.nSamples = some nSamples →
      packet.getStartTime = .ok startTime ∧
        ∃ endTime, packet.getEndTime = .ok endTime ∧
          endTime = startTime +
            samplingPeriodNanoSeconds samplingRate * ((nSamples.toNat : Int) - 1) ∧
          startTime ≤ endTime

/-- The arguments that were accepted last, if there are all three, start at zero and end
where they start. -/
def EndsAtZero (given : Given F) : Prop :=
  ∀ startTime samplingRate nSamples, given.startTime = some startTime →
    given.samplingRate = some samplingRate → given.nSamples = some nSamples →
      startTime = 0 ∧ samplingPeriodNanoSeconds samplingRate * ((nSamples.toNat : Int) - 1) = 0

/-! ## The packet of a run -/

/-- The packet keeps what was given, and the end time that it was made with. -/
structure Keeps (packet : Packet F) (given : Given F) : Prop where
  hasStartTime : packet.hasStartTime = given.startTime.isSome
  startTime : ∀ startTime, given.startTime = some startTime → packet.mStartTime = startTime
  hasSamplingRate : packet.hasSamplingRate = given.samplingRate.isSome
  samplingRate : ∀ samplingRate, given.samplingRate = some samplingRate →
    packet.mSamplingRate = samplingRate
  hasData : packet.hasData = given.nSamples.isSome
  nSamples : ∀ nSamples, given.nSamples = some nSamples →
    packet.mData.length = nSamples.toNat
  endTime : packet.mEndTime = 0

theorem keeps_new : Keeps ({} : Packet F) {} where
  hasStartTime := rfl
  startTime := fun _ h => nomatch h
  hasSamplingRate := decide_eq_false (lt_irrefl (0 : F))
  samplingRate := fun _ h => nomatch h
  hasData := rfl
  nSamples := fun _ h => nomatch h
  endTime := rfl

/-- A call that returns gives the packet its arguments and changes nothing else. -/
theorem Keeps.record {native : Endian} {setter : Setter F} {packet after : Packet F}
    {given : Given F} (hkeeps : Keeps packet given)
    (h : (setter.method native).call packet = .ok after) :
    Keeps after (given.record setter) := by
  cases setter with
  | startTime newStartTime =>
      have hset : (Packet.setStartTime newStartTime).call packet = .ok after := h
      rw [Packet.call_setStartTime] at hset
      cases hset
      exact { hkeeps with
        hasStartTime := rfl
        startTime := fun _ => Option.some.inj }
  | samplingRate newSamplingRate =>
      obtain ⟨⟨rate, rfl, hpositive⟩, rfl⟩ := Packet.call_setSamplingRate_eq_ok.mp h
      exact { hkeeps with
        hasSamplingRate := decide_eq_true hpositive
        samplingRate := fun _ => Option.some.inj }
  | data type newData nSamples =>
      obtain ⟨-, -, rfl⟩ := Packet.call_setData_eq_ok.mp h
      exact { hkeeps with
        hasData := rfl
        nSamples := fun _ hsome => by
          rw [← Option.some.inj hsome]
          exact length_samples type newData nSamples }

theorem keeps_callNext (native : Endian) {run : Packet F × Given F}
    (hkeeps : Keeps run.1 run.2) (setter : Setter F) :
    Keeps (callNext native run setter).1 (callNext native run setter).2 := by
  unfold callNext
  cases hcall : (setter.method native).call run.1 with
  | ok after => exact hkeeps.record hcall
  | error reason =>
      -- The setters check everything before they change anything.
      rw [(Packet.setter_atomic native setter).state_of_call_error hcall]
      exact hkeeps

theorem keeps_callAll (native : Endian) (setters : List (Setter F)) :
    Keeps (callAll native setters).1 (callAll native setters).2 :=
  List.foldlRecOn (motive := fun run => Keeps run.1 run.2) setters (callNext native) keeps_new
    fun _ hkeeps setter _ => keeps_callNext native hkeeps setter

namespace Keeps

variable {packet : Packet F} {given : Given F} (hkeeps : Keeps packet given)
  {startTime : Int} {samplingRate : Double F} {nSamples : UInt32}
  (hstart : given.startTime = some startTime)
  (hrate : given.samplingRate = some samplingRate) (hdata : given.nSamples = some nSamples)

include hkeeps hstart hrate hdata

/-- The end time that is computed and dropped would be the right one. -/
theorem computed_endTime : packet.endTime = startTime +
    samplingPeriodNanoSeconds samplingRate * ((nSamples.toNat : Int) - 1) := by
  unfold Packet.endTime
  rw [hkeeps.startTime _ hstart, hkeeps.samplingRate _ hrate, hkeeps.nSamples _ hdata]

theorem getEndTime_eq : packet.getEndTime = .ok 0 := by
  unfold Packet.getEndTime
  rw [hkeeps.hasStartTime, hkeeps.hasSamplingRate, hkeeps.hasData, hstart, hrate, hdata,
    hkeeps.endTime]
  rfl

theorem getStartTime_eq : packet.getStartTime = .ok 0 :=
  hkeeps.getEndTime_eq hstart hrate hdata

end Keeps

/-- After any calls the times are those of the last arguments only when these are zero. -/
theorem times_follow_iff (native : Endian) (setters : List (Setter F)) :
    TimesFollow (callAll native setters).1 (callAll native setters).2 ↔
      EndsAtZero (callAll native setters).2 := by
  have hkeeps := keeps_callAll native setters
  constructor
  · intro hfollow startTime samplingRate nSamples hstart hrate hdata
    -- Both getters return zero, so zero is the start time and what the formula gives.
    obtain ⟨hreturned, endTime, hend, hformula, -⟩ :=
      hfollow startTime samplingRate nSamples hstart hrate hdata
    rw [hkeeps.getStartTime_eq hstart hrate hdata] at hreturned
    rw [hkeeps.getEndTime_eq hstart hrate hdata] at hend
    obtain rfl := Except.ok.inj hreturned
    obtain rfl := Except.ok.inj hend
    exact ⟨rfl, by rw [hformula, zero_add]⟩
  · intro hzero startTime samplingRate nSamples hstart hrate hdata
    obtain ⟨rfl, hperiod⟩ := hzero startTime samplingRate nSamples hstart hrate hdata
    refine ⟨hkeeps.getStartTime_eq hstart hrate hdata, 0,
      hkeeps.getEndTime_eq hstart hrate hdata, ?_, le_rfl⟩
    rw [hperiod, add_zero]

/-- A packet of one sample that starts after one nanosecond starts at zero. -/
theorem start_time_is_lost :
    ¬ TimesFollow
      (callAll .little [.startTime 1, .samplingRate (.finite 1 : Double ℚ),
        .data .int32 [0, 0, 0, 0] 1]).1
      (callAll .little [.startTime 1, .samplingRate (.finite 1 : Double ℚ),
        .data .int32 [0, 0, 0, 0] 1]).2 := by
  intro hfollow
  have hstart := (hfollow 1 (.finite 1) 1 (by decide +kernel) (by decide +kernel)
    (by decide +kernel)).1
  have hreturned : (callAll .little [.startTime 1, .samplingRate (.finite 1 : Double ℚ),
      .data .int32 [0, 0, 0, 0] 1]).1.getStartTime = .ok 0 := by decide +kernel
  rw [hreturned] at hstart
  cases hstart

end Properties
end ULocalMagnitude
