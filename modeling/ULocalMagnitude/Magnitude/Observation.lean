import ULocalMagnitude.Corrections.Distance
import ULocalMagnitude.Corrections.StationIdentifier
import ULocalMagnitude.Magnitude.Amplitude

/-!
# Observations

`magnitude/observation.cpp`: the two amplitudes of a station with the distance
and the depth of the source.  Two amplitudes are accepted when they were measured
on two channels of one station that differ in their last letter.  The code takes
the name of the station from the first amplitude; `Paired` states the condition
for both of them alike.
-/

namespace ULocalMagnitude
namespace Magnitude

open Cxx
open Corrections (Hypocenter StationLocation Distance StationIdentifier)

variable {F : Type} [Arithmetic F]

/-- `Observation::ObservationImpl` -/
structure Observation (F : Type) [Arithmetic F] where
  mAmplitudes : Amplitude F × Amplitude F := ({}, {})
  mStationName : Bytes := []
  mEpicentralDistance : Double F := .finite 0
  mSourceDepth : Double F := .finite 0
  mHasAmplitudes : Bool := false
  mHasEpicentralDistance : Bool := false
  mHasSourceDepth : Bool := false
deriving DecidableEq

namespace Observation

/-- A channel without its last letter: `channel.substr(0, channel.size() - 1)` -/
def withoutComponent (channel : Bytes) : Bytes := channel.take (channel.length - 1)

/-- The checks of `setAmplitudes`; returns the name of the station. -/
def checkAmplitudes (amplitudes : Amplitude F × Amplitude F) : Throws Bytes := do
  throwIf (!amplitudes.1.hasValue) (.invalidArgument "No amplitude on first amplitude")
  throwIf (!amplitudes.2.hasValue) (.invalidArgument "No amplitude on second amplitude")
  throwIf (!amplitudes.1.hasIdentifier)
    (.invalidArgument "No stream identifier on first amplitude")
  throwIf (!amplitudes.2.hasIdentifier)
    (.invalidArgument "No stream identifier on second amplitude")
  -- Need a few things to match up based on NSCL
  let streamIdentifier1 ← amplitudes.1.getIdentifier
  let streamIdentifier2 ← amplitudes.2.getIdentifier
  let name1 ← streamIdentifier1.toString
  let name2 ← streamIdentifier2.toString
  throwIf (name1 = name2) (.invalidArgument "Amplitude observations from same channel")
  -- Now need to match the network/station to match
  let stationIdentifier1 ← StationIdentifier.ofStreamIdentifier streamIdentifier1
  let stationIdentifier2 ← StationIdentifier.ofStreamIdentifier streamIdentifier2
  let stationName1 ← stationIdentifier1.toString
  let stationName2 ← stationIdentifier2.toString
  throwIf (stationName1 ≠ stationName2)
    (.invalidArgument "Amplitude observations made on different stations")
  -- Check the location code b/c it's easy
  let locationCode1 ← streamIdentifier1.getLocationCode
  let locationCode2 ← streamIdentifier2.getLocationCode
  throwIf (locationCode1 ≠ locationCode2)
    (.invalidArgument "Amplitude observations made on different streams")
  -- Check everything but the last letter (component) on channel
  let channel1 ← streamIdentifier1.getChannel
  let channel2 ← streamIdentifier2.getChannel
  throwIf (withoutComponent channel1 ≠ withoutComponent channel2)
    (.invalidArgument ("Amplitude observations made on different components - " ++
      toText channel1 ++ " " ++ toText channel2))
  return stationName1

def setAmplitudes (amplitudes : Amplitude F × Amplitude F) :
    Method (Observation F) Unit := do
  let stationName ← liftM (checkAmplitudes amplitudes)
  modify fun observation =>
    { observation with mStationName := stationName, mAmplitudes := amplitudes,
                       mHasAmplitudes := true }

def hasAmplitudes (observation : Observation F) : Bool := observation.mHasAmplitudes

def getAmplitudes (observation : Observation F) : Throws (Amplitude F × Amplitude F) := do
  throwIf (!observation.hasAmplitudes) (.runtimeError "Amplitudes not set")
  return observation.mAmplitudes

def getStationName (observation : Observation F) : Throws Bytes := do
  throwIf (!observation.hasAmplitudes) (.runtimeError "Amplitudes not set")
  return observation.mStationName

/-- Source-receiver distance -/
def setEpicentralDistance (distance : Double F) : Method (Observation F) Unit := do
  throwIf (!distance.isFinite) (.invalidArgument "Distance must be finite")
  throwIf (distance < .finite 0)
    (.invalidArgument "Epicentral distance must be non-negative")
  throwIf (distance > .finite 21000000)
    (.invalidArgument "Epicentral Distance cannot exceed 21,000,000")
  modify fun observation =>
    { observation with mEpicentralDistance := distance, mHasEpicentralDistance := true }

def hasEpicentralDistance (observation : Observation F) : Bool :=
  observation.mHasEpicentralDistance

def getEpicentralDistance (observation : Observation F) : Throws (Double F) := do
  throwIf (!observation.hasEpicentralDistance)
    (.runtimeError "Epicentral distance not set")
  return observation.mEpicentralDistance

/-- Source depth -/
def setDepth (depth : Double F) : Method (Observation F) Unit := do
  throwIf (!depth.isFinite) (.invalidArgument "Depth must be finite")
  throwIf (depth < .finite (-8600) ∨ depth > .finite 900000)
    (.invalidArgument "Depth must be in range [-8600, 900000]")
  modify fun observation =>
    { observation with mSourceDepth := depth, mHasSourceDepth := true }

def hasDepth (observation : Observation F) : Bool := observation.mHasSourceDepth

def getDepth (observation : Observation F) : Throws (Double F) := do
  throwIf (!observation.hasDepth) (.runtimeError "Depth not set")
  return observation.mSourceDepth

/-- Create from a station amplitude measurement -/
def ofMeasurement (inverse : Distance.Inverse F)
    (measurement : Api.StationAmplitudeMeasurement F) (hypocenter : Hypocenter F) :
    Throws (Observation F) := do
  let amplitudeStream1 ← require measurement.amplitudeStream1
    (.invalidArgument "First amplitude not set")
  let amplitudeStream2 ← require measurement.amplitudeStream2
    (.invalidArgument "Second amplitude not set")
  let location ← require measurement.stationLocation
    (.invalidArgument "Station location not set")
  let stationLocation ← StationLocation.ofMessage location
  let epicentralDistance ← Distance.computeEpicentralDistance inverse hypocenter
    stationLocation
  let thisObservation : Observation F := {}
  let amplitude1 ← Amplitude.ofMessage amplitudeStream1
  let amplitude2 ← Amplitude.ofMessage amplitudeStream2
  let thisObservation ← (setAmplitudes (amplitude1, amplitude2)).call thisObservation
  let thisObservation ← (setEpicentralDistance epicentralDistance).call thisObservation
  (setDepth (← hypocenter.getDepth)).call thisObservation

/-- The same with the message of a hypocenter. -/
def ofMessages (inverse : Distance.Inverse F)
    (measurement : Api.StationAmplitudeMeasurement F) (hypocenterMessage : Api.Hypocenter F) :
    Throws (Observation F) := do
  let hypocenter ← Hypocenter.ofMessage hypocenterMessage
  ofMeasurement inverse measurement hypocenter

/-! ## The calls on an observation -/

/-- A setter with its argument. -/
inductive Setter (F : Type) [Arithmetic F] where
  | amplitudes (newAmplitudes : Amplitude F × Amplitude F)
  | epicentralDistance (newDistance : Double F)
  | depth (newDepth : Double F)

def Setter.method : Setter F → Method (Observation F) Unit
  | .amplitudes newAmplitudes => setAmplitudes newAmplitudes
  | .epicentralDistance newDistance => setEpicentralDistance newDistance
  | .depth newDepth => setDepth newDepth

/-- Amplitudes are themselves made through their class. -/
def Setter.Admissible : Setter F → Prop
  | .amplitudes newAmplitudes => newAmplitudes.1.IsReachable ∧ newAmplitudes.2.IsReachable
  | .epicentralDistance _ => True
  | .depth _ => True

/-- Default constructed or built from a measurement, then used through the setters. -/
def IsReachable (observation : Observation F) : Prop :=
  Reachable (fun built => built = {} ∨
      ∃ inverse measurement hypocenter,
        ofMeasurement inverse measurement hypocenter = .ok built)
    Setter.method Setter.Admissible observation

theorem setter_atomic (setter : Setter F) : setter.method.Atomic := by
  cases setter with
  | amplitudes amplitudes => exact .lift_bind fun _ => .modify _
  | epicentralDistance distance =>
      exact .lift_bind fun _ => .lift_bind fun _ => .lift_bind fun _ => .modify _
  | depth depth => exact .lift_bind fun _ => .lift_bind fun _ => .modify _

/-! ## Accepted pairs -/

/-- The station of an amplitude, in normal form. -/
def stationOf (amplitude : Amplitude F) : StationIdentifier where
  mNetwork := capitalized amplitude.mIdentifier.mNetwork
  mStation := capitalized amplitude.mIdentifier.mStation

/-- One of the two amplitudes is usable. -/
structure Usable (amplitude : Amplitude F) : Prop where
  value : amplitude.hasValue = true
  identifier : amplitude.mHasIdentifier = true
  complete : amplitude.mIdentifier.Complete
  network : (stationOf amplitude).mNetwork ≠ []
  station : (stationOf amplitude).mStation ≠ []

/-- The amplitudes are usable and were measured on two channels of one station that
differ in the component. -/
structure Paired (amplitudes : Amplitude F × Amplitude F) : Prop where
  first : Usable amplitudes.1
  second : Usable amplitudes.2
  name : amplitudes.1.mIdentifier.name ≠ amplitudes.2.mIdentifier.name
  station : (stationOf amplitudes.1).name = (stationOf amplitudes.2).name
  locationCode : amplitudes.1.mIdentifier.mLocationCode =
    amplitudes.2.mIdentifier.mLocationCode
  channel : withoutComponent amplitudes.1.mIdentifier.mChannel =
    withoutComponent amplitudes.2.mIdentifier.mChannel

/-- The condition is the same for both orders. -/
theorem Paired.swap {amplitudes : Amplitude F × Amplitude F} (h : Paired amplitudes) :
    Paired amplitudes.swap where
  first := h.second
  second := h.first
  name := h.name.symm
  station := h.station.symm
  locationCode := h.locationCode.symm
  channel := h.channel.symm

/-- A pair is accepted exactly when it is paired; the name is that of the first. -/
theorem checkAmplitudes_eq_ok {amplitudes : Amplitude F × Amplitude F} {name : Bytes} :
    checkAmplitudes amplitudes = .ok name ↔
      Paired amplitudes ∧ (stationOf amplitudes.1).name = name := by
  unfold checkAmplitudes
  simp only [throwIf_bind_eq_ok]
  simp only [bind_eq_ok, throwIf_eq_ok, Amplitude.getIdentifier_eq_ok,
    StreamIdentifier.toString_eq_ok, StationIdentifier.ofStreamIdentifier_eq_ok,
    StationIdentifier.toString_eq_ok, StreamIdentifier.getLocationCode_eq_ok,
    StreamIdentifier.getChannel_eq_ok, Bool.not_eq_true', Bool.not_eq_false, ne_eq, not_not]
  constructor
  · intro h
    rcases h with ⟨hvalue1, hvalue2, -, -, _, ⟨hid1, rfl⟩, _, ⟨hid2, rfl⟩, _, ⟨hcomplete1, rfl⟩,
      _, ⟨hcomplete2, rfl⟩, _, hname, _, ⟨hn1, hs1, rfl⟩, _, ⟨hn2, hs2, rfl⟩,
      _, ⟨-, rfl⟩, _, ⟨-, rfl⟩, _, hstation, _, ⟨-, rfl⟩, _, ⟨-, rfl⟩, _, hlocation,
      _, ⟨-, rfl⟩, _, ⟨-, rfl⟩, _, hchannel, hresult⟩
    exact ⟨⟨⟨hvalue1, hid1, hcomplete1, hn1, hs1⟩, ⟨hvalue2, hid2, hcomplete2, hn2, hs2⟩,
      hname, hstation, hlocation, hchannel⟩, Except.ok.inj hresult⟩
  · intro h
    rcases h with ⟨⟨⟨hvalue1, hid1, hcomplete1, hn1, hs1⟩, ⟨hvalue2, hid2, hcomplete2, hn2, hs2⟩,
      hname, hstation, hlocation, hchannel⟩, rfl⟩
    exact ⟨hvalue1, hvalue2, hid1, hid2, _, ⟨hid1, rfl⟩, _, ⟨hid2, rfl⟩, _, ⟨hcomplete1, rfl⟩,
      _, ⟨hcomplete2, rfl⟩, (), hname, _, ⟨hn1, hs1, rfl⟩, _, ⟨hn2, hs2, rfl⟩,
      _, ⟨⟨hn1, hs1⟩, rfl⟩, _, ⟨⟨hn2, hs2⟩, rfl⟩, (), hstation,
      _, ⟨hcomplete1.locationCode, rfl⟩, _, ⟨hcomplete2.locationCode, rfl⟩, (), hlocation,
      _, ⟨hcomplete1.channel, rfl⟩, _, ⟨hcomplete2.channel, rfl⟩, (), hchannel, rfl⟩

/-- A pair that is not accepted is refused with a `std::invalid_argument`, as long as
the identifiers that are set are complete. -/
theorem raises_checkAmplitudes {amplitudes : Amplitude F × Amplitude F}
    (h1 : amplitudes.1.mHasIdentifier = true → amplitudes.1.mIdentifier.Complete)
    (h2 : amplitudes.2.mHasIdentifier = true → amplitudes.2.mIdentifier.Complete) :
    Raises (checkAmplitudes amplitudes) Fault.IsInvalidArgument := by
  unfold checkAmplitudes
  refine .bind (.throwIf fun _ => trivial) fun _ _ => ?_
  refine .bind (.throwIf fun _ => trivial) fun _ _ => ?_
  refine .bind (.throwIf fun _ => trivial) fun _ hfirst => ?_
  refine .bind (.throwIf fun _ => trivial) fun _ hsecond => ?_
  have hid1 : amplitudes.1.mHasIdentifier = true := by
    simpa [Amplitude.hasIdentifier] using hfirst
  have hid2 : amplitudes.2.mHasIdentifier = true := by
    simpa [Amplitude.hasIdentifier] using hsecond
  rw [Amplitude.getIdentifier_eq_ok.mpr ⟨hid1, rfl⟩,
    Amplitude.getIdentifier_eq_ok.mpr ⟨hid2, rfl⟩, bind_ok, bind_ok, (h1 hid1).toString,
    (h2 hid2).toString, bind_ok, bind_ok]
  refine .bind (.throwIf fun _ => trivial) fun _ _ => ?_
  refine .bind (StationIdentifier.raises_ofStreamIdentifier _) fun station1 hstation1 => ?_
  refine .bind (StationIdentifier.raises_ofStreamIdentifier _) fun station2 hstation2 => ?_
  rw [(StationIdentifier.complete_of_ofStreamIdentifier hstation1).toString,
    (StationIdentifier.complete_of_ofStreamIdentifier hstation2).toString, bind_ok, bind_ok]
  refine .bind (.throwIf fun _ => trivial) fun _ _ => ?_
  rw [(h1 hid1).getLocationCode, (h2 hid2).getLocationCode, bind_ok, bind_ok]
  refine .bind (.throwIf fun _ => trivial) fun _ _ => ?_
  rw [(h1 hid1).getChannel, (h2 hid2).getChannel, bind_ok, bind_ok]
  exact .bind (.throwIf fun _ => trivial) fun _ _ => .ok _

/-! ## The setters -/

theorem call_setAmplitudes_eq_ok {amplitudes : Amplitude F × Amplitude F}
    {observation after : Observation F} :
    (setAmplitudes amplitudes).call observation = .ok after ↔
      Paired amplitudes ∧
        { observation with mStationName := (stationOf amplitudes.1).name,
                           mAmplitudes := amplitudes, mHasAmplitudes := true } = after := by
  simp only [setAmplitudes, Method.call_lift_bind, Method.call_modify, bind_eq_ok,
    checkAmplitudes_eq_ok, Except.ok.injEq]
  constructor
  · intro h
    rcases h with ⟨_, ⟨hpaired, rfl⟩, hafter⟩
    exact ⟨hpaired, hafter⟩
  · intro h
    rcases h with ⟨hpaired, hafter⟩
    exact ⟨_, ⟨hpaired, rfl⟩, hafter⟩

theorem call_setEpicentralDistance_eq_ok {distance : Double F}
    {observation after : Observation F} :
    (setEpicentralDistance distance).call observation = .ok after ↔
      (∃ x, distance = .finite x ∧ 0 ≤ x ∧ x ≤ 21000000) ∧
        { observation with mEpicentralDistance := distance,
                           mHasEpicentralDistance := true } = after := by
  rw [← Corrections.number_in_range_iff]
  simp only [setEpicentralDistance, Method.call_lift_bind, Method.call_modify,
    throwIf_bind_eq_ok, Except.ok.injEq, Bool.not_eq_true', Bool.not_eq_false, not_or,
    and_assoc]

theorem call_setDepth_eq_ok {depth : Double F} {observation after : Observation F} :
    (setDepth depth).call observation = .ok after ↔
      (∃ x, depth = .finite x ∧ -8600 ≤ x ∧ x ≤ 900000) ∧
        { observation with mSourceDepth := depth, mHasSourceDepth := true } = after := by
  rw [← Corrections.number_in_range_iff]
  simp only [setDepth, Method.call_lift_bind, Method.call_modify, throwIf_bind_eq_ok,
    Except.ok.injEq, Bool.not_eq_true', Bool.not_eq_false, and_assoc]

/-! ## The measurement constructor -/

/-- What the constructor from a measurement returns. -/
theorem ofMeasurement_eq_ok {inverse : Distance.Inverse F}
    {measurement : Api.StationAmplitudeMeasurement F} {hypocenter : Hypocenter F}
    {observation : Observation F} :
    ofMeasurement inverse measurement hypocenter = .ok observation ↔
      ∃ message1 message2 place location epicentralDistance amplitude1 amplitude2,
        measurement.amplitudeStream1 = some message1 ∧
        measurement.amplitudeStream2 = some message2 ∧
        measurement.stationLocation = some place ∧
        StationLocation.ofMessage place = .ok location ∧
        Distance.computeEpicentralDistance inverse hypocenter location =
          .ok epicentralDistance ∧
        Amplitude.ofMessage message1 = .ok amplitude1 ∧
        Amplitude.ofMessage message2 = .ok amplitude2 ∧
        Paired (amplitude1, amplitude2) ∧
        (∃ x, epicentralDistance = .finite x ∧ 0 ≤ x ∧ x ≤ 21000000) ∧
        hypocenter.mHasDepth = true ∧
        (∃ x, hypocenter.mDepth = .finite x ∧ -8600 ≤ x ∧ x ≤ 900000) ∧
        { mAmplitudes := (amplitude1, amplitude2),
          mStationName := (stationOf amplitude1).name,
          mEpicentralDistance := epicentralDistance, mSourceDepth := hypocenter.mDepth,
          mHasAmplitudes := true, mHasEpicentralDistance := true,
          mHasSourceDepth := true } = observation := by
  have hdepth {depth : Double F} : hypocenter.getDepth = .ok depth ↔
      hypocenter.mHasDepth = true ∧ hypocenter.mDepth = depth := by
    simp [Hypocenter.getDepth, Hypocenter.hasDepth]
  unfold ofMeasurement
  simp only [bind_eq_ok, require_eq_ok, call_setAmplitudes_eq_ok,
    call_setEpicentralDistance_eq_ok, call_setDepth_eq_ok, hdepth]
  constructor
  · intro h
    rcases h with ⟨message1, hmessage1, message2, hmessage2, place, hplace, location, hlocation,
      epicentralDistance, hdistance, amplitude1, hamplitude1, amplitude2, hamplitude2,
      _, ⟨hpaired, rfl⟩, _, ⟨hrange, rfl⟩, _, ⟨hset, rfl⟩, hdepthRange, rfl⟩
    exact ⟨message1, message2, place, location, epicentralDistance, amplitude1, amplitude2,
      hmessage1, hmessage2, hplace, hlocation, hdistance, hamplitude1, hamplitude2, hpaired,
      hrange, hset, hdepthRange, rfl⟩
  · intro h
    rcases h with ⟨message1, message2, place, location, epicentralDistance, amplitude1,
      amplitude2, hmessage1, hmessage2, hplace, hlocation, hdistance, hamplitude1, hamplitude2,
      hpaired, hrange, hset, hdepthRange, rfl⟩
    exact ⟨message1, hmessage1, message2, hmessage2, place, hplace, location, hlocation,
      epicentralDistance, hdistance, amplitude1, hamplitude1, amplitude2, hamplitude2,
      _, ⟨hpaired, rfl⟩, _, ⟨hrange, rfl⟩, _, ⟨hset, rfl⟩, hdepthRange, rfl⟩

theorem raises_setEpicentralDistance (distance : Double F) (observation : Observation F) :
    Raises ((setEpicentralDistance distance).call observation) Fault.IsInvalidArgument := by
  refine Method.raises_call_lift_bind (.throwIf fun _ => trivial) fun _ => ?_
  refine Method.raises_call_lift_bind (.throwIf fun _ => trivial) fun _ => ?_
  exact Method.raises_call_lift_bind (.throwIf fun _ => trivial) fun _ => .ok _

theorem raises_setDepth (depth : Double F) (observation : Observation F) :
    Raises ((setDepth depth).call observation) Fault.IsInvalidArgument := by
  refine Method.raises_call_lift_bind (.throwIf fun _ => trivial) fun _ => ?_
  exact Method.raises_call_lift_bind (.throwIf fun _ => trivial) fun _ => .ok _

/-- Whatever is wrong with a measurement, the exception is a `std::invalid_argument`. -/
theorem raises_ofMeasurement (inverse : Distance.Inverse F)
    (measurement : Api.StationAmplitudeMeasurement F) {hypocenter : Hypocenter F}
    (hlatitude : hypocenter.mHasLatitude = true)
    (hlongitude : hypocenter.mHasLongitude = true) (hdepth : hypocenter.mHasDepth = true) :
    Raises (ofMeasurement inverse measurement hypocenter) Fault.IsInvalidArgument := by
  unfold ofMeasurement
  refine .bind (.require fun _ => trivial) fun message1 _ => ?_
  refine .bind (.require fun _ => trivial) fun message2 _ => ?_
  refine .bind (.require fun _ => trivial) fun place _ => ?_
  refine .bind (StationLocation.raises_ofMessage place) fun location hlocation => ?_
  obtain ⟨x, y, -, -, -, -, rfl⟩ := StationLocation.ofMessage_eq_ok.mp hlocation
  rw [Distance.computeEpicentralDistance_eq inverse hlatitude hlongitude rfl rfl, bind_ok]
  refine .bind (Amplitude.raises_ofMessage message1) fun amplitude1 hamplitude1 => ?_
  refine .bind (Amplitude.raises_ofMessage message2) fun amplitude2 hamplitude2 => ?_
  have hcomplete1 := (Amplitude.IsReachable.inv (.init (Or.inr ⟨_, hamplitude1⟩))).identifier
  have hcomplete2 := (Amplitude.IsReachable.inv (.init (Or.inr ⟨_, hamplitude2⟩))).identifier
  refine .bind ?_ fun _ _ => .bind (raises_setEpicentralDistance _ _) fun _ _ => ?_
  · exact Method.raises_call_lift_bind
      (raises_checkAmplitudes (fun h => (hcomplete1 h).1) fun h => (hcomplete2 h).1)
      fun _ => .ok _
  · have hget : hypocenter.getDepth = .ok hypocenter.mDepth := by
      simp [Hypocenter.getDepth, Hypocenter.hasDepth, hdepth]
    rw [hget, bind_ok]
    exact raises_setDepth _ _

/-! ## The invariant -/

/-- What is set on an observation in use was checked when it was set. -/
structure Inv (observation : Observation F) : Prop where
  amplitudes : observation.mHasAmplitudes = true → Paired observation.mAmplitudes ∧
    observation.mAmplitudes.1.IsReachable ∧ observation.mAmplitudes.2.IsReachable ∧
    observation.mStationName = (stationOf observation.mAmplitudes.1).name
  epicentralDistance : observation.mHasEpicentralDistance = true →
    ∃ x, observation.mEpicentralDistance = .finite x ∧ 0 ≤ x ∧ x ≤ 21000000
  depth : observation.mHasSourceDepth = true →
    ∃ x, observation.mSourceDepth = .finite x ∧ -8600 ≤ x ∧ x ≤ 900000

theorem inv_of_ofMeasurement {inverse : Distance.Inverse F}
    {measurement : Api.StationAmplitudeMeasurement F} {hypocenter : Hypocenter F}
    {observation : Observation F}
    (h : ofMeasurement inverse measurement hypocenter = .ok observation) :
    observation.Inv := by
  obtain ⟨message1, message2, place, location, epicentralDistance, amplitude1, amplitude2,
    -, -, -, -, -, hamplitude1, hamplitude2, hpaired, hrange, -, hdepthRange, rfl⟩ :=
    ofMeasurement_eq_ok.mp h
  exact
    { amplitudes := fun _ => ⟨hpaired, .init (Or.inr ⟨_, hamplitude1⟩),
        .init (Or.inr ⟨_, hamplitude2⟩), rfl⟩
      epicentralDistance := fun _ => hrange
      depth := fun _ => hdepthRange }

theorem IsReachable.inv {observation : Observation F} (h : observation.IsReachable) :
    observation.Inv := by
  refine h.invariant_of_atomic ?_ setter_atomic ?_
  · intro built hall
    rcases hall with rfl | ⟨inverse, measurement, hypocenter, hbuilt⟩
    · exact ⟨fun h => absurd h Bool.false_ne_true, fun h => absurd h Bool.false_ne_true,
        fun h => absurd h Bool.false_ne_true⟩
    · exact inv_of_ofMeasurement hbuilt
  · intro setter before after _ hadmissible hbefore hexec
    have hcall := Method.call_of_exec hexec
    cases setter with
    | amplitudes amplitudes =>
        obtain ⟨hpaired, rfl⟩ := call_setAmplitudes_eq_ok.mp hcall
        exact ⟨fun _ => ⟨hpaired, hadmissible.1, hadmissible.2, rfl⟩,
          hbefore.epicentralDistance, hbefore.depth⟩
    | epicentralDistance distance =>
        obtain ⟨hrange, rfl⟩ := call_setEpicentralDistance_eq_ok.mp hcall
        exact ⟨hbefore.amplitudes, fun _ => hrange, hbefore.depth⟩
    | depth depth =>
        obtain ⟨hrange, rfl⟩ := call_setDepth_eq_ok.mp hcall
        exact ⟨hbefore.amplitudes, hbefore.epicentralDistance, fun _ => hrange⟩

/-- The station that the observation was made at. -/
def station (observation : Observation F) : StationIdentifier :=
  stationOf observation.mAmplitudes.1

/-- At different stations the names are different unless two stations are confusable. -/
theorem nodup_stationNames_iff {observations : List (Observation F)}
    (h : ∀ o ∈ observations, o.Inv ∧ o.mHasAmplitudes = true)
    (hdistinct : (observations.map station).Nodup) :
    (observations.map mStationName).Nodup ↔
      ∀ o ∈ observations, ∀ o' ∈ observations,
        ¬ Confusable dot o.station.codes o'.station.codes := by
  have hname (o : Observation F) (ho : o ∈ observations) : o.mStationName = o.station.name :=
    ((h o ho).1.amplitudes (h o ho).2).2.2.2
  constructor
  · intro hnames o ho o' ho' hconfusable
    have hsame : o.mStationName = o'.mStationName := by
      rw [hname o ho, hname o' ho']
      exact (StationIdentifier.name_eq_name_iff _ _).mpr (Or.inr hconfusable)
    obtain rfl := List.inj_on_of_nodup_map hnames ho ho' hsame
    exact hconfusable.ne rfl
  · intro hclear
    refine (List.Nodup.of_map _ hdistinct).map_on fun o ho o' ho' hsame => ?_
    rw [hname o ho, hname o' ho'] at hsame
    rcases (StationIdentifier.name_eq_name_iff _ _).mp hsame with hstation | hconfusable
    · exact List.inj_on_of_nodup_map hdistinct ho ho' hstation
    · exact absurd hconfusable (hclear o ho o' ho')

theorem getStationName_eq_ok {observation : Observation F}
    (h : observation.mHasAmplitudes = true) :
    observation.getStationName = .ok observation.mStationName := by
  simp [getStationName, hasAmplitudes, throwIf, h]

end Observation

end Magnitude
end ULocalMagnitude
