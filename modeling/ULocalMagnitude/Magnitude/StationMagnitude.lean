import ULocalMagnitude.Cxx.Moves
import ULocalMagnitude.Magnitude.Observation

/-!
# Station magnitudes and residuals

`magnitude/stationMagnitude.cpp` and `magnitude/residual.cpp`.  The setter of the
amplitudes stores them before it has derived the name of their station, so the
order of its assignments is kept here.  A station magnitude that left the
calculator is `Complete`: everything is set, and writing it to a message returns.

What is set on an object in use was checked when it was set (`Inv`), so the flags of
a station magnitude say whether it is complete, and a residual takes no other one.
-/

namespace ULocalMagnitude
namespace Magnitude

open Cxx
open Corrections (StationIdentifier)

variable {F : Type} [Arithmetic F]

/-- `StationMagnitude::StationMagnitudeImpl` -/
structure StationMagnitude (F : Type) [Arithmetic F] where
  mAmplitudes : Amplitude F × Amplitude F := ({}, {})
  mStationName : Bytes := []
  mValue : Double F := .finite 0
  mStationCorrection : Double F := .finite 0
  mDistanceCorrection : Double F := .finite 0
  mHasAmplitudes : Bool := false
  mHasValue : Bool := false
  mHasStationCorrection : Bool := false
  mHasDistanceCorrection : Bool := false
deriving DecidableEq

namespace StationMagnitude

/-- Value -/
def setValue (value : Double F) : Method (StationMagnitude F) Unit := do
  throwIf (!value.isFinite) (.invalidArgument "Station magnitude must be finite")
  modify fun magnitude => { magnitude with mValue := value, mHasValue := true }

def hasValue (magnitude : StationMagnitude F) : Bool := magnitude.mHasValue

def getValue (magnitude : StationMagnitude F) : Throws (Double F) := do
  throwIf (!magnitude.hasValue) (.runtimeError "Station magnitude not set")
  return magnitude.mValue

/-- Station correction -/
def setStationCorrection (correction : Double F) : Method (StationMagnitude F) Unit := do
  throwIf (!correction.isFinite) (.invalidArgument "Station correction must be finite")
  modify fun magnitude =>
    { magnitude with mStationCorrection := correction, mHasStationCorrection := true }

def hasStationCorrection (magnitude : StationMagnitude F) : Bool :=
  magnitude.mHasStationCorrection

def getStationCorrection (magnitude : StationMagnitude F) : Throws (Double F) := do
  throwIf (!magnitude.hasStationCorrection) (.runtimeError "Station correction not set")
  return magnitude.mStationCorrection

/-- Distance correction -/
def setDistanceCorrection (correction : Double F) : Method (StationMagnitude F) Unit := do
  throwIf (!correction.isFinite) (.invalidArgument "Distance correction must be finite")
  modify fun magnitude =>
    { magnitude with mDistanceCorrection := correction, mHasDistanceCorrection := true }

def hasDistanceCorrection (magnitude : StationMagnitude F) : Bool :=
  magnitude.mHasDistanceCorrection

def getDistanceCorrection (magnitude : StationMagnitude F) : Throws (Double F) := do
  throwIf (!magnitude.hasDistanceCorrection) (.runtimeError "Distance correction not set")
  return magnitude.mDistanceCorrection

/-- Amplitudes -/
def setAmplitudes (amplitudes : Amplitude F × Amplitude F) :
    Method (StationMagnitude F) Unit := do
  let observation : Observation F := {}
  -- Handle error checking
  let observation ← liftM ((Observation.setAmplitudes amplitudes).call observation)
  let accepted ← liftM observation.getAmplitudes
  modify fun magnitude => { magnitude with mAmplitudes := accepted }
  let streamIdentifier ← liftM accepted.1.getIdentifier
  let stationIdentifier ← liftM (StationIdentifier.ofStreamIdentifier streamIdentifier)
  let stationName ← liftM stationIdentifier.toString
  modify fun magnitude =>
    { magnitude with mStationName := stationName, mHasAmplitudes := true }

def hasAmplitudes (magnitude : StationMagnitude F) : Bool := magnitude.mHasAmplitudes

def getAmplitudes (magnitude : StationMagnitude F) :
    Throws (Amplitude F × Amplitude F) := do
  throwIf (!magnitude.hasAmplitudes) (.runtimeError "Amplitudes not set")
  return magnitude.mAmplitudes

/-- Station name -/
def getStationName (magnitude : StationMagnitude F) : Throws Bytes := do
  throwIf (!magnitude.hasAmplitudes) (.runtimeError "Amplitudes not set")
  return magnitude.mStationName

/-- To message -/
def toMessage (magnitude : StationMagnitude F) : Throws (Api.StationMagnitude F) := do
  throwIf (!magnitude.hasAmplitudes) (.runtimeError "Amplitudes not set")
  let amplitude1 ← magnitude.mAmplitudes.1.toMessage
  let amplitude2 ← magnitude.mAmplitudes.2.toMessage
  let value ← magnitude.getValue
  let stationCorrection ← magnitude.getStationCorrection
  let distanceCorrection ← magnitude.getDistanceCorrection
  return { amplitude1 := some amplitude1, amplitude2 := some amplitude2,
           value := some value, stationCorrection := some stationCorrection,
           distanceCorrection := some distanceCorrection }

/-- A pair that an observation accepts is stored with the name of its station. -/
theorem call_setAmplitudes_of_paired {amplitudes : Amplitude F × Amplitude F}
    (h : Observation.Paired amplitudes) (magnitude : StationMagnitude F) :
    (setAmplitudes amplitudes).call magnitude =
      .ok { magnitude with mAmplitudes := amplitudes,
                           mStationName := (Observation.stationOf amplitudes.1).name,
                           mHasAmplitudes := true } := by
  have hstation : StationIdentifier.ofStreamIdentifier amplitudes.1.mIdentifier =
      .ok (Observation.stationOf amplitudes.1) :=
    StationIdentifier.ofStreamIdentifier_eq_ok.mpr ⟨h.first.network, h.first.station, rfl⟩
  have hname : (Observation.stationOf amplitudes.1).toString =
      .ok (Observation.stationOf amplitudes.1).name :=
    StationIdentifier.toString_eq_ok.mpr ⟨⟨h.first.network, h.first.station⟩, rfl⟩
  have hget : Observation.getAmplitudes (F := F)
      { mStationName := (Observation.stationOf amplitudes.1).name,
        mAmplitudes := amplitudes, mHasAmplitudes := true } = .ok amplitudes := by
    simp [Observation.getAmplitudes, Observation.hasAmplitudes, throwIf]
  unfold setAmplitudes
  rw [Method.call_lift_bind, Observation.call_setAmplitudes_eq_ok.mpr ⟨h, rfl⟩, bind_ok,
    Method.call_lift_bind, hget, bind_ok, Method.call_modify_bind, Method.call_lift_bind,
    Amplitude.getIdentifier_eq_ok.mpr ⟨h.first.identifier, rfl⟩, bind_ok,
    Method.call_lift_bind, hstation, bind_ok, Method.call_lift_bind, hname, bind_ok]
  rfl

/-- Only a pair that an observation accepts is stored. -/
theorem paired_of_call_setAmplitudes {amplitudes : Amplitude F × Amplitude F}
    {magnitude after : StationMagnitude F}
    (h : (setAmplitudes amplitudes).call magnitude = .ok after) :
    Observation.Paired amplitudes := by
  unfold setAmplitudes at h
  rw [Method.call_lift_bind] at h
  obtain ⟨observation, hobservation, -⟩ := bind_eq_ok.mp h
  exact (Observation.call_setAmplitudes_eq_ok.mp hobservation).1

theorem call_setAmplitudes_eq_ok {amplitudes : Amplitude F × Amplitude F}
    {magnitude after : StationMagnitude F} :
    (setAmplitudes amplitudes).call magnitude = .ok after ↔
      Observation.Paired amplitudes ∧
        { magnitude with mAmplitudes := amplitudes,
                         mStationName := (Observation.stationOf amplitudes.1).name,
                         mHasAmplitudes := true } = after := by
  constructor
  · intro h
    have hpaired := paired_of_call_setAmplitudes h
    rw [call_setAmplitudes_of_paired hpaired] at h
    exact ⟨hpaired, Except.ok.inj h⟩
  · rintro ⟨hpaired, rfl⟩
    exact call_setAmplitudes_of_paired hpaired magnitude

/-! ## The calls on a station magnitude -/

/-- A setter with its argument. -/
inductive Setter (F : Type) [Arithmetic F] where
  | value (newValue : Double F)
  | stationCorrection (newCorrection : Double F)
  | distanceCorrection (newCorrection : Double F)
  | amplitudes (newAmplitudes : Amplitude F × Amplitude F)

def Setter.method : Setter F → Method (StationMagnitude F) Unit
  | .value newValue => setValue newValue
  | .stationCorrection newCorrection => setStationCorrection newCorrection
  | .distanceCorrection newCorrection => setDistanceCorrection newCorrection
  | .amplitudes newAmplitudes => setAmplitudes newAmplitudes

/-- Amplitudes are themselves made through their class. -/
def Setter.Admissible : Setter F → Prop
  | .value _ => True
  | .stationCorrection _ => True
  | .distanceCorrection _ => True
  | .amplitudes newAmplitudes => newAmplitudes.1.IsReachable ∧ newAmplitudes.2.IsReachable

/-- Default constructed, then used through the setters. -/
def IsReachable (magnitude : StationMagnitude F) : Prop :=
  Reachable (fun built => built = {}) Setter.method Setter.Admissible magnitude

/-- The amplitudes are stored before their station's name is derived, but nothing fails any
more for a pair that an observation accepts. -/
theorem setAmplitudes_atomic (amplitudes : Amplitude F × Amplitude F) :
    (setAmplitudes amplitudes).Atomic := by
  intro magnitude fault after h
  by_cases hpaired : Observation.Paired amplitudes
  · have hreturns := Method.call_eq_ok_iff.mp (call_setAmplitudes_of_paired hpaired magnitude)
    rw [hreturns] at h
    cases h
  · cases hobservation : (Observation.setAmplitudes amplitudes).call {} with
    | ok observation =>
        exact absurd (Observation.call_setAmplitudes_eq_ok.mp hobservation).1 hpaired
    | error refused =>
        unfold setAmplitudes at h
        rw [hobservation] at h
        cases h
        rfl

theorem setter_atomic (setter : Setter F) : setter.method.Atomic := by
  cases setter with
  | value newValue => exact .lift_bind fun _ => .modify _
  | stationCorrection newCorrection => exact .lift_bind fun _ => .modify _
  | distanceCorrection newCorrection => exact .lift_bind fun _ => .modify _
  | amplitudes newAmplitudes => exact setAmplitudes_atomic newAmplitudes

/-- The three setters of numbers. -/
theorem call_setNumber_eq_ok {value : Double F} {fault : Fault}
    {store : StationMagnitude F → StationMagnitude F} {magnitude after : StationMagnitude F} :
    (do
      throwIf (!value.isFinite) fault
      modify store : Method (StationMagnitude F) Unit).call magnitude = .ok after ↔
      value.isFinite = true ∧ store magnitude = after := by
  rw [Method.call_lift_bind, throwIf_bind_eq_ok, Method.call_modify, Except.ok.injEq,
    Bool.not_eq_true', Bool.not_eq_false]

/-- What is set on a station magnitude in use was checked when it was set. -/
structure Inv (magnitude : StationMagnitude F) : Prop where
  amplitudes : magnitude.mHasAmplitudes = true → Observation.Paired magnitude.mAmplitudes ∧
    magnitude.mStationName = (Observation.stationOf magnitude.mAmplitudes.1).name
  value : magnitude.mHasValue = true → magnitude.mValue.isFinite = true
  stationCorrection : magnitude.mHasStationCorrection = true →
    magnitude.mStationCorrection.isFinite = true
  distanceCorrection : magnitude.mHasDistanceCorrection = true →
    magnitude.mDistanceCorrection.isFinite = true

theorem IsReachable.inv {magnitude : StationMagnitude F} (h : magnitude.IsReachable) :
    magnitude.Inv := by
  refine h.invariant_of_atomic ?_ setter_atomic ?_
  · rintro built rfl
    exact ⟨fun h => absurd h Bool.false_ne_true, fun h => absurd h Bool.false_ne_true,
      fun h => absurd h Bool.false_ne_true, fun h => absurd h Bool.false_ne_true⟩
  · intro setter before after _ _ hbefore hexec
    have hcall := Method.call_of_exec hexec
    cases setter with
    | value newValue =>
        obtain ⟨hfinite, rfl⟩ := call_setNumber_eq_ok.mp hcall
        exact { hbefore with value := fun _ => hfinite }
    | stationCorrection newCorrection =>
        obtain ⟨hfinite, rfl⟩ := call_setNumber_eq_ok.mp hcall
        exact { hbefore with stationCorrection := fun _ => hfinite }
    | distanceCorrection newCorrection =>
        obtain ⟨hfinite, rfl⟩ := call_setNumber_eq_ok.mp hcall
        exact { hbefore with distanceCorrection := fun _ => hfinite }
    | amplitudes newAmplitudes =>
        obtain ⟨hpaired, rfl⟩ := call_setAmplitudes_eq_ok.mp hcall
        exact { hbefore with amplitudes := fun _ => ⟨hpaired, rfl⟩ }

/-! ## Complete magnitudes -/

/-- Everything is set, and the value is a number. -/
structure Complete (magnitude : StationMagnitude F) : Prop where
  paired : Observation.Paired magnitude.mAmplitudes
  hasAmplitudes : magnitude.mHasAmplitudes = true
  hasValue : magnitude.mHasValue = true
  value : magnitude.mValue.isFinite = true
  hasStationCorrection : magnitude.mHasStationCorrection = true
  hasDistanceCorrection : magnitude.mHasDistanceCorrection = true

/-- With everything set a magnitude in use is complete. -/
theorem IsReachable.complete {magnitude : StationMagnitude F} (h : magnitude.IsReachable)
    (hvalue : magnitude.hasValue = true) (hamplitudes : magnitude.hasAmplitudes = true)
    (hdistance : magnitude.hasDistanceCorrection = true)
    (hstation : magnitude.hasStationCorrection = true) : magnitude.Complete where
  paired := (h.inv.amplitudes hamplitudes).1
  hasAmplitudes := hamplitudes
  hasValue := hvalue
  value := h.inv.value hvalue
  hasStationCorrection := hstation
  hasDistanceCorrection := hdistance

/-- The message of an amplitude with a value and an identifier. -/
def amplitudeMessage (amplitude : Amplitude F) : Api.Amplitude F where
  streamIdentifier := some
    { network := some amplitude.mIdentifier.mNetwork
      station := some amplitude.mIdentifier.mStation
      channel := some amplitude.mIdentifier.mChannel
      locationCode := some amplitude.mIdentifier.mLocationCode }
  value := some amplitude.mValue
  units := some .millimeters

theorem toMessage_of_usable {amplitude : Amplitude F} (h : Observation.Usable amplitude) :
    amplitude.toMessage = .ok (amplitudeMessage amplitude) := by
  unfold Amplitude.toMessage
  rw [Amplitude.getIdentifier_eq_ok.mpr ⟨h.identifier, rfl⟩, bind_ok, h.complete.toMessage,
    bind_ok, Amplitude.getValue_eq_ok h.value]
  rfl

/-- The message of a complete magnitude. -/
def message (magnitude : StationMagnitude F) : Api.StationMagnitude F where
  amplitude1 := some (amplitudeMessage magnitude.mAmplitudes.1)
  amplitude2 := some (amplitudeMessage magnitude.mAmplitudes.2)
  value := some magnitude.mValue
  stationCorrection := some magnitude.mStationCorrection
  distanceCorrection := some magnitude.mDistanceCorrection

theorem Complete.getValue {magnitude : StationMagnitude F} (h : magnitude.Complete) :
    magnitude.getValue = .ok magnitude.mValue := by
  unfold StationMagnitude.getValue
  rw [throwIf_neg (by simp [StationMagnitude.hasValue, h.hasValue])]
  rfl

theorem Complete.toMessage {magnitude : StationMagnitude F} (h : magnitude.Complete) :
    magnitude.toMessage = .ok magnitude.message := by
  have hstation : magnitude.getStationCorrection = .ok magnitude.mStationCorrection := by
    simp [getStationCorrection, StationMagnitude.hasStationCorrection, throwIf,
      h.hasStationCorrection]
  have hdistance : magnitude.getDistanceCorrection = .ok magnitude.mDistanceCorrection := by
    simp [getDistanceCorrection, StationMagnitude.hasDistanceCorrection, throwIf,
      h.hasDistanceCorrection]
  unfold StationMagnitude.toMessage
  rw [throwIf_neg (by simp [StationMagnitude.hasAmplitudes, h.hasAmplitudes]), bind_ok,
    toMessage_of_usable h.paired.first, bind_ok, toMessage_of_usable h.paired.second, bind_ok,
    h.getValue, bind_ok, hstation, bind_ok, hdistance]
  rfl

end StationMagnitude

/-! ## Residuals -/

/-- `Residual::ResidualImpl` -/
structure Residual (F : Type) [Arithmetic F] where
  mStationMagnitude : StationMagnitude F := {}
  mValue : Double F := .finite 0
  mHasValue : Bool := false
  mHasStationMagnitude : Bool := false
deriving DecidableEq

namespace Residual

/-- Value -/
def setValue (value : Double F) : Method (Residual F) Unit :=
  modify fun residual => { residual with mValue := value, mHasValue := true }

def hasValue (residual : Residual F) : Bool := residual.mHasValue

def getValue (residual : Residual F) : Throws (Double F) := do
  throwIf (!residual.hasValue) (.runtimeError "Residual value not set")
  return residual.mValue

/-- Station magnitude -/
def setStationMagnitude (stationMagnitude : StationMagnitude F) :
    Method (Residual F) Unit := do
  throwIf (!stationMagnitude.hasValue) (.invalidArgument "Station magnitude not set")
  throwIf (!stationMagnitude.hasAmplitudes) (.invalidArgument "Amplitudes not set")
  throwIf (!stationMagnitude.hasDistanceCorrection)
    (.invalidArgument "Distance correction not set")
  throwIf (!stationMagnitude.hasStationCorrection)
    (.invalidArgument "Station correction not set")
  modify fun residual =>
    { residual with mStationMagnitude := stationMagnitude, mHasStationMagnitude := true }

def hasStationMagnitude (residual : Residual F) : Bool := residual.mHasStationMagnitude

def getStationMagnitude (residual : Residual F) : Throws (StationMagnitude F) := do
  throwIf (!residual.hasStationMagnitude) (.runtimeError "Station magnitude not set")
  return residual.mStationMagnitude

/-- `setStationMagnitude(StationMagnitude &&)`, on the residual and the argument. -/
def setStationMagnitudeMoving : Method (Residual F × Movable (StationMagnitude F)) Unit := do
  let stationMagnitude ← liftM (dereference (← get).2)
  Method.onFst (setStationMagnitude stationMagnitude)
  modify fun s => (s.1, none)

/-- `setStationMagnitude(const StationMagnitude &)` -/
def setStationMagnitudeCopying (stationMagnitude : Movable (StationMagnitude F)) :
    Method (Residual F) Unit := do
  let copy ← liftM (dereference stationMagnitude)
  Method.withLocal (some copy) setStationMagnitudeMoving

def toStationMagnitudeAndResidualMessage (residual : Residual F) :
    Throws (Api.StationMagnitudeAndResidual F) := do
  throwIf (!residual.hasStationMagnitude) (.runtimeError "Station magnitude not set")
  let value ← residual.getValue
  let amplitudePair ← residual.mStationMagnitude.getAmplitudes
  let stationIdentifier ←
    StationIdentifier.ofStreamIdentifier (← amplitudePair.1.getIdentifier)
  let identifier ← stationIdentifier.toMessage
  let stationMagnitude ← residual.mStationMagnitude.toMessage
  return { inputObservationNumber := none, identifier := some identifier,
           stationMagnitude := some stationMagnitude, residual := some value }

/-- The residual of a complete magnitude. -/
def ofMagnitude (value : Double F) (stationMagnitude : StationMagnitude F) : Residual F where
  mStationMagnitude := stationMagnitude
  mValue := value
  mHasValue := true
  mHasStationMagnitude := true

theorem call_setStationMagnitude_of_complete {stationMagnitude : StationMagnitude F}
    (h : stationMagnitude.Complete) (residual : Residual F) :
    (setStationMagnitude stationMagnitude).call residual =
      .ok { residual with mStationMagnitude := stationMagnitude,
                          mHasStationMagnitude := true } := by
  simp [setStationMagnitude, StationMagnitude.hasValue, StationMagnitude.hasAmplitudes,
    StationMagnitude.hasDistanceCorrection, StationMagnitude.hasStationCorrection, throwIf,
    h.hasValue, h.hasAmplitudes, h.hasDistanceCorrection, h.hasStationCorrection]

/-- The message of the residual of a complete magnitude, without its number. -/
def message (value : Double F) (stationMagnitude : StationMagnitude F) :
    Api.StationMagnitudeAndResidual F where
  inputObservationNumber := none
  identifier := some
    { network := some (Observation.stationOf stationMagnitude.mAmplitudes.1).mNetwork
      station := some (Observation.stationOf stationMagnitude.mAmplitudes.1).mStation }
  stationMagnitude := some stationMagnitude.message
  residual := some value

theorem toMessage_ofMagnitude {stationMagnitude : StationMagnitude F}
    (h : stationMagnitude.Complete) (value : Double F) :
    (ofMagnitude value stationMagnitude).toStationMagnitudeAndResidualMessage =
      .ok (message value stationMagnitude) := by
  have hfirst := h.paired.first
  have hget : stationMagnitude.getAmplitudes = .ok stationMagnitude.mAmplitudes := by
    simp [StationMagnitude.getAmplitudes, StationMagnitude.hasAmplitudes, throwIf,
      h.hasAmplitudes]
  have hstation : StationIdentifier.ofStreamIdentifier
      stationMagnitude.mAmplitudes.1.mIdentifier =
        .ok (Observation.stationOf stationMagnitude.mAmplitudes.1) :=
    StationIdentifier.ofStreamIdentifier_eq_ok.mpr ⟨hfirst.network, hfirst.station, rfl⟩
  have hcomplete : (Observation.stationOf stationMagnitude.mAmplitudes.1).Complete :=
    ⟨hfirst.network, hfirst.station⟩
  unfold toStationMagnitudeAndResidualMessage
  rw [throwIf_neg (by simp [hasStationMagnitude, ofMagnitude]), bind_ok,
    show (ofMagnitude value stationMagnitude).getValue = .ok value from rfl, bind_ok,
    show (ofMagnitude value stationMagnitude).mStationMagnitude = stationMagnitude from rfl,
    hget, bind_ok, Amplitude.getIdentifier_eq_ok.mpr ⟨hfirst.identifier, rfl⟩, bind_ok,
    hstation, bind_ok, hcomplete.toMessage, bind_ok, h.toMessage]
  rfl

/-! ## The calls on a residual -/

/-- On the residual the two overloads do the same. -/
theorem withLocal_setStationMagnitudeMoving (stationMagnitude : StationMagnitude F) :
    Method.withLocal (some stationMagnitude) setStationMagnitudeMoving =
      setStationMagnitude stationMagnitude := by
  funext residual
  have hread : Method.withLocal (some stationMagnitude) setStationMagnitudeMoving residual =
      Method.withLocal (some stationMagnitude) (do
        Method.onFst (setStationMagnitude stationMagnitude)
        modify fun s => (s.1, none)) residual := rfl
  rw [hread, Method.withLocal_onFst_bind]
  cases setStationMagnitude stationMagnitude residual with
  | ok _ after => rfl
  | error fault after => rfl

theorem setStationMagnitudeCopying_some (stationMagnitude : StationMagnitude F) :
    setStationMagnitudeCopying (some stationMagnitude) =
      setStationMagnitude stationMagnitude :=
  withLocal_setStationMagnitudeMoving stationMagnitude

theorem call_setStationMagnitude_eq_ok {stationMagnitude : StationMagnitude F}
    {residual after : Residual F} :
    (setStationMagnitude stationMagnitude).call residual = .ok after ↔
      (stationMagnitude.hasValue = true ∧ stationMagnitude.hasAmplitudes = true ∧
        stationMagnitude.hasDistanceCorrection = true ∧
        stationMagnitude.hasStationCorrection = true) ∧
      { residual with mStationMagnitude := stationMagnitude,
                      mHasStationMagnitude := true } = after := by
  simp only [setStationMagnitude, Method.call_lift_bind, Method.call_modify,
    throwIf_bind_eq_ok, Except.ok.injEq, Bool.not_eq_true', Bool.not_eq_false, and_assoc]

/-- A setter with its argument; there are two for the station magnitude. -/
inductive Setter (F : Type) [Arithmetic F] where
  | value (newValue : Double F)
  | movedStationMagnitude (newStationMagnitude : StationMagnitude F)
  | copiedStationMagnitude (newStationMagnitude : StationMagnitude F)

def Setter.method : Setter F → Method (Residual F) Unit
  | .value newValue => setValue newValue
  | .movedStationMagnitude newStationMagnitude =>
      Method.withLocal (some newStationMagnitude) setStationMagnitudeMoving
  | .copiedStationMagnitude newStationMagnitude =>
      setStationMagnitudeCopying (some newStationMagnitude)

/-- Station magnitudes are themselves made through their class. -/
def Setter.Admissible : Setter F → Prop
  | .value _ => True
  | .movedStationMagnitude newStationMagnitude => newStationMagnitude.IsReachable
  | .copiedStationMagnitude newStationMagnitude => newStationMagnitude.IsReachable

/-- Default constructed, then used through the setters. -/
def IsReachable (residual : Residual F) : Prop :=
  Reachable (fun built => built = {}) Setter.method Setter.Admissible residual

theorem setStationMagnitude_atomic (stationMagnitude : StationMagnitude F) :
    (setStationMagnitude stationMagnitude).Atomic :=
  .lift_bind fun _ => .lift_bind fun _ => .lift_bind fun _ => .lift_bind fun _ => .modify _

theorem setter_atomic (setter : Setter F) : setter.method.Atomic := by
  cases setter with
  | value newValue => exact .modify _
  | movedStationMagnitude newStationMagnitude =>
      rw [Setter.method, withLocal_setStationMagnitudeMoving]
      exact setStationMagnitude_atomic newStationMagnitude
  | copiedStationMagnitude newStationMagnitude =>
      rw [Setter.method, setStationMagnitudeCopying_some]
      exact setStationMagnitude_atomic newStationMagnitude

/-- A station magnitude that was accepted from its class is complete. -/
structure Inv (residual : Residual F) : Prop where
  stationMagnitude : residual.mHasStationMagnitude = true →
    residual.mStationMagnitude.Complete

theorem inv_of_call_setStationMagnitude {stationMagnitude : StationMagnitude F}
    {residual after : Residual F} (hreachable : stationMagnitude.IsReachable)
    (h : (setStationMagnitude stationMagnitude).call residual = .ok after) : after.Inv := by
  obtain ⟨⟨hvalue, hamplitudes, hdistance, hstation⟩, rfl⟩ :=
    call_setStationMagnitude_eq_ok.mp h
  exact ⟨fun _ => hreachable.complete hvalue hamplitudes hdistance hstation⟩

theorem IsReachable.inv {residual : Residual F} (h : residual.IsReachable) :
    residual.Inv := by
  refine h.invariant_of_atomic ?_ setter_atomic ?_
  · rintro built rfl
    exact ⟨fun h => absurd h Bool.false_ne_true⟩
  · intro setter before after _ hadmissible hbefore hexec
    have hcall := Method.call_of_exec hexec
    cases setter with
    | value newValue =>
        obtain rfl := Except.ok.inj hcall
        exact ⟨hbefore.stationMagnitude⟩
    | movedStationMagnitude newStationMagnitude =>
        rw [Setter.method, withLocal_setStationMagnitudeMoving] at hcall
        exact inv_of_call_setStationMagnitude hadmissible hcall
    | copiedStationMagnitude newStationMagnitude =>
        rw [Setter.method, setStationMagnitudeCopying_some] at hcall
        exact inv_of_call_setStationMagnitude hadmissible hcall

/-- A residual with a value and a complete station magnitude. -/
structure Complete (residual : Residual F) : Prop where
  hasValue : residual.mHasValue = true
  hasStationMagnitude : residual.mHasStationMagnitude = true
  stationMagnitude : residual.mStationMagnitude.Complete

theorem IsReachable.complete_iff {residual : Residual F} (h : residual.IsReachable) :
    residual.Complete ↔ residual.mHasValue = true ∧ residual.mHasStationMagnitude = true := by
  constructor
  · intro hcomplete
    exact ⟨hcomplete.hasValue, hcomplete.hasStationMagnitude⟩
  · rintro ⟨hvalue, hstation⟩
    exact ⟨hvalue, hstation, h.inv.stationMagnitude hstation⟩

/-- A complete residual is written to its message. -/
theorem Complete.toMessage {residual : Residual F} (h : residual.Complete) :
    residual.toStationMagnitudeAndResidualMessage =
      .ok (message residual.mValue residual.mStationMagnitude) := by
  obtain ⟨hvalue, hstation, hcomplete⟩ := h
  cases residual with
  | mk stationMagnitude value hasValue hasStationMagnitude =>
      obtain rfl : hasValue = true := hvalue
      obtain rfl : hasStationMagnitude = true := hstation
      exact toMessage_ofMagnitude hcomplete value

end Residual

end Magnitude
end ULocalMagnitude
