import ULocalMagnitude.Corrections.Station
import ULocalMagnitude.Magnitude.StationMagnitude

/-!
# The station magnitude

`magnitude/stationMagnitudeCalculator.cpp`: the magnitude at one station,
`log10(average amplitude / 2)` plus the corrections for the distance and for the
station.  The call operator is `noexcept`; of the calls in it that can throw only
one is inside of a `try`.

For an observation at the calculator's own station the outcome is fixed by two
numbers, the correction at the distance and the station correction.  By `exists_apply_iff`
no exception leaves the calculator when they are numbers and nothing overflows or
underflows; the end of this file says what the magnitude is in exact arithmetic.
-/

namespace ULocalMagnitude
namespace Magnitude

open Cxx
open Corrections (Distance Station)

variable {F : Type} [Arithmetic F]

/-- `StationMagnitudeCalculator::StationMagnitudeCalculatorImpl` -/
structure StationMagnitudeCalculator (F : Type) [Arithmetic F] where
  mStationCorrection : Station F
  mDistanceCorrection : Distance F
  mInitialized : Bool := false
deriving DecidableEq

namespace StationMagnitudeCalculator

/-- `StationMagnitudeCalculator::ErrorCode` -/
inductive ErrorCode where
  -- User errors
  | noAmplitudes
  | noEpicentralDistance
  | invalidDepth
  | negativeDistance
  | stationTooClose
  | stationTooFar
  | noEventDepth
  -- Algorithmic errors
  | stationCorrectionMismatch
  | unitializedDistanceCorrection
  | unitializedStationCorrection
  | uninitialized
  | algorithmic
deriving DecidableEq

/-- Constructor -/
def ofCorrections (station : Station F) (distance : Distance F) :
    Throws (StationMagnitudeCalculator F) := do
  throwIf (!station.isInitialized)
    (.invalidArgument "Station correction not initialized")
  throwIf (!distance.isInitialized)
    (.invalidArgument "Distance correction not initialized")
  return { mStationCorrection := station, mDistanceCorrection := distance,
           mInitialized := true }

/-- Initialized? -/
def isInitialized (calculator : StationMagnitudeCalculator F) : Bool :=
  calculator.mInitialized

def getDistanceCorrection (calculator : StationMagnitudeCalculator F)
    (epicentralDistance eventDepth : Double F) :
    Throws (Except ErrorCode (Double F)) := noexcept <|
  if !calculator.isInitialized then .ok (.error .uninitialized)
  else if epicentralDistance < .finite 0 then .ok (.error .negativeDistance)
  else do
    let distanceCorrection ←
      calculator.mDistanceCorrection.applyAtDepth epicentralDistance eventDepth
    match distanceCorrection with
    | .ok correction => return .ok correction
    | .error .negativeDistance => return .error .negativeDistance
    | .error .stationTooClose => return .error .stationTooClose
    | .error .stationTooFar => return .error .stationTooFar
    | .error .invalidSourceDepth => return .error .invalidDepth
    | .error .uninitialized => return .error .unitializedDistanceCorrection

def getStationCorrection (calculator : StationMagnitudeCalculator F) :
    Except ErrorCode (Double F) :=
  if !calculator.isInitialized then .error .uninitialized
  else
    match calculator.mStationCorrection.apply with
    | .ok correction => .ok correction
    | .error .uninitialized => .error .unitializedStationCorrection

/-- The last part of `operator()`: package up the output. -/
def packageResult (amplitudes : Amplitude F × Amplitude F)
    (stationMagnitude stationCorrection distanceCorrection : Double F) :
    Throws (Except ErrorCode (StationMagnitude F)) := do
  let result : StationMagnitude F := {}
  let attempt ← tryCatch
    (Except.ok <$> (StationMagnitude.setAmplitudes amplitudes).call result)
    (fun _ => return .error .algorithmic) (fun _ => return .error .algorithmic)
  match attempt with
  | .error errorCode => return .error errorCode
  | .ok result => do
    let result ← (StationMagnitude.setValue stationMagnitude).call result
    let result ← (StationMagnitude.setStationCorrection stationCorrection).call result
    let result ← (StationMagnitude.setDistanceCorrection distanceCorrection).call result
    return .ok result

/-- The part of `operator()` behind its checks: apply the station magnitude formula
`log10(AvgAmp/2) + C_d + C_s`. -/
def applyFormula (calculator : StationMagnitudeCalculator F) (observation : Observation F)
    (epicentralDistance eventDepth : Double F) :
    Throws (Except ErrorCode (StationMagnitude F)) := do
  let amplitudes ← observation.getAmplitudes
  let amplitude1 ← amplitudes.1.getValue
  let amplitude2 ← amplitudes.2.getValue
  let averageAmplitude := .finite (1 / 2) * (amplitude1 + amplitude2)
  match ← calculator.getDistanceCorrection epicentralDistance eventDepth with
  | .error errorCode => return .error errorCode
  | .ok distanceCorrection =>
    match calculator.getStationCorrection with
    | .error errorCode => return .error errorCode
    | .ok stationCorrection =>
      let uncorrectedStationMagnitude :=
        Double.log10 (.finite (1 / 2) * averageAmplitude)
      let stationMagnitude :=
        uncorrectedStationMagnitude + distanceCorrection + stationCorrection
      packageResult amplitudes stationMagnitude stationCorrection distanceCorrection

/-- `operator()` -/
def apply (calculator : StationMagnitudeCalculator F) (observation : Observation F) :
    Throws (Except ErrorCode (StationMagnitude F)) := noexcept <|
  if !calculator.isInitialized then .ok (.error .uninitialized)
  else if !observation.hasAmplitudes then .ok (.error .noAmplitudes)
  else if !observation.hasEpicentralDistance then .ok (.error .noEpicentralDistance)
  else do
    -- Does this observation correspond to this station correction?
    let stationName ← observation.getStationName
    let correctionStationName ← calculator.mStationCorrection.getName
    if stationName ≠ correctionStationName then return .error .stationCorrectionMismatch
    else do
      let epicentralDistance ← observation.getEpicentralDistance
      let type ← calculator.mDistanceCorrection.getDistanceType
      if type = .hypocentral then
        if !observation.hasDepth then return .error .noEventDepth
        else do
          let eventDepth ← observation.getDepth
          applyFormula calculator observation epicentralDistance eventDepth
      else applyFormula calculator observation epicentralDistance (.finite 0)

/-! ## Packaging -/

/-- The packaged output. -/
def packaged (amplitudes : Amplitude F × Amplitude F)
    (stationMagnitude stationCorrection distanceCorrection : Double F) :
    StationMagnitude F where
  mAmplitudes := amplitudes
  mStationName := (Observation.stationOf amplitudes.1).name
  mValue := stationMagnitude
  mStationCorrection := stationCorrection
  mDistanceCorrection := distanceCorrection
  mHasAmplitudes := true
  mHasValue := true
  mHasStationCorrection := true
  mHasDistanceCorrection := true

/-- For an accepted pair the three setters decide. -/
theorem packageResult_of_paired {amplitudes : Amplitude F × Amplitude F}
    (h : Observation.Paired amplitudes)
    (stationMagnitude stationCorrection distanceCorrection : Double F) :
    packageResult amplitudes stationMagnitude stationCorrection distanceCorrection = do
      throwIf (!stationMagnitude.isFinite)
        (.invalidArgument "Station magnitude must be finite")
      throwIf (!stationCorrection.isFinite)
        (.invalidArgument "Station correction must be finite")
      throwIf (!distanceCorrection.isFinite)
        (.invalidArgument "Distance correction must be finite")
      return .ok (packaged amplitudes stationMagnitude stationCorrection
        distanceCorrection) := by
  unfold packageResult
  dsimp only
  rw [StationMagnitude.call_setAmplitudes_of_paired h]
  simp only [StationMagnitude.setValue, StationMagnitude.setStationCorrection,
    StationMagnitude.setDistanceCorrection, Method.call_lift_bind, Method.call_modify,
    map_ok, Cxx.tryCatch, bind_ok, bind_assoc]
  rfl

/-- A magnitude is packaged exactly when its pair is accepted and the three values are
numbers. -/
theorem packageResult_eq_ok_ok {amplitudes : Amplitude F × Amplitude F}
    {stationMagnitude stationCorrection distanceCorrection : Double F}
    {magnitude : StationMagnitude F} :
    packageResult amplitudes stationMagnitude stationCorrection distanceCorrection =
        .ok (.ok magnitude) ↔
      Observation.Paired amplitudes ∧ stationMagnitude.isFinite = true ∧
        stationCorrection.isFinite = true ∧ distanceCorrection.isFinite = true ∧
        packaged amplitudes stationMagnitude stationCorrection distanceCorrection =
          magnitude := by
  constructor
  · intro h
    have hpaired : Observation.Paired amplitudes := by
      unfold packageResult at h
      obtain ⟨attempt, hattempt, hrest⟩ := bind_eq_ok.mp h
      -- Only the returning branch of the `try` gets on.
      cases hcall : (StationMagnitude.setAmplitudes amplitudes).call {} with
      | ok result => exact StationMagnitude.paired_of_call_setAmplitudes hcall
      | error fault =>
          rw [hcall, map_error] at hattempt
          cases fault with
          | invalidArgument what =>
              obtain rfl := Except.ok.inj hattempt
              exact absurd (Except.ok.inj hrest) nofun
          | runtimeError what =>
              obtain rfl := Except.ok.inj hattempt
              exact absurd (Except.ok.inj hrest) nofun
          | outOfRange what =>
              obtain rfl := Except.ok.inj hattempt
              exact absurd (Except.ok.inj hrest) nofun
          | terminate => cases hattempt
          | undefinedBehavior => cases hattempt
    rw [packageResult_of_paired hpaired] at h
    simp only [throwIf_bind_eq_ok, Bool.not_eq_true', Bool.not_eq_false] at h
    obtain ⟨hvalue, hstation, hdistance, hresult⟩ := h
    exact ⟨hpaired, hvalue, hstation, hdistance, Except.ok.inj (Except.ok.inj hresult)⟩
  · intro hall
    rcases hall with ⟨hpaired, hvalue, hstation, hdistance, rfl⟩
    rw [packageResult_of_paired hpaired]
    simp only [throwIf_bind_eq_ok, Bool.not_eq_true', Bool.not_eq_false]
    exact ⟨hvalue, hstation, hdistance, rfl⟩

theorem complete_packaged {amplitudes : Amplitude F × Amplitude F}
    {stationMagnitude stationCorrection distanceCorrection : Double F}
    (h : Observation.Paired amplitudes) (hvalue : stationMagnitude.isFinite = true) :
    (packaged amplitudes stationMagnitude stationCorrection distanceCorrection).Complete :=
  { paired := h, hasAmplitudes := rfl, hasValue := rfl, value := hvalue,
    hasStationCorrection := rfl, hasDistanceCorrection := rfl }

/-- Packaging calls the four setters on a new magnitude. -/
theorem isReachable_packaged {amplitudes : Amplitude F × Amplitude F}
    {stationMagnitude stationCorrection distanceCorrection : Double F}
    (hreachable : amplitudes.1.IsReachable ∧ amplitudes.2.IsReachable)
    (hpaired : Observation.Paired amplitudes) (hvalue : stationMagnitude.isFinite = true)
    (hstation : stationCorrection.isFinite = true)
    (hdistance : distanceCorrection.isFinite = true) :
    (packaged amplitudes stationMagnitude stationCorrection
      distanceCorrection).IsReachable := by
  have hnew : ({} : StationMagnitude F).IsReachable := .init rfl
  have hfirst := hnew.call_eq_ok (i := .amplitudes amplitudes) hreachable
    (StationMagnitude.call_setAmplitudes_of_paired hpaired _)
  have hsecond := hfirst.call_eq_ok (i := .value stationMagnitude) trivial
    (StationMagnitude.call_setNumber_eq_ok.mpr ⟨hvalue, rfl⟩)
  have hthird := hsecond.call_eq_ok (i := .stationCorrection stationCorrection) trivial
    (StationMagnitude.call_setNumber_eq_ok.mpr ⟨hstation, rfl⟩)
  exact hthird.call_eq_ok (i := .distanceCorrection distanceCorrection) trivial
    (StationMagnitude.call_setNumber_eq_ok.mpr ⟨hdistance, rfl⟩)

/-- The magnitude was packaged with the amplitudes. -/
def PackagedWith (amplitudes : Amplitude F × Amplitude F) (magnitude : StationMagnitude F) :
    Prop :=
  ∃ stationMagnitude stationCorrection distanceCorrection,
    packageResult amplitudes stationMagnitude stationCorrection distanceCorrection =
      .ok (.ok magnitude)

theorem PackagedWith.complete {amplitudes : Amplitude F × Amplitude F}
    {magnitude : StationMagnitude F} (h : PackagedWith amplitudes magnitude) :
    magnitude.Complete ∧ magnitude.mAmplitudes = amplitudes := by
  obtain ⟨stationMagnitude, stationCorrection, distanceCorrection, hpackaged⟩ := h
  obtain ⟨hpaired, hvalue, -, -, rfl⟩ := packageResult_eq_ok_ok.mp hpackaged
  exact ⟨complete_packaged hpaired hvalue, rfl⟩

theorem PackagedWith.isReachable {amplitudes : Amplitude F × Amplitude F}
    {magnitude : StationMagnitude F} (h : PackagedWith amplitudes magnitude)
    (hreachable : amplitudes.1.IsReachable ∧ amplitudes.2.IsReachable) :
    magnitude.IsReachable := by
  obtain ⟨stationMagnitude, stationCorrection, distanceCorrection, hpackaged⟩ := h
  obtain ⟨hpaired, hvalue, hstation, hdistance, rfl⟩ := packageResult_eq_ok_ok.mp hpackaged
  exact isReachable_packaged hreachable hpaired hvalue hstation hdistance

/-- Whatever the calculator and the observation: a magnitude that is returned was packaged
with the amplitudes of the observation. -/
theorem packagedWith_of_applyFormula {calculator : StationMagnitudeCalculator F}
    {observation : Observation F} {epicentralDistance eventDepth : Double F}
    {magnitude : StationMagnitude F}
    (h : calculator.applyFormula observation epicentralDistance eventDepth =
      .ok (.ok magnitude)) : PackagedWith observation.mAmplitudes magnitude := by
  unfold applyFormula at h
  obtain ⟨amplitudes, hamplitudes, h⟩ := bind_eq_ok.mp h
  obtain ⟨amplitude1, -, h⟩ := bind_eq_ok.mp h
  obtain ⟨amplitude2, -, h⟩ := bind_eq_ok.mp h
  obtain ⟨outcome, -, h⟩ := bind_eq_ok.mp h
  have hsame : observation.mAmplitudes = amplitudes := by
    unfold Observation.getAmplitudes at hamplitudes
    simp only [throwIf_bind_eq_ok] at hamplitudes
    exact Except.ok.inj hamplitudes.2
  cases outcome with
  | error errorCode => exact absurd (Except.ok.inj h) nofun
  | ok distanceCorrection =>
      cases hstation : calculator.getStationCorrection with
      | error errorCode =>
          rw [hstation] at h
          exact absurd (Except.ok.inj h) nofun
      | ok stationCorrection =>
          rw [hstation] at h
          rw [hsame]
          exact ⟨_, _, _, h⟩

theorem packagedWith_of_apply {calculator : StationMagnitudeCalculator F}
    {observation : Observation F} {magnitude : StationMagnitude F}
    (h : calculator.apply observation = .ok (.ok magnitude)) :
    PackagedWith observation.mAmplitudes magnitude := by
  unfold apply at h
  rw [noexcept_eq_ok] at h
  split at h
  · exact absurd (Except.ok.inj h) nofun
  split at h
  · exact absurd (Except.ok.inj h) nofun
  split at h
  · exact absurd (Except.ok.inj h) nofun
  obtain ⟨stationName, -, h⟩ := bind_eq_ok.mp h
  obtain ⟨correctionStationName, -, h⟩ := bind_eq_ok.mp h
  split at h
  · exact absurd (Except.ok.inj h) nofun
  obtain ⟨epicentralDistance, -, h⟩ := bind_eq_ok.mp h
  obtain ⟨type, -, h⟩ := bind_eq_ok.mp h
  split at h
  · split at h
    · exact absurd (Except.ok.inj h) nofun
    · obtain ⟨eventDepth, -, h⟩ := bind_eq_ok.mp h
      exact packagedWith_of_applyFormula h
  · exact packagedWith_of_applyFormula h

/-! ## Specification -/

/-- What a constructed calculator satisfies. -/
structure Inv (calculator : StationMagnitudeCalculator F) : Prop where
  initialized : calculator.mInitialized = true
  station : calculator.mStationCorrection.Inv
  distance : calculator.mDistanceCorrection.Inv

/-- The observation has what the calculator needs, and was made at its station. -/
structure Fits (calculator : StationMagnitudeCalculator F) (observation : Observation F) :
    Prop where
  amplitudes : observation.mHasAmplitudes = true
  epicentralDistance : observation.mHasEpicentralDistance = true
  depth : calculator.mDistanceCorrection.mDistanceOptions.mType = .hypocentral →
    observation.mHasSourceDepth = true
  name : observation.mStationName = calculator.mStationCorrection.name

/-- The distance at which the table is read for an observation. -/
def lookupAt (distance : Distance F) (observation : Observation F) : Double F :=
  distance.lookupDistance observation.mEpicentralDistance
    (if distance.mDistanceOptions.mType = .hypocentral then observation.mSourceDepth
     else .finite 0)

/-- Half of the average amplitude. -/
def halfAverage (observation : Observation F) : Double F :=
  .finite (1 / 2) * (.finite (1 / 2) *
    (observation.mAmplitudes.1.mValue + observation.mAmplitudes.2.mValue))

/-- The error code for an error of the distance lookup. -/
def ErrorCode.ofDistance : Distance.ErrorCode → ErrorCode
  | .negativeDistance => .negativeDistance
  | .stationTooClose => .stationTooClose
  | .stationTooFar => .stationTooFar
  | .invalidSourceDepth => .invalidDepth
  | .uninitialized => .unitializedDistanceCorrection

/-- What follows the distance lookup. -/
def afterLookup (station : Station F) (observation : Observation F) :
    Except Distance.ErrorCode (Double F) → Throws (Except ErrorCode (StationMagnitude F))
  | .error code => .ok (.error (ErrorCode.ofDistance code))
  | .ok distanceCorrection =>
      packageResult observation.mAmplitudes
        ((halfAverage observation).log10 + distanceCorrection + station.mCorrection)
        station.mCorrection distanceCorrection

section Specification

variable {calculator : StationMagnitudeCalculator F} {observation : Observation F}

/-- The table is not read at a negative distance. -/
theorem not_lookupAt_lt_zero (distance : Distance F) (hobservation : observation.Inv)
    (hset : observation.mHasEpicentralDistance = true) :
    ¬ lookupAt distance observation < .finite 0 := by
  obtain ⟨d, hd, hnonneg, -⟩ := hobservation.epicentralDistance hset
  refine Distance.not_lookupDistance_lt_zero distance ?_ _
  rw [hd]
  exact not_lt.mpr hnonneg

theorem getDistanceCorrection_eq (hcalculator : calculator.Inv)
    {epicentralDistance eventDepth : Double F} (hdistance : ¬ epicentralDistance < .finite 0)
    (hdepth : calculator.mDistanceCorrection.mDistanceOptions.mType = .hypocentral →
      ¬ (eventDepth < .finite (-8600) ∨ eventDepth > .finite 900000)) :
    calculator.getDistanceCorrection epicentralDistance eventDepth =
      Except.mapError ErrorCode.ofDistance <$> calculator.mDistanceCorrection.apply
        (calculator.mDistanceCorrection.lookupDistance epicentralDistance eventDepth) := by
  unfold getDistanceCorrection
  rw [if_neg (by simp [isInitialized, hcalculator.initialized]), if_neg hdistance,
    Distance.applyAtDepth_eq hcalculator.distance hdistance hdepth,
    ← Distance.noexcept_apply, ← noexcept_map]
  cases calculator.mDistanceCorrection.apply
      (calculator.mDistanceCorrection.lookupDistance epicentralDistance eventDepth) with
  | error fault => cases fault <;> rfl
  | ok outcome =>
      cases outcome with
      | ok correction => rfl
      | error code => cases code <;> rfl

theorem getStationCorrection_eq (hcalculator : calculator.Inv) :
    calculator.getStationCorrection = .ok calculator.mStationCorrection.mCorrection := by
  unfold getStationCorrection
  rw [if_neg (by simp [isInitialized, hcalculator.initialized]), hcalculator.station.apply]

/-- Behind the checks the outcome depends on the lookup and the station correction. -/
theorem applyFormula_eq (hcalculator : calculator.Inv) (hobservation : observation.Inv)
    (hamplitudes : observation.mHasAmplitudes = true)
    {epicentralDistance eventDepth : Double F} (hdistance : ¬ epicentralDistance < .finite 0)
    (hdepth : calculator.mDistanceCorrection.mDistanceOptions.mType = .hypocentral →
      ¬ (eventDepth < .finite (-8600) ∨ eventDepth > .finite 900000)) :
    calculator.applyFormula observation epicentralDistance eventDepth =
      calculator.mDistanceCorrection.apply
          (calculator.mDistanceCorrection.lookupDistance epicentralDistance eventDepth) >>=
        afterLookup calculator.mStationCorrection observation := by
  obtain ⟨hpaired, -, -, -⟩ := hobservation.amplitudes hamplitudes
  have hget : observation.getAmplitudes = .ok observation.mAmplitudes := by
    simp [Observation.getAmplitudes, Observation.hasAmplitudes, throwIf, hamplitudes]
  unfold applyFormula
  rw [hget, bind_ok, Amplitude.getValue_eq_ok hpaired.first.value, bind_ok,
    Amplitude.getValue_eq_ok hpaired.second.value, bind_ok,
    getDistanceCorrection_eq hcalculator hdistance hdepth,
    getStationCorrection_eq hcalculator]
  dsimp only
  cases hlookup : calculator.mDistanceCorrection.apply
      (calculator.mDistanceCorrection.lookupDistance epicentralDistance eventDepth) with
  | error fault => rfl
  | ok outcome =>
      cases outcome with
      | ok correction => rfl
      | error code => rfl

/-- For an observation that fits, the outcome is fixed by the lookup and the station
correction. -/
theorem apply_eq (hcalculator : calculator.Inv) (hobservation : observation.Inv)
    (hfits : calculator.Fits observation) :
    calculator.apply observation = noexcept
      (calculator.mDistanceCorrection.apply
          (lookupAt calculator.mDistanceCorrection observation) >>=
        afterLookup calculator.mStationCorrection observation) := by
  obtain ⟨d, hd, hnonneg, -⟩ := hobservation.epicentralDistance hfits.epicentralDistance
  have hdistance : ¬ observation.mEpicentralDistance < .finite 0 := by
    rw [hd]
    exact not_lt.mpr hnonneg
  have hgetDistance : observation.getEpicentralDistance =
      .ok observation.mEpicentralDistance := by
    simp [Observation.getEpicentralDistance, Observation.hasEpicentralDistance, throwIf,
      hfits.epicentralDistance]
  unfold apply lookupAt
  rw [if_neg (by simp [isInitialized, hcalculator.initialized]),
    if_neg (by simp [Observation.hasAmplitudes, hfits.amplitudes]),
    if_neg (by simp [Observation.hasEpicentralDistance, hfits.epicentralDistance]),
    Observation.getStationName_eq_ok hfits.amplitudes, bind_ok, hcalculator.station.getName,
    bind_ok, if_neg (not_not.mpr hfits.name), hgetDistance, bind_ok,
    hcalculator.distance.getDistanceType, bind_ok]
  by_cases htype : calculator.mDistanceCorrection.mDistanceOptions.mType = .hypocentral
  · obtain ⟨z, hz, hshallow, hdeep⟩ := hobservation.depth (hfits.depth htype)
    have hget : observation.getDepth = .ok observation.mSourceDepth := by
      simp [Observation.getDepth, Observation.hasDepth, throwIf, hfits.depth htype]
    have hrange : ¬ (observation.mSourceDepth < .finite (-8600) ∨
        observation.mSourceDepth > .finite 900000) := by
      rw [hz]
      exact (Corrections.number_in_range_iff.mpr ⟨z, rfl, hshallow, hdeep⟩).2
    rw [if_pos htype, if_neg (by simp [Observation.hasDepth, hfits.depth htype]), hget,
      bind_ok, applyFormula_eq hcalculator hobservation hfits.amplitudes hdistance
        fun _ => hrange, if_pos htype]
  · rw [if_neg htype, applyFormula_eq hcalculator hobservation hfits.amplitudes hdistance
      fun h => absurd h htype, if_neg htype]

/-- The observation is out of reach of the table, or its table rows and the station
correction are numbers. -/
def IsSafe (distance : Distance F) (station : Station F) (observation : Observation F) :
    Prop :=
  lookupAt distance observation < distance.mMinimumDistance ∨
    lookupAt distance observation > distance.mMaximumDistance ∨
    (distance.isTabulated (lookupAt distance observation) = true ∧
      station.mCorrection.isFinite = true)

/-- No intermediate result of the magnitude overflows, and the average amplitude does not
underflow. -/
structure InRange (distance : Distance F) (station : Station F)
    (observation : Observation F) : Prop where
  average : ∃ a, halfAverage observation = .finite a ∧ 0 < a
  correction : (distance.correctionAt (lookupAt distance observation)).isFinite = true
  magnitude : ((halfAverage observation).log10 +
    distance.correctionAt (lookupAt distance observation) + station.mCorrection).isFinite = true

/-- The observation is out of reach of the table, or its magnitude is in range. -/
def IsRepresentable (distance : Distance F) (station : Station F)
    (observation : Observation F) : Prop :=
  lookupAt distance observation < distance.mMinimumDistance ∨
    lookupAt distance observation > distance.mMaximumDistance ∨
    InRange distance station observation

/-- A magnitude that was packaged is a number, and so are its corrections. -/
theorem isFinite_of_afterLookup {station : Station F}
    (hpaired : Observation.Paired observation.mAmplitudes) {distanceCorrection : Double F}
    {outcome : Except ErrorCode (StationMagnitude F)}
    (h : afterLookup station observation (.ok distanceCorrection) = .ok outcome) :
    ((halfAverage observation).log10 + distanceCorrection +
        station.mCorrection).isFinite = true ∧
      station.mCorrection.isFinite = true ∧ distanceCorrection.isFinite = true := by
  have hpackaged : packageResult observation.mAmplitudes
      ((halfAverage observation).log10 + distanceCorrection + station.mCorrection)
      station.mCorrection distanceCorrection = .ok outcome := h
  rw [packageResult_of_paired hpaired] at hpackaged
  simp only [throwIf_bind_eq_ok, Bool.not_eq_true', Bool.not_eq_false] at hpackaged
  exact ⟨hpackaged.1, hpackaged.2.1, hpackaged.2.2.1⟩

/-- An observation for which no exception leaves the calculator is safe, and its magnitude
is in range. -/
theorem isSafe_of_apply (hcalculator : calculator.Inv) (hobservation : observation.Inv)
    (hfits : calculator.Fits observation) {outcome : Except ErrorCode (StationMagnitude F)}
    (h : calculator.apply observation = .ok outcome) :
    IsSafe calculator.mDistanceCorrection calculator.mStationCorrection observation ∧
      IsRepresentable calculator.mDistanceCorrection calculator.mStationCorrection
        observation := by
  have hpositive := not_lookupAt_lt_zero calculator.mDistanceCorrection hobservation
    hfits.epicentralDistance
  have hpaired := (hobservation.amplitudes hfits.amplitudes).1
  rw [apply_eq hcalculator hobservation hfits, noexcept_eq_ok] at h
  obtain ⟨lookup, hlookup, h⟩ := bind_eq_ok.mp h
  by_cases hclose : lookupAt calculator.mDistanceCorrection observation <
      calculator.mDistanceCorrection.mMinimumDistance
  · exact ⟨Or.inl hclose, Or.inl hclose⟩
  by_cases hfar : lookupAt calculator.mDistanceCorrection observation >
      calculator.mDistanceCorrection.mMaximumDistance
  · exact ⟨Or.inr (Or.inl hfar), Or.inr (Or.inl hfar)⟩
  -- In reach of the table the lookup has given a value, and it was packaged.
  rw [Distance.apply_eq hcalculator.distance hpositive, if_neg hclose, if_neg hfar,
    noexcept_eq_ok] at hlookup
  cases hinterpolate : calculator.mDistanceCorrection.interpolate
      (lookupAt calculator.mDistanceCorrection observation) with
  | error fault => simp [hinterpolate] at hlookup
  | ok y =>
      rw [hinterpolate, map_ok] at hlookup
      obtain rfl := Except.ok.inj hlookup
      obtain ⟨hmagnitude, hstation, hcorrection⟩ := isFinite_of_afterLookup hpaired h
      obtain ⟨y, rfl⟩ := Double.exists_finite hcorrection
      have hat := (Distance.interpolate_eq_ok_iff hcalculator.distance).mp hinterpolate
      rw [← hat] at hmagnitude hcorrection
      have hlog := (Double.isFinite_of_add (Double.isFinite_of_add hmagnitude).1).1
      exact ⟨Or.inr (Or.inr
          ⟨Distance.isTabulated_of_isFinite hcalculator.distance hcorrection, hstation⟩),
        Or.inr (Or.inr ⟨Double.pos_of_log10 hlog, hcorrection, hmagnitude⟩)⟩

/-- Safe observations whose magnitude is in range are answered. -/
theorem exists_apply_of_isRepresentable (hcalculator : calculator.Inv)
    (hobservation : observation.Inv) (hfits : calculator.Fits observation)
    (hsafe : IsSafe calculator.mDistanceCorrection calculator.mStationCorrection observation)
    (hrange : IsRepresentable calculator.mDistanceCorrection calculator.mStationCorrection
      observation) :
    ∃ outcome, calculator.apply observation = .ok outcome := by
  have hpositive := not_lookupAt_lt_zero calculator.mDistanceCorrection hobservation
    hfits.epicentralDistance
  have hpaired := (hobservation.amplitudes hfits.amplitudes).1
  rw [apply_eq hcalculator hobservation hfits]
  by_cases hclose : lookupAt calculator.mDistanceCorrection observation <
      calculator.mDistanceCorrection.mMinimumDistance
  · rw [Distance.apply_eq hcalculator.distance hpositive, if_pos hclose]
    exact ⟨_, rfl⟩
  by_cases hfar : lookupAt calculator.mDistanceCorrection observation >
      calculator.mDistanceCorrection.mMaximumDistance
  · rw [Distance.apply_eq hcalculator.distance hpositive, if_neg hclose, if_pos hfar]
    exact ⟨_, rfl⟩
  obtain ⟨-, hstation⟩ := (hsafe.resolve_left hclose).resolve_left hfar
  have hin := (hrange.resolve_left hclose).resolve_left hfar
  obtain ⟨y, hy⟩ := Double.exists_finite hin.correction
  rw [Distance.apply_of_reach hcalculator.distance hpositive hclose hfar hy, bind_ok]
  have hmagnitude := hin.magnitude
  rw [hy] at hmagnitude
  refine ⟨.ok (packaged observation.mAmplitudes ((halfAverage observation).log10 + .finite y +
    calculator.mStationCorrection.mCorrection) calculator.mStationCorrection.mCorrection
      (.finite y)), ?_⟩
  unfold afterLookup
  rw [noexcept_eq_ok, packageResult_eq_ok_ok]
  exact ⟨hpaired, hmagnitude, hstation, rfl, rfl⟩

/-- No exception leaves the calculator exactly for the safe observations whose magnitude is
in range. -/
theorem exists_apply_iff (hcalculator : calculator.Inv) (hobservation : observation.Inv)
    (hfits : calculator.Fits observation) :
    (∃ outcome, calculator.apply observation = .ok outcome) ↔
      IsSafe calculator.mDistanceCorrection calculator.mStationCorrection observation ∧
        IsRepresentable calculator.mDistanceCorrection calculator.mStationCorrection
          observation := by
  constructor
  · rintro ⟨outcome, houtcome⟩
    exact isSafe_of_apply hcalculator hobservation hfits houtcome
  · rintro ⟨hsafe, hrange⟩
    exact exists_apply_of_isRepresentable hcalculator hobservation hfits hsafe hrange

end Specification

/-! ## The magnitude in exact arithmetic -/

/-- The magnitude before corrections: `log10` of a quarter of the sum of the amplitudes. -/
def uncorrected (observation : Observation F) : F :=
  Arithmetic.log10 (1 / 2 *
    (1 / 2 * (observation.mAmplitudes.1.mValue.val + observation.mAmplitudes.2.mValue.val)))

/-- The magnitude of an observation for two corrections that are numbers. -/
def magnitudeOf (observation : Observation F) (distanceCorrection stationCorrection : F) :
    StationMagnitude F :=
  packaged observation.mAmplitudes
    (.finite (uncorrected observation + distanceCorrection + stationCorrection))
    (.finite stationCorrection) (.finite distanceCorrection)

section Exact

variable [IsExact F] {calculator : StationMagnitudeCalculator F} {observation : Observation F}

/-- The table is read at a number that is not negative. -/
theorem exists_lookupAt (hcalculator : calculator.Inv) (hobservation : observation.Inv)
    (hfits : calculator.Fits observation) :
    ∃ x : F, lookupAt calculator.mDistanceCorrection observation = .finite x ∧ 0 ≤ x := by
  obtain ⟨d, hd, hnonneg, -⟩ := hobservation.epicentralDistance hfits.epicentralDistance
  unfold lookupAt
  rw [hd]
  by_cases htype : calculator.mDistanceCorrection.mDistanceOptions.mType = .hypocentral
  · obtain ⟨z, hz, -, -⟩ := hobservation.depth (hfits.depth htype)
    rw [if_pos htype, hz]
    exact Distance.lookupDistance_finite hcalculator.distance hnonneg
  · rw [if_neg htype]
    exact Distance.lookupDistance_finite hcalculator.distance hnonneg

/-- The average amplitude is a positive number. -/
theorem halfAverage_eq (hobservation : observation.Inv)
    (hamplitudes : observation.mHasAmplitudes = true) :
    ∃ a, halfAverage observation = .finite a ∧ 0 < a ∧
      (halfAverage observation).log10 = .finite (uncorrected observation) := by
  obtain ⟨hpaired, hreachable1, hreachable2, -⟩ := hobservation.amplitudes hamplitudes
  obtain ⟨a1, ha1, hpos1⟩ := hreachable1.inv.exists_value hpaired.first.value
  obtain ⟨a2, ha2, hpos2⟩ := hreachable2.inv.exists_value hpaired.second.value
  have haverage : halfAverage observation = .finite (1 / 2 * (1 / 2 * (a1 + a2))) := by
    unfold halfAverage
    rw [ha1, ha2, Double.finite_add_finite, Double.finite_mul_finite, Double.finite_mul_finite]
  have hpos : 0 < 1 / 2 * (1 / 2 * (a1 + a2)) := by positivity
  refine ⟨_, haverage, hpos, ?_⟩
  rw [haverage, Double.log10_finite hpos]
  unfold uncorrected
  rw [ha1, ha2]
  rfl

/-- What follows a lookup that gives a value. -/
theorem afterLookup_ok (hobservation : observation.Inv)
    (hamplitudes : observation.mHasAmplitudes = true) (station : Station F)
    (distanceCorrection : Double F) :
    afterLookup station observation (.ok distanceCorrection) =
      packageResult observation.mAmplitudes
        (.finite (uncorrected observation) + distanceCorrection + station.mCorrection)
        station.mCorrection distanceCorrection := by
  obtain ⟨a, -, -, hlog⟩ := halfAverage_eq hobservation hamplitudes
  unfold afterLookup
  rw [hlog]

/-- With numbers for both corrections a magnitude is packaged. -/
theorem noexcept_afterLookup (hobservation : observation.Inv)
    (hamplitudes : observation.mHasAmplitudes = true) {station : Station F}
    {distanceCorrection stationCorrection : F}
    (hstation : station.mCorrection = .finite stationCorrection) :
    noexcept (afterLookup station observation (.ok (.finite distanceCorrection))) =
      .ok (.ok (magnitudeOf observation distanceCorrection stationCorrection)) := by
  rw [afterLookup_ok hobservation hamplitudes, hstation, noexcept_eq_ok,
    packageResult_eq_ok_ok, Double.finite_add_finite, Double.finite_add_finite]
  exact ⟨(hobservation.amplitudes hamplitudes).1, rfl, rfl, rfl, rfl⟩

/-- The magnitude of a safe observation is always in range. -/
theorem IsSafe.isRepresentable (hcalculator : calculator.Inv) (hobservation : observation.Inv)
    (hfits : calculator.Fits observation)
    (hsafe : IsSafe calculator.mDistanceCorrection calculator.mStationCorrection
      observation) :
    IsRepresentable calculator.mDistanceCorrection calculator.mStationCorrection
      observation := by
  refine hsafe.imp_right (Or.imp_right ?_)
  rintro ⟨htabulated, hstation⟩
  obtain ⟨x, hx, -⟩ := exists_lookupAt hcalculator hobservation hfits
  have hcorrection := (Distance.isFinite_correctionAt hcalculator.distance
    (by rw [hx]; rfl)).mpr htabulated
  obtain ⟨a, ha, hpos, hlog⟩ := halfAverage_eq hobservation hfits.amplitudes
  refine ⟨⟨a, ha, hpos⟩, hcorrection, ?_⟩
  rw [Double.isFinite_add, Double.isFinite_add, hlog, hcorrection, hstation]
  rfl

/-- The three ways in which the calculator answers a safe observation. -/
inductive Answer (calculator : StationMagnitudeCalculator F) (observation : Observation F) :
    Except ErrorCode (StationMagnitude F) → Prop
  | tooClose : Answer calculator observation (.error .stationTooClose)
  | tooFar : Answer calculator observation (.error .stationTooFar)
  | magnitude (distanceCorrection stationCorrection : F)
      (hlookup : calculator.mDistanceCorrection.apply
        (lookupAt calculator.mDistanceCorrection observation) =
          .ok (.ok (.finite distanceCorrection)))
      (hstation : calculator.mStationCorrection.mCorrection = .finite stationCorrection) :
      Answer calculator observation
        (.ok (magnitudeOf observation distanceCorrection stationCorrection))

theorem exists_apply_of_isSafe (hcalculator : calculator.Inv)
    (hobservation : observation.Inv) (hfits : calculator.Fits observation)
    (hsafe : IsSafe calculator.mDistanceCorrection calculator.mStationCorrection
      observation) :
    ∃ outcome, calculator.apply observation = .ok outcome ∧
      Answer calculator observation outcome := by
  have hpositive := not_lookupAt_lt_zero calculator.mDistanceCorrection hobservation
    hfits.epicentralDistance
  rw [apply_eq hcalculator hobservation hfits]
  by_cases hclose : lookupAt calculator.mDistanceCorrection observation <
      calculator.mDistanceCorrection.mMinimumDistance
  · rw [Distance.apply_eq hcalculator.distance hpositive, if_pos hclose]
    exact ⟨_, rfl, .tooClose⟩
  by_cases hfar : lookupAt calculator.mDistanceCorrection observation >
      calculator.mDistanceCorrection.mMaximumDistance
  · rw [Distance.apply_eq hcalculator.distance hpositive, if_neg hclose, if_pos hfar]
    exact ⟨_, rfl, .tooFar⟩
  -- In reach of the table both corrections are numbers by safety.
  obtain ⟨htabulated, hstation⟩ := (hsafe.resolve_left hclose).resolve_left hfar
  obtain ⟨x, hx, -⟩ := exists_lookupAt hcalculator hobservation hfits
  obtain ⟨y, hy⟩ := Double.exists_finite ((Distance.isFinite_correctionAt hcalculator.distance
    (by rw [hx]; rfl)).mpr htabulated)
  obtain ⟨c, hc⟩ := Double.exists_finite hstation
  have hlookup := Distance.apply_of_reach hcalculator.distance hpositive hclose hfar hy
  refine ⟨_, ?_, .magnitude y c hlookup hc⟩
  rw [hlookup, bind_ok]
  exact noexcept_afterLookup hobservation hfits.amplitudes hc

end Exact

end StationMagnitudeCalculator

end Magnitude
end ULocalMagnitude
