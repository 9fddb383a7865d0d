import ULocalMagnitude.Magnitude.NetworkMagnitude
import ULocalMagnitude.Magnitude.NetworkMagnitudeCalculatorOptions
import ULocalMagnitude.Magnitude.StationMagnitudeCalculator

/-!
# The network magnitude

`magnitude/networkMagnitudeCalculator.cpp`: one calculator for each station with a
correction, and the average of the station magnitudes of a list of observations.
The loops of the call operator are functions of their own; `int` counters are
integers, as lists of `2^31` observations are out of reach.

* `IsReachable.inv` — every stored calculator is that of the station named by its
  key, at the one table of distance corrections;
* `exists_computeStationMagnitude_iff` — which observations the calculator answers;
* `WellFormed.isAnswerable` — all of them, when the corrections are numbers.
-/

namespace ULocalMagnitude
namespace Magnitude

open Cxx
open Corrections (Distance Station StationIdentifier StationsSet)

variable {F : Type} [Arithmetic F]

/-- `NetworkMagnitudeCalculator::NetworkMagnitudeCalculatorImpl` -/
structure NetworkMagnitudeCalculator (F : Type) [Arithmetic F] where
  mOptions : NetworkMagnitudeCalculatorOptions F
  mStationMagnitudeCalculatorMap : StringMap (StationMagnitudeCalculator F) := ∅
  mRequiresDepthCorrection : Bool := false
  mInitialized : Bool := false
deriving DecidableEq

namespace NetworkMagnitudeCalculator

/-- `NetworkMagnitudeCalculator::ErrorCode` -/
inductive ErrorCode where
  -- User error
  | noObservations
  | observationMissingAmplitudes
  | observationMissingDistance
  | observationMissingDepth
  | duplicateObservations
  | tooFewObservations
  -- User errors at a station level
  | observationHasNoCorrection
  | negativeDistance
  | stationTooClose
  | stationTooFar
  -- Server error
  | uninitialized
  | algorithm
deriving DecidableEq

/-! ## Construction -/

/-- The loop of the constructor over the station corrections. -/
def addCalculators (distanceCorrections : Distance F) :
    List (Sigma fun _ : Bytes => Station F) → StringMap (StationMagnitudeCalculator F) →
      Throws (StringMap (StationMagnitudeCalculator F))
  | [], calculators => return calculators
  | ⟨stationName, stationCorrection⟩ :: rest, calculators => do
      let calculator ←
        StationMagnitudeCalculator.ofCorrections stationCorrection distanceCorrections
      throwIf (!calculator.isInitialized) (.runtimeError
        ("Failed to initialize station magnitude calculator for " ++ toText stationName))
      addCalculators distanceCorrections rest (calculators.emplace stationName calculator)

/-- Constructor -/
def ofOptions (options : NetworkMagnitudeCalculatorOptions F) :
    Throws (NetworkMagnitudeCalculator F) := do
  tryCatch options.validate
    (fun what => .error
      (.invalidArgument ("Network magnitude options invalid because " ++ what)))
    (fun what => .error
      (.invalidArgument ("Network magnitude options invalid because " ++ what)))
  let distanceCorrections ← options.getDistanceCorrections
  let stationCorrections ← options.getStationCorrections
  let calculators ←
    addCalculators distanceCorrections stationCorrections.getCorrections.entries ∅
  let type ← distanceCorrections.getDistanceType
  return { mOptions := options, mStationMagnitudeCalculatorMap := calculators,
           mRequiresDepthCorrection := decide (type = .hypocentral), mInitialized := true }

/-- Initialized? -/
def isInitialized (calculator : NetworkMagnitudeCalculator F) : Bool :=
  calculator.mInitialized

/-- Need depth? -/
def requiresEventDepth (calculator : NetworkMagnitudeCalculator F) : Throws Bool := do
  throwIf (!calculator.isInitialized) (.runtimeError "Network magnitude not initialized")
  return calculator.mRequiresDepthCorrection

/-- The distance corrections -/
def getDistanceCorrections (calculator : NetworkMagnitudeCalculator F) :
    Throws (Distance F) := do
  throwIf (!calculator.isInitialized) (.runtimeError "Network magnitude not initialized")
  calculator.mOptions.getDistanceCorrections

/-- The station correction -/
def getStationCorrection (calculator : NetworkMagnitudeCalculator F)
    (identifier : StationIdentifier) : Throws (Option (Double F)) := do
  throwIf (!calculator.isInitialized) (.runtimeError "Network magnitude not initialized")
  let stationName ← identifier.toString
  match calculator.mStationMagnitudeCalculatorMap.lookup stationName with
  | some stationCalculator =>
    match stationCalculator.getStationCorrection with
    | .ok correction => return some correction
    | .error .algorithmic =>
        .error (.runtimeError "Alglorihmic error in station correction")
    | .error .uninitialized =>
        .error (.runtimeError "Failed to initialize station correction")
    | .error _ => .error (.runtimeError "Algorithmic error")
  | none => return none

/-! ## One observation -/

/-- The chain of comparisons behind a station calculator that returned an error. -/
def stationErrorCode : StationMagnitudeCalculator.ErrorCode → StationCalculatorErrorCode
  | .negativeDistance => .negativeDistance
  | .stationTooClose => .stationTooClose
  | .stationTooFar => .stationTooFar
  | .invalidDepth => .invalidDepth
  | _ => .algorithm

/-- Computes a station magnitude from an observation. -/
def computeStationMagnitude (calculator : NetworkMagnitudeCalculator F)
    (observation : Observation F) :
    Throws (Except StationCalculatorErrorCode (StationMagnitude F)) := noexcept <|
  if !calculator.isInitialized then .ok (.error .uninitialized)
  else if !observation.hasAmplitudes then .ok (.error .observationMissingAmplitudes)
  else if !observation.hasEpicentralDistance then .ok (.error .observationMissingDistance)
  else if calculator.mRequiresDepthCorrection && !observation.hasDepth then
    .ok (.error .observationMissingDepth)
  else do
    let stationName ← observation.getStationName
    match calculator.mStationMagnitudeCalculatorMap.lookup stationName with
    | some stationCalculator =>
      match ← stationCalculator.apply observation with
      | .ok stationMagnitude => return .ok stationMagnitude
      | .error errorCode => return .error (stationErrorCode errorCode)
    | none => return .error .observationHasNoCorrection

/-! ## The loops of `operator()` -/

/-- Check the observations. -/
def checkObservations (calculator : NetworkMagnitudeCalculator F) :
    List (Observation F) → Option ErrorCode
  | [] => none
  | observation :: rest =>
      if !observation.hasAmplitudes then some .observationMissingAmplitudes
      else if !observation.hasEpicentralDistance then some .observationMissingDistance
      else if calculator.mRequiresDepthCorrection && !observation.hasDepth then
        some .observationMissingDepth
      else checkObservations calculator rest

/-- A station can only be observed once. -/
def hasDuplicates (stationNames : List Bytes) : List (Observation F) → Throws Bool
  | [] => return false
  | observation :: rest => do
      let stationName ← observation.getStationName
      if stationName ∈ stationNames then return true
      else hasDuplicates (stationName :: stationNames) rest

/-- `struct WorkItem` -/
structure WorkItem (F : Type) [Arithmetic F] where
  observation : Observation F
  observationNumber : Int
  stationMagnitude : Except StationCalculatorErrorCode (StationMagnitude F)

/-- The loop that fills the work items. -/
def makeWorkItems (calculator : NetworkMagnitudeCalculator F) (observationNumber : Int) :
    List (Observation F) → Throws (List (WorkItem F))
  | [] => return []
  | observation :: rest => do
      let stationMagnitude ← calculator.computeStationMagnitude observation
      let workItems ← makeWorkItems calculator (observationNumber + 1) rest
      return { observation, observationNumber := observationNumber + 1,
               stationMagnitude } :: workItems

/-- Average every station magnitude we could compute - no trimming: the count and the
sum.  The log message for the others names their stations. -/
def sumStationMagnitudes (nStationMagnitudes : Int) (sum : Double F) :
    List (WorkItem F) → Throws (Int × Double F)
  | [] => return (nStationMagnitudes, sum)
  | item :: rest =>
      match item.stationMagnitude with
      | .ok stationMagnitude => do
          let value ← stationMagnitude.getValue
          sumStationMagnitudes (nStationMagnitudes + 1) (sum + value) rest
      | .error _ => do
          let _ ← item.observation.getStationName
          sumStationMagnitudes nStationMagnitudes sum rest

/-- Now tabulate the residuals and errors. -/
def tabulate (networkMagnitude : NetworkMagnitude F) :
    List (WorkItem F) →
      Throws (List (Residual F × Int) × List (StationCalculatorErrorCode × Int))
  | [] => return ([], [])
  | item :: rest =>
      match item.stationMagnitude with
      | .ok stationMagnitude => do
          let residual : Residual F := {}
          let residualValue :=
            (← networkMagnitude.getValue) - (← stationMagnitude.getValue)
          let residual ← (Residual.setValue residualValue).call residual
          let residual ← (Residual.setStationMagnitude stationMagnitude).call residual
          let (residuals, rejectedObservations) ← tabulate networkMagnitude rest
          return ((residual, item.observationNumber) :: residuals, rejectedObservations)
      | .error errorCode => do
          let (residuals, rejectedObservations) ← tabulate networkMagnitude rest
          return (residuals, (errorCode, item.observationNumber) :: rejectedObservations)

/-- The part of `operator()` behind the average. -/
def packageAverage (averageMagnitude : Double F) (workItems : List (WorkItem F)) :
    Throws (Except ErrorCode (NetworkMagnitude F)) := do
  let networkMagnitude : NetworkMagnitude F := {}
  let attempt ← tryCatch
    (Except.ok <$> (NetworkMagnitude.setValue averageMagnitude).call networkMagnitude)
    (fun _ => return .error .algorithm) (fun _ => return .error .algorithm)
  match attempt with
  | .error errorCode => return .error errorCode
  | .ok networkMagnitude => do
    let (residuals, rejectedObservations) ← tabulate networkMagnitude workItems
    let networkMagnitude ← (NetworkMagnitude.setResiduals residuals).call networkMagnitude
    let networkMagnitude ←
      (NetworkMagnitude.setRejectedObservations rejectedObservations).call networkMagnitude
    return .ok networkMagnitude

/-- The part of `operator()` behind the work items. -/
def combineWorkItems (calculator : NetworkMagnitudeCalculator F)
    (workItems : List (WorkItem F)) : Throws (Except ErrorCode (NetworkMagnitude F)) :=
  -- We can quit now (can still get worse)
  let minObservationsRequired := calculator.mOptions.getMinimumNumberOfStationMagnitudes
  if (workItems.length : Int) < minObservationsRequired then
    .ok (.error .tooFewObservations)
  -- Now to combine the magnitudes
  else if calculator.mOptions.getStrategy ≠ .average then .ok (.error .algorithm)
  else do
    let (nStationMagnitudes, sum) ← sumStationMagnitudes 0 (.finite 0) workItems
    if nStationMagnitudes < max 1 minObservationsRequired then
      return .error .tooFewObservations
    else packageAverage (sum / .finite (nStationMagnitudes : F)) workItems

/-- `operator()` -/
def apply (calculator : NetworkMagnitudeCalculator F) (observations : List (Observation F)) :
    Throws (Except ErrorCode (NetworkMagnitude F)) := noexcept <|
  if !calculator.isInitialized then .ok (.error .uninitialized)
  else if observations.isEmpty then .ok (.error .noObservations)
  else
    match calculator.checkObservations observations with
    | some errorCode => .ok (.error errorCode)
    | none => do
      if ← hasDuplicates [] observations then return .error .duplicateObservations
      else combineWorkItems calculator (← makeWorkItems calculator 0 observations)

/-! ## The invariant -/

/-- Made by the constructor from options that were filled in by their setters. -/
def IsReachable (calculator : NetworkMagnitudeCalculator F) : Prop :=
  ∃ options, NetworkMagnitudeCalculatorOptions.IsReachable options ∧
    ofOptions options = .ok calculator

/-- The calculator of a station. -/
def calculatorOf (station : Station F) (distance : Distance F) :
    StationMagnitudeCalculator F where
  mStationCorrection := station
  mDistanceCorrection := distance
  mInitialized := true

/-- The loop adds the calculators of the entries that are not there yet. -/
theorem lookup_addCalculators {distance : Distance F}
    {entries : List (Sigma fun _ : Bytes => Station F)}
    {before after : StringMap (StationMagnitudeCalculator F)}
    (h : addCalculators distance entries before = .ok after) (name : Bytes) :
    after.lookup name = (before.lookup name).or
      ((entries.dlookup name).map fun station => calculatorOf station distance) := by
  induction entries generalizing before with
  | nil =>
      obtain rfl : before = after := Except.ok.inj h
      simp
  | cons entry rest ih =>
      obtain ⟨key, station⟩ := entry
      unfold addCalculators at h
      obtain ⟨added, hadded, h⟩ := bind_eq_ok.mp h
      rw [throwIf_bind_eq_ok] at h
      have hstation : calculatorOf station distance = added := by
        unfold StationMagnitudeCalculator.ofCorrections at hadded
        simp only [throwIf_bind_eq_ok] at hadded
        exact Except.ok.inj hadded.2.2
      rw [ih h.2]
      by_cases hname : name = key
      · subst hname
        rw [List.dlookup_cons_eq, Option.map_some, hstation]
        by_cases hmem : name ∈ before
        · -- An entry that is there stays.
          obtain ⟨old, hold⟩ := Option.isSome_iff_exists.mp (AList.lookup_isSome.mpr hmem)
          rw [StringMap.emplace, if_pos hmem, hold]
          rfl
        · rw [StringMap.lookup_emplace_self hmem, AList.lookup_eq_none.mpr hmem]
          rfl
      · rw [StringMap.lookup_emplace_ne hname, List.dlookup_cons_ne _ _ hname]

/-- The loop gets through constructed stations. -/
theorem exists_addCalculators {distance : Distance F} (hdistance : distance.Inv)
    {entries : List (Sigma fun _ : Bytes => Station F)}
    (hentries : ∀ entry ∈ entries, entry.2.Inv)
    (before : StringMap (StationMagnitudeCalculator F)) :
    ∃ after, addCalculators distance entries before = .ok after := by
  induction entries generalizing before with
  | nil => exact ⟨before, rfl⟩
  | cons entry rest ih =>
      have hstation := hentries entry List.mem_cons_self
      obtain ⟨after, hafter⟩ := ih (fun other hother =>
        hentries other (List.mem_cons_of_mem entry hother))
        (before.emplace entry.1 (calculatorOf entry.2 distance))
      refine ⟨after, ?_⟩
      unfold addCalculators StationMagnitudeCalculator.ofCorrections
      rw [throwIf_neg (by simp [Station.isInitialized, hstation.initialized]), bind_ok,
        throwIf_neg (by simp [Distance.isInitialized, hdistance.initialized]), bind_ok,
        pure_eq_ok, bind_ok, throwIf_neg (by simp [StationMagnitudeCalculator.isInitialized]),
        bind_ok]
      exact hafter

/-- Options with both kinds of corrections set make a calculator. -/
theorem exists_ofOptions {options : NetworkMagnitudeCalculatorOptions F}
    (hoptions : options.IsReachable) (hdistance : options.mHasDistanceCorrections = true)
    (hstations : options.mHasStationCorrections = true) :
    ∃ calculator, ofOptions options = .ok calculator ∧ calculator.mOptions = options := by
  obtain ⟨distance, hsome, hreachable⟩ := hoptions.inv.distanceCorrections hdistance
  have hset := (hoptions.inv.stationCorrections hstations).inv
  have hvalid : options.validate = .ok () :=
    NetworkMagnitudeCalculatorOptions.validate_eq_ok.mpr ⟨hstations, hdistance⟩
  have hgetDistance : options.getDistanceCorrections = .ok distance := by
    unfold NetworkMagnitudeCalculatorOptions.getDistanceCorrections
    rw [throwIf_neg
      (by simp [NetworkMagnitudeCalculatorOptions.hasDistanceCorrections, hdistance]), bind_ok,
      hsome, require_some]
  have hgetStations : options.getStationCorrections = .ok options.mStationCorrections := by
    unfold NetworkMagnitudeCalculatorOptions.getStationCorrections
    rw [throwIf_neg
      (by simp [NetworkMagnitudeCalculatorOptions.hasStationCorrections, hstations]), bind_ok]
    rfl
  have hentries : ∀ entry ∈ options.mStationCorrections.getCorrections.entries,
      entry.2.Inv := fun entry hentry =>
    (hset entry.1 entry.2 (StringMap.lookup_eq_some_iff.mpr hentry)).2.inv
  obtain ⟨calculators, hcalculators⟩ := exists_addCalculators hreachable.inv hentries ∅
  unfold ofOptions
  rw [hvalid, hgetDistance, hgetStations]
  simp only [Cxx.tryCatch, bind_ok]
  rw [hcalculators, bind_ok, hreachable.inv.getDistanceType, bind_ok]
  exact ⟨_, rfl, rfl⟩

/-- Options that lack one kind of corrections are refused. -/
theorem exists_ofOptions_error {options : NetworkMagnitudeCalculatorOptions F}
    (h : options.validate ≠ .ok ()) :
    ∃ what, ofOptions options = .error (.invalidArgument what) := by
  have hraises : Raises options.validate Fault.IsException :=
    .bind (.throwIf fun _ => trivial) fun _ _ => .throwIf fun _ => trivial
  obtain ⟨fault, hfault, hexception⟩ := hraises.exists_error fun hok => h hok.choose_spec
  unfold ofOptions
  rw [hfault]
  cases fault with
  | invalidArgument what => exact ⟨_, rfl⟩
  | runtimeError what => exact ⟨_, rfl⟩
  | outOfRange what => exact ⟨_, rfl⟩
  | terminate => exact hexception.elim
  | undefinedBehavior => exact hexception.elim

/-- The constructor takes the options that pass their validation. -/
theorem exists_ofOptions_iff {options : NetworkMagnitudeCalculatorOptions F}
    (hoptions : options.IsReachable) :
    (∃ calculator, ofOptions options = .ok calculator) ↔ options.validate = .ok () := by
  constructor
  · rintro ⟨calculator, hcalculator⟩
    by_contra h
    obtain ⟨what, hwhat⟩ := exists_ofOptions_error h
    rw [hwhat] at hcalculator
    cases hcalculator
  · intro h
    obtain ⟨hstations, hdistance⟩ := NetworkMagnitudeCalculatorOptions.validate_eq_ok.mp h
    obtain ⟨calculator, hcalculator, -⟩ := exists_ofOptions hoptions hdistance hstations
    exact ⟨calculator, hcalculator⟩

theorem raises_ofOptions {options : NetworkMagnitudeCalculatorOptions F}
    (hoptions : options.IsReachable) : Raises (ofOptions options) Fault.IsException := by
  by_cases h : options.validate = .ok ()
  · obtain ⟨calculator, hcalculator⟩ := (exists_ofOptions_iff hoptions).mpr h
    rw [hcalculator]
    exact .ok calculator
  · obtain ⟨what, hwhat⟩ := exists_ofOptions_error h
    rw [hwhat]
    exact .error trivial

/-- What a constructed calculator satisfies: `distance` is its one table of distance
corrections, and its map mirrors the station corrections `set`. -/
structure WellFormed (calculator : NetworkMagnitudeCalculator F) (distance : Distance F)
    (set : StationsSet F) : Prop where
  initialized : calculator.mInitialized = true
  distanceCorrections : calculator.mOptions.getDistanceCorrections = .ok distance
  distanceReachable : distance.IsReachable
  stationCorrections : calculator.mOptions.getStationCorrections = .ok set
  setReachable : set.IsReachable
  calculators : ∀ name, calculator.mStationMagnitudeCalculatorMap.lookup name =
    (set.mCorrections.lookup name).map fun station => calculatorOf station distance
  requiresDepth : calculator.mRequiresDepthCorrection = true ↔
    distance.mDistanceOptions.mType = .hypocentral
  minimum : 1 ≤ calculator.mOptions.mMinimumNumberOfStationMagnitudes

theorem IsReachable.wellFormed {calculator : NetworkMagnitudeCalculator F}
    (h : calculator.IsReachable) : ∃ distance set, calculator.WellFormed distance set := by
  obtain ⟨options, hoptions, h⟩ := h
  unfold ofOptions at h
  obtain ⟨-, -, h⟩ := bind_eq_ok.mp h
  obtain ⟨distance, hdistance, h⟩ := bind_eq_ok.mp h
  obtain ⟨set, hset, h⟩ := bind_eq_ok.mp h
  obtain ⟨calculators, hcalculators, h⟩ := bind_eq_ok.mp h
  obtain ⟨type, htype, h⟩ := bind_eq_ok.mp h
  obtain rfl := Except.ok.inj h
  have hdistanceReachable : distance.IsReachable := by
    unfold NetworkMagnitudeCalculatorOptions.getDistanceCorrections at hdistance
    simp only [throwIf_bind_eq_ok, require_eq_ok] at hdistance
    obtain ⟨hhas, hsome⟩ := hdistance
    obtain ⟨stored, hstored, hreachable⟩ := hoptions.inv.distanceCorrections
      (by simpa [NetworkMagnitudeCalculatorOptions.hasDistanceCorrections] using hhas)
    obtain rfl : stored = distance := Option.some.inj (hstored.symm.trans hsome)
    exact hreachable
  have hsetReachable : set.IsReachable := by
    have hget := hset
    unfold NetworkMagnitudeCalculatorOptions.getStationCorrections at hget
    simp only [throwIf_bind_eq_ok] at hget
    obtain ⟨hhas, hsame⟩ := hget
    obtain rfl := Except.ok.inj hsame
    exact hoptions.inv.stationCorrections
      (by simpa [NetworkMagnitudeCalculatorOptions.hasStationCorrections] using hhas)
  have hsameType : distance.mDistanceOptions.mType = type := by
    rw [hdistanceReachable.inv.getDistanceType] at htype
    exact Except.ok.inj htype
  exact ⟨distance, set,
    { initialized := rfl
      distanceCorrections := hdistance
      distanceReachable := hdistanceReachable
      stationCorrections := hset
      setReachable := hsetReachable
      calculators := fun name => by
        rw [lookup_addCalculators hcalculators name]
        simp [AList.lookup, StationsSet.getCorrections]
      requiresDepth := by simp [hsameType]
      minimum := hoptions.inv.minimum }⟩

theorem IsReachable.initialized {calculator : NetworkMagnitudeCalculator F}
    (h : calculator.IsReachable) : calculator.mInitialized = true := by
  obtain ⟨distance, set, hwellFormed⟩ := h.wellFormed
  exact hwellFormed.initialized

/-! ## Specification of one observation -/

/-- The first field that an observation lacks. -/
def missing (calculator : NetworkMagnitudeCalculator F) (observation : Observation F) :
    Option ErrorCode :=
  if !observation.hasAmplitudes then some .observationMissingAmplitudes
  else if !observation.hasEpicentralDistance then some .observationMissingDistance
  else if calculator.mRequiresDepthCorrection && !observation.hasDepth then
    some .observationMissingDepth
  else none

theorem missing_eq_none_iff {calculator : NetworkMagnitudeCalculator F}
    {observation : Observation F} :
    calculator.missing observation = none ↔
      observation.mHasAmplitudes = true ∧ observation.mHasEpicentralDistance = true ∧
        (calculator.mRequiresDepthCorrection = true →
          observation.mHasSourceDepth = true) := by
  unfold missing Observation.hasAmplitudes Observation.hasEpicentralDistance
    Observation.hasDepth
  cases observation.mHasAmplitudes with
  | false => simp
  | true =>
      cases observation.mHasEpicentralDistance with
      | false => simp
      | true => cases calculator.mRequiresDepthCorrection <;> simp

/-- An observation from a measurement lacks nothing. -/
theorem missing_of_ofMeasurement {calculator : NetworkMagnitudeCalculator F}
    {inverse : Distance.Inverse F} {measurement : Api.StationAmplitudeMeasurement F}
    {hypocenter : Corrections.Hypocenter F} {observation : Observation F}
    (h : Observation.ofMeasurement inverse measurement hypocenter = .ok observation) :
    calculator.missing observation = none := by
  obtain ⟨_, _, _, _, _, _, _, -, -, -, -, -, -, -, -, -, -, -, rfl⟩ :=
    Observation.ofMeasurement_eq_ok.mp h
  exact missing_eq_none_iff.mpr ⟨rfl, rfl, fun _ => rfl⟩

section Compute

variable {calculator : NetworkMagnitudeCalculator F} {observation : Observation F}

/-- An incomplete observation is answered with the code of the missing field. -/
theorem computeStationMagnitude_of_missing (hinitialized : calculator.mInitialized = true)
    (h : calculator.missing observation ≠ none) :
    calculator.computeStationMagnitude observation =
        .ok (.error .observationMissingAmplitudes) ∨
      calculator.computeStationMagnitude observation =
        .ok (.error .observationMissingDistance) ∨
      calculator.computeStationMagnitude observation =
        .ok (.error .observationMissingDepth) := by
  unfold missing at h
  unfold computeStationMagnitude
  rw [if_neg (by simp [isInitialized, hinitialized])]
  split at h
  · rename_i hamplitudes
    rw [if_pos hamplitudes]
    exact Or.inl rfl
  · rename_i hamplitudes
    rw [if_neg hamplitudes]
    split at h
    · rename_i hdistance
      rw [if_pos hdistance]
      exact Or.inr (Or.inl rfl)
    · rename_i hdistance
      rw [if_neg hdistance]
      split at h
      · rename_i hdepth
        rw [if_pos hdepth]
        exact Or.inr (Or.inr rfl)
      · exact absurd rfl h

/-- Which fields an observation has decides on the answer to an incomplete one. -/
theorem computeStationMagnitude_congr_of_missing {other : Observation F}
    (h : calculator.missing observation ≠ none)
    (hamplitudes : other.mHasAmplitudes = observation.mHasAmplitudes)
    (hdistance : other.mHasEpicentralDistance = observation.mHasEpicentralDistance)
    (hdepth : other.mHasSourceDepth = observation.mHasSourceDepth) :
    calculator.computeStationMagnitude other =
      calculator.computeStationMagnitude observation := by
  unfold missing Observation.hasAmplitudes Observation.hasEpicentralDistance
    Observation.hasDepth at h
  unfold computeStationMagnitude Observation.hasAmplitudes Observation.hasEpicentralDistance
    Observation.hasDepth
  rw [hamplitudes, hdistance, hdepth]
  split at h
  · rename_i hlacks
    rw [if_pos hlacks, if_pos hlacks]
  · rename_i hhas
    rw [if_neg hhas, if_neg hhas]
    split at h
    · rename_i hlacks
      rw [if_pos hlacks, if_pos hlacks]
    · rename_i hhas'
      rw [if_neg hhas', if_neg hhas']
      split at h
      · rename_i hlacks
        rw [if_pos hlacks, if_pos hlacks]
      · exact absurd rfl h

/-- Behind its checks the calculator asks the one of the station. -/
theorem computeStationMagnitude_of_complete (hinitialized : calculator.mInitialized = true)
    (h : calculator.missing observation = none) :
    calculator.computeStationMagnitude observation =
      match calculator.mStationMagnitudeCalculatorMap.lookup observation.mStationName with
      | some stationCalculator =>
          Except.mapError stationErrorCode <$> stationCalculator.apply observation
      | none => .ok (.error .observationHasNoCorrection) := by
  obtain ⟨hamplitudes, hdistance, hdepth⟩ := missing_eq_none_iff.mp h
  unfold computeStationMagnitude
  rw [if_neg (by simp [isInitialized, hinitialized]),
    if_neg (by simp [Observation.hasAmplitudes, hamplitudes]),
    if_neg (by simp [Observation.hasEpicentralDistance, hdistance]),
    if_neg (by simpa [Observation.hasDepth] using hdepth),
    Observation.getStationName_eq_ok hamplitudes, bind_ok]
  cases calculator.mStationMagnitudeCalculatorMap.lookup observation.mStationName with
  | none => rfl
  | some stationCalculator =>
      -- The station calculator is `noexcept` already.
      have hnoexcept : noexcept (stationCalculator.apply observation) =
          stationCalculator.apply observation := noexcept_noexcept _
      dsimp only
      rw [← hnoexcept, ← noexcept_map]
      congr 1
      rw [hnoexcept]
      cases stationCalculator.apply observation with
      | error fault => rfl
      | ok outcome => cases outcome <;> rfl

/-- Whatever the calculator and the observation: a station magnitude that is returned was
packaged with the amplitudes of the observation. -/
theorem packagedWith_of_computeStationMagnitude {magnitude : StationMagnitude F}
    (h : calculator.computeStationMagnitude observation = .ok (.ok magnitude)) :
    StationMagnitudeCalculator.PackagedWith observation.mAmplitudes magnitude := by
  have hinitialized : calculator.mInitialized = true := by
    by_contra hnot
    unfold computeStationMagnitude at h
    rw [if_pos (by simpa [isInitialized] using hnot)] at h
    exact absurd (Except.ok.inj h) nofun
  by_cases hmissing : calculator.missing observation = none
  · rw [computeStationMagnitude_of_complete hinitialized hmissing] at h
    cases hlookup : calculator.mStationMagnitudeCalculatorMap.lookup
        observation.mStationName with
    | none =>
        rw [hlookup] at h
        exact absurd (Except.ok.inj h) nofun
    | some stationCalculator =>
        rw [hlookup] at h
        cases happly : stationCalculator.apply observation with
        | error fault => simp [happly] at h
        | ok outcome =>
            dsimp only at h
            rw [happly] at h
            cases outcome with
            | error code => exact absurd (Except.ok.inj h) nofun
            | ok returned =>
                obtain rfl : returned = magnitude := Except.ok.inj (Except.ok.inj h)
                exact StationMagnitudeCalculator.packagedWith_of_apply happly
  · rcases computeStationMagnitude_of_missing hinitialized hmissing with hcode | hcode | hcode
    · rw [hcode] at h
      exact absurd (Except.ok.inj h) nofun
    · rw [hcode] at h
      exact absurd (Except.ok.inj h) nofun
    · rw [hcode] at h
      exact absurd (Except.ok.inj h) nofun

/-- It is complete and has the amplitudes of the observation. -/
theorem complete_of_computeStationMagnitude {magnitude : StationMagnitude F}
    (h : calculator.computeStationMagnitude observation = .ok (.ok magnitude)) :
    magnitude.Complete ∧ magnitude.mAmplitudes = observation.mAmplitudes :=
  (packagedWith_of_computeStationMagnitude h).complete

variable {distance : Distance F} {set : StationsSet F}

theorem WellFormed.setInv (h : calculator.WellFormed distance set) : set.Inv :=
  h.setReachable.inv

/-- Each station calculator is constructed from the station of its key and the one
table. -/
theorem WellFormed.calculatorOf_inv (h : calculator.WellFormed distance set) {name : Bytes}
    {station : Station F} (hstation : set.mCorrections.lookup name = some station) :
    (calculatorOf station distance).Inv where
  initialized := rfl
  station := (h.setInv name station hstation).2.inv
  distance := h.distanceReachable.inv

/-- The correction of a station is looked up by name. -/
theorem WellFormed.getStationCorrection_eq (h : calculator.WellFormed distance set)
    {identifier : StationIdentifier} (hcomplete : identifier.Complete) :
    calculator.getStationCorrection identifier =
      .ok ((set.mCorrections.lookup identifier.name).map Station.mCorrection) := by
  unfold getStationCorrection
  rw [throwIf_neg (by simp [isInitialized, h.initialized]), bind_ok, hcomplete.toString,
    bind_ok, h.calculators]
  cases hstation : set.mCorrections.lookup identifier.name with
  | none => rfl
  | some station =>
      rw [Option.map_some]
      dsimp only
      rw [StationMagnitudeCalculator.getStationCorrection_eq (h.calculatorOf_inv hstation)]
      rfl

/-- A complete observation fits the calculator that it is looked up with. -/
theorem WellFormed.fits (h : calculator.WellFormed distance set) {station : Station F}
    (hmissing : calculator.missing observation = none)
    (hstation : set.mCorrections.lookup observation.mStationName = some station) :
    (calculatorOf station distance).Fits observation := by
  obtain ⟨hamplitudes, hdistance, hdepth⟩ := missing_eq_none_iff.mp hmissing
  exact
    { amplitudes := hamplitudes
      epicentralDistance := hdistance
      depth := fun htype => hdepth (h.requiresDepth.mpr htype)
      name := (h.setInv _ station hstation).1.symm }

/-- The outcome for a complete observation, by the station corrections. -/
theorem WellFormed.computeStationMagnitude_eq (h : calculator.WellFormed distance set)
    (hmissing : calculator.missing observation = none) :
    calculator.computeStationMagnitude observation =
      match set.mCorrections.lookup observation.mStationName with
      | some station =>
          Except.mapError stationErrorCode <$> (calculatorOf station distance).apply observation
      | none => .ok (.error .observationHasNoCorrection) := by
  rw [computeStationMagnitude_of_complete h.initialized hmissing, h.calculators]
  cases set.mCorrections.lookup observation.mStationName with
  | none => rfl
  | some station => rfl

/-- Something is missing, the station has no correction, or the numbers that are looked
up for the observation are there. -/
def IsAnswerable (calculator : NetworkMagnitudeCalculator F) (distance : Distance F)
    (set : StationsSet F) (observation : Observation F) : Prop :=
  calculator.missing observation = none →
    ∀ station, set.mCorrections.lookup observation.mStationName = some station →
      StationMagnitudeCalculator.IsSafe distance station observation

/-- Something is missing, the station has no correction, or no number overflows on the way
to the magnitude and the average amplitude does not underflow. -/
def IsRepresentable (calculator : NetworkMagnitudeCalculator F) (distance : Distance F)
    (set : StationsSet F) (observation : Observation F) : Prop :=
  calculator.missing observation = none →
    ∀ station, set.mCorrections.lookup observation.mStationName = some station →
      StationMagnitudeCalculator.IsRepresentable distance station observation

/-- A complete observation is answered as its station calculator answers it. -/
theorem WellFormed.exists_computeStationMagnitude_of_complete
    (h : calculator.WellFormed distance set) (hobservation : observation.Inv)
    (hmissing : calculator.missing observation = none) {station : Station F}
    (hlookup : set.mCorrections.lookup observation.mStationName = some station) :
    (∃ outcome, calculator.computeStationMagnitude observation = .ok outcome) ↔
      StationMagnitudeCalculator.IsSafe distance station observation ∧
        StationMagnitudeCalculator.IsRepresentable distance station observation := by
  have happly := StationMagnitudeCalculator.exists_apply_iff (h.calculatorOf_inv hlookup)
    hobservation (h.fits hmissing hlookup)
  refine Iff.trans ?_ happly
  rw [h.computeStationMagnitude_eq hmissing, hlookup]
  dsimp only
  cases (calculatorOf station distance).apply observation with
  | error fault => simp
  | ok answer => simp

/-- The calculator returns exactly for the observations that it can answer and whose
magnitude is in range. -/
theorem WellFormed.exists_computeStationMagnitude_iff (h : calculator.WellFormed distance set)
    (hobservation : observation.Inv) :
    (∃ outcome, calculator.computeStationMagnitude observation = .ok outcome) ↔
      calculator.IsAnswerable distance set observation ∧
        calculator.IsRepresentable distance set observation := by
  by_cases hmissing : calculator.missing observation = none
  · cases hlookup : set.mCorrections.lookup observation.mStationName with
    | none =>
        rw [h.computeStationMagnitude_eq hmissing, hlookup]
        simp [IsAnswerable, IsRepresentable, hlookup]
    | some station =>
        rw [h.exists_computeStationMagnitude_of_complete hobservation hmissing hlookup]
        simp [IsAnswerable, IsRepresentable, hmissing, hlookup]
  · have hreturns : ∃ outcome, calculator.computeStationMagnitude observation = .ok outcome := by
      rcases computeStationMagnitude_of_missing h.initialized hmissing with
        hcode | hcode | hcode
      · exact ⟨_, hcode⟩
      · exact ⟨_, hcode⟩
      · exact ⟨_, hcode⟩
    exact iff_of_true hreturns
      ⟨fun hnone => absurd hnone hmissing, fun hnone => absurd hnone hmissing⟩

/-- All corrections are numbers: those of the stations and the rows of the table. -/
structure Numeric (calculator : NetworkMagnitudeCalculator F) : Prop where
  distance : ∀ distance, calculator.mOptions.getDistanceCorrections = .ok distance →
    distance.Numeric
  stations : ∀ set, calculator.mOptions.getStationCorrections = .ok set →
    ∀ name station, set.mCorrections.lookup name = some station →
      station.mCorrection.isFinite = true

/-! ## Exact arithmetic -/

section Exact

variable [IsExact F]

/-- A complete observation that can be answered gets a magnitude, or one of three error
codes. -/
theorem WellFormed.exists_answer (h : calculator.WellFormed distance set)
    (hobservation : observation.Inv) (hmissing : calculator.missing observation = none)
    (hanswerable : calculator.IsAnswerable distance set observation) :
    ∃ outcome, calculator.computeStationMagnitude observation = .ok outcome ∧
      ∀ errorCode, outcome = .error errorCode →
        errorCode = .observationHasNoCorrection ∨ errorCode = .stationTooClose ∨
          errorCode = .stationTooFar := by
  rw [h.computeStationMagnitude_eq hmissing]
  cases hlookup : set.mCorrections.lookup observation.mStationName with
  | none =>
      refine ⟨_, rfl, fun errorCode hcode => ?_⟩
      exact Or.inl (Except.error.inj hcode).symm
  | some station =>
      obtain ⟨answer, happly, hanswer⟩ := StationMagnitudeCalculator.exists_apply_of_isSafe
        (h.calculatorOf_inv hlookup) hobservation (h.fits hmissing hlookup)
        (hanswerable hmissing station hlookup)
      dsimp only
      rw [happly, map_ok]
      refine ⟨_, rfl, fun errorCode hcode => ?_⟩
      cases hanswer with
      | tooClose => exact Or.inr (Or.inl (Except.error.inj hcode).symm)
      | tooFar => exact Or.inr (Or.inr (Except.error.inj hcode).symm)
      | magnitude distanceCorrection stationCorrection _ _ => exact absurd hcode nofun

/-- In exact arithmetic every magnitude is in range. -/
theorem WellFormed.isRepresentable (h : calculator.WellFormed distance set)
    (hobservation : observation.Inv)
    (hanswerable : calculator.IsAnswerable distance set observation) :
    calculator.IsRepresentable distance set observation :=
  fun hmissing station hlookup =>
    (hanswerable hmissing station hlookup).isRepresentable (h.calculatorOf_inv hlookup)
      hobservation (h.fits hmissing hlookup)

/-- In exact arithmetic the calculator returns exactly for the observations that it can
answer. -/
theorem WellFormed.exists_computeStationMagnitude_iff_of_exact
    (h : calculator.WellFormed distance set) (hobservation : observation.Inv) :
    (∃ outcome, calculator.computeStationMagnitude observation = .ok outcome) ↔
      calculator.IsAnswerable distance set observation := by
  rw [h.exists_computeStationMagnitude_iff hobservation]
  exact and_iff_left_of_imp (h.isRepresentable hobservation)

/-- With numbers for all corrections every observation can be answered. -/
theorem WellFormed.isAnswerable (h : calculator.WellFormed distance set)
    (hnumeric : calculator.Numeric) (hobservation : observation.Inv) :
    calculator.IsAnswerable distance set observation := by
  intro hmissing station hstation
  have hinv := h.calculatorOf_inv hstation
  have hfits := h.fits hmissing hstation
  obtain ⟨x, hx, -⟩ := StationMagnitudeCalculator.exists_lookupAt hinv hobservation hfits
  have hfinite : (StationMagnitudeCalculator.lookupAt distance observation).isFinite = true :=
    (congrArg Double.isFinite hx).trans rfl
  have htabulated := (hnumeric.distance distance h.distanceCorrections).isTabulated
    h.distanceReachable.inv hfinite
  have hcorrection := hnumeric.stations set h.stationCorrections _ station hstation
  exact Or.inr (Or.inr ⟨htabulated, hcorrection⟩)

end Exact

end Compute

end NetworkMagnitudeCalculator

end Magnitude
end ULocalMagnitude
