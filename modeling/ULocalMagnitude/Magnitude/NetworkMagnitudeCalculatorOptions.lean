import ULocalMagnitude.Corrections.Distance
import ULocalMagnitude.Corrections.StationsSet

/-!
# Options of the network magnitude

`magnitude/networkMagnitudeCalculatorOptions.cpp`: the corrections, the least
number of station magnitudes and the strategy.
-/

namespace ULocalMagnitude
namespace Magnitude

open Cxx
open Corrections (Distance StationsSet)

variable {F : Type} [Arithmetic F]

/-- `NetworkMagnitudeCalculatorOptions::Strategy` -/
inductive Strategy where
  | average
deriving DecidableEq

/-- `NetworkMagnitudeCalculatorOptionsImpl`; the distance corrections are behind a pointer
that may be null. -/
structure NetworkMagnitudeCalculatorOptions (F : Type) [Arithmetic F] where
  mDistanceCorrections : Option (Distance F) := none
  mStationCorrections : StationsSet F := {}
  mMinimumNumberOfStationMagnitudes : Int := 2
  mStrategy : Strategy := .average
  mHasDistanceCorrections : Bool := false
  mHasStationCorrections : Bool := false
deriving DecidableEq

namespace NetworkMagnitudeCalculatorOptions

/-- Distance corrections -/
def setDistanceCorrections (corrections : Distance F) :
    Method (NetworkMagnitudeCalculatorOptions F) Unit := do
  throwIf (!corrections.isInitialized)
    (.invalidArgument "Distance corrections not initialized")
  modify fun options =>
    { options with mDistanceCorrections := some corrections, mHasDistanceCorrections := true }

def hasDistanceCorrections (options : NetworkMagnitudeCalculatorOptions F) : Bool :=
  options.mHasDistanceCorrections

def getDistanceCorrections (options : NetworkMagnitudeCalculatorOptions F) :
    Throws (Distance F) := do
  throwIf (!options.hasDistanceCorrections)
    (.runtimeError "Distance corrections not set")
  require options.mDistanceCorrections .undefinedBehavior

/-- Station corrections -/
def setStationCorrections (corrections : StationsSet F) :
    Method (NetworkMagnitudeCalculatorOptions F) Unit := do
  throwIf corrections.empty (.invalidArgument "No station corrections")
  modify fun options =>
    { options with mStationCorrections := corrections, mHasStationCorrections := true }

def hasStationCorrections (options : NetworkMagnitudeCalculatorOptions F) : Bool :=
  options.mHasStationCorrections

def getStationCorrections (options : NetworkMagnitudeCalculatorOptions F) :
    Throws (StationsSet F) := do
  throwIf (!options.hasStationCorrections) (.runtimeError "Station corrections not set")
  return options.mStationCorrections

/-- Minimum number of observations -/
def setMinimumNumberOfStationMagnitudes (minObs : Int) :
    Method (NetworkMagnitudeCalculatorOptions F) Unit := do
  throwIf (minObs < 1)
    (.invalidArgument "Minimum number of stations magnitudes must be positive")
  modify fun options => { options with mMinimumNumberOfStationMagnitudes := minObs }

def getMinimumNumberOfStationMagnitudes (options : NetworkMagnitudeCalculatorOptions F) :
    Int := options.mMinimumNumberOfStationMagnitudes

/-- Strategy -/
def setStrategy (strategy : Strategy) :
    Method (NetworkMagnitudeCalculatorOptions F) Unit :=
  modify fun options => { options with mStrategy := strategy }

def getStrategy (options : NetworkMagnitudeCalculatorOptions F) : Strategy :=
  options.mStrategy

/-- Validate -/
def validate (options : NetworkMagnitudeCalculatorOptions F) : Throws Unit := do
  throwIf (!options.hasStationCorrections) (.runtimeError "Station corrections not set")
  throwIf (!options.hasDistanceCorrections) (.runtimeError "Distance corrections not set")

/-! ## The calls on options -/

/-- A setter with its argument. -/
inductive Setter (F : Type) [Arithmetic F] where
  | distanceCorrections (corrections : Distance F)
  | stationCorrections (corrections : StationsSet F)
  | minimumNumberOfStationMagnitudes (minObs : Int)
  | strategy (newStrategy : Strategy)

def Setter.method : Setter F → Method (NetworkMagnitudeCalculatorOptions F) Unit
  | .distanceCorrections corrections => setDistanceCorrections corrections
  | .stationCorrections corrections => setStationCorrections corrections
  | .minimumNumberOfStationMagnitudes minObs => setMinimumNumberOfStationMagnitudes minObs
  | .strategy newStrategy => setStrategy newStrategy

/-- Corrections are themselves made through their classes. -/
def Setter.Admissible : Setter F → Prop
  | .distanceCorrections corrections => corrections.IsReachable
  | .stationCorrections corrections => corrections.IsReachable
  | .minimumNumberOfStationMagnitudes _ => True
  | .strategy _ => True

/-- Default constructed, then used through the setters. -/
def IsReachable (options : NetworkMagnitudeCalculatorOptions F) : Prop :=
  Reachable (fun built => built = {}) Setter.method Setter.Admissible options

theorem setter_atomic (setter : Setter F) : setter.method.Atomic := by
  cases setter with
  | distanceCorrections corrections => exact .lift_bind fun _ => .modify _
  | stationCorrections corrections => exact .lift_bind fun _ => .modify _
  | minimumNumberOfStationMagnitudes minObs => exact .lift_bind fun _ => .modify _
  | strategy strategy => exact .modify _

section Calls

variable {options after : NetworkMagnitudeCalculatorOptions F}

theorem call_setDistanceCorrections_eq_ok {corrections : Distance F} :
    (setDistanceCorrections corrections).call options = .ok after ↔
      corrections.isInitialized = true ∧
        { options with
          mDistanceCorrections := some corrections, mHasDistanceCorrections := true } =
            after := by
  simp [setDistanceCorrections]

theorem call_setStationCorrections_eq_ok {corrections : StationsSet F} :
    (setStationCorrections corrections).call options = .ok after ↔
      corrections.empty = false ∧
        { options with
          mStationCorrections := corrections, mHasStationCorrections := true } = after := by
  simp [setStationCorrections]

theorem call_setMinimumNumberOfStationMagnitudes_eq_ok {minObs : Int} :
    (setMinimumNumberOfStationMagnitudes minObs).call options = .ok after ↔
      1 ≤ minObs ∧ { options with mMinimumNumberOfStationMagnitudes := minObs } = after := by
  simp [setMinimumNumberOfStationMagnitudes]

theorem raises_setter (setter : Setter F) :
    Raises (setter.method.call options) Fault.IsException := by
  cases setter with
  | strategy newStrategy => exact .ok _
  | _ => exact Method.raises_call_lift_bind (.throwIf fun _ => trivial) fun _ => .ok _

end Calls

/-- What is set was made through its class. -/
structure Inv (options : NetworkMagnitudeCalculatorOptions F) : Prop where
  distanceCorrections : options.mHasDistanceCorrections = true →
    ∃ distance, options.mDistanceCorrections = some distance ∧ distance.IsReachable
  stationCorrections : options.mHasStationCorrections = true →
    options.mStationCorrections.IsReachable
  minimum : 1 ≤ options.mMinimumNumberOfStationMagnitudes

theorem IsReachable.inv {options : NetworkMagnitudeCalculatorOptions F}
    (h : options.IsReachable) : options.Inv := by
  refine h.invariant_of_atomic ?_ setter_atomic ?_
  · intro built hbuilt
    rw [hbuilt]
    exact ⟨fun hset => absurd hset Bool.false_ne_true,
      fun hset => absurd hset Bool.false_ne_true, by show (1 : Int) ≤ 2; omega⟩
  · intro setter before after _ hadmissible hbefore hexec
    have hcall := Method.call_of_exec hexec
    cases setter with
    | distanceCorrections corrections =>
        obtain ⟨-, rfl⟩ := call_setDistanceCorrections_eq_ok.mp hcall
        exact ⟨fun _ => ⟨corrections, rfl, hadmissible⟩, hbefore.stationCorrections,
          hbefore.minimum⟩
    | stationCorrections corrections =>
        obtain ⟨-, rfl⟩ := call_setStationCorrections_eq_ok.mp hcall
        exact ⟨hbefore.distanceCorrections, fun _ => hadmissible, hbefore.minimum⟩
    | minimumNumberOfStationMagnitudes minObs =>
        obtain ⟨hminimum, rfl⟩ := call_setMinimumNumberOfStationMagnitudes_eq_ok.mp hcall
        exact ⟨hbefore.distanceCorrections, hbefore.stationCorrections, hminimum⟩
    | strategy strategy =>
        obtain rfl : _ = after := Except.ok.inj hcall
        exact ⟨hbefore.distanceCorrections, hbefore.stationCorrections, hbefore.minimum⟩

/-- Options pass the validation when both kinds of corrections are set. -/
theorem validate_eq_ok {options : NetworkMagnitudeCalculatorOptions F} :
    options.validate = .ok () ↔
      options.mHasStationCorrections = true ∧ options.mHasDistanceCorrections = true := by
  simp [validate, hasStationCorrections, hasDistanceCorrections]

end NetworkMagnitudeCalculatorOptions

end Magnitude
end ULocalMagnitude
