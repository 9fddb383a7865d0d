import ULocalMagnitude.Magnitude.NetworkMagnitudeCalculator

/-!
# Depths at epicentral distances

A calculator whose table is one of epicentral distances does not read the depth of an
observation, and does not ask whether there is one.  Function by function, the
observation without its depth gives the same result.
-/

namespace ULocalMagnitude
namespace Magnitude

open Cxx
open Corrections (Distance)

variable {F : Type} [ExactArithmetic F]

/-- The observation as if no depth had been set. -/
def Observation.withoutDepth (observation : Observation F) : Observation F :=
  { observation with mSourceDepth := .finite 0, mHasSourceDepth := false }

/-! ## The station calculator -/

namespace StationMagnitudeCalculator

theorem apply_withoutDepth {calculator : StationMagnitudeCalculator F}
    (htype : calculator.mDistanceCorrection.getDistanceType ≠ .ok .hypocentral)
    (observation : Observation F) :
    calculator.apply observation.withoutDepth = calculator.apply observation := by
  unfold apply
  cases hsame : calculator.mDistanceCorrection.getDistanceType with
  | error fault => rfl
  | ok type =>
      cases type with
      | hypocentral => exact absurd hsame htype
      | epicentral => rfl

end StationMagnitudeCalculator

/-! ## The network calculator -/

namespace NetworkMagnitudeCalculator

/-- All tables of the calculator are read at epicentral distances. -/
structure IgnoresDepth (calculator : NetworkMagnitudeCalculator F) : Prop where
  requiresDepth : calculator.mRequiresDepthCorrection = false
  stations : ∀ name stationCalculator,
    calculator.mStationMagnitudeCalculatorMap.lookup name = some stationCalculator →
      stationCalculator.mDistanceCorrection.getDistanceType ≠ .ok .hypocentral

/-- A work item without the depth of its observation. -/
def WorkItem.withoutDepth (item : WorkItem F) : WorkItem F :=
  { item with observation := item.observation.withoutDepth }

theorem WellFormed.ignoresDepth {calculator : NetworkMagnitudeCalculator F}
    {distance : Distance F} {set : Corrections.StationsSet F}
    (h : calculator.WellFormed distance set)
    (htype : distance.mDistanceOptions.mType = .epicentral) : calculator.IgnoresDepth where
  requiresDepth := by
    rw [← Bool.not_eq_true, h.requiresDepth, htype]
    decide
  stations := by
    intro name stationCalculator hlookup
    rw [h.calculators] at hlookup
    obtain ⟨station, -, rfl⟩ := Option.map_eq_some_iff.mp hlookup
    show distance.getDistanceType ≠ _
    rw [h.distanceReachable.inv.getDistanceType, htype]
    decide

variable {calculator : NetworkMagnitudeCalculator F}

theorem computeStationMagnitude_withoutDepth (h : calculator.IgnoresDepth)
    (observation : Observation F) :
    calculator.computeStationMagnitude observation.withoutDepth =
      calculator.computeStationMagnitude observation := by
  have hname : observation.withoutDepth.getStationName = observation.getStationName := rfl
  unfold computeStationMagnitude
  rw [h.requiresDepth, hname]
  cases observation.getStationName with
  | error fault => rfl
  | ok stationName =>
      cases hlookup : calculator.mStationMagnitudeCalculatorMap.lookup stationName with
      | none =>
          simp only [bind_ok, hlookup]
          rfl
      | some stationCalculator =>
          have hstation := StationMagnitudeCalculator.apply_withoutDepth
            (h.stations stationName stationCalculator hlookup) observation
          simp only [bind_ok, hlookup, hstation]
          rfl

theorem checkObservations_withoutDepth (h : calculator.IgnoresDepth)
    (observations : List (Observation F)) :
    calculator.checkObservations (observations.map Observation.withoutDepth) =
      calculator.checkObservations observations := by
  induction observations with
  | nil => rfl
  | cons observation rest ih =>
      rw [List.map_cons, checkObservations, checkObservations, h.requiresDepth, ih]
      rfl

theorem hasDuplicates_withoutDepth (stationNames : List Bytes)
    (observations : List (Observation F)) :
    hasDuplicates stationNames (observations.map Observation.withoutDepth) =
      hasDuplicates stationNames observations := by
  induction observations generalizing stationNames with
  | nil => rfl
  | cons observation rest ih =>
      rw [List.map_cons, hasDuplicates, hasDuplicates]
      simp only [ih]
      rfl

theorem makeWorkItems_withoutDepth (h : calculator.IgnoresDepth) (observationNumber : Int)
    (observations : List (Observation F)) :
    calculator.makeWorkItems observationNumber
        (observations.map Observation.withoutDepth) =
      List.map WorkItem.withoutDepth <$>
        calculator.makeWorkItems observationNumber observations := by
  induction observations generalizing observationNumber with
  | nil => rfl
  | cons observation rest ih =>
      rw [List.map_cons, makeWorkItems, makeWorkItems, ih,
        computeStationMagnitude_withoutDepth h]
      cases calculator.computeStationMagnitude observation with
      | error fault => rfl
      | ok stationMagnitude =>
          cases calculator.makeWorkItems (observationNumber + 1) rest with
          | error fault => rfl
          | ok workItems => rfl

theorem sumStationMagnitudes_withoutDepth (nStationMagnitudes : Int) (sum : Double F)
    (workItems : List (WorkItem F)) :
    sumStationMagnitudes nStationMagnitudes sum (workItems.map WorkItem.withoutDepth) =
      sumStationMagnitudes nStationMagnitudes sum workItems := by
  induction workItems generalizing nStationMagnitudes sum with
  | nil => rfl
  | cons item rest ih =>
      rw [List.map_cons, sumStationMagnitudes, sumStationMagnitudes]
      simp only [ih]
      rfl

theorem tabulate_withoutDepth (networkMagnitude : NetworkMagnitude F)
    (workItems : List (WorkItem F)) :
    tabulate networkMagnitude (workItems.map WorkItem.withoutDepth) =
      tabulate networkMagnitude workItems := by
  induction workItems with
  | nil => rfl
  | cons item rest ih =>
      rw [List.map_cons, tabulate, tabulate]
      simp only [ih]
      rfl

theorem combineWorkItems_withoutDepth (workItems : List (WorkItem F)) :
    calculator.combineWorkItems (workItems.map WorkItem.withoutDepth) =
      calculator.combineWorkItems workItems := by
  unfold combineWorkItems packageAverage
  simp only [List.length_map, sumStationMagnitudes_withoutDepth, tabulate_withoutDepth]

/-- The network magnitude, or why there is none, is the same without the depths. -/
theorem apply_withoutDepth (h : calculator.IgnoresDepth)
    (observations : List (Observation F)) :
    calculator.apply (observations.map Observation.withoutDepth) =
      calculator.apply observations := by
  unfold apply
  rw [checkObservations_withoutDepth h, hasDuplicates_withoutDepth,
    makeWorkItems_withoutDepth h, List.isEmpty_map]
  simp only [bind_map_left, combineWorkItems_withoutDepth]

end NetworkMagnitudeCalculator

end Magnitude
end ULocalMagnitude
