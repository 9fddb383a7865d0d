import ULocalMagnitude.Grpc.MagnitudeService

/-!
# Services that go by the same corrections

A calculator reads its options only when it is made; afterwards it asks its map for the
calculator of a station and its options for the minimum and the strategy.  Two calculators
for which all of this is the same compute the same, and their services answer every call
alike.
-/

namespace ULocalMagnitude

open Cxx
open Corrections (Distance Hypocenter StationIdentifier StationsSet)
open Magnitude (Observation)

variable {F : Type} [Arithmetic F]

namespace Magnitude
namespace NetworkMagnitudeCalculator

/-- Whatever is read after construction is the same. -/
structure Alike (calculator calculator' : NetworkMagnitudeCalculator F) : Prop where
  initialized : calculator'.mInitialized = calculator.mInitialized
  requiresDepth : calculator'.mRequiresDepthCorrection = calculator.mRequiresDepthCorrection
  calculators : ∀ name, calculator'.mStationMagnitudeCalculatorMap.lookup name =
    calculator.mStationMagnitudeCalculatorMap.lookup name
  minimum : calculator'.mOptions.mMinimumNumberOfStationMagnitudes =
    calculator.mOptions.mMinimumNumberOfStationMagnitudes
  strategy : calculator'.mOptions.mStrategy = calculator.mOptions.mStrategy

namespace Alike

variable {calculator calculator' : NetworkMagnitudeCalculator F}
  (h : calculator.Alike calculator')

include h

theorem computeStationMagnitude_eq (observation : Observation F) :
    calculator'.computeStationMagnitude observation =
      calculator.computeStationMagnitude observation := by
  unfold computeStationMagnitude isInitialized
  simp only [h.initialized, h.requiresDepth, h.calculators]

theorem getStationCorrection_eq (identifier : StationIdentifier) :
    calculator'.getStationCorrection identifier =
      calculator.getStationCorrection identifier := by
  unfold getStationCorrection isInitialized
  simp only [h.initialized, h.calculators]

theorem checkObservations_eq (observations : List (Observation F)) :
    calculator'.checkObservations observations =
      calculator.checkObservations observations := by
  induction observations with
  | nil => rfl
  | cons observation rest ih =>
      unfold checkObservations
      rw [h.requiresDepth, ih]

theorem makeWorkItems_eq (observationNumber : Int) (observations : List (Observation F)) :
    calculator'.makeWorkItems observationNumber observations =
      calculator.makeWorkItems observationNumber observations := by
  induction observations generalizing observationNumber with
  | nil => rfl
  | cons observation rest ih =>
      unfold makeWorkItems
      rw [h.computeStationMagnitude_eq, ih]

theorem combineWorkItems_eq (workItems : List (WorkItem F)) :
    calculator'.combineWorkItems workItems = calculator.combineWorkItems workItems := by
  unfold combineWorkItems NetworkMagnitudeCalculatorOptions.getStrategy
    NetworkMagnitudeCalculatorOptions.getMinimumNumberOfStationMagnitudes
  rw [h.minimum, h.strategy]

theorem apply_eq (observations : List (Observation F)) :
    calculator'.apply observations = calculator.apply observations := by
  have hcombine : calculator'.combineWorkItems = calculator.combineWorkItems :=
    funext h.combineWorkItems_eq
  unfold apply isInitialized
  rw [h.initialized, h.checkObservations_eq, h.makeWorkItems_eq, hcombine]

end Alike

/-- Calculators with the same table, whose sets have the same corrections, are alike if the
minimum is the same. -/
theorem WellFormed.alike {calculator calculator' : NetworkMagnitudeCalculator F}
    {distance : Distance F} {set set' : StationsSet F}
    (h : calculator.WellFormed distance set) (h' : calculator'.WellFormed distance set')
    (hlookup : ∀ name, set'.mCorrections.lookup name = set.mCorrections.lookup name)
    (hminimum : calculator'.mOptions.mMinimumNumberOfStationMagnitudes =
      calculator.mOptions.mMinimumNumberOfStationMagnitudes) : calculator.Alike calculator' where
  initialized := h'.initialized.trans h.initialized.symm
  requiresDepth := Bool.eq_iff_iff.mpr (h'.requiresDepth.trans h.requiresDepth.symm)
  calculators name := by rw [h.calculators, h'.calculators, hlookup]
  minimum := hminimum
  strategy := by
    -- There is only one.
    cases calculator'.mOptions.mStrategy
    cases calculator.mOptions.mStrategy
    rfl

end NetworkMagnitudeCalculator
end Magnitude

namespace Grpc
namespace MagnitudeService

/-- Calculators that are alike, behind the same token. -/
structure Alike (service service' : MagnitudeService F) : Prop where
  calculator : service.mCalculator.Alike service'.mCalculator
  accessToken : service'.mAccessToken = service.mAccessToken

namespace Alike

variable {service service' : MagnitudeService F} (h : service.Alike service')

include h

theorem checkClient_eq {R : Type} (clientMetadata : ClientMetadata) :
    (service'.checkClient clientMetadata : Handler R Unit) =
      service.checkClient clientMetadata := by
  unfold checkClient
  rw [h.accessToken]

theorem networkReactor_eq (inverse : Distance.Inverse F) (version : Version)
    (clientMetadata : ClientMetadata)
    (request : Api.NetworkMagnitudeFromAmplitudesRequest F) :
    networkReactor inverse version service' clientMetadata request =
      networkReactor inverse version service clientMetadata request := by
  have hcompute (observations : List (Observation F)) :
      service'.computeMagnitude observations = service.computeMagnitude observations := by
    unfold computeMagnitude
    rw [h.calculator.apply_eq]
  unfold networkReactor computeNetworkMagnitudeFromAmplitudes
  simp only [h.checkClient_eq, hcompute]

theorem addStationMagnitudes_eq (inverse : Distance.Inverse F) (hypocenter : Hypocenter F)
    (measurements : List (Api.StationAmplitudeMeasurement F)) :
    addStationMagnitudes inverse service' hypocenter measurements =
      addStationMagnitudes inverse service hypocenter measurements := by
  induction measurements with
  | nil => rfl
  | cons grpcMeasurement rest ih =>
      unfold addStationMagnitudes addStationMagnitude
      simp only [h.calculator.computeStationMagnitude_eq, ih]

theorem stationReactor_eq (inverse : Distance.Inverse F) (version : Version)
    (clientMetadata : ClientMetadata)
    (request : Api.StationMagnitudesFromAmplitudesRequest F) :
    stationReactor inverse version service' clientMetadata request =
      stationReactor inverse version service clientMetadata request := by
  unfold stationReactor computeStationMagnitudesFromAmplitudes
  simp only [h.checkClient_eq, h.addStationMagnitudes_eq]

theorem addStationCorrections_eq (messages : List Api.StationIdentifier) :
    service'.addStationCorrections messages = service.addStationCorrections messages := by
  induction messages with
  | nil => rfl
  | cons grpcStationIdentifier rest ih =>
      unfold addStationCorrections addStationCorrection
      simp only [h.calculator.getStationCorrection_eq, ih]

theorem correctionsReactor_eq (clientMetadata : ClientMetadata)
    (request : Api.StationCorrectionsRequest) :
    correctionsReactor service' clientMetadata request =
      correctionsReactor service clientMetadata request := by
  unfold correctionsReactor getStationCorrections
  simp only [h.checkClient_eq, h.addStationCorrections_eq]

end Alike

end MagnitudeService
end Grpc
end ULocalMagnitude
