import ULocalMagnitude.Rationals

/-!
# Calls that do not return

`computeStationMagnitude` and `operator()` are `noexcept`, and the setters of the
station magnitude throw when a correction is not a number.  No setter and no
constructor of the corrections asks for numbers, so an exception can leave the
calculators, which terminates the program.  They return exactly for the observations
whose corrections are numbers wherever they are used.
-/

namespace ULocalMagnitude
namespace Properties

open Cxx Magnitude
open Corrections (Distance StationsSet)
open Magnitude.NetworkMagnitudeCalculator (Admitted IsAnswerable)

variable {F : Type} [ExactArithmetic F]

/-- Which calls return, for any corrections.  A list that is refused by the checks in
front of the station magnitudes is answered whatever the corrections are. -/
theorem calculators_return_iff (calculator : NetworkMagnitudeCalculator F)
    (distance : Distance F) (set : StationsSet F) (hcalculator : calculator.IsReachable)
    (hdistance : calculator.mOptions.getDistanceCorrections = .ok distance)
    (hset : calculator.mOptions.getStationCorrections = .ok set) :
    (∀ o : Observation F, o.IsReachable →
      ((∃ outcome, calculator.computeStationMagnitude o = .ok outcome) ↔
        IsAnswerable calculator distance set o)) ∧
    ∀ observations : List (Observation F), (∀ o ∈ observations, o.IsReachable) →
      ((∃ outcome, calculator.apply observations = .ok outcome) ↔
        (Admitted calculator observations →
          ∀ o ∈ observations, IsAnswerable calculator distance set o)) := by
  obtain ⟨distance', set', hwellFormed⟩ := hcalculator.wellFormed
  obtain rfl : distance' = distance :=
    Except.ok.inj (hwellFormed.distanceCorrections.symm.trans hdistance)
  obtain rfl : set' = set :=
    Except.ok.inj (hwellFormed.stationCorrections.symm.trans hset)
  constructor
  · intro o ho
    exact hwellFormed.exists_computeStationMagnitude_iff_of_exact ho.inv
  · intro observations hobservations
    exact hwellFormed.exists_apply_iff_of_exact fun o ho => (hobservations o ho).inv

/-! ## A station whose correction is a NaN -/

def nanCorrections : List (Corrections.Station ℚ) :=
  [Rationals.station Rationals.uu (bytes "ASU7") .nan]

def nanNetwork : NetworkMagnitudeCalculator ℚ :=
  Rationals.calculator Rationals.table (Rationals.stationsSet nanCorrections) 1

def nanObservation : Observation ℚ := Rationals.observation Rationals.uu (bytes "ASU7") 2 2

theorem nanCorrections_isReachable :
    (Rationals.stationsSet nanCorrections).IsReachable := by
  refine Rationals.stationsSet_isReachable fun correction hmem => ?_
  obtain rfl := List.mem_singleton.mp hmem
  exact Rationals.station_isReachable (by decide) (by decide)

theorem nanNetwork_isReachable : nanNetwork.IsReachable :=
  Rationals.calculator_isReachable Rationals.sample.table_isReachable nanCorrections_isReachable
    rfl

theorem nanObservation_isReachable : nanObservation.IsReachable :=
  Rationals.observation_isReachable (by decide +kernel)

/-- An accepted configuration and an accepted observation with which neither call
returns. -/
theorem nan_correction_terminates :
    nanNetwork.IsReachable ∧ nanObservation.IsReachable ∧
      nanNetwork.computeStationMagnitude nanObservation = .error .terminate ∧
      nanNetwork.apply [nanObservation] = .error .terminate := by
  have hcompute : nanNetwork.computeStationMagnitude nanObservation = .error .terminate := by
    decide +kernel
  have happly : nanNetwork.apply [nanObservation] = .error .terminate := by decide +kernel
  exact ⟨nanNetwork_isReachable, nanObservation_isReachable, hcompute, happly⟩

/-- With two numbers for corrections both stations are answered. -/
theorem corrected_observations_are_answered :
    ∃ outcome, Rationals.network.apply Rationals.observations = .ok outcome := by
  obtain ⟨distance, set, hwellFormed⟩ := Rationals.sample.network_isReachable.wellFormed
  have hreturns := (calculators_return_iff Rationals.network distance set
    Rationals.sample.network_isReachable hwellFormed.distanceCorrections
    hwellFormed.stationCorrections).2 _ Rationals.sample.observations_isReachable
  exact hreturns.mpr fun _ o ho =>
    hwellFormed.isAnswerable Rationals.sample.network_numeric
      (Rationals.sample.observations_isReachable o ho).inv

end Properties
end ULocalMagnitude
