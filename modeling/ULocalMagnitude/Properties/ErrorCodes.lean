import ULocalMagnitude.Rationals

/-!
# Error codes for one observation

`computeStationMagnitude` has ten error codes.  With numbers for all corrections it
uses the six that say what is wrong with the observation, and for an observation from
a request only those that say that there is no correction for it.
-/

namespace ULocalMagnitude
namespace Properties

open Cxx Magnitude Grpc
open Corrections (Distance Hypocenter)
open Grpc.MagnitudeService (networkReactor)

variable {F : Type} [ExactArithmetic F]

/-- There is no correction at the station or at its distance. -/
def correctionErrorCodes : List StationCalculatorErrorCode :=
  [.observationHasNoCorrection, .stationTooClose, .stationTooFar]

/-- A field is missing, or there is no correction. -/
def observationErrorCodes : List StationCalculatorErrorCode :=
  [.observationMissingAmplitudes, .observationMissingDistance, .observationMissingDepth] ++
    correctionErrorCodes

/-- The reasons for these. -/
def correctionReasons : List Api.Reason := [.tooClose, .tooFar, .noStationCorrection]

theorem reasonOf_mem {errorCode : StationCalculatorErrorCode}
    (h : errorCode ∈ correctionErrorCodes) :
    NetworkMagnitude.reasonOf errorCode ∈ correctionReasons := by
  revert h
  cases errorCode <;> decide

section Answers

variable {calculator : NetworkMagnitudeCalculator F} {observation : Observation F}

/-- An observation that lacks nothing is answered for its corrections. -/
theorem mem_correctionErrorCodes (hcalculator : calculator.IsReachable)
    (hobservation : observation.Inv) (hmissing : calculator.missing observation = none)
    {errorCode : StationCalculatorErrorCode}
    (h : calculator.computeStationMagnitude observation = .ok (.error errorCode)) :
    errorCode ∈ correctionErrorCodes := by
  obtain ⟨distance, set, hwellFormed⟩ := hcalculator.wellFormed
  have hanswerable :=
    (hwellFormed.exists_computeStationMagnitude_iff_of_exact hobservation).mp ⟨_, h⟩
  obtain ⟨outcome, houtcome, hcodes⟩ :=
    hwellFormed.exists_answer hobservation hmissing hanswerable
  have hsame : outcome = .error errorCode := Except.ok.inj (houtcome.symm.trans h)
  rcases hcodes errorCode hsame with rfl | rfl | rfl
  · decide
  · decide
  · decide

theorem mem_observationErrorCodes (hcalculator : calculator.IsReachable)
    (hobservation : observation.Inv) {errorCode : StationCalculatorErrorCode}
    (h : calculator.computeStationMagnitude observation = .ok (.error errorCode)) :
    errorCode ∈ observationErrorCodes := by
  by_cases hmissing : calculator.missing observation = none
  · exact List.mem_append_right _
      (mem_correctionErrorCodes hcalculator hobservation hmissing h)
  · rcases NetworkMagnitudeCalculator.computeStationMagnitude_of_missing
      hcalculator.initialized hmissing with hcode | hcode | hcode
    · obtain rfl := Except.error.inj (Except.ok.inj (hcode.symm.trans h))
      decide
    · obtain rfl := Except.error.inj (Except.ok.inj (hcode.symm.trans h))
      decide
    · obtain rfl := Except.error.inj (Except.ok.inj (hcode.symm.trans h))
      decide

end Answers

/-- The calculator answers every observation with a station magnitude or with a code for
what is wrong with the observation.  For an observation from a measurement nothing is
missing, and the reasons in an `OK` response are those for missing corrections. -/
theorem error_codes_are_about_observations :
    (∀ (calculator : NetworkMagnitudeCalculator F) (o : Observation F),
      calculator.IsReachable → calculator.Numeric → o.IsReachable →
      ∃ outcome, calculator.computeStationMagnitude o = .ok outcome ∧
        ∀ errorCode, outcome = .error errorCode → errorCode ∈ observationErrorCodes) ∧
    (∀ (calculator : NetworkMagnitudeCalculator F) (inverse : Distance.Inverse F)
        (measurement : Api.StationAmplitudeMeasurement F) (hypocenter : Hypocenter F)
        (o : Observation F),
      calculator.IsReachable → calculator.Numeric →
      Observation.ofMeasurement inverse measurement hypocenter = .ok o →
      ∃ outcome, calculator.computeStationMagnitude o = .ok outcome ∧
        ∀ errorCode, outcome = .error errorCode → errorCode ∈ correctionErrorCodes) ∧
    ∀ (inverse : Distance.Inverse F) (version : Version) (service : MagnitudeService F)
        (clientMetadata : ClientMetadata)
        (request : Api.NetworkMagnitudeFromAmplitudesRequest F)
        (reactor : Reactor (Api.NetworkMagnitudeFromAmplitudesResponse F)),
      service.IsReachable →
      networkReactor inverse version service clientMetadata request = .ok reactor →
      reactor.Answers .ok →
      ∀ entry ∈ reactor.response.rejectedObservations,
        ∃ reason ∈ correctionReasons, entry.reason = some reason := by
  refine ⟨?_, ?_, ?_⟩
  · intro calculator o hcalculator hnumeric ho
    obtain ⟨outcome, houtcome⟩ := hcalculator.computes hnumeric ho.inv
    refine ⟨outcome, houtcome, ?_⟩
    rintro errorCode rfl
    exact mem_observationErrorCodes hcalculator ho.inv houtcome
  · intro calculator inverse measurement hypocenter o hcalculator hnumeric hbuilt
    have ho := Observation.inv_of_ofMeasurement hbuilt
    obtain ⟨outcome, houtcome⟩ := hcalculator.computes hnumeric ho
    refine ⟨outcome, houtcome, ?_⟩
    rintro errorCode rfl
    exact mem_correctionErrorCodes hcalculator ho
      (NetworkMagnitudeCalculator.missing_of_ofMeasurement hbuilt) houtcome
  · intro inverse version service clientMetadata request reactor hservice h hok entry hentry
    obtain ⟨observations, hdecoded, -, hcomputes, rfl⟩ :=
      MagnitudeService.exists_average_of_answers_ok h hok
    obtain ⟨⟨errorCode, number⟩, hrejected, rfl⟩ := List.mem_map.mp hentry
    obtain ⟨-, o, ho, houtcome⟩ := Batch.Assessment.mem_rejected_iff.mp hrejected
    have hmem := List.mem_of_getElem? ho
    have hcode := NetworkMagnitudeCalculator.computeStationMagnitude_of_outcome
      (hcomputes o hmem) houtcome
    have hcodes := mem_correctionErrorCodes hservice.calculator
      (MagnitudeService.inv_of_decode hdecoded o hmem)
      (MagnitudeService.missing_of_decode hdecoded _ o hmem) hcode
    exact ⟨_, reasonOf_mem hcodes, rfl⟩

/-- The observation in the middle, which has no station correction. -/
theorem middle_observation_has_no_correction :
    (∃ outcome, Rationals.network.computeStationMagnitude
        (Rationals.observation Rationals.uu (bytes "CVRU") 20 20) = .ok outcome ∧
      ∀ errorCode, outcome = .error errorCode → errorCode ∈ observationErrorCodes) ∧
    (∃ outcome, Rationals.network.computeStationMagnitude
        (Rationals.observation Rationals.uu (bytes "CVRU") 20 20) = .ok outcome ∧
      ∀ errorCode, outcome = .error errorCode → errorCode ∈ correctionErrorCodes) ∧
    ∀ entry ∈ Rationals.reactor.response.rejectedObservations,
      ∃ reason ∈ correctionReasons, entry.reason = some reason :=
  ⟨(error_codes_are_about_observations (F := ℚ)).1 _ _ Rationals.sample.network_isReachable
      Rationals.sample.network_numeric (Rationals.observation_isReachable (by decide +kernel)),
    (error_codes_are_about_observations (F := ℚ)).2.1 _ Rationals.inverse
      (Rationals.measurement Rationals.uu (bytes "CVRU") 20 20) Rationals.hypocenter _
      Rationals.sample.network_isReachable Rationals.sample.network_numeric
      (Rationals.eq_ok_of_isOk (by decide +kernel) _),
    (error_codes_are_about_observations (F := ℚ)).2.2 _ _ _ _ _ _
      Rationals.sample.magnitudeService_isReachable Rationals.sample.networkReactor_request
      Rationals.sample.reactor_answers⟩

end Properties
end ULocalMagnitude
