import ULocalMagnitude.Properties.Specification

/-!
# The status of a network magnitude

Which status code the network endpoint answers an authorized client with, for
corrections that are numbers: `OK` and `INTERNAL` are told apart by the range of the
mean alone, and everything that is wrong with a request is the fault of the client.
There is an answer to every request, so no exception leaves the handler.
-/

namespace ULocalMagnitude
namespace Properties

open Cxx Magnitude Grpc
open Batch (mean)
open Corrections (Distance Hypocenter)
open Grpc.MagnitudeService (Decodes decode networkReactor networkAnswer networkStarted)

variable {F : Type} [ExactArithmetic F]

/-- The hypocenter and all measurements of the request are valid, the latter make up
`observations`, and enough station magnitudes can be computed. -/
structure IsAccepted (inverse : Distance.Inverse F) (service : MagnitudeService F)
    (request : Api.NetworkMagnitudeFromAmplitudesRequest F)
    (observations : List (Observation F)) : Prop where
  valid : ∃ given hypocenter, request.hypocenter = some given ∧ Hypocenter.IsValid given ∧
    Hypocenter.ofMessage given = .ok hypocenter ∧
    Decodes inverse hypocenter request.stationAmplitudeMeasurements observations
  nonempty : request.stationAmplitudeMeasurements ≠ []
  distinct : (observations.map Observation.getStationName).Nodup
  enough : max 1 service.mCalculator.mOptions.getMinimumNumberOfStationMagnitudes ≤
    ((stationMagnitudes service.mCalculator observations).length : Int)

/-- The mean of the station magnitudes is in range. -/
def MeanInRange (service : MagnitudeService F) (observations : List (Observation F)) : Prop :=
  -10 ≤ mean (stationValues service.mCalculator observations) ∧
    mean (stationValues service.mCalculator observations) ≤ 10

section Decoded

variable {inverse : Distance.Inverse F} {service : MagnitudeService F}
  {request : Api.NetworkMagnitudeFromAmplitudesRequest F}
  {observations others : List (Observation F)}

theorem IsAccepted.decode_eq (h : IsAccepted inverse service request observations) :
    decode inverse request.hypocenter request.stationAmplitudeMeasurements =
      .ok observations := by
  obtain ⟨given, hypocenter, hgiven, -, hhypocenter, hdecodes⟩ := h.valid
  exact MagnitudeService.decode_eq_ok.mpr ⟨given, hypocenter, hgiven, hhypocenter, hdecodes⟩

/-- A request that can be decoded is accepted with its own observations, as long as these
pass the first checks of the average. -/
theorem isAccepted_iff (hcalculator : service.mCalculator.IsReachable)
    (hdecoded : decode inverse request.hypocenter request.stationAmplitudeMeasurements =
      .ok observations) :
    IsAccepted inverse service request others ↔
      others = observations ∧ observations ≠ [] ∧
        (observations.map Observation.mStationName).Nodup ∧
        max 1 service.mCalculator.assessment.minimum ≤
          ((service.mCalculator.assessment.measures observations).length : Int) := by
  have hcomplete := (forall_hasAllFields_iff hcalculator).mpr
    (MagnitudeService.missing_of_decode hdecoded service.mCalculator)
  obtain ⟨given, hypocenter, hgiven, hhypocenter, hdecodes⟩ :=
    MagnitudeService.decode_eq_ok.mp hdecoded
  have hnonempty : request.stationAmplitudeMeasurements ≠ [] ↔ observations ≠ [] := by
    have hlength := List.Forall₂.length_eq hdecodes
    rw [← List.length_pos_iff, ← List.length_pos_iff, hlength]
  constructor
  · intro haccepted
    obtain rfl : others = observations :=
      Except.ok.inj (haccepted.decode_eq.symm.trans hdecoded)
    have henough := haccepted.enough
    rw [length_stationMagnitudes] at henough
    exact ⟨rfl, hnonempty.mp haccepted.nonempty,
      (nodup_getStationName_iff hcalculator hcomplete).mp haccepted.distinct, henough⟩
  · intro h
    rcases h with ⟨rfl, hne, hdistinct, henough⟩
    rw [← length_stationMagnitudes] at henough
    have hvalid := Hypocenter.exists_ofMessage_eq_ok_iff.mp ⟨hypocenter, hhypocenter⟩
    exact
      { valid := ⟨given, hypocenter, hgiven, hvalid, hhypocenter, hdecodes⟩
        nonempty := hnonempty.mpr hne
        distinct := (nodup_getStationName_iff hcalculator hcomplete).mpr hdistinct
        enough := henough }

end Decoded

/-- An authorized client is always answered: with `OK` when the request is accepted and
the mean is in range, with `INTERNAL` when it is accepted and the mean is out of range,
and with `INVALID_ARGUMENT` in every other case. -/
theorem network_endpoint_status (inverse : Distance.Inverse F) (version : Version)
    (service : MagnitudeService F) (clientMetadata : ClientMetadata)
    (request : Api.NetworkMagnitudeFromAmplitudesRequest F) (hservice : service.IsReachable)
    (hnumeric : service.mCalculator.Numeric)
    (hauthorized : service.Authorizes clientMetadata) :
    ∃ reactor, networkReactor inverse version service clientMetadata request = .ok reactor ∧
      (reactor.Answers .ok ↔ ∃ observations,
        IsAccepted inverse service request observations ∧ MeanInRange service observations) ∧
      (reactor.Answers .internal ↔ ∃ observations,
        IsAccepted inverse service request observations ∧
          ¬ MeanInRange service observations) ∧
      (reactor.Answers .invalidArgument ↔
        ¬ ∃ observations, IsAccepted inverse service request observations) := by
  have hcalculator := hservice.calculator
  have hinitialized := hcalculator.initialized
  have hstarted : (networkStarted (F := F) version request.identifier).finished = [] := rfl
  rw [MagnitudeService.networkReactor_eq hauthorized hinitialized]
  cases hdecoded : decode inverse request.hypocenter
      request.stationAmplitudeMeasurements with
  | error refusal =>
      have hnone (observations : List (Observation F)) :
          ¬ IsAccepted inverse service request observations := by
        intro haccepted
        cases haccepted.decode_eq.symm.trans hdecoded
      have hanswers := MagnitudeService.answers_clientErrorAnswer hstarted
        (MagnitudeService.Refusal.networkMessage refusal)
      refine ⟨_, rfl, ?_⟩
      simp only [hanswers.iff_eq, hnone, false_and, exists_false, not_false_eq_true,
        reduceCtorEq, and_self]
  | ok observations =>
      have hcomplete := MagnitudeService.missing_of_decode hdecoded service.mCalculator
      have hcomputes : ∀ o ∈ observations, service.mCalculator.Computes o := fun o ho =>
        hcalculator.computes hnumeric (MagnitudeService.inv_of_decode hdecoded o ho)
      have happly := NetworkMagnitudeCalculator.apply_of_computes hinitialized hcomputes
      have hanswers := MagnitudeService.answers_networkAnswer hstarted
        (service.mCalculator.assessment.average observations)
      dsimp only
      rw [happly]
      refine ⟨_, rfl, ?_⟩
      simp only [hanswers.iff_eq, isAccepted_iff hcalculator hdecoded, and_assoc,
        exists_eq_left, MeanInRange, stationValues_eq]
      cases haverage : service.mCalculator.assessment.average observations with
      | ok average =>
          obtain ⟨hpasses, -⟩ := Batch.Assessment.average_eq_ok_iff.mp haverage
          have hrange : -10 ≤ mean (service.mCalculator.assessment.measures observations) ∧
            mean (service.mCalculator.assessment.measures observations) ≤ 10 := hpasses.inRange
          have hdistinct : (observations.map Observation.mStationName).Nodup :=
            hpasses.distinct
          simp [MagnitudeService.statusCodeOf, hpasses.nonempty, hdistinct, hpasses.enough,
            hrange]
      | error failure =>
          cases Batch.Assessment.average_eq_error_iff.mp haverage with
          | noItems hempty => simp [MagnitudeService.statusCodeOf, hempty]
          | incomplete hitems hbefore hlacks =>
              exact absurd (.incomplete hitems hbefore hlacks)
                (Batch.Assessment.not_fails_incomplete hcomplete _)
          | duplicate hnonempty _ hduplicate =>
              have hduplicate' : ¬ (observations.map Observation.mStationName).Nodup :=
                hduplicate
              simp [MagnitudeService.statusCodeOf, hduplicate']
          | tooFew hnonempty _ hdistinct hfew =>
              have hfew' := not_le.mpr hfew
              simp [MagnitudeService.statusCodeOf, hfew']
          | outOfRange hnonempty _ hdistinct henough hrange =>
              have hrange' : ¬ (-10 ≤
                  mean (service.mCalculator.assessment.measures observations) ∧
                mean (service.mCalculator.assessment.measures observations) ≤ 10) := by
                intro h
                rcases h with ⟨hlower, hupper⟩
                rcases hrange with hlow | hhigh
                · exact absurd hlower (not_le.mpr hlow)
                · exact absurd hupper (not_le.mpr hhigh)
              have hdistinct' : (observations.map Observation.mStationName).Nodup := hdistinct
              simp [MagnitudeService.statusCodeOf, hnonempty, hdistinct', henough, hrange']

/-- The request for three stations is accepted, and its mean is in range. -/
theorem three_measurements_are_accepted :
    ∃ observations,
      IsAccepted Rationals.inverse Rationals.magnitudeService Rationals.request
        observations ∧ MeanInRange Rationals.magnitudeService observations := by
  obtain ⟨reactor, hreactor, hok, -⟩ := network_endpoint_status Rationals.inverse
    Rationals.version Rationals.magnitudeService [] Rationals.request
    Rationals.sample.magnitudeService_isReachable Rationals.sample.network_numeric
    (Rationals.service_authorizes _ _ _ _)
  obtain rfl : reactor = Rationals.reactor :=
    Except.ok.inj (hreactor.symm.trans Rationals.sample.networkReactor_request)
  exact hok.mp Rationals.sample.reactor_answers

end Properties
end ULocalMagnitude
