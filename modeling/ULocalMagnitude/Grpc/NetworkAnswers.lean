import ULocalMagnitude.Grpc.StationCorrections
import ULocalMagnitude.Magnitude.Readings

/-!
# The service of a network

A service whose calculator has the table and the stations of a network tells its clients
what the network makes of the readings in their requests: their average, the magnitudes of
single stations, and the corrections of the stations.  So it does for stations that are told
apart by their names.
-/

namespace ULocalMagnitude
namespace Grpc

open Cxx
open Batch (Average AveragesShown Failure)
open Corrections (Distance StationIdentifier StationsSet)
open Magnitude (Observation StationMagnitude readingOf showing)
open Magnitude (dot)
open Magnitude.NetworkMagnitudeCalculator (Knows Realizes)
open Richter (Network Rejection Terms)

variable {F : Type} [ExactArithmetic F]

/-! ## What clients are told -/

/-- The message has the terms of a magnitude. -/
structure TellsTerms (message : Api.StationMagnitude F) (terms : Terms F) : Prop where
  value : message.value = some (.finite terms.value)
  distanceCorrection : message.distanceCorrection = some (.finite terms.attenuation)
  stationCorrection : message.stationCorrection = some (.finite terms.correction)

/-- The message has the magnitude that is accepted under a number, and what is left of the
average without it. -/
structure TellsResidual (value : F) (message : Api.StationMagnitudeAndResidual F)
    (accepted : Terms F × Nat) : Prop where
  number : message.inputObservationNumber = some accepted.2
  magnitude : ∃ magnitude, message.stationMagnitude = some magnitude ∧
    TellsTerms magnitude accepted.1
  residual : message.residual = some (.finite (value - accepted.1.value))

/-- The reason that clients are told. -/
def reasonFor : Rejection → Api.Reason
  | .noCorrection => .noStationCorrection
  | .tooClose => .tooClose
  | .tooFar => .tooFar

/-- The response has the average with what was accepted and rejected for it. -/
structure TellsAverage (response : Api.NetworkMagnitudeFromAmplitudesResponse F)
    (average : Average Rejection (Terms F) F) : Prop where
  value : response.value = some (.finite average.value)
  accepted : List.Forall₂ (TellsResidual average.value) response.stationMagnitudesAndResiduals
    average.accepted
  rejected : response.rejectedObservations = average.rejected.map fun entry =>
    { inputObservationNumber := some entry.2, reason := some (reasonFor entry.1) }

/-- The status for a failure. -/
def failureStatus : Failure Empty → Status
  | .noItems => { code := .invalidArgument, message := "No observations" }
  | .duplicate => { code := .invalidArgument, message := "Duplicate observations" }
  | .tooFew => { code := .invalidArgument, message := "Too few observations" }
  | .outOfRange => { code := .internal, message := "Algorithm error - contact maintainer" }

/-- The call is finished with the average, or with the status of the failure. -/
def TellsAnswer (reactor : Reactor (Api.NetworkMagnitudeFromAmplitudesResponse F)) :
    Except (Failure Empty) (Average Rejection (Terms F) F) → Prop
  | .ok average => reactor.Answers .ok ∧ TellsAverage reactor.response average
  | .error failure => reactor.finished = [failureStatus failure]

/-- The entry has the correction of the station that the message names. -/
def TellsCorrection (network : Network (Bytes × Bytes) F) (message : Api.StationIdentifier)
    (entry : Api.StationCorrection F) : Prop :=
  ∃ identifier, StationIdentifier.ofMessage message = .ok identifier ∧
    entry = { stationIdentifier := some message
              value := some (.finite ((network.correction identifier.codes).getD 0))
              doesExist := some (network.correction identifier.codes).isSome }

/-! ## Messages -/

theorem tellsTerms_message {magnitude : StationMagnitude F} {terms : Terms F}
    (h : magnitude.HasTerms terms) : TellsTerms magnitude.message terms where
  value := congrArg some h.value
  distanceCorrection := congrArg some h.distanceCorrection
  stationCorrection := congrArg some h.stationCorrection

theorem tellsResidual_message {accepted : StationMagnitude F × Nat} {accepted' : Terms F × Nat}
    (value : F) (hnumber : accepted.2 = accepted'.2) (hterms : accepted.1.HasTerms accepted'.1) :
    TellsResidual value (MagnitudeService.residualMessage value accepted) accepted' where
  number := congrArg some hnumber
  magnitude := ⟨accepted.1.message, rfl, tellsTerms_message hterms⟩
  residual := by
    have hvalue : accepted.1.mValue.val = accepted'.1.value := by
      rw [hterms.value]
      rfl
    rw [← hvalue]
    rfl

theorem rejectionMessage_codeOf (entry : Rejection × Nat) :
    MagnitudeService.rejectionMessage (Magnitude.codeOf entry.1, entry.2) =
      { inputObservationNumber := some entry.2, reason := some (reasonFor entry.1) } := by
  obtain ⟨rejection, number⟩ := entry
  cases rejection <;> rfl

namespace MagnitudeService

/-- An average that stands for one of readings is told as that one. -/
theorem tellsAnswer_networkAnswer
    {outcome : Except (Failure Magnitude.NetworkMagnitudeCalculator.ErrorCode)
      (Average Magnitude.StationCalculatorErrorCode (StationMagnitude F) F)}
    {outcome' : Except (Failure Empty) (Average Rejection (Terms F) F)}
    (h : AveragesShown showing outcome outcome') (version : Version)
    (identifier : Option Bytes) :
    TellsAnswer (networkAnswer (networkStarted version identifier) outcome) outcome' := by
  cases h with
  | noItems => rfl
  | duplicate => rfl
  | tooFew => rfl
  | outOfRange => rfl
  | @average average average' h =>
      refine ⟨answers_okAnswer rfl, congrArg (fun value => some (Double.finite value)) h.value,
        ?_, ?_⟩
      · show List.Forall₂ _ ([] ++ average.accepted.map (residualMessage average.value)) _
        rw [List.nil_append, List.forall₂_map_left_iff, ← h.value]
        exact h.accepted.imp fun _ _ hentry =>
          tellsResidual_message average.value hentry.1 hentry.2
      · show [] ++ average.rejected.map rejectionMessage = _
        rw [List.nil_append, h.rejected, List.map_map]
        exact List.map_congr_left fun entry _ => rejectionMessage_codeOf entry

variable {service : MagnitudeService F} {network : Network (Bytes × Bytes) F}
  {distance : Distance F} {set : StationsSet F} {inverse : Distance.Inverse F}
  {clientMetadata : ClientMetadata}
  (h : service.mCalculator.Realizes network distance set)
  (hauthorized : service.Authorizes clientMetadata) (version : Version)

include h hauthorized

/-- A request that can be decoded is answered with the average of its readings. -/
theorem tellsAnswer_networkReactor {request : Api.NetworkMagnitudeFromAmplitudesRequest F}
    {observations : List (Observation F)}
    (hdecoded : decode inverse request.hypocenter request.stationAmplitudeMeasurements =
      .ok observations) (hknows : ∀ o ∈ observations, Knows network set o.station)
    (hclear : ∀ o ∈ observations, ∀ o' ∈ observations,
      ¬ Confusable dot o.station.codes o'.station.codes) :
    ∃ reactor, networkReactor inverse version service clientMetadata request = .ok reactor ∧
      TellsAnswer reactor
        ((network.assessment Arithmetic.log10 Arithmetic.hypot).average
          (observations.map readingOf)) := by
  have hinv := inv_of_decode hdecoded
  have hcomplete := missing_of_decode hdecoded service.mCalculator
  have hcomputes : ∀ o ∈ observations, service.mCalculator.Computes o :=
    fun o ho => h.computes (hinv o ho) (hcomplete o ho) (hknows o ho)
  have happly := Magnitude.NetworkMagnitudeCalculator.apply_of_computes
    h.wellFormed.initialized hcomputes
  rw [networkReactor_eq hauthorized h.wellFormed.initialized, hdecoded]
  dsimp only
  rw [happly]
  exact ⟨_, rfl, tellsAnswer_networkAnswer (h.average_shown hinv hcomplete hknows hclear)
    version request.identifier⟩

/-- And with the magnitudes of its readings at the other endpoint. -/
theorem tellsTerms_stationReactor {request : Api.StationMagnitudesFromAmplitudesRequest F}
    {observations : List (Observation F)}
    (hdecoded : decode inverse request.hypocenter request.stationAmplitudeMeasurements =
      .ok observations) (hknows : ∀ o ∈ observations, Knows network set o.station) :
    ∃ reactor, stationReactor inverse version service clientMetadata request = .ok reactor ∧
      reactor.Answers .ok ∧ List.Forall₂ TellsTerms reactor.response.stationMagnitudes
        ((observations.map readingOf).filterMap
          (network.assessment Arithmetic.log10 Arithmetic.hypot).accepted) := by
  have hinv := inv_of_decode hdecoded
  have hcomplete := missing_of_decode hdecoded service.mCalculator
  have hcomputes : ∀ o ∈ observations, service.mCalculator.Computes o :=
    fun o ho => h.computes (hinv o ho) (hcomplete o ho) (hknows o ho)
  obtain ⟨hreactor, hok⟩ := (stationReactor_answers_ok_iff hauthorized version request).mpr
    ⟨observations, hdecoded, hcomputes, rfl⟩
  refine ⟨_, hreactor, hok, ?_⟩
  show List.Forall₂ _ ([] ++ (observations.filterMap service.mCalculator.assessment.accepted).map
    StationMagnitude.message) _
  rw [List.nil_append, List.forall₂_map_left_iff]
  exact (Batch.Assessment.accepted_shown (h.shown hinv hcomplete hknows)).imp
    fun _ _ hterms => tellsTerms_message hterms

/-- The corrections of the stations that a request names are told. -/
theorem tellsCorrection_correctionsReactor (request : Api.StationCorrectionsRequest)
    (hnamed : ∀ message ∈ request.stationIdentifiers, ∃ identifier,
      StationIdentifier.ofMessage message = .ok identifier) :
    ∃ reactor, correctionsReactor service clientMetadata request = .ok reactor ∧
      reactor.Answers .ok ∧
      List.Forall₂ (fun message entry => ∀ identifier,
          StationIdentifier.ofMessage message = .ok identifier → Knows network set identifier →
            TellsCorrection network message entry)
        request.stationIdentifiers reactor.response.stationCorrections := by
  rcases correctionsReactor_cases h.wellFormed hauthorized request with
    ⟨entries, hentries, hreactor⟩ | ⟨⟨message, hmessage, reason, hreason⟩, -⟩
  · refine ⟨_, hreactor, answers_okAnswer rfl, ?_⟩
    refine hentries.imp ?_
    rintro message entry ⟨identifier, hidentifier, rfl⟩ other hother hknows
    obtain rfl := Except.ok.inj (hidentifier.symm.trans hother)
    refine ⟨identifier, hidentifier, ?_⟩
    unfold Knows at hknows
    unfold correctionEntry
    cases hlookup : set.mCorrections.lookup identifier.name with
    | none =>
        rw [hlookup, Option.map_none] at hknows
        rw [Option.map_eq_none_iff.mp hknows.symm]
        rfl
    | some station =>
        rw [hlookup, Option.map_some] at hknows
        obtain ⟨correction, hcorrection, hvalue⟩ := Option.map_eq_some_iff.mp hknows.symm
        rw [hcorrection]
        dsimp only [Option.getD_some, Option.isSome_some]
        rw [hvalue]
  · obtain ⟨identifier, hidentifier⟩ := hnamed message hmessage
    cases hreason.symm.trans hidentifier

end MagnitudeService

end Grpc
end ULocalMagnitude
