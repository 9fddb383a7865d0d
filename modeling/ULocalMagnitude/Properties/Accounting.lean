import ULocalMagnitude.Rationals

/-!
# Accounting of observations

Every observation of a list is either averaged or rejected, under its own number and
with what was computed for it.  The numbers are assigned in one loop, consumed in
another and written to the response by the service; the abstract average fixes them
in one place, and the lists of the program are images of its lists.
-/

namespace ULocalMagnitude
namespace Properties

open Cxx Magnitude Grpc
open Corrections (Distance Hypocenter)
open Batch (Accounts)
open Magnitude.NetworkMagnitudeCalculator (averages_of_apply computeStationMagnitude_of_outcome
  mem_rejections_tabulated_iff mem_residuals_tabulated_iff rejectionOf residualAt)
open Grpc.MagnitudeService (elementMessage networkReactor rejectedMessage)

variable {F : Type} [Arithmetic F]

/-- A number that counts from one is read back from the response. -/
theorem eq_of_toUInt32 {number : Int} {k : Nat}
    (h : some (NetworkMagnitude.toUInt32 number) = some (k + 1)) :
    number = Int.ofNat (k + 1) := by
  have hnumber : number.toNat = k + 1 := Option.some.inj h
  show number = ((k + 1 : Nat) : Int)
  omega

/-- The residuals and the rejections of a network magnitude, and those of a response,
account for all observations: their numbers increase, and each of the numbers from one
to the length of the list is in exactly one of the two lists, with the station magnitude
or the error code of the observation at that place. -/
theorem observations_are_accounted_for :
    (∀ (calculator : NetworkMagnitudeCalculator F) (observations : List (Observation F))
        (magnitude : NetworkMagnitude F),
      calculator.apply observations = .ok (.ok magnitude) →
      ∃ accepted rejected : List Nat, Accounts observations.length accepted rejected ∧
        magnitude.mResiduals.map Prod.snd = accepted.map Int.ofNat ∧
        magnitude.mRejectedObservations.map Prod.snd = rejected.map Int.ofNat ∧
        (∀ residual (k : Nat), (residual, Int.ofNat (k + 1)) ∈ magnitude.mResiduals →
          ∃ o, observations[k]? = some o ∧
            calculator.computeStationMagnitude o = .ok (.ok residual.mStationMagnitude)) ∧
        ∀ errorCode (k : Nat),
          (errorCode, Int.ofNat (k + 1)) ∈ magnitude.mRejectedObservations →
          ∃ o, observations[k]? = some o ∧
            calculator.computeStationMagnitude o = .ok (.error errorCode)) ∧
    ∀ (inverse : Distance.Inverse F) (version : Version) (service : MagnitudeService F)
        (clientMetadata : ClientMetadata)
        (request : Api.NetworkMagnitudeFromAmplitudesRequest F)
        (reactor : Reactor (Api.NetworkMagnitudeFromAmplitudesResponse F)),
      networkReactor inverse version service clientMetadata request = .ok reactor →
      reactor.Answers .ok →
      ∃ given hypocenter, request.hypocenter = some given ∧
        Hypocenter.ofMessage given = .ok hypocenter ∧
      ∃ accepted rejected : List Nat,
        Accounts request.stationAmplitudeMeasurements.length accepted rejected ∧
        reactor.response.stationMagnitudesAndResiduals.map
          (fun entry => entry.inputObservationNumber) = accepted.map some ∧
        reactor.response.rejectedObservations.map
          (fun entry => entry.inputObservationNumber) = rejected.map some ∧
        (∀ entry ∈ reactor.response.stationMagnitudesAndResiduals, ∀ k,
          entry.inputObservationNumber = some (k + 1) →
          ∃ measurement o magnitude message,
            request.stationAmplitudeMeasurements[k]? = some measurement ∧
            Observation.ofMeasurement inverse measurement hypocenter = .ok o ∧
            service.mCalculator.computeStationMagnitude o = .ok (.ok magnitude) ∧
            magnitude.toMessage = .ok message ∧ entry.stationMagnitude = some message) ∧
        ∀ entry ∈ reactor.response.rejectedObservations, ∀ k,
          entry.inputObservationNumber = some (k + 1) →
          ∃ measurement o errorCode,
            request.stationAmplitudeMeasurements[k]? = some measurement ∧
            Observation.ofMeasurement inverse measurement hypocenter = .ok o ∧
            service.mCalculator.computeStationMagnitude o = .ok (.error errorCode) ∧
            entry.reason = some (NetworkMagnitude.reasonOf errorCode) := by
  constructor
  · intro calculator observations magnitude h
    obtain ⟨-, hcomputes, rfl⟩ := averages_of_apply h
    refine ⟨_, _, Batch.Assessment.accounts_result (a := calculator.assessment) observations,
      ?_, ?_, ?_, ?_⟩
    · rw [List.map_map]
      exact List.map_map ..
    · rw [List.map_map]
      exact List.map_map ..
    · intro residual k hmem
      obtain ⟨o, magnitude, ho, houtcome, rfl⟩ := mem_residuals_tabulated_iff.mp hmem
      exact ⟨o, ho, computeStationMagnitude_of_outcome
        (hcomputes o (List.mem_of_getElem? ho)) houtcome⟩
    · intro errorCode k hmem
      obtain ⟨o, ho, houtcome⟩ := mem_rejections_tabulated_iff.mp hmem
      exact ⟨o, ho, computeStationMagnitude_of_outcome
        (hcomputes o (List.mem_of_getElem? ho)) houtcome⟩
  · intro inverse version service clientMetadata request reactor h hok
    obtain ⟨observations, magnitude, hdecoded, happly, rfl⟩ :=
      MagnitudeService.exists_magnitude_of_answers_ok h hok
    obtain ⟨-, hcomputes, rfl⟩ := averages_of_apply happly
    obtain ⟨given, hypocenter, hgiven, hhypocenter, hdecodes⟩ :=
      MagnitudeService.decode_eq_ok.mp hdecoded
    have hlength := List.Forall₂.length_eq hdecodes
    refine ⟨given, hypocenter, hgiven, hhypocenter, _, _,
      hlength ▸ Batch.Assessment.accounts_result (a := service.mCalculator.assessment)
        observations, ?_, ?_, ?_, ?_⟩
    · show ((List.map (residualAt _) _).map elementMessage).map _ = _
      rw [List.map_map, List.map_map, List.map_map]
      rfl
    · show ((List.map rejectionOf _).map rejectedMessage).map _ = _
      rw [List.map_map, List.map_map, List.map_map]
      rfl
    · intro entry hentry k hk
      obtain ⟨⟨residual, number⟩, hresidual, rfl⟩ := List.mem_map.mp hentry
      obtain rfl : number = Int.ofNat (k + 1) := eq_of_toUInt32 hk
      obtain ⟨o, magnitude, ho, houtcome, rfl⟩ := mem_residuals_tabulated_iff.mp hresidual
      obtain ⟨measurement, hat, hbuilt⟩ := hdecodes.measurement_at ho
      have hcomplete := (NetworkMagnitudeCalculator.complete_of_outcome houtcome).1
      have hcompute := computeStationMagnitude_of_outcome
        (hcomputes o (List.mem_of_getElem? ho)) houtcome
      exact ⟨measurement, o, magnitude, magnitude.message, hat, hbuilt, hcompute,
        hcomplete.toMessage, rfl⟩
    · intro entry hentry k hk
      obtain ⟨⟨errorCode, number⟩, hrejected, rfl⟩ := List.mem_map.mp hentry
      obtain rfl : number = Int.ofNat (k + 1) := eq_of_toUInt32 hk
      obtain ⟨o, ho, houtcome⟩ := mem_rejections_tabulated_iff.mp hrejected
      obtain ⟨measurement, hat, hbuilt⟩ := hdecodes.measurement_at ho
      have hcompute := computeStationMagnitude_of_outcome
        (hcomputes o (List.mem_of_getElem? ho)) houtcome
      exact ⟨measurement, o, errorCode, hat, hbuilt, hcompute, rfl⟩

/-- Three observations, one of which is rejected. -/
theorem three_observations_are_accounted_for :
    (∃ accepted rejected : List Nat, Accounts 3 accepted rejected ∧
      Rationals.networkMagnitude.mResiduals.map Prod.snd = accepted.map Int.ofNat ∧
      Rationals.networkMagnitude.mRejectedObservations.map Prod.snd =
        rejected.map Int.ofNat) ∧
    ∃ accepted rejected : List Nat, Accounts 3 accepted rejected ∧
      Rationals.reactor.response.stationMagnitudesAndResiduals.map
        (fun entry => entry.inputObservationNumber) = accepted.map some ∧
      Rationals.reactor.response.rejectedObservations.map
        (fun entry => entry.inputObservationNumber) = rejected.map some := by
  constructor
  · obtain ⟨accepted, rejected, haccounts, hresiduals, hrejected, -⟩ :=
      (observations_are_accounted_for (F := ℚ)).1 _ _ _ Rationals.sample.network_apply
    exact ⟨accepted, rejected, haccounts, hresiduals, hrejected⟩
  · obtain ⟨-, -, -, -, accepted, rejected, haccounts, hresiduals, hrejected, -⟩ :=
      (observations_are_accounted_for (F := ℚ)).2 _ _ _ _ _ _
        Rationals.sample.networkReactor_request Rationals.sample.reactor_answers
    exact ⟨accepted, rejected, haccounts, hresiduals, hrejected⟩

end Properties
end ULocalMagnitude
