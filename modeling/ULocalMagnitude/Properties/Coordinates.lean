import ULocalMagnitude.Corrections.Coordinates
import ULocalMagnitude.Rationals

/-!
# The distance function

Epicentral distances come from a geodesic library, whose answer has a meaning for latitudes
and longitudes in degrees only.  Nothing that a client sends and nothing that is called on a
hypocenter or a station location makes the service ask for the distance of other coordinates,
so two distance functions that agree on the coordinates of the earth cannot be told apart.
-/

namespace ULocalMagnitude
namespace Properties

open Cxx Corrections Magnitude Grpc
open Distance (AgreeOnEarth)

variable {F : Type} [Arithmetic F] {α β R : Type}

theorem bind_congr_of_ok {x : Throws α} {f g : α → Throws β} (h : ∀ a, x = .ok a → f a = g a) :
    x >>= f = x >>= g := by
  cases x with
  | ok a => exact h a rfl
  | error fault => rfl

theorem lift_bind_congr_of_ok {x : Throws α} {f g : α → Handler R β}
    (h : ∀ a, x = .ok a → f a = g a) : (liftM x >>= f : Handler R β) = liftM x >>= g := by
  cases x with
  | ok a => exact funext fun reactor => congrFun (h a rfl) reactor
  | error fault => rfl

/-- Of both endpoints: the measurements are read with the hypocenter of the request. -/
theorem lift_hypocenter_congr {message : Api.Hypocenter F} {f g : Hypocenter F → Handler R β}
    (hf : ∀ hypocenter : Hypocenter F, hypocenter.Inv → f hypocenter = g hypocenter) :
    (liftM (Hypocenter.ofMessage message) >>= f : Handler R β) =
      liftM (Hypocenter.ofMessage message) >>= g :=
  lift_bind_congr_of_ok fun hypocenter hdecoded => hf hypocenter
    (Hypocenter.inv_of_ofMessage hdecoded)

section Agree

variable {inverse inverse' : Distance.Inverse F} (h : AgreeOnEarth inverse inverse')
include h

theorem ofMeasurement_congr {hypocenter : Hypocenter F} (hhypocenter : hypocenter.Inv)
    (measurement : Api.StationAmplitudeMeasurement F) :
    Observation.ofMeasurement inverse measurement hypocenter =
      Observation.ofMeasurement inverse' measurement hypocenter := by
  unfold Observation.ofMeasurement
  refine bind_congr_of_ok fun _ _ => bind_congr_of_ok fun _ _ => bind_congr_of_ok fun _ _ => ?_
  refine bind_congr_of_ok fun location hlocation => ?_
  rw [Distance.computeEpicentralDistance_congr h hhypocenter
    (StationLocation.inv_of_ofMessage hlocation)]

theorem packObservations_congr {hypocenter : Hypocenter F} (hhypocenter : hypocenter.Inv)
    (measurements : List (Api.StationAmplitudeMeasurement F))
    (observations : List (Observation F)) :
    (MagnitudeService.packObservations inverse hypocenter measurements observations :
        Handler R (List (Observation F))) =
      MagnitudeService.packObservations inverse' hypocenter measurements observations := by
  induction measurements generalizing observations with
  | nil => rfl
  | cons measurement rest ih =>
      unfold MagnitudeService.packObservations
      rw [ofMeasurement_congr h hhypocenter]
      exact congrArg _ (funext fun observation => ih (observations ++ [observation]))

theorem packRequest_congr (request : Api.NetworkMagnitudeFromAmplitudesRequest F) :
    (MagnitudeService.packRequest inverse request : Handler R (List (Observation F))) =
      MagnitudeService.packRequest inverse' request := by
  unfold MagnitudeService.packRequest
  cases request.hypocenter with
  | none => rfl
  | some message =>
      dsimp only
      rw [lift_hypocenter_congr fun hypocenter hhypocenter => packObservations_congr h
        hhypocenter request.stationAmplitudeMeasurements []]

theorem addStationMagnitudes_congr (service : MagnitudeService F) {hypocenter : Hypocenter F}
    (hhypocenter : hypocenter.Inv)
    (measurements : List (Api.StationAmplitudeMeasurement F)) :
    MagnitudeService.addStationMagnitudes inverse service hypocenter measurements =
      MagnitudeService.addStationMagnitudes inverse' service hypocenter measurements := by
  induction measurements with
  | nil => rfl
  | cons measurement rest ih =>
      unfold MagnitudeService.addStationMagnitudes MagnitudeService.addStationMagnitude
      rw [ofMeasurement_congr h hhypocenter, ih]

/-- Distances are asked for between places on earth only. -/
theorem distances_are_between_places_on_earth :
    (∀ (hypocenter : Hypocenter F) (station : StationLocation F), hypocenter.IsReachable →
      station.IsReachable → Distance.computeEpicentralDistance inverse hypocenter station =
        Distance.computeEpicentralDistance inverse' hypocenter station) ∧
    ∀ (version : Version) (service : MagnitudeService F) (clientMetadata : ClientMetadata),
      (∀ request, service.networkReactor inverse version clientMetadata request =
        service.networkReactor inverse' version clientMetadata request) ∧
      ∀ request, service.stationReactor inverse version clientMetadata request =
        service.stationReactor inverse' version clientMetadata request := by
  refine ⟨fun hypocenter station hhypocenter hstation =>
    Distance.computeEpicentralDistance_congr h hhypocenter.inv hstation.inv,
    fun version service clientMetadata => ⟨fun request => ?_, fun request => ?_⟩⟩
  · unfold MagnitudeService.networkReactor
      MagnitudeService.computeNetworkMagnitudeFromAmplitudes
    rw [packRequest_congr h]
  · unfold MagnitudeService.stationReactor
      MagnitudeService.computeStationMagnitudesFromAmplitudes
    cases request.hypocenter with
    | none => rfl
    | some message =>
        dsimp only
        rw [lift_hypocenter_congr fun hypocenter hhypocenter => addStationMagnitudes_congr h
          service hhypocenter request.stationAmplitudeMeasurements]

end Agree

/-- A distance function that gives no number for latitudes out of range. -/
def checkedInverse : Distance.Inverse ℚ := fun latitude longitude latitude' longitude' =>
  if (.finite (-90) ≤ latitude ∧ latitude ≤ .finite 90) ∧
      .finite (-90) ≤ latitude' ∧ latitude' ≤ .finite 90 then
    Rationals.inverse latitude longitude latitude' longitude'
  else .nan

theorem checkedInverse_agrees : AgreeOnEarth checkedInverse Rationals.inverse := by
  intro latitude longitude latitude' longitude' hlatitude _ hlatitude' _
  exact if_pos ⟨⟨hlatitude.lower, hlatitude.upper⟩, hlatitude'.lower, hlatitude'.upper⟩

/-- The two functions differ beyond the poles, but the answer to a request is the same. -/
theorem checked_distances_answer_alike :
    checkedInverse (.finite 91) (.finite 0) (.finite 91) (.finite 0) ≠
        Rationals.inverse (.finite 91) (.finite 0) (.finite 91) (.finite 0) ∧
      MagnitudeService.networkReactor checkedInverse Rationals.version
        Rationals.magnitudeService [] Rationals.request = .ok Rationals.reactor := by
  refine ⟨by decide +kernel, ?_⟩
  rw [((distances_are_between_places_on_earth checkedInverse_agrees).2 Rationals.version
    Rationals.magnitudeService []).1 Rationals.request]
  exact Rationals.sample.networkReactor_request

end Properties
end ULocalMagnitude
