import ULocalMagnitude.Grpc.Responses
import ULocalMagnitude.Rationals

/-!
# Setters of composite objects

A station magnitude stores a pair of amplitudes, a residual a station magnitude and a
network magnitude two lists.  Each of the setters stores all of its argument or throws and
leaves the object as it was, also where elements are moved out of the argument one by one
while they are checked.  What a network magnitude stores is therefore complete through all
three classes, and its part of the response can be written.
-/

namespace ULocalMagnitude
namespace Properties

open Cxx Magnitude Grpc

variable {F : Type} [Arithmetic F]

/-- A setter of a list: all or nothing, and it accepts certain lists. -/
structure SetsList {σ : Type} (m : Method σ Unit) (Stored : σ → Prop) (Accepted : Prop)
    (s : σ) : Prop where
  allOrNothing : m.AllOrNothing Stored s
  accepts : (∃ s', m.call s = .ok s') ↔ Accepted

/-- The residuals are there, and each one is complete with a number that counts from one. -/
def AreAcceptable (residuals : List (Residual F × Int)) : Prop :=
  residuals ≠ [] ∧ ∀ element ∈ residuals, element.1.Complete ∧ 1 ≤ element.2

/-- All that the composite setters promise, on every object and for every argument that is
made through its classes and was not moved from. -/
structure CompositeSetters (F : Type) [Arithmetic F] : Prop where
  setAmplitudes : ∀ (amplitudes : Amplitude F × Amplitude F) (magnitude : StationMagnitude F),
    (StationMagnitude.setAmplitudes amplitudes).AllOrNothing
      (fun after => after.getAmplitudes = .ok amplitudes) magnitude
  setStationMagnitude : ∀ (stationMagnitude : StationMagnitude F) (residual : Residual F),
    (Method.withLocal (some stationMagnitude) Residual.setStationMagnitudeMoving).AllOrNothing
      (fun after => after.getStationMagnitude = .ok stationMagnitude) residual ∧
    (Residual.setStationMagnitudeCopying (some stationMagnitude)).AllOrNothing
      (fun after => after.getStationMagnitude = .ok stationMagnitude) residual
  setResiduals : ∀ residuals : List (Residual F × Int),
    (∀ element ∈ residuals, element.1.IsReachable) → ∀ magnitude : NetworkMagnitude F,
      SetsList (Method.withLocal (intact residuals) NetworkMagnitude.setResidualsMoving)
        (fun after => after.getResiduals = .ok residuals) (AreAcceptable residuals)
        magnitude ∧
      SetsList (NetworkMagnitude.setResidualsCopying (intact residuals))
        (fun after => after.getResiduals = .ok residuals) (AreAcceptable residuals) magnitude
  setRejectedObservations :
    ∀ (rejectedObservations : List (StationCalculatorErrorCode × Int))
      (magnitude : NetworkMagnitude F),
      SetsList (NetworkMagnitude.setRejectedObservations rejectedObservations)
        (fun after => after.getRejectedObservations = .ok rejectedObservations)
        (∀ element ∈ rejectedObservations, 1 ≤ element.2) magnitude
  /-- What is stored can be written. -/
  stored : ∀ magnitude : NetworkMagnitude F, magnitude.IsReachable →
    (∀ element ∈ magnitude.mResiduals, element.1.Complete ∧ 1 ≤ element.2 ∧
      ∃ message, element.1.toStationMagnitudeAndResidualMessage = .ok message) ∧
    ∀ reactor, ∃ after,
      MagnitudeService.addResiduals magnitude.mResiduals reactor = .ok () after
  /-- Only a getter of something that was never set stops the whole response. -/
  writable : ∀ magnitude : NetworkMagnitude F, magnitude.IsReachable → ∀ reactor,
    (∃ after, MagnitudeService.writeMagnitude magnitude reactor = .ok () after) ↔
      magnitude.hasValue = true ∧ magnitude.hasResiduals = true ∧
        magnitude.hasRejectedObservations = true
  /-- What the service writes, it writes to the end. -/
  written : ∀ (calculator : NetworkMagnitudeCalculator F) (observations : List (Observation F))
    (magnitude : NetworkMagnitude F), (∀ o ∈ observations, o.IsReachable) →
      calculator.apply observations = .ok (.ok magnitude) →
        magnitude.IsReachable ∧
        ∀ reactor, ∃ after, MagnitudeService.writeMagnitude magnitude reactor = .ok () after

/-! ## The setters -/

theorem allOrNothing_setAmplitudes (amplitudes : Amplitude F × Amplitude F)
    (magnitude : StationMagnitude F) :
    (StationMagnitude.setAmplitudes amplitudes).AllOrNothing
      (fun after => after.getAmplitudes = .ok amplitudes) magnitude := by
  refine (StationMagnitude.setAmplitudes_atomic amplitudes).allOrNothing fun after hafter => ?_
  obtain ⟨-, rfl⟩ := StationMagnitude.call_setAmplitudes_eq_ok.mp hafter
  rfl

theorem allOrNothing_setStationMagnitude (stationMagnitude : StationMagnitude F)
    (residual : Residual F) :
    (Residual.setStationMagnitude stationMagnitude).AllOrNothing
      (fun after => after.getStationMagnitude = .ok stationMagnitude) residual := by
  refine (Residual.setStationMagnitude_atomic stationMagnitude).allOrNothing
    fun after hafter => ?_
  obtain ⟨-, rfl⟩ := Residual.call_setStationMagnitude_eq_ok.mp hafter
  rfl

theorem setsList_setResiduals {residuals : List (Residual F × Int)}
    (hreachable : ∀ element ∈ residuals, element.1.IsReachable)
    (magnitude : NetworkMagnitude F) :
    SetsList (NetworkMagnitude.setResiduals residuals)
      (fun after => after.getResiduals = .ok residuals) (AreAcceptable residuals)
      magnitude where
  allOrNothing := by
    refine (NetworkMagnitude.setResiduals_atomic residuals).allOrNothing fun after hafter => ?_
    obtain ⟨-, -, rfl⟩ := NetworkMagnitude.call_setResiduals_eq_ok.mp hafter
    rfl
  accepts := by
    simp only [NetworkMagnitude.call_setResiduals_of_isReachable hreachable]
    constructor
    · rintro ⟨after, hnonempty, hcomplete, -⟩
      exact ⟨hnonempty, hcomplete⟩
    · rintro ⟨hnonempty, hcomplete⟩
      exact ⟨_, hnonempty, hcomplete, rfl⟩

theorem setsList_setRejectedObservations
    (rejectedObservations : List (StationCalculatorErrorCode × Int))
    (magnitude : NetworkMagnitude F) :
    SetsList (NetworkMagnitude.setRejectedObservations rejectedObservations)
      (fun after => after.getRejectedObservations = .ok rejectedObservations)
      (∀ element ∈ rejectedObservations, 1 ≤ element.2) magnitude where
  allOrNothing := by
    refine (NetworkMagnitude.setRejectedObservations_atomic rejectedObservations).allOrNothing
      fun after hafter => ?_
    obtain ⟨-, rfl⟩ := NetworkMagnitude.call_setRejectedObservations_eq_ok.mp hafter
    rfl
  accepts := by
    simp only [NetworkMagnitude.call_setRejectedObservations_eq_ok]
    constructor
    · rintro ⟨after, hnumbers, -⟩
      exact hnumbers
    · intro hnumbers
      exact ⟨_, hnumbers, rfl⟩

/-! ## The response -/

/-- The magnitude of the sample is made through its classes and has residuals. -/
example : Rationals.networkMagnitude.IsReachable ∧
    Rationals.networkMagnitude.mResiduals ≠ [] := by
  have happly := Rationals.sample.network_apply
  have hmagnitude := NetworkMagnitudeCalculator.isReachable_of_apply
    (fun o ho => (Rationals.sample.observations_isReachable o ho).inv) happly
  have hwritable := NetworkMagnitudeCalculator.isWritable_of_apply happly
  exact ⟨hmagnitude, hmagnitude.inv.nonempty hwritable.residuals⟩

/-- The composite setters are all or nothing, and what they leave can be written. -/
theorem composite_setters_are_all_or_nothing : CompositeSetters F where
  setAmplitudes := allOrNothing_setAmplitudes
  setStationMagnitude := by
    intro stationMagnitude residual
    rw [Residual.withLocal_setStationMagnitudeMoving, Residual.setStationMagnitudeCopying_some]
    exact ⟨allOrNothing_setStationMagnitude stationMagnitude residual,
      allOrNothing_setStationMagnitude stationMagnitude residual⟩
  setResiduals := by
    intro residuals hreachable magnitude
    rw [NetworkMagnitude.withLocal_setResidualsMoving,
      NetworkMagnitude.setResidualsCopying_intact]
    exact ⟨setsList_setResiduals hreachable magnitude,
      setsList_setResiduals hreachable magnitude⟩
  setRejectedObservations := setsList_setRejectedObservations
  stored := by
    intro magnitude hmagnitude
    have hresiduals := hmagnitude.inv.residuals
    constructor
    · intro element helement
      obtain ⟨hcomplete, hnumber⟩ := hresiduals element helement
      exact ⟨hcomplete, hnumber, _, hcomplete.toMessage⟩
    · intro reactor
      exact ⟨_, MagnitudeService.addResiduals_of_complete
        (fun element helement => (hresiduals element helement).1) reactor⟩
  writable := fun _ hmagnitude =>
    MagnitudeService.exists_writeMagnitude_iff hmagnitude.inv
  written := by
    intro calculator observations magnitude hobservations happly
    have hmagnitude := NetworkMagnitudeCalculator.isReachable_of_apply
      (fun o ho => (hobservations o ho).inv) happly
    have hwritable := NetworkMagnitudeCalculator.isWritable_of_apply happly
    exact ⟨hmagnitude, fun reactor =>
      ⟨_, MagnitudeService.writeMagnitude_of_isWritable hwritable reactor⟩⟩

end Properties
end ULocalMagnitude
