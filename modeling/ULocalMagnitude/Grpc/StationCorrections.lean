import ULocalMagnitude.Grpc.Responses

/-!
# The corrections endpoint

What `GetStationCorrections` answers an authorized client: one entry for each station of
the request, up to the first identifier that names no station.
-/

namespace ULocalMagnitude
namespace Grpc

open Cxx
open Corrections (Distance StationIdentifier StationsSet)
open Magnitude (NetworkMagnitudeCalculator)

variable {F : Type} [Arithmetic F]

/-- The entry for a station, by the configured corrections. -/
def correctionEntry (set : StationsSet F) (message : Api.StationIdentifier)
    (identifier : StationIdentifier) : Api.StationCorrection F :=
  match set.mCorrections.lookup identifier.name with
  | some station =>
      { stationIdentifier := some message, value := some station.mCorrection,
        doesExist := some true }
  | none =>
      { stationIdentifier := some message, value := some (.finite 0), doesExist := some false }

/-- The message names a station, and the entry is that of the station. -/
def IsEntry (set : StationsSet F) (message : Api.StationIdentifier)
    (entry : Api.StationCorrection F) : Prop :=
  ∃ identifier, StationIdentifier.ofMessage message = .ok identifier ∧
    correctionEntry set message identifier = entry

namespace MagnitudeService

/-- The reactor of a call once the client is validated and the identifier is copied. -/
def correctionsStarted (identifier : Option Bytes) :
    Reactor (Api.StationCorrectionsResponse F) where
  mRouteName := "GetStationCorrections"
  response := { identifier }

/-- The reactor with more entries in its response. -/
def withEntries (entries : List (Api.StationCorrection F))
    (reactor : Reactor (Api.StationCorrectionsResponse F)) :
    Reactor (Api.StationCorrectionsResponse F) :=
  { reactor with
    response := { reactor.response with
      stationCorrections := reactor.response.stationCorrections ++ entries } }

/-- The answer to an identifier without a station. -/
def unnamedAnswer (reactor : Reactor (Api.StationCorrectionsResponse F)) :
    Reactor (Api.StationCorrectionsResponse F) :=
  clientErrorAnswer reactor "Malformed station identifier"

omit [Arithmetic F] in
theorem withEntries_nil (reactor : Reactor (Api.StationCorrectionsResponse F)) :
    withEntries [] reactor = reactor := by
  unfold withEntries
  rw [List.append_nil]

omit [Arithmetic F] in
theorem withEntries_cons (entry : Api.StationCorrection F)
    (entries : List (Api.StationCorrection F))
    (reactor : Reactor (Api.StationCorrectionsResponse F)) :
    withEntries entries (withEntries [entry] reactor) = withEntries (entry :: entries) reactor := by
  simp [withEntries]

section Corrections

variable {service : MagnitudeService F} {distance : Distance F} {set : StationsSet F}
  (hwellFormed : service.mCalculator.WellFormed distance set)

include hwellFormed

/-- One iteration adds the entry of the station, or refuses the call. -/
theorem correction_step_cases (message : Api.StationIdentifier)
    (reactor : Reactor (Api.StationCorrectionsResponse F)) :
    let step := Handler.tryCatch (service.addStationCorrection message)
      (fun _ => Handler.clientError "Malformed station identifier")
      (fun _ => Handler.serverError "Server error - contact developer")
    (∃ entry, IsEntry set message entry ∧ step reactor = .ok () (withEntries [entry] reactor)) ∨
      ((∃ reason, StationIdentifier.ofMessage message = .error reason) ∧
        step reactor = .error .returned (unnamedAnswer reactor)) := by
  intro step
  cases hmessage : StationIdentifier.ofMessage message with
  | error reason =>
      have hbody : service.addStationCorrection message reactor =
          .error (.fault reason) reactor := by
        unfold addStationCorrection
        rw [hmessage]
        rfl
      obtain ⟨what, -, hcaught⟩ := Handler.tryCatch_of_invalidArgument
        (fun _ => Handler.clientError "Malformed station identifier")
        (fun _ => Handler.serverError "Server error - contact developer") hbody
        (StationIdentifier.raises_ofMessage message reason hmessage)
      exact Or.inr ⟨⟨reason, rfl⟩, hcaught⟩
  | ok identifier =>
      have hcorrection := hwellFormed.getStationCorrection_eq
        (StationIdentifier.complete_of_ofMessage hmessage)
      refine Or.inl ⟨_, ⟨identifier, hmessage, rfl⟩, Handler.tryCatch_of_ok ?_⟩
      unfold addStationCorrection correctionEntry
      rw [Handler.lift_bind_ok hmessage, Handler.lift_bind_ok hcorrection]
      cases set.mCorrections.lookup identifier.name with
      | none => rfl
      | some station => rfl

/-- The loop gets through all identifiers, or to the first one that names no station. -/
theorem addStationCorrections_cases (messages : List Api.StationIdentifier)
    (reactor : Reactor (Api.StationCorrectionsResponse F)) :
    (∃ entries, List.Forall₂ (IsEntry set) messages entries ∧
        service.addStationCorrections messages reactor =
          .ok () (withEntries entries reactor)) ∨
      (∃ message ∈ messages, ∃ reason, StationIdentifier.ofMessage message = .error reason) ∧
        ∃ entries, service.addStationCorrections messages reactor =
          .error .returned (unnamedAnswer (withEntries entries reactor)) := by
  induction messages generalizing reactor with
  | nil =>
      refine Or.inl ⟨[], .nil, ?_⟩
      rw [withEntries_nil]
      rfl
  | cons message rest ih =>
      rcases correction_step_cases hwellFormed message reactor with
        ⟨entry, hentry, hstep⟩ | ⟨hunnamed, hstep⟩
      · have hrest : service.addStationCorrections (message :: rest) reactor =
            service.addStationCorrections rest (withEntries [entry] reactor) :=
          Handler.bind_of_ok hstep
        rcases ih (withEntries [entry] reactor) with ⟨entries, hentries, hend⟩ |
          ⟨⟨later, hlater, hreason⟩, entries, hend⟩
        · refine Or.inl ⟨entry :: entries, .cons hentry hentries, ?_⟩
          rw [hrest, hend, withEntries_cons]
        · refine Or.inr ⟨⟨later, List.mem_cons_of_mem message hlater, hreason⟩,
            entry :: entries, ?_⟩
          rw [hrest, hend, withEntries_cons]
      · refine Or.inr ⟨⟨message, List.mem_cons_self, hunnamed⟩, [], ?_⟩
        rw [withEntries_nil]
        exact Handler.bind_of_error hstep

/-- What the corrections endpoint answers an authorized client. -/
theorem correctionsReactor_cases {clientMetadata : ClientMetadata}
    (hauthorized : service.Authorizes clientMetadata)
    (request : Api.StationCorrectionsRequest) :
    (∃ entries, List.Forall₂ (IsEntry set) request.stationIdentifiers entries ∧
        correctionsReactor service clientMetadata request =
          .ok (okAnswer (withEntries entries (correctionsStarted request.identifier)))) ∨
      (∃ message ∈ request.stationIdentifiers,
          ∃ reason, StationIdentifier.ofMessage message = .error reason) ∧
        ∃ entries, correctionsReactor service clientMetadata request =
          .ok (unnamedAnswer (withEntries entries (correctionsStarted request.identifier))) := by
  have hstart : getStationCorrections service clientMetadata request
      { mRouteName := "GetStationCorrections", response := {} } =
        (Handler.tryCatch (service.addStationCorrections request.stationIdentifiers)
            (fun _ => Handler.serverError "Server error - try using a different endpoint")
            (fun _ => Handler.serverError "Server error - try using a different endpoint") >>=
          fun _ => Handler.succeed) (correctionsStarted request.identifier) := by
    unfold getStationCorrections correctionsStarted
    rw [Handler.bind_of_ok (hauthorized.checkClient _)]
    cases request.identifier with
    | none => rfl
    | some identifier => rfl
  unfold correctionsReactor
  rcases addStationCorrections_cases hwellFormed request.stationIdentifiers
      (correctionsStarted request.identifier) with
    ⟨entries, hentries, hend⟩ | ⟨hunnamed, entries, hend⟩
  · exact Or.inl ⟨entries, hentries, Handler.run_of_ok (hstart.trans
      (Handler.bind_of_ok (Handler.tryCatch_of_ok hend)))⟩
  · exact Or.inr ⟨hunnamed, entries, Handler.run_of_returned (hstart.trans
      (Handler.bind_of_error (Handler.tryCatch_of_returned hend)))⟩

end Corrections

end MagnitudeService

end Grpc
end ULocalMagnitude
