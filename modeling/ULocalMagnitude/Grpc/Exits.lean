import ULocalMagnitude.Grpc.MagnitudeService

/-!
# How handlers are left

A handler that was not left through `Finish` has neither finished nor counted its call,
and one that was has done both once, on its route and with the counter that goes with
the status.  `Leaves` is this with the statuses that a handler may refuse with; it is
proved of a handler from its parts.
-/

namespace ULocalMagnitude
namespace Grpc

open Cxx
open Corrections (Distance)
open Magnitude (NetworkMagnitude NetworkMagnitudeCalculator Residual)

variable {F : Type} [Arithmetic F] {R α β : Type}

/-- The counter for a status. -/
def counterOf : StatusCode → Counter
  | .ok => .success
  | .invalidArgument => .clientError
  | .internal => .serverError
  | .unauthenticated => .unauthenticated

namespace Reactor

/-- The call on this route was neither finished nor counted. -/
structure IsOpen (route : String) (reactor : Reactor R) : Prop where
  routeName : reactor.mRouteName = route
  finished : reactor.finished = []
  incremented : reactor.incremented = []
  success : reactor.mSuccess = false

/-- The call was finished and counted once, with one of these statuses. -/
structure IsRefused (codes : List StatusCode) (route : String) (reactor : Reactor R) :
    Prop where
  routeName : reactor.mRouteName = route
  success : reactor.mSuccess = false
  refusal : ∃ status, status.code ∈ codes ∧ reactor.finished = [status] ∧
    reactor.incremented = [(counterOf status.code, route)]

/-- The call was finished with `OK`, and is counted in `OnDone`. -/
structure IsAnswered (route : String) (reactor : Reactor R) : Prop where
  routeName : reactor.mRouteName = route
  success : reactor.mSuccess = true
  finished : reactor.finished = [{ code := .ok }]
  incremented : reactor.incremented = []

end Reactor

namespace Handler

/-- How a handler for a route can leave an open reactor. -/
inductive LeftProperly (codes : List StatusCode) (route : String) :
    EStateM.Result Exit (Reactor R) α → Prop
  | ok (a : α) {after : Reactor R} (h : after.IsOpen route) :
      LeftProperly codes route (.ok a after)
  | fault (reason : Fault) {after : Reactor R} (h : after.IsOpen route) :
      LeftProperly codes route (.error (.fault reason) after)
  | returned {after : Reactor R} (h : after.IsRefused codes route) :
      LeftProperly codes route (.error .returned after)

/-- From an open reactor the handler refuses with one of these statuses, or leaves it
open. -/
def Leaves (codes : List StatusCode) (x : Handler R α) : Prop :=
  ∀ route reactor, reactor.IsOpen route → LeftProperly codes route (x reactor)

namespace Leaves

variable {codes : List StatusCode}

theorem pure (a : α) : Leaves codes (Pure.pure a : Handler R α) :=
  fun _ _ h => .ok a h

theorem lift (x : Throws α) : Leaves codes (liftM x : Handler R α) := by
  intro route reactor h
  cases x with
  | ok a => exact .ok a h
  | error reason => exact .fault reason h

theorem respond (f : R → R) : Leaves codes (Handler.respond f) :=
  fun _ _ h => .ok () ⟨h.routeName, h.finished, h.incremented, h.success⟩

theorem get : Leaves codes (MonadState.get : Handler R (Reactor R)) :=
  fun _ reactor h => .ok reactor h

theorem refuse {counter : Counter} {status : Status} (hcode : status.code ∈ codes)
    (hcounter : counterOf status.code = counter) :
    Leaves codes (Handler.refuse counter status : Handler R α) := by
  intro route reactor h
  refine .returned ⟨h.routeName, h.success, status, hcode, ?_, ?_⟩
  · show reactor.finished ++ [status] = _
    rw [h.finished, List.nil_append]
  · show reactor.incremented ++ [(counter, reactor.mRouteName)] = _
    rw [h.incremented, h.routeName, hcounter, List.nil_append]

theorem clientError (hcode : .invalidArgument ∈ codes) (message : String) :
    Leaves codes (Handler.clientError message : Handler R α) := refuse hcode rfl

theorem serverError (hcode : .internal ∈ codes) (message : String) :
    Leaves codes (Handler.serverError message : Handler R α) := refuse hcode rfl

/-- Sequential composition. -/
theorem bind {x : Handler R α} {f : α → Handler R β} (hx : Leaves codes x)
    (hf : ∀ a, Leaves codes (f a)) : Leaves codes (x >>= f) := by
  intro route reactor h
  have hleft := hx route reactor h
  show LeftProperly codes route (EStateM.bind x f reactor)
  unfold EStateM.bind
  cases hend : x reactor with
  | ok a after =>
      rw [hend] at hleft
      cases hleft with
      | ok _ hafter => exact hf a route after hafter
  | error reason after =>
      rw [hend] at hleft
      cases hleft with
      | fault reason hafter => exact .fault reason hafter
      | returned hafter => exact .returned hafter

/-- A handler whose exceptions are caught was still open when it threw them. -/
theorem tryCatch {body : Handler R α} {onInvalidArgument onException : String → Handler R α}
    (hbody : Leaves codes body) (hfirst : ∀ what, Leaves codes (onInvalidArgument what))
    (hsecond : ∀ what, Leaves codes (onException what)) :
    Leaves codes (Handler.tryCatch body onInvalidArgument onException) := by
  intro route reactor h
  have hleft := hbody route reactor h
  unfold Handler.tryCatch
  generalize body reactor = left at hleft
  cases hleft with
  | ok a hafter => exact .ok a hafter
  | returned hafter => exact .returned hafter
  | fault reason hafter =>
      -- The first three are exceptions; the others are the end of the process.
      cases reason with
      | invalidArgument what => exact hfirst what route _ hafter
      | runtimeError what => exact hsecond what route _ hafter
      | outOfRange what => exact hsecond what route _ hafter
      | terminate => exact .fault .terminate hafter
      | undefinedBehavior => exact .fault .undefinedBehavior hafter

end Leaves

/-- From an open reactor the handler answers the call, refuses it with one of these
statuses, or leaves it open with a fault. -/
def Ends (codes : List StatusCode) (x : Handler R Unit) : Prop :=
  ∀ route reactor, reactor.IsOpen route →
    (∃ after, x reactor = .ok () after ∧ after.IsAnswered route) ∨
      (∃ after, x reactor = .error .returned after ∧ after.IsRefused codes route) ∨
      ∃ reason after, x reactor = .error (.fault reason) after

namespace Ends

variable {codes : List StatusCode}

theorem succeed : Ends codes (Handler.succeed : Handler R Unit) := by
  intro route reactor h
  refine Or.inl ⟨_, rfl, h.routeName, rfl, ?_, h.incremented⟩
  show reactor.finished ++ _ = _
  rw [h.finished, List.nil_append]

theorem clientError (hcode : .invalidArgument ∈ codes) (message : String) :
    Ends codes (Handler.clientError message : Handler R Unit) := by
  intro route reactor h
  have hleft := Leaves.clientError (R := R) (α := Unit) hcode message route reactor h
  cases hleft with
  | returned hafter => exact Or.inr (Or.inl ⟨_, rfl, hafter⟩)

/-- Sequential composition. -/
theorem bind {x : Handler R α} {f : α → Handler R Unit} (hx : Leaves codes x)
    (hf : ∀ a, Ends codes (f a)) : Ends codes (x >>= f) := by
  intro route reactor h
  have hleft := hx route reactor h
  cases hend : x reactor with
  | ok a after =>
      rw [hend] at hleft
      cases hleft with
      | ok _ hafter =>
          rw [Handler.bind_of_ok hend]
          exact hf a route after hafter
  | error reason after =>
      rw [hend] at hleft
      rw [Handler.bind_of_error hend]
      cases hleft with
      | fault reason hafter => exact Or.inr (Or.inr ⟨reason, after, rfl⟩)
      | returned hafter => exact Or.inr (Or.inl ⟨after, rfl, hafter⟩)

/-- The call of a reactor whose constructor returns is answered or refused. -/
theorem run {x : Handler R Unit} (hx : Ends codes x) {route : String}
    {reactor after : Reactor R} (hopen : reactor.IsOpen route)
    (h : Handler.run x reactor = .ok after) :
    after.IsAnswered route ∨ after.IsRefused codes route := by
  rcases hx route reactor hopen with ⟨_, hend, hanswered⟩ | ⟨_, hend, hrefused⟩ |
    ⟨reason, _, hend⟩
  · obtain rfl := Except.ok.inj ((Handler.run_of_ok hend).symm.trans h)
    exact Or.inl hanswered
  · obtain rfl := Except.ok.inj ((Handler.run_of_returned hend).symm.trans h)
    exact Or.inr hrefused
  · rw [Handler.run_of_fault hend] at h
    cases h

end Ends

end Handler

/-! ## The three endpoints -/

namespace MagnitudeService

/-- The statuses with which a request is refused once its client is validated. -/
def refusals : List StatusCode := [.invalidArgument, .internal]

section Parts

variable {inverse : Distance.Inverse F} {service : MagnitudeService F}

theorem leaves_packObservations (hypocenter : Corrections.Hypocenter F)
    (measurements : List (Api.StationAmplitudeMeasurement F))
    (observations : List (Magnitude.Observation F)) :
    Handler.Leaves refusals
      (packObservations (R := R) inverse hypocenter measurements observations) := by
  induction measurements generalizing observations with
  | nil => exact .pure _
  | cons measurement rest ih =>
      refine .bind (.tryCatch (.lift _) ?_ ?_) fun observation => ih _
      · exact fun _ => .clientError (by decide) _
      · exact fun _ => .serverError (by decide) _

theorem leaves_packRequest (request : Api.NetworkMagnitudeFromAmplitudesRequest F) :
    Handler.Leaves refusals (packRequest (R := R) inverse request) := by
  unfold packRequest
  refine .tryCatch ?_ (fun _ => .clientError (by decide) _) fun _ =>
    .serverError (by decide) _
  cases request.hypocenter with
  | none => exact .clientError (by decide) _
  | some message =>
      exact .bind (.lift _) fun hypocenter => leaves_packObservations hypocenter _ _

theorem leaves_addResiduals (residuals : List (Residual F × Int)) :
    Handler.Leaves refusals (addResiduals residuals) := by
  induction residuals with
  | nil => exact .pure _
  | cons residual rest ih =>
      exact .bind (.lift _) fun _ => .bind (.respond _) fun _ => ih

theorem leaves_writeResult
    (result : Except NetworkMagnitudeCalculator.ErrorCode (NetworkMagnitude F)) :
    Handler.Leaves refusals (writeResult result) := by
  cases result with
  | ok magnitude =>
      refine .bind (.lift _) fun _ => .bind (.lift _) fun _ => .bind (.respond _) fun _ => ?_
      refine .bind (.lift _) fun residuals => .bind (leaves_addResiduals residuals) fun _ => ?_
      exact .bind (.lift _) fun _ => .respond _
  | error errorCode =>
      cases errorCode with
      | tooFewObservations => exact .clientError (by decide) _
      | noObservations => exact .clientError (by decide) _
      | duplicateObservations => exact .clientError (by decide) _
      | uninitialized => exact .serverError (by decide) _
      | algorithm => exact .serverError (by decide) _
      | observationMissingAmplitudes => exact .serverError (by decide) _
      | observationMissingDistance => exact .serverError (by decide) _
      | observationMissingDepth => exact .serverError (by decide) _
      | observationHasNoCorrection => exact .serverError (by decide) _
      | negativeDistance => exact .serverError (by decide) _
      | stationTooClose => exact .serverError (by decide) _
      | stationTooFar => exact .serverError (by decide) _

theorem ends_computeMagnitude (observations : List (Magnitude.Observation F)) :
    Handler.Ends refusals (service.computeMagnitude observations) := by
  unfold computeMagnitude
  split
  · exact .clientError (by decide) _
  · exact .bind (.lift _) fun result => .bind (leaves_writeResult result) fun _ => .succeed

theorem leaves_addStationMagnitudes (hypocenter : Corrections.Hypocenter F)
    (measurements : List (Api.StationAmplitudeMeasurement F)) :
    Handler.Leaves refusals (addStationMagnitudes inverse service hypocenter measurements) := by
  induction measurements with
  | nil => exact .pure _
  | cons measurement rest ih =>
      refine .bind (.tryCatch ?_ ?_ ?_) fun _ => ih
      · refine .bind (.lift _) fun observation => .bind (.lift _) fun outcome => ?_
        cases outcome with
        | ok magnitude => exact .bind (.lift _) fun _ => .respond _
        | error errorCode => exact .pure _
      · exact fun _ => .bind .get fun _ => .clientError (by decide) _
      · exact fun _ => .serverError (by decide) _

theorem leaves_addStationCorrections (messages : List Api.StationIdentifier) :
    Handler.Leaves refusals (service.addStationCorrections messages) := by
  induction messages with
  | nil => exact .pure _
  | cons message rest ih =>
      refine .bind (.tryCatch ?_ ?_ ?_) fun _ => ih
      · exact .bind (.lift _) fun _ => .bind (.lift _) fun _ => .respond _
      · exact fun _ => .clientError (by decide) _
      · exact fun _ => .serverError (by decide) _

/-! The reactors that come out of a call from an authorized client. -/

variable {clientMetadata : ClientMetadata} (hauthorized : service.Authorizes clientMetadata)

include hauthorized

theorem networkReactor_left {version : Version}
    {request : Api.NetworkMagnitudeFromAmplitudesRequest F}
    {reactor : Reactor (Api.NetworkMagnitudeFromAmplitudesResponse F)}
    (h : networkReactor inverse version service clientMetadata request = .ok reactor) :
    reactor.IsAnswered "ComputeNetworkMagnitudeFromAmplitudes" ∨
      reactor.IsRefused refusals "ComputeNetworkMagnitudeFromAmplitudes" := by
  have hrest : Handler.Ends refusals
      (packRequest inverse request >>= service.computeMagnitude) :=
    .bind (leaves_packRequest request) ends_computeMagnitude
  refine Handler.Ends.run ?_ ⟨rfl, rfl, rfl, rfl⟩
    ((hauthorized.run_checkClient _ _).symm.trans h)
  refine .bind (.respond _) fun _ => ?_
  cases request.identifier with
  | none => exact hrest
  | some identifier => exact .bind (.respond _) fun _ => hrest

theorem stationReactor_left {version : Version}
    {request : Api.StationMagnitudesFromAmplitudesRequest F}
    {reactor : Reactor (Api.StationMagnitudesFromAmplitudesResponse F)}
    (h : stationReactor inverse version service clientMetadata request = .ok reactor) :
    reactor.IsAnswered "ComputeStationMagnitudesFromAmplitudes" ∨
      reactor.IsRefused refusals "ComputeStationMagnitudesFromAmplitudes" := by
  refine Handler.Ends.run ?_ ⟨rfl, rfl, rfl, rfl⟩
    ((hauthorized.run_checkClient _ _).symm.trans h)
  have hrest {body : Handler (Api.StationMagnitudesFromAmplitudesResponse F) Unit}
      (hbody : Handler.Leaves refusals body) :
      Handler.Ends refusals (Handler.tryCatch body
        (fun _ => Handler.clientError "Check hypocenter")
        (fun _ => Handler.serverError "Server error - try using a different endpoint") >>=
          fun _ => Handler.succeed) :=
    .bind (.tryCatch hbody (fun _ => .clientError (by decide) _)
      fun _ => .serverError (by decide) _) fun _ => .succeed
  refine .bind (.respond _) fun _ => ?_
  cases request.hypocenter with
  | none =>
      have hrefused := hrest (.clientError (by decide) "Malformed request - hypocenter not set")
      cases request.identifier with
      | none => exact hrefused
      | some identifier => exact .bind (.respond _) fun _ => hrefused
  | some message =>
      have hloop : Handler.Leaves refusals (do
          let hypocenter ← liftM (Corrections.Hypocenter.ofMessage message)
          addStationMagnitudes inverse service hypocenter request.stationAmplitudeMeasurements) :=
        .bind (.lift _) fun hypocenter => leaves_addStationMagnitudes hypocenter _
      cases request.identifier with
      | none => exact hrest hloop
      | some identifier => exact .bind (.respond _) fun _ => hrest hloop

theorem correctionsReactor_left {request : Api.StationCorrectionsRequest}
    {reactor : Reactor (Api.StationCorrectionsResponse F)}
    (h : correctionsReactor service clientMetadata request = .ok reactor) :
    reactor.IsAnswered "GetStationCorrections" ∨
      reactor.IsRefused refusals "GetStationCorrections" := by
  have hrest : Handler.Ends refusals
      (Handler.tryCatch (service.addStationCorrections request.stationIdentifiers)
        (fun _ => Handler.serverError "Server error - try using a different endpoint")
        (fun _ => Handler.serverError "Server error - try using a different endpoint") >>=
          fun _ => Handler.succeed) :=
    .bind (.tryCatch (leaves_addStationCorrections _) (fun _ => .serverError (by decide) _)
      fun _ => .serverError (by decide) _) fun _ => .succeed
  refine Handler.Ends.run ?_ ⟨rfl, rfl, rfl, rfl⟩
    ((hauthorized.run_checkClient _ _).symm.trans h)
  cases request.identifier with
  | none => exact hrest
  | some identifier => exact .bind (.respond _) fun _ => hrest

end Parts

end MagnitudeService

end Grpc
end ULocalMagnitude
