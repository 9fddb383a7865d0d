import ULocalMagnitude.Grpc.StationCorrections

/-!
# Requests in several parts

Two of the endpoints go over the elements of a request one after another, and all that an
element finds of those in front of it is what they have written to the response.
`Continues` says of a part of a handler that it does behind something that was written
what it does without it; `run_looped_append` cuts the answer to a list in two by it.

What is written in front can show in the answer even so: the message about a malformed
measurement counts the magnitudes in the response.
-/

namespace ULocalMagnitude
namespace Grpc

open Cxx
open Corrections (Distance Hypocenter StationIdentifier)
open Magnitude (NetworkMagnitudeCalculator Observation StationMagnitude)

variable {R α β ι : Type}

/-- The call is not finished yet. -/
structure Reactor.Running (reactor : Reactor R) : Prop where
  finished : reactor.finished = []
  mSuccess : reactor.mSuccess = false

namespace Handler

theorem run_congr {body body' : Handler R Unit} {reactor reactor' : Reactor R}
    (h : body reactor = body' reactor') : body.run reactor = body'.run reactor' := by
  unfold run
  rw [h]

/-- A loop over the elements of a request. -/
def forEach (step : ι → Handler R Unit) : List ι → Handler R Unit
  | [] => return ()
  | element :: rest => do
      step element
      forEach step rest

theorem forEach_append (step : ι → Handler R Unit) (first second : List ι) :
    forEach step (first ++ second) = forEach step first >>= fun _ => forEach step second := by
  induction first with
  | nil => rfl
  | cons element rest ih =>
      show (step element >>= fun _ => forEach step (rest ++ second)) =
        (step element >>= fun _ => forEach step rest) >>= fun _ => forEach step second
      rw [ih, bind_assoc]

/-- The end of a run behind what `frame` puts in front. -/
def endedBehind (frame : Reactor R → Reactor R) :
    EStateM.Result Exit (Reactor R) α → EStateM.Result Exit (Reactor R) α
  | .ok a after => .ok a (frame after)
  | .error exit after => .error exit (frame after)

/-- What a part of a handler leaves behind.  Only one that has returned may have finished the
call, and it has not succeeded then. -/
def LeavesRunning : EStateM.Result Exit (Reactor R) α → Prop
  | .ok _ after => after.Running
  | .error .returned after => after.mSuccess = false
  | .error (.fault _) after => after.Running

/-- A part of a handler that does in a call in progress what it does without what `frame`
puts in front. -/
structure Continues (frame : Reactor R → Reactor R) (x : Handler R α) : Prop where
  behind : ∀ reactor : Reactor R, reactor.Running →
    x (frame reactor) = endedBehind frame (x reactor)
  leaves : ∀ reactor : Reactor R, reactor.Running → LeavesRunning (x reactor)

namespace Continues

variable {frame : Reactor R → Reactor R}

protected theorem pure (a : α) : Continues frame (Pure.pure a) where
  behind _ _ := rfl
  leaves _ h := h

/-- A function call does not look at the reactor. -/
theorem lift (x : Throws α) : Continues frame (liftM x) := by
  cases x with
  | ok a => exact ⟨fun _ _ => rfl, fun _ h => h⟩
  | error fault => exact ⟨fun _ _ => rfl, fun _ h => h⟩

theorem bind {x : Handler R α} {f : α → Handler R β} (hx : Continues frame x)
    (hf : ∀ a, Continues frame (f a)) : Continues frame (x >>= f) := by
  constructor
  · intro reactor hreactor
    have hleaves := hx.leaves reactor hreactor
    show EStateM.bind x f (frame reactor) = endedBehind frame (EStateM.bind x f reactor)
    unfold EStateM.bind
    rw [hx.behind reactor hreactor]
    cases hend : x reactor with
    | ok a after =>
        rw [hend] at hleaves
        exact (hf a).behind after hleaves
    | error exit after => rfl
  · intro reactor hreactor
    have hleaves := hx.leaves reactor hreactor
    show LeavesRunning (EStateM.bind x f reactor)
    unfold EStateM.bind
    cases hend : x reactor with
    | ok a after =>
        rw [hend] at hleaves
        exact (hf a).leaves after hleaves
    | error exit after =>
        rw [hend] at hleaves
        cases exit with
        | returned => exact hleaves
        | fault fault => exact hleaves

theorem tryCatch {body : Handler R α} {onInvalidArgument onException : String → Handler R α}
    (hbody : Continues frame body) (hfirst : ∀ what, Continues frame (onInvalidArgument what))
    (hsecond : ∀ what, Continues frame (onException what)) :
    Continues frame (Handler.tryCatch body onInvalidArgument onException) := by
  constructor
  · intro reactor hreactor
    have hleaves := hbody.leaves reactor hreactor
    unfold Handler.tryCatch
    rw [hbody.behind reactor hreactor]
    cases hend : body reactor with
    | ok a after => rfl
    | error exit after =>
        rw [hend] at hleaves
        cases exit with
        | returned => rfl
        | fault fault =>
            cases fault with
            | invalidArgument what => exact (hfirst what).behind after hleaves
            | runtimeError what => exact (hsecond what).behind after hleaves
            | outOfRange what => exact (hsecond what).behind after hleaves
            | terminate => rfl
            | undefinedBehavior => rfl
  · intro reactor hreactor
    have hleaves := hbody.leaves reactor hreactor
    unfold Handler.tryCatch
    cases hend : body reactor with
    | ok a after =>
        rw [hend] at hleaves
        exact hleaves
    | error exit after =>
        rw [hend] at hleaves
        cases exit with
        | returned => exact hleaves
        | fault fault =>
            cases fault with
            | invalidArgument what => exact (hfirst what).leaves after hleaves
            | runtimeError what => exact (hsecond what).leaves after hleaves
            | outOfRange what => exact (hsecond what).leaves after hleaves
            | terminate => exact hleaves
            | undefinedBehavior => exact hleaves

/-- What is refused behind something is refused with the same status. -/
protected theorem refuse {counter : Counter} {status : Status}
    (h : ∀ reactor : Reactor R, reactor.Running →
      (frame reactor).refused counter status = frame (reactor.refused counter status)) :
    Continues frame (Handler.refuse counter status : Handler R α) where
  behind reactor hreactor := congrArg (EStateM.Result.error Exit.returned) (h reactor hreactor)
  leaves _ hreactor := hreactor.mSuccess

/-- The rule for loops. -/
theorem forEach {step : ι → Handler R Unit} (hstep : ∀ element, Continues frame (step element))
    (elements : List ι) : Continues frame (Handler.forEach step elements) := by
  induction elements with
  | nil => exact .pure ()
  | cons element rest ih => exact (hstep element).bind fun _ => ih

end Continues

/-- With clauses that refuse the call only the body gets through. -/
theorem body_of_tryCatch_ok {body : Handler R α} {counter counter' : Counter}
    {status status' : Status} {reactor after : Reactor R} {a : α}
    (h : tryCatch body (fun _ => refuse counter status) (fun _ => refuse counter' status')
      reactor = .ok a after) : body reactor = .ok a after := by
  unfold tryCatch at h
  cases hbody : body reactor with
  | ok b left =>
      rw [hbody] at h
      exact h
  | error exit left =>
      rw [hbody] at h
      cases exit with
      | returned => exact nomatch h
      | fault fault =>
          cases fault with
          | invalidArgument what => exact nomatch h
          | runtimeError what => exact nomatch h
          | outOfRange what => exact nomatch h
          | terminate => exact nomatch h
          | undefinedBehavior => exact nomatch h

/-! ## Lists cut in two -/

/-- The loop and the two `catch` clauses around it, each of which refuses the call. -/
def guardedLoop (step : ι → Handler R Unit) (onInvalidArgument onException : Counter × Status)
    (elements : List ι) : Handler R Unit :=
  tryCatch (forEach step elements) (fun _ => refuse onInvalidArgument.1 onInvalidArgument.2)
    (fun _ => refuse onException.1 onException.2)

/-- The reactor after `mSuccess = true; Finish(grpc::Status::OK);` -/
def succeeded (reactor : Reactor R) : Reactor R :=
  ({ reactor with mSuccess := true }).finish { code := .ok }

theorem succeed_eq (reactor : Reactor R) :
    Handler.succeed reactor = .ok () (succeeded reactor) := rfl

/-- A handler that goes over its elements one after another; the answer to some of them
continues the response to those in front. -/
structure GoesOn (step : ι → Handler R Unit) (onInvalidArgument onException : Counter × Status)
    (frame : R → Reactor R → Reactor R) : Prop where
  step : ∀ front element, Continues (frame front) (step element)
  onInvalidArgument : ∀ front (reactor : Reactor R), reactor.Running →
    (frame front reactor).refused onInvalidArgument.1 onInvalidArgument.2 =
      frame front (reactor.refused onInvalidArgument.1 onInvalidArgument.2)
  onException : ∀ front (reactor : Reactor R), reactor.Running →
    (frame front reactor).refused onException.1 onException.2 =
      frame front (reactor.refused onException.1 onException.2)
  succeed : ∀ front (reactor : Reactor R), reactor.Running →
    succeeded (frame front reactor) = frame front (succeeded reactor)

section Looped

variable {step : ι → Handler R Unit} {onInvalidArgument onException : Counter × Status}
  {frame : R → Reactor R → Reactor R} {started after : Reactor R} {elements : List ι}
  {exit : Exit}

theorem GoesOn.guardedLoop (h : GoesOn step onInvalidArgument onException frame) (front : R)
    (elements : List ι) :
    Continues (frame front) (guardedLoop step onInvalidArgument onException elements) :=
  .tryCatch (.forEach (h.step front) elements)
    (fun _ => .refuse (h.onInvalidArgument front)) fun _ => .refuse (h.onException front)

variable (onInvalidArgument onException) in
/-- A loop that stops is not gone on from. -/
theorem guardedLoop_of_error (h : forEach step elements started = .error exit after) :
    ∃ exit after, Handler.guardedLoop step onInvalidArgument onException elements started =
      .error exit after := by
  cases hend : Handler.guardedLoop step onInvalidArgument onException elements started with
  | ok passed left =>
      rw [body_of_tryCatch_ok hend] at h
      exact nomatch h
  | error exit left => exact ⟨exit, left, rfl⟩

/-- The handler from the loop on. -/
def answerAll (step : ι → Handler R Unit) (onInvalidArgument onException : Counter × Status)
    (started : Reactor R) (elements : List ι) : Throws (Reactor R) :=
  run (Handler.guardedLoop step onInvalidArgument onException elements >>= fun _ => succeed)
    started

theorem run_bind_congr {x y : Handler R α} {reactor reactor' : Reactor R}
    (h : x reactor = y reactor') (f : α → Handler R Unit) :
    run (x >>= f) reactor = run (y >>= f) reactor' := by
  have hbind : (x >>= f) reactor = (y >>= f) reactor' := by
    show EStateM.bind x f reactor = EStateM.bind y f reactor'
    unfold EStateM.bind
    rw [h]
  unfold run
  rw [hbind]

/-- Nothing behind the element at which the loop stops matters. -/
theorem answerAll_append_of_error (h : forEach step elements started = .error exit after)
    (rest : List ι) :
    answerAll step onInvalidArgument onException started (elements ++ rest) =
      answerAll step onInvalidArgument onException started elements := by
  refine run_bind_congr ?_ _
  unfold Handler.guardedLoop tryCatch
  rw [forEach_append, bind_of_error h, h]

/-- The elements behind those that the loop got through. -/
theorem answerAll_append_of_ok (h : forEach step elements started = .ok () after)
    (rest : List ι) :
    answerAll step onInvalidArgument onException started (elements ++ rest) =
      answerAll step onInvalidArgument onException after rest := by
  refine run_bind_congr ?_ _
  unfold Handler.guardedLoop tryCatch
  rw [forEach_append, bind_of_ok h]

theorem answerAll_of_ok (h : forEach step elements started = .ok () after) :
    answerAll step onInvalidArgument onException started elements = .ok (succeeded after) :=
  run_of_ok ((bind_of_ok (tryCatch_of_ok h)).trans (succeed_eq after))

/-- Behind `front` the answer is the one to the elements alone, with `front` before it. -/
theorem GoesOn.answerAll_behind (h : GoesOn step onInvalidArgument onException frame)
    (hstarted : started.Running) (front : R) (elements : List ι) :
    answerAll step onInvalidArgument onException (frame front started) elements =
      frame front <$> answerAll step onInvalidArgument onException started elements := by
  have hloop := h.guardedLoop front elements
  have hbehind := hloop.behind started hstarted
  have hleaves := hloop.leaves started hstarted
  unfold answerAll
  cases hend : Handler.guardedLoop step onInvalidArgument onException elements started with
  | ok passed after =>
      rw [hend] at hbehind hleaves
      rw [run_of_ok ((bind_of_ok hbehind).trans (succeed_eq _)),
        run_of_ok ((bind_of_ok hend).trans (succeed_eq _)), h.succeed front after hleaves]
      rfl
  | error exit after =>
      rw [hend] at hbehind
      cases exit with
      | returned =>
          rw [run_of_returned (bind_of_error hbehind), run_of_returned (bind_of_error hend)]
          rfl
      | fault fault =>
          rw [run_of_fault (bind_of_error hbehind), run_of_fault (bind_of_error hend)]
          rfl

/-- The answer to two lists, one behind the other: the first one's when it is no success, and
otherwise the second one's behind what the first has written. -/
theorem GoesOn.answerAll_append (h : GoesOn step onInvalidArgument onException frame)
    (hstarted : started.Running) {first : List ι}
    (hfront : ∀ after, forEach step first started = .ok () after →
      frame after.response started = after) (second : List ι) :
    answerAll step onInvalidArgument onException started (first ++ second) = do
      let answer ← answerAll step onInvalidArgument onException started first
      if answer.mSuccess then
        frame answer.response <$> answerAll step onInvalidArgument onException started second
      else return answer := by
  cases hend : forEach step first started with
  | ok passed after =>
      have hbehind := h.answerAll_behind hstarted after.response second
      rw [hfront after hend] at hbehind
      rw [answerAll_append_of_ok hend, answerAll_of_ok hend, hbehind]
      rfl
  | error exit after =>
      rw [answerAll_append_of_error hend]
      obtain ⟨exit, left, hstop⟩ := guardedLoop_of_error onInvalidArgument onException hend
      have hleaves := (h.guardedLoop after.response first).leaves started hstarted
      rw [hstop] at hleaves
      unfold answerAll
      cases exit with
      | returned =>
          have hfailed : left.mSuccess = false := hleaves
          rw [run_of_returned (bind_of_error hstop)]
          show _ = if left.mSuccess = true then _ else _
          rw [hfailed]
          rfl
      | fault fault =>
          rw [run_of_fault (bind_of_error hstop)]
          rfl

end Looped

end Handler

namespace MagnitudeService

open Handler (Continues GoesOn answerAll forEach)

variable {F : Type} [Arithmetic F]

/-- What a call with a bad hypocenter is refused with. -/
def badHypocenter : Counter × Status :=
  (.clientError, { code := .invalidArgument, message := "Check hypocenter" })

/-- What a call is refused with that another endpoint may answer. -/
def badEndpoint : Counter × Status :=
  (.serverError,
    { code := .internal, message := "Server error - try using a different endpoint" })

/-! ## Station magnitudes -/

/-- The status for a malformed measurement. -/
def malformedStatus (response : Api.StationMagnitudesFromAmplitudesResponse F) : Status where
  code := .invalidArgument
  message := malformedMessage response

/-- The response with the magnitudes of another one in front. -/
def behindMagnitudes (front response : Api.StationMagnitudesFromAmplitudesResponse F) :
    Api.StationMagnitudesFromAmplitudesResponse F :=
  { response with stationMagnitudes := front.stationMagnitudes ++ response.stationMagnitudes }

/-- The answer behind the magnitudes of a response.  They count for the number of a malformed
measurement. -/
def continueMagnitudes (front : Api.StationMagnitudesFromAmplitudesResponse F)
    (reactor : Reactor (Api.StationMagnitudesFromAmplitudesResponse F)) :
    Reactor (Api.StationMagnitudesFromAmplitudesResponse F) :=
  { reactor with
    response := behindMagnitudes front reactor.response
    finished := reactor.finished.map fun status =>
      if status = malformedStatus reactor.response then
        malformedStatus (behindMagnitudes front reactor.response)
      else status }

/-- One turn of the loop over the measurements. -/
def magnitudeStep (inverse : Distance.Inverse F) (service : MagnitudeService F)
    (hypocenter : Hypocenter F) (measurement : Api.StationAmplitudeMeasurement F) :
    Handler (Api.StationMagnitudesFromAmplitudesResponse F) Unit :=
  Handler.tryCatch (service.addStationMagnitude inverse hypocenter measurement)
    (fun _ => refuseMeasurement)
    (fun _ => Handler.serverError "Server error - contact developer")

theorem addStationMagnitudes_eq_forEach (inverse : Distance.Inverse F)
    (service : MagnitudeService F) (hypocenter : Hypocenter F)
    (measurements : List (Api.StationAmplitudeMeasurement F)) :
    addStationMagnitudes inverse service hypocenter measurements =
      forEach (magnitudeStep inverse service hypocenter) measurements := by
  induction measurements with
  | nil => rfl
  | cons measurement rest ih =>
      unfold addStationMagnitudes
      rw [ih]
      rfl

omit [Arithmetic F] in
theorem continueMagnitudes_of_running (front : Api.StationMagnitudesFromAmplitudesResponse F)
    {reactor : Reactor (Api.StationMagnitudesFromAmplitudesResponse F)}
    (h : reactor.Running) :
    continueMagnitudes front reactor =
      { reactor with response := behindMagnitudes front reactor.response } := by
  unfold continueMagnitudes
  rw [h.finished]
  rfl

omit [Arithmetic F] in
/-- What is no refusal of a measurement is refused with the same status. -/
theorem refused_continueMagnitudes (front : Api.StationMagnitudesFromAmplitudesResponse F)
    {reactor : Reactor (Api.StationMagnitudesFromAmplitudesResponse F)} (h : reactor.Running)
    (counter : Counter) {status : Status} (hstatus : status ≠ malformedStatus reactor.response) :
    (continueMagnitudes front reactor).refused counter status =
      continueMagnitudes front (reactor.refused counter status) := by
  rw [continueMagnitudes_of_running front h]
  unfold continueMagnitudes Reactor.refused Reactor.increment Reactor.finish
  rw [h.finished]
  dsimp only
  rw [List.nil_append, List.map_singleton, if_neg hstatus]

omit [Arithmetic F] in
theorem refuseMeasurement_behind (front : Api.StationMagnitudesFromAmplitudesResponse F)
    {reactor : Reactor (Api.StationMagnitudesFromAmplitudesResponse F)} (h : reactor.Running) :
    refuseMeasurement (continueMagnitudes front reactor) =
      Handler.endedBehind (continueMagnitudes front) (refuseMeasurement reactor) := by
  show EStateM.Result.error Exit.returned (malformedAnswer (continueMagnitudes front reactor)) =
    .error .returned (continueMagnitudes front (malformedAnswer reactor))
  rw [continueMagnitudes_of_running front h]
  unfold continueMagnitudes malformedAnswer clientErrorAnswer Reactor.refused Reactor.increment
    Reactor.finish
  rw [h.finished]
  dsimp only
  rw [List.nil_append, List.nil_append, List.map_singleton]
  exact congrArg (fun status => EStateM.Result.error Exit.returned
    { reactor with
      response := behindMagnitudes front reactor.response
      finished := [status]
      incremented := reactor.incremented ++ [(Counter.clientError, reactor.mRouteName)] })
    (if_pos rfl).symm

omit [Arithmetic F] in
theorem malformedStatus_ne_of_code {status : Status} (h : status.code ≠ .invalidArgument)
    (response : Api.StationMagnitudesFromAmplitudesResponse F) :
    status ≠ malformedStatus response := fun hstatus => h (congrArg Status.code hstatus)

omit [Arithmetic F] in
/-- The message of the clause for bad hypocenters is no message about a measurement. -/
theorem checkHypocenter_ne (response : Api.StationMagnitudesFromAmplitudesResponse F) :
    badHypocenter.2 ≠ malformedStatus response := by
  intro h
  have hmessage := congrArg (fun status => status.message.toList.head?) h
  simp [badHypocenter, malformedStatus, malformedMessage] at hmessage

omit [Arithmetic F] in
/-- A magnitude that is added is added behind the others. -/
theorem continues_respond (front : Api.StationMagnitudesFromAmplitudesResponse F)
    (message : Api.StationMagnitude F) :
    Continues (continueMagnitudes front) (Handler.respond
      fun response : Api.StationMagnitudesFromAmplitudesResponse F =>
        { response with stationMagnitudes := response.stationMagnitudes ++ [message] }) where
  behind reactor h := by
    have hadded : Reactor.Running { reactor with
        response := { reactor.response with
          stationMagnitudes := reactor.response.stationMagnitudes ++ [message] } } :=
      ⟨h.finished, h.mSuccess⟩
    rw [continueMagnitudes_of_running front h]
    refine Eq.trans ?_ (congrArg (EStateM.Result.ok ())
      (continueMagnitudes_of_running front hadded).symm)
    show EStateM.Result.ok () _ = _
    unfold behindMagnitudes
    rw [← List.append_assoc]
  leaves _ h := ⟨h.finished, h.mSuccess⟩

/-- One turn of the loop goes on behind the magnitudes of another response. -/
theorem continues_magnitudeStep (inverse : Distance.Inverse F) (service : MagnitudeService F)
    (hypocenter : Hypocenter F) (front : Api.StationMagnitudesFromAmplitudesResponse F)
    (measurement : Api.StationAmplitudeMeasurement F) :
    Continues (continueMagnitudes front)
      (magnitudeStep inverse service hypocenter measurement) := by
  refine .tryCatch (.bind (.lift _) fun observation => .bind (.lift _) fun outcome => ?_)
    (fun _ => ⟨fun _ h => refuseMeasurement_behind front h, fun _ h => h.mSuccess⟩)
    fun _ => .refuse fun reactor h =>
      refused_continueMagnitudes front h _ (malformedStatus_ne_of_code (by decide) _)
  cases outcome with
  | error code => exact .pure ()
  | ok magnitude =>
      exact .bind (.lift _) fun message => continues_respond front message

/-- The measurements of a request are gone over one after another. -/
theorem goesOn_magnitudes (inverse : Distance.Inverse F) (service : MagnitudeService F)
    (hypocenter : Hypocenter F) :
    GoesOn (magnitudeStep inverse service hypocenter) badHypocenter badEndpoint
      continueMagnitudes where
  step front measurement :=
    continues_magnitudeStep inverse service hypocenter front measurement
  onInvalidArgument front reactor h :=
    refused_continueMagnitudes front h _ (checkHypocenter_ne _)
  onException front reactor h :=
    refused_continueMagnitudes front h _ (malformedStatus_ne_of_code (by decide) _)
  succeed front reactor h := by
    rw [continueMagnitudes_of_running front h]
    unfold continueMagnitudes Handler.succeeded Reactor.finish
    rw [h.finished]
    dsimp only
    rw [List.nil_append, List.map_singleton,
      if_neg (malformedStatus_ne_of_code (by decide) _)]

section Magnitudes

variable (inverse : Distance.Inverse F) (version : Version) (service : MagnitudeService F)
  (clientMetadata : ClientMetadata) (request : Api.StationMagnitudesFromAmplitudesRequest F)

/-- The answer to the request with other measurements. -/
def magnitudesAnswer (measurements : List (Api.StationAmplitudeMeasurement F)) :
    Throws (Reactor (Api.StationMagnitudesFromAmplitudesResponse F)) :=
  stationReactor inverse version service clientMetadata
    { request with stationAmplitudeMeasurements := measurements }

theorem run_station_body (hauthorized : service.Authorizes clientMetadata)
    (measurements : List (Api.StationAmplitudeMeasurement F)) :
    magnitudesAnswer inverse version service clientMetadata request measurements =
      Handler.run (Handler.tryCatch
        (match request.hypocenter with
          | none => Handler.clientError "Malformed request - hypocenter not set"
          | some message => do
              let hypocenter ← liftM (Hypocenter.ofMessage message)
              addStationMagnitudes inverse service hypocenter measurements)
        (fun _ => Handler.clientError "Check hypocenter")
        (fun _ => Handler.serverError "Server error - try using a different endpoint") >>=
          fun _ => Handler.succeed) (stationStarted version request.identifier) := by
  refine Handler.run_congr ?_
  exact computeStationMagnitudesFromAmplitudes_eq inverse hauthorized version
    { request with stationAmplitudeMeasurements := measurements }

/-- Without a hypocenter the call is refused. -/
theorem magnitudesAnswer_of_noHypocenter (hauthorized : service.Authorizes clientMetadata)
    (hgiven : request.hypocenter = none)
    (measurements : List (Api.StationAmplitudeMeasurement F)) :
    magnitudesAnswer inverse version service clientMetadata request measurements =
      .ok (clientErrorAnswer (stationStarted version request.identifier)
        "Malformed request - hypocenter not set") := by
  rw [run_station_body inverse version service clientMetadata request hauthorized, hgiven]
  rfl

/-- With a bad hypocenter the call is refused. -/
theorem magnitudesAnswer_of_badHypocenter (hauthorized : service.Authorizes clientMetadata)
    {given : Api.Hypocenter F} {reason : Fault} (hgiven : request.hypocenter = some given)
    (hhypocenter : Hypocenter.ofMessage given = .error reason)
    (measurements : List (Api.StationAmplitudeMeasurement F)) :
    magnitudesAnswer inverse version service clientMetadata request measurements =
      .ok (clientErrorAnswer (stationStarted version request.identifier) "Check hypocenter") := by
  rw [run_station_body inverse version service clientMetadata request hauthorized, hgiven]
  have hreason := Hypocenter.raises_ofMessage given reason hhypocenter
  dsimp only
  rw [hhypocenter]
  cases reason with
  | invalidArgument what => rfl
  | runtimeError what => exact hreason.elim
  | outOfRange what => exact hreason.elim
  | terminate => exact hreason.elim
  | undefinedBehavior => exact hreason.elim

/-- With a hypocenter the call is answered by the loop. -/
theorem magnitudesAnswer_of_hypocenter (hauthorized : service.Authorizes clientMetadata)
    {given : Api.Hypocenter F} {hypocenter : Hypocenter F}
    (hgiven : request.hypocenter = some given)
    (hhypocenter : Hypocenter.ofMessage given = .ok hypocenter)
    (measurements : List (Api.StationAmplitudeMeasurement F)) :
    magnitudesAnswer inverse version service clientMetadata request measurements =
      answerAll (magnitudeStep inverse service hypocenter) badHypocenter badEndpoint
        (stationStarted version request.identifier) measurements := by
  rw [run_station_body inverse version service clientMetadata request hauthorized, hgiven]
  dsimp only
  rw [hhypocenter]
  show Handler.run (Handler.tryCatch
    (addStationMagnitudes inverse service hypocenter measurements) _ _ >>= _) _ = _
  rw [addStationMagnitudes_eq_forEach]
  rfl

omit clientMetadata request in
/-- The loop changes nothing but the magnitudes of the response. -/
theorem continueMagnitudes_started (identifier : Option Bytes) {given : Api.Hypocenter F}
    {hypocenter : Hypocenter F} (hhypocenter : Hypocenter.ofMessage given = .ok hypocenter)
    {measurements : List (Api.StationAmplitudeMeasurement F)}
    {after : Reactor (Api.StationMagnitudesFromAmplitudesResponse F)}
    (h : forEach (magnitudeStep inverse service hypocenter) measurements
      (stationStarted version identifier) = .ok () after) :
    continueMagnitudes after.response (stationStarted version identifier) = after := by
  obtain ⟨hlatitude, hlongitude, hdepth⟩ := Hypocenter.complete_of_ofMessage hhypocenter
  rw [← addStationMagnitudes_eq_forEach] at h
  rcases addStationMagnitudes_cases inverse service hlatitude hlongitude hdepth measurements
      (stationStarted version identifier) with
    ⟨observations, -, -, hend⟩ | ⟨_, _, _, _, -, -, -, ⟨_, -, -, _, -, hend⟩ | ⟨_, -, hend⟩⟩
  · rw [h] at hend
    obtain rfl := (EStateM.Result.ok.inj hend).2
    rw [continueMagnitudes_of_running _ ⟨rfl, rfl⟩]
    unfold behindMagnitudes
    rw [show (stationStarted version identifier : Reactor
      (Api.StationMagnitudesFromAmplitudesResponse F)).response.stationMagnitudes = [] from rfl,
      List.append_nil]
    rfl
  · rw [h] at hend
    exact nomatch hend
  · rw [h] at hend
    exact nomatch hend

/-- The answer to measurements that come in two parts. -/
theorem magnitudesAnswer_append (first second : List (Api.StationAmplitudeMeasurement F)) :
    magnitudesAnswer inverse version service clientMetadata request (first ++ second) = do
      let answer ← magnitudesAnswer inverse version service clientMetadata request first
      if answer.mSuccess then
        continueMagnitudes answer.response <$>
          magnitudesAnswer inverse version service clientMetadata request second
      else return answer := by
  by_cases hauthorized : service.Authorizes clientMetadata
  · cases hgiven : request.hypocenter with
    | none =>
        rw [magnitudesAnswer_of_noHypocenter _ _ _ _ _ hauthorized hgiven,
          magnitudesAnswer_of_noHypocenter _ _ _ _ _ hauthorized hgiven]
        rfl
    | some given =>
        cases hhypocenter : Hypocenter.ofMessage given with
        | error reason =>
            rw [magnitudesAnswer_of_badHypocenter _ _ _ _ _ hauthorized hgiven hhypocenter,
              magnitudesAnswer_of_badHypocenter _ _ _ _ _ hauthorized hgiven hhypocenter]
            rfl
        | ok hypocenter =>
            rw [magnitudesAnswer_of_hypocenter _ _ _ _ _ hauthorized hgiven hhypocenter,
              magnitudesAnswer_of_hypocenter _ _ _ _ _ hauthorized hgiven hhypocenter,
              magnitudesAnswer_of_hypocenter _ _ _ _ _ hauthorized hgiven hhypocenter]
            refine (goesOn_magnitudes inverse service hypocenter).answerAll_append
              ⟨rfl, rfl⟩ (fun after hafter => ?_) second
            exact continueMagnitudes_started _ _ _ _ hhypocenter hafter
  · have hrefused (measurements : List (Api.StationAmplitudeMeasurement F)) :
        magnitudesAnswer inverse version service clientMetadata request measurements =
          .ok (unauthenticatedAnswer
            { mRouteName := "ComputeStationMagnitudesFromAmplitudes", response := {} }) :=
      run_checkClient_of_not_authorized hauthorized _ _
    rw [hrefused, hrefused]
    rfl

end Magnitudes

/-! ## Station corrections -/

/-- The response with the entries of another one in front. -/
def behindCorrections (front response : Api.StationCorrectionsResponse F) :
    Api.StationCorrectionsResponse F :=
  { response with stationCorrections := front.stationCorrections ++ response.stationCorrections }

/-- The answer behind the entries of a response. -/
def continueCorrections (front : Api.StationCorrectionsResponse F)
    (reactor : Reactor (Api.StationCorrectionsResponse F)) :
    Reactor (Api.StationCorrectionsResponse F) :=
  { reactor with response := behindCorrections front reactor.response }

/-- One turn of the loop over the stations. -/
def correctionStep (service : MagnitudeService F) (identifier : Api.StationIdentifier) :
    Handler (Api.StationCorrectionsResponse F) Unit :=
  Handler.tryCatch (service.addStationCorrection identifier)
    (fun _ => Handler.clientError "Malformed station identifier")
    (fun _ => Handler.serverError "Server error - contact developer")

theorem addStationCorrections_eq_forEach (service : MagnitudeService F)
    (identifiers : List Api.StationIdentifier) :
    service.addStationCorrections identifiers =
      forEach (correctionStep service) identifiers := by
  induction identifiers with
  | nil => rfl
  | cons identifier rest ih =>
      unfold addStationCorrections
      rw [ih]
      rfl

omit [Arithmetic F] in
/-- An entry that is added is added behind the others. -/
theorem continues_respond_correction (front : Api.StationCorrectionsResponse F)
    (entry : Api.StationCorrection F) :
    Continues (continueCorrections front) (Handler.respond
      fun response : Api.StationCorrectionsResponse F =>
        { response with stationCorrections := response.stationCorrections ++ [entry] }) where
  behind reactor h := by
    show EStateM.Result.ok () _ = .ok () (continueCorrections front _)
    unfold continueCorrections behindCorrections
    rw [← List.append_assoc]
  leaves _ h := ⟨h.finished, h.mSuccess⟩

/-- The stations of a request are gone over one after another. -/
theorem goesOn_corrections (service : MagnitudeService F) :
    GoesOn (correctionStep service) badEndpoint badEndpoint continueCorrections where
  step front identifier := by
    refine .tryCatch (.bind (.lift _) fun decoded => .bind (.lift _) fun correction => ?_)
      (fun _ => .refuse fun _ _ => rfl) fun _ => .refuse fun _ _ => rfl
    cases correction with
    | none => exact continues_respond_correction front _
    | some value => exact continues_respond_correction front _
  onInvalidArgument _ _ _ := rfl
  onException _ _ _ := rfl
  succeed _ _ _ := rfl

section Corrections

variable (service : MagnitudeService F) (clientMetadata : ClientMetadata)
  (request : Api.StationCorrectionsRequest)

/-- The answer to the request with other stations. -/
def correctionsAnswer (identifiers : List Api.StationIdentifier) :
    Throws (Reactor (Api.StationCorrectionsResponse F)) :=
  correctionsReactor service clientMetadata { request with stationIdentifiers := identifiers }

theorem correctionsAnswer_of_authorizes (hauthorized : service.Authorizes clientMetadata)
    (identifiers : List Api.StationIdentifier) :
    correctionsAnswer service clientMetadata request identifiers =
      answerAll (correctionStep service) badEndpoint badEndpoint
        (correctionsStarted request.identifier) identifiers := by
  unfold correctionsAnswer correctionsReactor getStationCorrections
  rw [hauthorized.run_checkClient, addStationCorrections_eq_forEach]
  cases request.identifier with
  | none => rfl
  | some identifier => rfl

omit clientMetadata request in
/-- A turn of the loop that gets through adds an entry. -/
theorem exists_entry_of_correctionStep {identifier : Api.StationIdentifier}
    {reactor after : Reactor (Api.StationCorrectionsResponse F)}
    (h : correctionStep service identifier reactor = .ok () after) :
    ∃ entry, after = withEntries [entry] reactor := by
  have hbody := Handler.body_of_tryCatch_ok h
  unfold addStationCorrection at hbody
  cases hmessage : StationIdentifier.ofMessage identifier with
  | error reason =>
      rw [hmessage] at hbody
      exact nomatch hbody
  | ok decoded =>
      rw [Handler.lift_bind_ok hmessage] at hbody
      cases hcorrection : service.mCalculator.getStationCorrection decoded with
      | error reason =>
          rw [hcorrection] at hbody
          exact nomatch hbody
      | ok correction =>
          rw [Handler.lift_bind_ok hcorrection] at hbody
          exact ⟨_, (EStateM.Result.ok.inj hbody).2.symm⟩

omit clientMetadata request in
/-- The loop changes nothing but the entries of the response. -/
theorem exists_entries_of_corrections {identifiers : List Api.StationIdentifier}
    {reactor after : Reactor (Api.StationCorrectionsResponse F)}
    (h : forEach (correctionStep service) identifiers reactor = .ok () after) :
    ∃ entries, after = withEntries entries reactor := by
  induction identifiers generalizing reactor with
  | nil =>
      refine ⟨[], ?_⟩
      rw [withEntries_nil]
      exact (EStateM.Result.ok.inj h).2.symm
  | cons identifier rest ih =>
      cases hstep : correctionStep service identifier reactor with
      | error exit left =>
          have herror : forEach (correctionStep service) (identifier :: rest) reactor =
              .error exit left := Handler.bind_of_error hstep
          rw [herror] at h
          exact nomatch h
      | ok passed between =>
          have hrest : forEach (correctionStep service) (identifier :: rest) reactor =
              forEach (correctionStep service) rest between := Handler.bind_of_ok hstep
          rw [hrest] at h
          obtain ⟨entry, rfl⟩ := exists_entry_of_correctionStep service hstep
          obtain ⟨entries, rfl⟩ := ih h
          exact ⟨entry :: entries, withEntries_cons entry entries reactor⟩

omit clientMetadata request in
theorem continueCorrections_started (identifier : Option Bytes)
    {identifiers : List Api.StationIdentifier}
    {after : Reactor (Api.StationCorrectionsResponse F)}
    (h : forEach (correctionStep service) identifiers (correctionsStarted identifier) =
      .ok () after) :
    continueCorrections after.response (correctionsStarted identifier) = after := by
  obtain ⟨entries, rfl⟩ := exists_entries_of_corrections service h
  unfold continueCorrections behindCorrections withEntries correctionsStarted
  rw [List.append_nil]

/-- The answer to stations that come in two parts. -/
theorem correctionsAnswer_append (first second : List Api.StationIdentifier) :
    correctionsAnswer service clientMetadata request (first ++ second) = do
      let answer ← correctionsAnswer service clientMetadata request first
      if answer.mSuccess then
        continueCorrections answer.response <$>
          correctionsAnswer service clientMetadata request second
      else return answer := by
  by_cases hauthorized : service.Authorizes clientMetadata
  · rw [correctionsAnswer_of_authorizes _ _ _ hauthorized,
      correctionsAnswer_of_authorizes _ _ _ hauthorized,
      correctionsAnswer_of_authorizes _ _ _ hauthorized]
    refine (goesOn_corrections service).answerAll_append ⟨rfl, rfl⟩ (fun after hafter => ?_)
      second
    exact continueCorrections_started service _ hafter
  · have hrefused (identifiers : List Api.StationIdentifier) :
        correctionsAnswer service clientMetadata request identifiers =
          .ok (unauthenticatedAnswer
            { mRouteName := "GetStationCorrections", response := {} }) :=
      run_checkClient_of_not_authorized hauthorized _ _
    rw [hrefused, hrefused]
    rfl

end Corrections

end MagnitudeService
end Grpc
end ULocalMagnitude
