import ULocalMagnitude.Grpc.MagnitudeService

/-!
# What the service answers

Each endpoint is a function of the decoded observations and of what the calculator
returns for them.  `networkReactor_eq` is an equation for every call of an authorized
client; `StationEnds` tells the three ways apart in which a call of the other endpoint
ends.
-/

namespace ULocalMagnitude
namespace Grpc

open Cxx
open Corrections (Distance Hypocenter)
open Batch (Average Failure)
open Magnitude (NetworkMagnitude NetworkMagnitudeCalculator Observation Residual
  StationMagnitude StationCalculatorErrorCode)
open Magnitude.NetworkMagnitudeCalculator (Computes IsWritable networkMagnitudeOf resultOf)

variable {F : Type} [Arithmetic F] {R : Type}

/-- `Finish` was called once, with a status of the given code. -/
def Reactor.Answers (reactor : Reactor R) (code : StatusCode) : Prop :=
  ∃ message, reactor.finished = [{ code, message }]

theorem Reactor.Answers.unique {reactor : Reactor R} {code code' : StatusCode}
    (h : reactor.Answers code) (h' : reactor.Answers code') : code = code' := by
  obtain ⟨message, hmessage⟩ := h
  obtain ⟨message', hmessage'⟩ := h'
  rw [hmessage] at hmessage'
  simp only [List.cons.injEq, Status.mk.injEq] at hmessage'
  exact hmessage'.1.1

theorem Reactor.Answers.iff_eq {reactor : Reactor R} {code : StatusCode}
    (h : reactor.Answers code) (code' : StatusCode) :
    reactor.Answers code' ↔ code' = code := by
  constructor
  · intro h'
    exact h'.unique h
  · rintro rfl
    exact h

namespace MagnitudeService

/-! ## Decoding -/

section Decoding

variable {inverse : Distance.Inverse F} {hypocenter : Hypocenter F}

/-- The observations are those of the measurements, one by one. -/
def Decodes (inverse : Distance.Inverse F) (hypocenter : Hypocenter F) :
    List (Api.StationAmplitudeMeasurement F) → List (Observation F) → Prop :=
  List.Forall₂ fun measurement observation =>
    Observation.ofMeasurement inverse measurement hypocenter = .ok observation

theorem decodeMeasurements_cons_ok {measurement : Api.StationAmplitudeMeasurement F}
    {observation : Observation F}
    (h : Observation.ofMeasurement inverse measurement hypocenter = .ok observation)
    (number : Nat) (rest : List (Api.StationAmplitudeMeasurement F)) :
    decodeMeasurements inverse hypocenter number (measurement :: rest) =
      Except.map (observation :: ·)
        (decodeMeasurements inverse hypocenter (number + 1) rest) := by
  rw [decodeMeasurements, h]

theorem decodeMeasurements_cons_error {measurement : Api.StationAmplitudeMeasurement F}
    {reason : Fault}
    (h : Observation.ofMeasurement inverse measurement hypocenter = .error reason)
    (number : Nat) (rest : List (Api.StationAmplitudeMeasurement F)) :
    decodeMeasurements inverse hypocenter number (measurement :: rest) =
      .error (.badMeasurement number) := by
  rw [decodeMeasurements, h]

/-- The measurements are decoded one by one. -/
theorem decodeMeasurements_eq_ok {number : Nat}
    {measurements : List (Api.StationAmplitudeMeasurement F)}
    {observations : List (Observation F)} :
    decodeMeasurements inverse hypocenter number measurements = .ok observations ↔
      Decodes inverse hypocenter measurements observations := by
  induction measurements generalizing number observations with
  | nil => simp [decodeMeasurements, Decodes, eq_comm]
  | cons measurement rest ih =>
      cases hdecoded : Observation.ofMeasurement inverse measurement hypocenter with
      | error reason =>
          rw [decodeMeasurements_cons_error hdecoded]
          constructor
          · intro h
            exact absurd h nofun
          · intro h
            cases h with
            | cons hhead _ =>
                rw [hdecoded] at hhead
                exact absurd hhead nofun
      | ok observation =>
          rw [decodeMeasurements_cons_ok hdecoded]
          constructor
          · intro h
            cases hrest : decodeMeasurements inverse hypocenter (number + 1) rest with
            | error refusal =>
                rw [hrest] at h
                exact absurd h nofun
            | ok tail =>
                rw [hrest] at h
                obtain rfl := Except.ok.inj h
                exact .cons hdecoded (ih.mp hrest)
          · intro h
            cases h with
            | cons hhead htail =>
                rw [hdecoded] at hhead
                obtain rfl := Except.ok.inj hhead
                rw [ih.mpr htail]
                rfl

/-- A request is decoded when its hypocenter and all of its measurements are. -/
theorem decode_eq_ok {message : Option (Api.Hypocenter F)}
    {measurements : List (Api.StationAmplitudeMeasurement F)}
    {observations : List (Observation F)} :
    decode inverse message measurements = .ok observations ↔
      ∃ given decoded, message = some given ∧ Hypocenter.ofMessage given = .ok decoded ∧
        Decodes inverse decoded measurements observations := by
  unfold decode
  cases message with
  | none => simp
  | some given =>
      dsimp only
      cases hdecoded : Hypocenter.ofMessage given with
      | error reason => simp [hdecoded]
      | ok decoded => simp [hdecoded, decodeMeasurements_eq_ok]

/-- The measurement at the place of an observation. -/
theorem Decodes.measurement_at {measurements : List (Api.StationAmplitudeMeasurement F)}
    {observations : List (Observation F)}
    (h : Decodes inverse hypocenter measurements observations) {k : Nat} {o : Observation F}
    (ho : observations[k]? = some o) :
    ∃ measurement, measurements[k]? = some measurement ∧
      Observation.ofMeasurement inverse measurement hypocenter = .ok o := by
  obtain ⟨hk, rfl⟩ := List.getElem?_eq_some_iff.mp ho
  have hlength := List.Forall₂.length_eq h
  have hk' : k < measurements.length := by omega
  exact ⟨_, List.getElem?_eq_getElem hk', List.Forall₂.get h hk' hk⟩

section Decoded

variable {message : Option (Api.Hypocenter F)}
  {measurements : List (Api.StationAmplitudeMeasurement F)}
  {observations : List (Observation F)}
  (h : decode inverse message measurements = .ok observations)

include h

/-- The observations of a request are those of its measurements. -/
theorem exists_ofMeasurement_of_decode {o : Observation F} (ho : o ∈ observations) :
    ∃ measurement decoded, Observation.ofMeasurement inverse measurement decoded = .ok o := by
  obtain ⟨given, decoded, -, -, hdecodes⟩ := decode_eq_ok.mp h
  obtain ⟨k, hk⟩ := List.mem_iff_getElem?.mp ho
  obtain ⟨measurement, -, hmeasurement⟩ := hdecodes.measurement_at hk
  exact ⟨measurement, decoded, hmeasurement⟩

theorem inv_of_decode : ∀ o ∈ observations, o.Inv := by
  intro o ho
  obtain ⟨measurement, decoded, hmeasurement⟩ := exists_ofMeasurement_of_decode h ho
  exact Observation.inv_of_ofMeasurement hmeasurement

theorem missing_of_decode (calculator : NetworkMagnitudeCalculator F) :
    ∀ o ∈ observations, calculator.missing o = none := by
  intro o ho
  obtain ⟨measurement, decoded, hmeasurement⟩ := exists_ofMeasurement_of_decode h ho
  exact NetworkMagnitudeCalculator.missing_of_ofMeasurement hmeasurement

end Decoded

/-- The observations of the measurements in front of the first one that is malformed. -/
def decodeUpTo (inverse : Distance.Inverse F) (hypocenter : Hypocenter F) :
    List (Api.StationAmplitudeMeasurement F) → List (Observation F)
  | [] => []
  | measurement :: rest =>
      match Observation.ofMeasurement inverse measurement hypocenter with
      | .ok observation => observation :: decodeUpTo inverse hypocenter rest
      | .error _ => []

/-- The observations that can be made of a request one after another. -/
def tried (inverse : Distance.Inverse F) (message : Option (Api.Hypocenter F))
    (measurements : List (Api.StationAmplitudeMeasurement F)) : List (Observation F) :=
  match message with
  | none => []
  | some given =>
      match Hypocenter.ofMessage given with
      | .ok decoded => decodeUpTo inverse decoded measurements
      | .error _ => []

theorem tried_some {given : Api.Hypocenter F}
    (h : Hypocenter.ofMessage given = .ok hypocenter)
    (measurements : List (Api.StationAmplitudeMeasurement F)) :
    tried inverse (some given) measurements = decodeUpTo inverse hypocenter measurements := by
  rw [tried, h]

theorem decodeUpTo_cons_ok {measurement : Api.StationAmplitudeMeasurement F}
    {observation : Observation F}
    (h : Observation.ofMeasurement inverse measurement hypocenter = .ok observation)
    (rest : List (Api.StationAmplitudeMeasurement F)) :
    decodeUpTo inverse hypocenter (measurement :: rest) =
      observation :: decodeUpTo inverse hypocenter rest := by
  rw [decodeUpTo, h]

theorem decodeUpTo_cons_error {measurement : Api.StationAmplitudeMeasurement F}
    {reason : Fault}
    (h : Observation.ofMeasurement inverse measurement hypocenter = .error reason)
    (rest : List (Api.StationAmplitudeMeasurement F)) :
    decodeUpTo inverse hypocenter (measurement :: rest) = [] := by
  rw [decodeUpTo, h]

theorem Decodes.decodeUpTo_append {before : List (Api.StationAmplitudeMeasurement F)}
    {observations : List (Observation F)} (h : Decodes inverse hypocenter before observations)
    (rest : List (Api.StationAmplitudeMeasurement F)) :
    decodeUpTo inverse hypocenter (before ++ rest) =
      observations ++ decodeUpTo inverse hypocenter rest := by
  induction h with
  | nil => rfl
  | cons hdecoded _ ih => rw [List.cons_append, decodeUpTo_cons_ok hdecoded, ih, List.cons_append]

/-- Every observation that is tried comes from a measurement. -/
theorem inv_of_tried {message : Option (Api.Hypocenter F)}
    {measurements : List (Api.StationAmplitudeMeasurement F)} :
    ∀ o ∈ tried inverse message measurements, o.Inv := by
  intro o ho
  cases message with
  | none => exact absurd ho List.not_mem_nil
  | some given =>
      cases hdecoded : Hypocenter.ofMessage given with
      | error reason =>
          rw [tried, hdecoded] at ho
          exact absurd ho List.not_mem_nil
      | ok decoded =>
          rw [tried_some hdecoded] at ho
          induction measurements with
          | nil => exact absurd ho List.not_mem_nil
          | cons measurement rest ih =>
              cases hmeasurement : Observation.ofMeasurement inverse measurement decoded with
              | error reason =>
                  rw [decodeUpTo_cons_error hmeasurement] at ho
                  exact absurd ho List.not_mem_nil
              | ok observation =>
                  rw [decodeUpTo_cons_ok hmeasurement] at ho
                  rcases List.mem_cons.mp ho with rfl | ho
                  · exact Observation.inv_of_ofMeasurement hmeasurement
                  · exact ih ho

end Decoding

/-! ## The network endpoint -/

/-- The message for a refused request. -/
def Refusal.networkMessage : Refusal → String
  | .noHypocenter => "Malformed request - hypocenter not set"
  | .badHypocenter => "Check hypocenter"
  | .badMeasurement number =>
      "Check hypocenter and " ++ Nat.repr (number - 1) ++ " measurement"

/-- The call counted as a client error. -/
def clientErrorAnswer (reactor : Reactor R) (message : String) : Reactor R :=
  reactor.refused .clientError { code := .invalidArgument, message }

/-- The call counted as a server error. -/
def serverErrorAnswer (reactor : Reactor R) (message : String) : Reactor R :=
  reactor.refused .serverError { code := .internal, message }

/-- The call answered with `OK`. -/
def okAnswer (reactor : Reactor R) : Reactor R :=
  ({ reactor with mSuccess := true }).finish { code := .ok }

/-- The reactor of a call once the client is validated and the identifier is copied. -/
def networkStarted (version : Version) (identifier : Option Bytes) :
    Reactor (Api.NetworkMagnitudeFromAmplitudesResponse F) where
  mRouteName := "ComputeNetworkMagnitudeFromAmplitudes"
  response := { identifier, version := some version.getVersionWithTag }

/-- The message of an accepted observation. -/
def residualMessage (value : F) (accepted : StationMagnitude F × Nat) :
    Api.StationMagnitudeAndResidual F :=
  { Residual.message (.finite (value - accepted.1.mValue.val)) accepted.1 with
    inputObservationNumber := some accepted.2 }

/-- The message of a rejected observation. -/
def rejectionMessage (rejected : StationCalculatorErrorCode × Nat) :
    Api.RejectedObservation where
  inputObservationNumber := some rejected.2
  reason := some (NetworkMagnitude.reasonOf rejected.1)

/-- What an average adds to the response. -/
def withAverage (average : Average StationCalculatorErrorCode (StationMagnitude F) F)
    (response : Api.NetworkMagnitudeFromAmplitudesResponse F) :
    Api.NetworkMagnitudeFromAmplitudesResponse F :=
  { response with
    value := some (.finite average.value)
    stationMagnitudesAndResiduals := response.stationMagnitudesAndResiduals ++
      average.accepted.map (residualMessage average.value)
    rejectedObservations := response.rejectedObservations ++
      average.rejected.map rejectionMessage }

/-- The answer for an average, or for the reason why there is none. -/
def networkAnswer (reactor : Reactor (Api.NetworkMagnitudeFromAmplitudesResponse F)) :
    Except (Failure NetworkMagnitudeCalculator.ErrorCode)
        (Average StationCalculatorErrorCode (StationMagnitude F) F) →
      Reactor (Api.NetworkMagnitudeFromAmplitudesResponse F)
  | .ok average =>
      okAnswer { reactor with response := withAverage average reactor.response }
  | .error .noItems => clientErrorAnswer reactor "No observations"
  | .error .duplicate => clientErrorAnswer reactor "Duplicate observations"
  | .error .tooFew => clientErrorAnswer reactor "Too few observations"
  | .error .outOfRange => serverErrorAnswer reactor "Algorithm error - contact maintainer"
  | .error (.incomplete _) => serverErrorAnswer reactor "Algorithm error - contact maintainer"

/-! ## Statuses -/

section Statuses

variable {reactor : Reactor R} (h : reactor.finished = [])

include h

theorem answers_clientErrorAnswer (message : String) :
    (clientErrorAnswer reactor message).Answers .invalidArgument := by
  refine ⟨message, ?_⟩
  show reactor.finished ++ _ = _
  rw [h]
  rfl

theorem answers_serverErrorAnswer (message : String) :
    (serverErrorAnswer reactor message).Answers .internal := by
  refine ⟨message, ?_⟩
  show reactor.finished ++ _ = _
  rw [h]
  rfl

theorem answers_okAnswer : (okAnswer reactor).Answers .ok := by
  refine ⟨"", ?_⟩
  show reactor.finished ++ _ = _
  rw [h]
  rfl

end Statuses

/-- The status code for an average, or for the reason why there is none. -/
def statusCodeOf : Except (Failure NetworkMagnitudeCalculator.ErrorCode)
    (Average StationCalculatorErrorCode (StationMagnitude F) F) → StatusCode
  | .ok _ => .ok
  | .error .noItems => .invalidArgument
  | .error .duplicate => .invalidArgument
  | .error .tooFew => .invalidArgument
  | .error .outOfRange => .internal
  | .error (.incomplete _) => .internal

theorem answers_networkAnswer
    {reactor : Reactor (Api.NetworkMagnitudeFromAmplitudesResponse F)}
    (h : reactor.finished = [])
    (outcome : Except (Failure NetworkMagnitudeCalculator.ErrorCode)
      (Average StationCalculatorErrorCode (StationMagnitude F) F)) :
    (networkAnswer reactor outcome).Answers (statusCodeOf outcome) := by
  cases outcome with
  | ok average => exact answers_okAnswer h
  | error failure =>
      cases failure with
      | noItems => exact answers_clientErrorAnswer h _
      | incomplete lacks => exact answers_serverErrorAnswer h _
      | duplicate => exact answers_clientErrorAnswer h _
      | tooFew => exact answers_clientErrorAnswer h _
      | outOfRange => exact answers_serverErrorAnswer h _

section Network

variable {inverse : Distance.Inverse F}

variable (inverse) in
/-- The loop over the measurements decodes them, or refuses the request at the first one
that is malformed. -/
theorem packObservations_eq {hypocenter : Hypocenter F}
    (hlatitude : hypocenter.mHasLatitude = true)
    (hlongitude : hypocenter.mHasLongitude = true) (hdepth : hypocenter.mHasDepth = true)
    (measurements : List (Api.StationAmplitudeMeasurement F))
    (observations : List (Observation F)) (reactor : Reactor R) :
    packObservations inverse hypocenter measurements observations reactor =
      match decodeMeasurements inverse hypocenter (observations.length + 1) measurements with
      | .ok decoded => .ok (observations ++ decoded) reactor
      | .error refusal => .error .returned
          (clientErrorAnswer reactor (Refusal.networkMessage refusal)) := by
  induction measurements generalizing observations with
  | nil =>
      rw [decodeMeasurements]
      simp only [List.append_nil]
      rfl
  | cons measurement rest ih =>
      unfold packObservations
      cases hdecoded : Observation.ofMeasurement inverse measurement hypocenter with
      | ok observation =>
          have hlength : (observations ++ [observation]).length + 1 =
              observations.length + 1 + 1 := by
            simp
          rw [Handler.bind_of_ok (Handler.tryCatch_of_ok (Handler.lift_ok _ reactor)), ih,
            hlength, decodeMeasurements_cons_ok hdecoded]
          cases decodeMeasurements inverse hypocenter (observations.length + 1 + 1) rest with
          | error refusal => rfl
          | ok decoded => simp [Except.map]
      | error reason =>
          have hreason := Observation.raises_ofMeasurement inverse measurement hlatitude
            hlongitude hdepth reason hdecoded
          obtain ⟨what, -, hcaught⟩ := Handler.tryCatch_of_invalidArgument
            (fun _ => Handler.clientError
              ("Check hypocenter and " ++ Nat.repr observations.length ++ " measurement"))
            (fun _ => Handler.serverError "Server error - contact maintainer")
            (Handler.lift_error (R := R) reason reactor) hreason
          rw [Handler.bind_of_error hcaught, decodeMeasurements_cons_error hdecoded]
          rfl

variable (inverse) in
/-- Step 1 gives the decoded observations, or refuses the request. -/
theorem packRequest_eq (request : Api.NetworkMagnitudeFromAmplitudesRequest F)
    (reactor : Reactor R) :
    packRequest inverse request reactor =
      match decode inverse request.hypocenter request.stationAmplitudeMeasurements with
      | .ok observations => .ok observations reactor
      | .error refusal => .error .returned
          (clientErrorAnswer reactor (Refusal.networkMessage refusal)) := by
  unfold packRequest decode
  cases request.hypocenter with
  | none => rfl
  | some message =>
      dsimp only
      cases hhypocenter : Hypocenter.ofMessage message with
      | error reason =>
          have hreason := Hypocenter.raises_ofMessage message reason hhypocenter
          obtain ⟨what, -, hcaught⟩ := Handler.tryCatch_of_invalidArgument
            (fun _ => Handler.clientError "Check hypocenter")
            (fun _ => Handler.serverError "Server error - try using a different endpoint")
            (Handler.bind_of_error (f := fun hypocenter => packObservations inverse hypocenter
              request.stationAmplitudeMeasurements [])
              (Handler.lift_error (R := R) reason reactor)) hreason
          rw [hcaught]
          rfl
      | ok hypocenter =>
          obtain ⟨hlatitude, hlongitude, hdepth⟩ :=
            Hypocenter.complete_of_ofMessage hhypocenter
          have hpacked := packObservations_eq inverse hlatitude hlongitude hdepth
            request.stationAmplitudeMeasurements [] reactor
          have hbody := (Handler.lift_bind_ok (rfl : (.ok hypocenter : Throws _) = _)
            (fun hypocenter => packObservations inverse hypocenter
              request.stationAmplitudeMeasurements []) reactor).trans hpacked
          rw [List.length_nil, Nat.zero_add] at hbody
          dsimp only
          cases hdecoded : decodeMeasurements inverse hypocenter 1
              request.stationAmplitudeMeasurements with
          | ok decoded =>
              rw [hdecoded] at hbody
              exact Handler.tryCatch_of_ok hbody
          | error refusal =>
              rw [hdecoded] at hbody
              exact Handler.tryCatch_of_returned hbody

/-- The message of a complete residual under its number. -/
def elementMessage (element : Residual F × Int) : Api.StationMagnitudeAndResidual F :=
  { Residual.message element.1.mValue element.1.mStationMagnitude with
    inputObservationNumber := some (NetworkMagnitude.toUInt32 element.2) }

/-- The loop over the residuals adds the messages of those that are complete. -/
theorem addResiduals_of_complete {residuals : List (Residual F × Int)}
    (hcomplete : ∀ element ∈ residuals, element.1.Complete)
    (reactor : Reactor (Api.NetworkMagnitudeFromAmplitudesResponse F)) :
    addResiduals residuals reactor =
      .ok () { reactor with
        response := { reactor.response with
          stationMagnitudesAndResiduals := reactor.response.stationMagnitudesAndResiduals ++
            residuals.map elementMessage } } := by
  induction residuals generalizing reactor with
  | nil =>
      rw [List.map_nil, List.append_nil]
      rfl
  | cons first rest ih =>
      have hfirst := hcomplete first (List.mem_cons_self ..)
      have hrest := fun element h => hcomplete element (List.mem_cons_of_mem first h)
      unfold addResiduals
      rw [Handler.lift_bind_ok hfirst.toMessage]
      dsimp only
      rw [Handler.respond_bind, ih hrest, List.map_cons]
      simp only [List.append_assoc, List.singleton_append]
      rfl

/-- The message of a rejection under its number. -/
def rejectedMessage (element : StationCalculatorErrorCode × Int) : Api.RejectedObservation where
  inputObservationNumber := some (NetworkMagnitude.toUInt32 element.2)
  reason := some (NetworkMagnitude.reasonOf element.1)

/-- What a network magnitude adds to the response. -/
def withMagnitude (magnitude : NetworkMagnitude F)
    (response : Api.NetworkMagnitudeFromAmplitudesResponse F) :
    Api.NetworkMagnitudeFromAmplitudesResponse F :=
  { response with
    value := some magnitude.mValue
    stationMagnitudesAndResiduals := response.stationMagnitudesAndResiduals ++
      magnitude.mResiduals.map elementMessage
    rejectedObservations := response.rejectedObservations ++
      magnitude.mRejectedObservations.map rejectedMessage }

/-- The answer with a network magnitude. -/
def magnitudeAnswer (reactor : Reactor (Api.NetworkMagnitudeFromAmplitudesResponse F))
    (magnitude : NetworkMagnitude F) : Reactor (Api.NetworkMagnitudeFromAmplitudesResponse F) :=
  okAnswer { reactor with response := withMagnitude magnitude reactor.response }

/-- A magnitude on which everything is set is written. -/
theorem writeMagnitude_of_complete {magnitude : NetworkMagnitude F}
    (hcomplete : ∀ element ∈ magnitude.mResiduals, element.1.Complete)
    (hvalue : magnitude.hasValue = true) (hresiduals : magnitude.hasResiduals = true)
    (hrejected : magnitude.hasRejectedObservations = true)
    (reactor : Reactor (Api.NetworkMagnitudeFromAmplitudesResponse F)) :
    writeMagnitude magnitude reactor =
      .ok () { reactor with response := withMagnitude magnitude reactor.response } := by
  have hgetValue : magnitude.getValue = .ok magnitude.mValue := by
    rw [NetworkMagnitude.getValue, hvalue]
    rfl
  have hgetResiduals : magnitude.getResiduals = .ok magnitude.mResiduals := by
    rw [NetworkMagnitude.getResiduals, hresiduals]
    rfl
  have hgetRejected : magnitude.toRejectedObservationsMessage =
      .ok (magnitude.mRejectedObservations.map rejectedMessage) := by
    rw [NetworkMagnitude.toRejectedObservationsMessage, hrejected]
    rfl
  unfold writeMagnitude
  rw [Handler.lift_bind_ok hgetValue, Handler.lift_bind_ok hgetValue, Handler.respond_bind,
    Handler.lift_bind_ok hgetResiduals, Handler.bind_of_ok (addResiduals_of_complete hcomplete _),
    Handler.lift_bind_ok hgetRejected]
  rfl

theorem not_returns_of_error {R : Type} (exit : Exit) (reactor : Reactor R) :
    ¬ ∃ after, (.error exit reactor : EStateM.Result Exit (Reactor R) Unit) = .ok () after := by
  rintro ⟨after, h⟩
  cases h

/-- Of a magnitude in use the response is written unless something was never set; no stored
residual stops it. -/
theorem exists_writeMagnitude_iff {magnitude : NetworkMagnitude F} (hinv : magnitude.Inv)
    (reactor : Reactor (Api.NetworkMagnitudeFromAmplitudesResponse F)) :
    (∃ after, writeMagnitude magnitude reactor = .ok () after) ↔
      magnitude.hasValue = true ∧ magnitude.hasResiduals = true ∧
        magnitude.hasRejectedObservations = true := by
  have hcomplete := fun element h => (hinv.residuals element h).1
  cases hvalue : magnitude.hasValue with
  | false =>
      have hget : magnitude.getValue = .error (.runtimeError "Value not set") := by
        rw [NetworkMagnitude.getValue, hvalue]
        rfl
      unfold writeMagnitude
      rw [hget, Handler.bind_of_error (Handler.lift_error _ _)]
      exact iff_of_false (not_returns_of_error _ _) fun h => Bool.false_ne_true h.1
  | true =>
      have hgetValue : magnitude.getValue = .ok magnitude.mValue := by
        rw [NetworkMagnitude.getValue, hvalue]
        rfl
      cases hresiduals : magnitude.hasResiduals with
      | false =>
          have hget : magnitude.getResiduals = .error (.runtimeError "Residuals not set") := by
            rw [NetworkMagnitude.getResiduals, hresiduals]
            rfl
          unfold writeMagnitude
          rw [Handler.lift_bind_ok hgetValue, Handler.lift_bind_ok hgetValue,
            Handler.respond_bind, hget, Handler.bind_of_error (Handler.lift_error _ _)]
          exact iff_of_false (not_returns_of_error _ _) fun h => Bool.false_ne_true h.2.1
      | true =>
          cases hrejected : magnitude.hasRejectedObservations with
          | false =>
              have hget : magnitude.getResiduals = .ok magnitude.mResiduals := by
                rw [NetworkMagnitude.getResiduals, hresiduals]
                rfl
              unfold writeMagnitude NetworkMagnitude.toRejectedObservationsMessage
              rw [Handler.lift_bind_ok hgetValue, Handler.lift_bind_ok hgetValue,
                Handler.respond_bind, Handler.lift_bind_ok hget,
                Handler.bind_of_ok (addResiduals_of_complete hcomplete _), hrejected]
              exact iff_of_false (not_returns_of_error _ _) fun h => Bool.false_ne_true h.2.2
          | true =>
              exact iff_of_true
                ⟨_, writeMagnitude_of_complete hcomplete hvalue hresiduals hrejected reactor⟩
                ⟨rfl, rfl, rfl⟩

theorem writeMagnitude_of_isWritable {magnitude : NetworkMagnitude F}
    (h : IsWritable magnitude)
    (reactor : Reactor (Api.NetworkMagnitudeFromAmplitudesResponse F)) :
    writeMagnitude magnitude reactor =
      .ok () { reactor with response := withMagnitude magnitude reactor.response } :=
  writeMagnitude_of_complete (fun element helement => (h.inv.residuals element helement).1)
    h.value h.residuals h.rejectedObservations reactor

/-- An average adds to the response what its network magnitude does. -/
theorem withMagnitude_networkMagnitudeOf
    (average : Average StationCalculatorErrorCode (StationMagnitude F) F)
    (response : Api.NetworkMagnitudeFromAmplitudesResponse F) :
    withMagnitude (networkMagnitudeOf average) response = withAverage average response := by
  unfold withMagnitude withAverage networkMagnitudeOf
  dsimp only
  rw [List.map_map, List.map_map]
  rfl

variable {service : MagnitudeService F} {clientMetadata : ClientMetadata}

/-- For an authorized client the handler gets to step 1. -/
theorem computeNetworkMagnitudeFromAmplitudes_eq
    (hauthorized : service.Authorizes clientMetadata) (version : Version)
    (request : Api.NetworkMagnitudeFromAmplitudesRequest F) :
    computeNetworkMagnitudeFromAmplitudes inverse version service clientMetadata request
        { mRouteName := "ComputeNetworkMagnitudeFromAmplitudes", response := {} } =
      (packRequest inverse request >>= service.computeMagnitude)
        (networkStarted version request.identifier) := by
  unfold computeNetworkMagnitudeFromAmplitudes networkStarted
  rw [Handler.bind_of_ok (hauthorized.checkClient _), Handler.respond_bind]
  cases request.identifier with
  | none => rfl
  | some identifier => rfl

/-- Step 2 writes the magnitude that the calculator returns. -/
theorem run_computeMagnitude_of_magnitude {observations : List (Observation F)}
    {magnitude : NetworkMagnitude F}
    (happly : service.mCalculator.apply observations = .ok (.ok magnitude))
    (reactor : Reactor (Api.NetworkMagnitudeFromAmplitudesResponse F)) :
    Handler.run (service.computeMagnitude observations) reactor =
      .ok (magnitudeAnswer reactor magnitude) := by
  obtain ⟨haverages, -⟩ := NetworkMagnitudeCalculator.averages_of_apply happly
  have hwritten : writeResult (.ok magnitude) reactor =
      .ok () { reactor with response := withMagnitude magnitude reactor.response } :=
    writeMagnitude_of_isWritable (NetworkMagnitudeCalculator.isWritable_of_apply happly) reactor
  unfold computeMagnitude
  rw [if_neg (by simpa using haverages.admitted.nonempty), happly]
  exact Handler.run_of_ok ((Handler.lift_bind_ok rfl _ _).trans (Handler.bind_of_ok hwritten))

omit [Arithmetic F] in
/-- An error code refuses the call, and never with `OK`. -/
theorem exists_refuseMagnitude (errorCode : NetworkMagnitudeCalculator.ErrorCode)
    (reactor : Reactor (Api.NetworkMagnitudeFromAmplitudesResponse F)) :
    ∃ after, refuseMagnitude errorCode reactor = .error .returned after ∧
      (reactor.finished = [] → ¬ after.Answers .ok) := by
  have hclient (message : String) (hstarted : reactor.finished = []) :
      ¬ (clientErrorAnswer reactor message).Answers .ok :=
    fun hok => absurd (hok.unique (answers_clientErrorAnswer hstarted message)) nofun
  have hserver (message : String) (hstarted : reactor.finished = []) :
      ¬ (serverErrorAnswer reactor message).Answers .ok :=
    fun hok => absurd (hok.unique (answers_serverErrorAnswer hstarted message)) nofun
  cases errorCode with
  | tooFewObservations => exact ⟨_, rfl, hclient _⟩
  | noObservations => exact ⟨_, rfl, hclient _⟩
  | duplicateObservations => exact ⟨_, rfl, hclient _⟩
  | _ => exact ⟨_, rfl, hserver _⟩

/-- Step 2 refuses the call for an error code of the calculator. -/
theorem run_computeMagnitude_of_errorCode {observations : List (Observation F)}
    {errorCode : NetworkMagnitudeCalculator.ErrorCode}
    (happly : service.mCalculator.apply observations = .ok (.error errorCode))
    (reactor : Reactor (Api.NetworkMagnitudeFromAmplitudesResponse F)) :
    ∃ after, Handler.run (service.computeMagnitude observations) reactor = .ok after ∧
      (reactor.finished = [] → ¬ after.Answers .ok) := by
  unfold computeMagnitude
  split
  · exact ⟨_, rfl, fun hstarted hok =>
      absurd (hok.unique (answers_clientErrorAnswer hstarted "No observations")) nofun⟩
  obtain ⟨after, hrefused, hanswers⟩ := exists_refuseMagnitude errorCode reactor
  have hwritten : writeResult (.error errorCode) reactor = .error .returned after := hrefused
  rw [happly]
  exact ⟨after, Handler.run_of_returned
    ((Handler.lift_bind_ok rfl _ _).trans (Handler.bind_of_error hwritten)), hanswers⟩

/-- Step 2 comes to an answer when the calculator returns. -/
theorem exists_run_computeMagnitude (observations : List (Observation F))
    (reactor : Reactor (Api.NetworkMagnitudeFromAmplitudesResponse F))
    (hreturns : ∃ outcome, service.mCalculator.apply observations = .ok outcome) :
    ∃ after, Handler.run (service.computeMagnitude observations) reactor = .ok after := by
  obtain ⟨outcome, happly⟩ := hreturns
  cases outcome with
  | ok magnitude => exact ⟨_, run_computeMagnitude_of_magnitude happly reactor⟩
  | error errorCode =>
      obtain ⟨after, hafter, -⟩ := run_computeMagnitude_of_errorCode happly reactor
      exact ⟨after, hafter⟩

/-- Step 2 is left with what leaves the calculator. -/
theorem run_computeMagnitude_of_error {observations : List (Observation F)} {reason : Fault}
    (happly : service.mCalculator.apply observations = .error reason)
    (reactor : Reactor (Api.NetworkMagnitudeFromAmplitudesResponse F)) :
    Handler.run (service.computeMagnitude observations) reactor = .error reason := by
  have hnonempty : observations ≠ [] := by
    rintro rfl
    unfold NetworkMagnitudeCalculator.apply at happly
    split at happly
    · cases happly
    · cases happly
  unfold computeMagnitude
  rw [if_neg (by simpa using hnonempty), happly]
  rfl

/-- The constructor of the reactor on a decoded request. -/
theorem networkReactor_of_decode (hauthorized : service.Authorizes clientMetadata)
    {version : Version} {request : Api.NetworkMagnitudeFromAmplitudesRequest F}
    {observations : List (Observation F)}
    (hdecoded : decode inverse request.hypocenter request.stationAmplitudeMeasurements =
      .ok observations) :
    networkReactor inverse version service clientMetadata request =
      Handler.run (service.computeMagnitude observations)
        (networkStarted version request.identifier) := by
  have hpacked := packRequest_eq inverse request
    (networkStarted (F := F) version request.identifier)
  rw [hdecoded] at hpacked
  unfold networkReactor Handler.run
  rw [computeNetworkMagnitudeFromAmplitudes_eq hauthorized, Handler.bind_of_ok hpacked]

/-- The constructor of the reactor on a request that cannot be decoded. -/
theorem networkReactor_of_refusal (hauthorized : service.Authorizes clientMetadata)
    {version : Version} {request : Api.NetworkMagnitudeFromAmplitudesRequest F}
    {refusal : Refusal}
    (hdecoded : decode inverse request.hypocenter request.stationAmplitudeMeasurements =
      .error refusal) :
    networkReactor inverse version service clientMetadata request =
      .ok (clientErrorAnswer (networkStarted version request.identifier)
        (Refusal.networkMessage refusal)) := by
  have hpacked := packRequest_eq inverse request
    (networkStarted (F := F) version request.identifier)
  rw [hdecoded] at hpacked
  refine Handler.run_of_returned ?_
  rw [computeNetworkMagnitudeFromAmplitudes_eq hauthorized]
  exact Handler.bind_of_error hpacked

/-- The constructor of the reactor returns exactly when the request cannot be decoded or the
calculator returns. -/
theorem exists_networkReactor_iff_apply (hauthorized : service.Authorizes clientMetadata)
    (version : Version) (request : Api.NetworkMagnitudeFromAmplitudesRequest F) :
    (∃ reactor, networkReactor inverse version service clientMetadata request = .ok reactor) ↔
      ∀ observations,
        decode inverse request.hypocenter request.stationAmplitudeMeasurements =
            .ok observations →
          ∃ outcome, service.mCalculator.apply observations = .ok outcome := by
  cases hdecoded : decode inverse request.hypocenter request.stationAmplitudeMeasurements with
  | error refusal =>
      exact iff_of_true ⟨_, networkReactor_of_refusal hauthorized hdecoded⟩ nofun
  | ok observations =>
      rw [networkReactor_of_decode hauthorized hdecoded]
      constructor
      · rintro ⟨reactor, hreactor⟩ others hothers
        obtain rfl := Except.ok.inj hothers
        cases happly : service.mCalculator.apply observations with
        | ok outcome => exact ⟨outcome, rfl⟩
        | error reason =>
            rw [run_computeMagnitude_of_error happly] at hreactor
            cases hreactor
      · intro hreturns
        exact exists_run_computeMagnitude _ _ (hreturns observations rfl)

/-- What leaves the constructor of the reactor has left the calculator. -/
theorem exists_apply_of_networkReactor (hauthorized : service.Authorizes clientMetadata)
    {version : Version} {request : Api.NetworkMagnitudeFromAmplitudesRequest F} {reason : Fault}
    (h : networkReactor inverse version service clientMetadata request = .error reason) :
    ∃ observations, service.mCalculator.apply observations = .error reason := by
  cases hdecoded : decode inverse request.hypocenter request.stationAmplitudeMeasurements with
  | error refusal =>
      rw [networkReactor_of_refusal hauthorized hdecoded] at h
      cases h
  | ok observations =>
      rw [networkReactor_of_decode hauthorized hdecoded] at h
      cases happly : service.mCalculator.apply observations with
      | error fault =>
          rw [run_computeMagnitude_of_error happly] at h
          obtain rfl := Except.error.inj h
          exact ⟨observations, happly⟩
      | ok outcome =>
          obtain ⟨after, hafter⟩ := exists_run_computeMagnitude observations
            (networkStarted version request.identifier) ⟨outcome, happly⟩
          rw [hafter] at h
          cases h

variable (inverse) in
/-- A client that is not authorized is answered with `UNAUTHENTICATED`. -/
theorem networkReactor_of_not_authorized (h : ¬ service.Authorizes clientMetadata)
    (version : Version) (request : Api.NetworkMagnitudeFromAmplitudesRequest F) :
    ∃ reactor, networkReactor inverse version service clientMetadata request = .ok reactor ∧
      reactor.Answers .unauthenticated := by
  exact ⟨_, run_checkClient_of_not_authorized h _ _, "Invalid access token", rfl⟩

/-- A call that is answered with `OK` has the magnitude of its observations in the
response. -/
theorem exists_magnitude_of_answers_ok
    {version : Version} {request : Api.NetworkMagnitudeFromAmplitudesRequest F}
    {reactor : Reactor (Api.NetworkMagnitudeFromAmplitudesResponse F)}
    (h : networkReactor inverse version service clientMetadata request = .ok reactor)
    (hok : reactor.Answers .ok) :
    ∃ observations magnitude,
      decode inverse request.hypocenter request.stationAmplitudeMeasurements =
        .ok observations ∧
      service.mCalculator.apply observations = .ok (.ok magnitude) ∧
      reactor = magnitudeAnswer (networkStarted version request.identifier) magnitude := by
  by_cases hauthorized : service.Authorizes clientMetadata
  · cases hdecoded : decode inverse request.hypocenter
        request.stationAmplitudeMeasurements with
    | error refusal =>
        rw [networkReactor_of_refusal hauthorized hdecoded] at h
        obtain rfl := Except.ok.inj h
        exact absurd (hok.unique (answers_clientErrorAnswer rfl _)) nofun
    | ok observations =>
        rw [networkReactor_of_decode hauthorized hdecoded] at h
        cases happly : service.mCalculator.apply observations with
        | error reason =>
            rw [run_computeMagnitude_of_error happly] at h
            cases h
        | ok outcome =>
            cases outcome with
            | error errorCode =>
                obtain ⟨after, hafter, hanswers⟩ := run_computeMagnitude_of_errorCode happly
                  (networkStarted version request.identifier)
                rw [hafter] at h
                obtain rfl := Except.ok.inj h
                exact absurd hok (hanswers rfl)
            | ok magnitude =>
                rw [run_computeMagnitude_of_magnitude happly] at h
                exact ⟨observations, magnitude, rfl, happly, (Except.ok.inj h).symm⟩
  · obtain ⟨refused, hrefused, hanswers⟩ := networkReactor_of_not_authorized inverse
      hauthorized version request
    rw [h] at hrefused
    obtain rfl := Except.ok.inj hrefused
    exact absurd (hok.unique hanswers) nofun

/-- An error of the calculator refuses the call. -/
theorem refuseMagnitude_errorCodeOf
    {failure : Failure NetworkMagnitudeCalculator.ErrorCode}
    (hfailure : ∀ lacks, failure ≠ .incomplete lacks)
    (reactor : Reactor (Api.NetworkMagnitudeFromAmplitudesResponse F)) :
    refuseMagnitude (NetworkMagnitudeCalculator.errorCodeOf failure) reactor =
      .error .returned (networkAnswer reactor (.error failure)) := by
  cases failure with
  | noItems => rfl
  | incomplete lacks => exact absurd rfl (hfailure lacks)
  | duplicate => rfl
  | tooFew => rfl
  | outOfRange => rfl

/-! In exact arithmetic the answer is that for the average. -/

section Exact

variable [IsExact F]

/-- Step 2 answers with the average when the calculator returns. -/
theorem run_computeMagnitude (hinitialized : service.mCalculator.mInitialized = true)
    {observations : List (Observation F)}
    (hcomplete : ∀ o ∈ observations, service.mCalculator.missing o = none)
    (reactor : Reactor (Api.NetworkMagnitudeFromAmplitudesResponse F)) :
    Handler.run (service.computeMagnitude observations) reactor =
      match service.mCalculator.apply observations with
      | .error reason => .error reason
      | .ok _ => .ok (networkAnswer reactor
          (service.mCalculator.assessment.average observations)) := by
  unfold computeMagnitude
  by_cases hempty : observations = []
  · subst hempty
    have happly : service.mCalculator.apply [] = .ok (.error .noObservations) :=
      (NetworkMagnitudeCalculator.apply_eq_ok_iff hinitialized).mpr
        ⟨fun hadmitted => absurd rfl hadmitted.nonempty, rfl⟩
    rw [happly]
    rfl
  rw [if_neg (by simpa using hempty)]
  cases happly : service.mCalculator.apply observations with
  | error reason => rfl
  | ok returned =>
      obtain ⟨-, rfl⟩ := (NetworkMagnitudeCalculator.apply_eq_ok_iff hinitialized).mp happly
      cases haverage : service.mCalculator.assessment.average observations with
      | error failure =>
          have hfailure : ∀ lacks, failure ≠ .incomplete lacks := by
            rintro lacks rfl
            exact Batch.Assessment.not_fails_incomplete hcomplete lacks
              (Batch.Assessment.average_eq_error_iff.mp haverage)
          have hrefused : writeResult
              (resultOf (.error failure) : Except _ (NetworkMagnitude F)) reactor =
                .error .returned (networkAnswer reactor (.error failure)) :=
            refuseMagnitude_errorCodeOf hfailure reactor
          exact Handler.run_of_returned
            ((Handler.lift_bind_ok rfl _ _).trans (Handler.bind_of_error hrefused))
      | ok average =>
          rw [haverage] at happly
          have hwritten : writeResult (resultOf (.ok average)) reactor = .ok ()
              { reactor with response := withAverage average reactor.response } := by
            rw [← withMagnitude_networkMagnitudeOf]
            exact writeMagnitude_of_isWritable
              (NetworkMagnitudeCalculator.isWritable_of_apply happly) reactor
          exact Handler.run_of_ok
            ((Handler.lift_bind_ok rfl _ _).trans (Handler.bind_of_ok hwritten))

/-- What the network endpoint answers an authorized client: a refusal when the request
cannot be decoded, and the answer for the average otherwise. -/
theorem networkReactor_eq (hauthorized : service.Authorizes clientMetadata)
    (hinitialized : service.mCalculator.mInitialized = true) (version : Version)
    (request : Api.NetworkMagnitudeFromAmplitudesRequest F) :
    networkReactor inverse version service clientMetadata request =
      match decode inverse request.hypocenter request.stationAmplitudeMeasurements with
      | .error refusal => .ok (clientErrorAnswer (networkStarted version request.identifier)
          (Refusal.networkMessage refusal))
      | .ok observations =>
          match service.mCalculator.apply observations with
          | .error reason => .error reason
          | .ok _ => .ok (networkAnswer (networkStarted version request.identifier)
              (service.mCalculator.assessment.average observations)) := by
  cases hdecoded : decode inverse request.hypocenter request.stationAmplitudeMeasurements with
  | error refusal => exact networkReactor_of_refusal hauthorized hdecoded
  | ok observations =>
      rw [networkReactor_of_decode hauthorized hdecoded]
      exact run_computeMagnitude hinitialized (missing_of_decode hdecoded _) _

/-- A call that is answered with `OK` has the average of its observations in the
response. -/
theorem exists_average_of_answers_ok
    {version : Version} {request : Api.NetworkMagnitudeFromAmplitudesRequest F}
    {reactor : Reactor (Api.NetworkMagnitudeFromAmplitudesResponse F)}
    (h : networkReactor inverse version service clientMetadata request = .ok reactor)
    (hok : reactor.Answers .ok) :
    ∃ observations,
      decode inverse request.hypocenter request.stationAmplitudeMeasurements =
        .ok observations ∧
      service.mCalculator.assessment.Passes observations ∧
      (∀ o ∈ observations, service.mCalculator.Computes o) ∧
      reactor = networkAnswer (networkStarted version request.identifier)
        (.ok (service.mCalculator.assessment.result observations)) := by
  obtain ⟨observations, magnitude, hdecoded, happly, rfl⟩ := exists_magnitude_of_answers_ok h hok
  obtain ⟨hpasses, hcomputes, rfl⟩ := NetworkMagnitudeCalculator.exists_result_of_apply happly
  refine ⟨observations, hdecoded, hpasses, hcomputes, ?_⟩
  unfold magnitudeAnswer
  rw [withMagnitude_networkMagnitudeOf]
  rfl

end Exact

end Network

/-! ## The station endpoint -/

/-- The reactor of a call once the client is validated and the identifier is copied. -/
def stationStarted (version : Version) (identifier : Option Bytes) :
    Reactor (Api.StationMagnitudesFromAmplitudesResponse F) where
  mRouteName := "ComputeStationMagnitudesFromAmplitudes"
  response := { identifier, version := some version.getVersionWithTag }

/-- What the observations of measurements add to the response. -/
def withObservations (service : MagnitudeService F) (observations : List (Observation F))
    (reactor : Reactor (Api.StationMagnitudesFromAmplitudesResponse F)) :
    Reactor (Api.StationMagnitudesFromAmplitudesResponse F) :=
  { reactor with
    response := { reactor.response with
      stationMagnitudes := reactor.response.stationMagnitudes ++
        (observations.filterMap service.mCalculator.assessment.accepted).map
          StationMagnitude.message } }

/-- The message for a malformed measurement; it counts the magnitudes in the response. -/
def malformedMessage (response : Api.StationMagnitudesFromAmplitudesResponse F) : String :=
  "Measurement " ++ Nat.repr (response.stationMagnitudes.length + 1) ++ " is malformed"

/-- The call refused because of a malformed measurement. -/
def malformedAnswer (reactor : Reactor (Api.StationMagnitudesFromAmplitudesResponse F)) :
    Reactor (Api.StationMagnitudesFromAmplitudesResponse F) :=
  clientErrorAnswer reactor (malformedMessage reactor.response)

section Station

variable {inverse : Distance.Inverse F} {service : MagnitudeService F}
  {hypocenter : Hypocenter F}

theorem withObservations_nil
    (reactor : Reactor (Api.StationMagnitudesFromAmplitudesResponse F)) :
    service.withObservations [] reactor = reactor := by
  unfold withObservations
  rw [List.filterMap_nil, List.map_nil, List.append_nil]

theorem withObservations_append (first second : List (Observation F))
    (reactor : Reactor (Api.StationMagnitudesFromAmplitudesResponse F)) :
    service.withObservations second (service.withObservations first reactor) =
      service.withObservations (first ++ second) reactor := by
  unfold withObservations
  rw [List.filterMap_append, List.map_append, ← List.append_assoc]

/-- A decoded measurement adds its magnitude, if there is one. -/
theorem addStationMagnitude_of_computes {measurement : Api.StationAmplitudeMeasurement F}
    {observation : Observation F}
    (hdecoded : Observation.ofMeasurement inverse measurement hypocenter = .ok observation)
    (hcomputes : service.mCalculator.Computes observation)
    (reactor : Reactor (Api.StationMagnitudesFromAmplitudesResponse F)) :
    service.addStationMagnitude inverse hypocenter measurement reactor =
      .ok () (service.withObservations [observation] reactor) := by
  have hcompute := hcomputes.computeStationMagnitude_eq
  unfold addStationMagnitude withObservations
  rw [Handler.lift_bind_ok hdecoded, Handler.lift_bind_ok hcompute]
  cases houtcome : service.mCalculator.outcome observation with
  | ok magnitude =>
      have hcomplete := (NetworkMagnitudeCalculator.complete_of_outcome houtcome).1
      rw [List.filterMap_cons_some (Batch.Assessment.accepted_of_ok houtcome)]
      exact Handler.lift_bind_ok hcomplete.toMessage _ _
  | error code =>
      rw [List.filterMap_cons_none (Batch.Assessment.accepted_of_error houtcome),
        List.filterMap_nil, List.map_nil, List.append_nil]
      rfl

variable (inverse service) in
/-- One iteration goes on exactly for a decoded measurement for whose observation the
calculator returns; otherwise it leaves with a fault or refuses the call. -/
theorem step_cases (hlatitude : hypocenter.mHasLatitude = true)
    (hlongitude : hypocenter.mHasLongitude = true) (hdepth : hypocenter.mHasDepth = true)
    (measurement : Api.StationAmplitudeMeasurement F)
    (reactor : Reactor (Api.StationMagnitudesFromAmplitudesResponse F)) :
    let step := Handler.tryCatch (service.addStationMagnitude inverse hypocenter measurement)
      (fun _ => refuseMeasurement)
      (fun _ => Handler.serverError "Server error - contact developer")
    (∃ observation,
        Observation.ofMeasurement inverse measurement hypocenter = .ok observation ∧
        service.mCalculator.Computes observation ∧
        step reactor = .ok () (service.withObservations [observation] reactor)) ∨
      (∃ observation,
        Observation.ofMeasurement inverse measurement hypocenter = .ok observation ∧
        ¬ service.mCalculator.Computes observation ∧
        ∃ reason, ¬ reason.IsException ∧ step reactor = .error (.fault reason) reactor) ∨
      (∃ reason, Observation.ofMeasurement inverse measurement hypocenter = .error reason ∧
        step reactor = .error .returned (malformedAnswer reactor)) := by
  intro step
  cases hdecoded : Observation.ofMeasurement inverse measurement hypocenter with
  | error reason =>
      have hreason := Observation.raises_ofMeasurement inverse measurement hlatitude
        hlongitude hdepth reason hdecoded
      have hbody : service.addStationMagnitude inverse hypocenter measurement reactor =
          .error (.fault reason) reactor := by
        unfold addStationMagnitude
        rw [hdecoded]
        rfl
      obtain ⟨what, -, hcaught⟩ := Handler.tryCatch_of_invalidArgument
        (fun _ => refuseMeasurement)
        (fun _ => Handler.serverError "Server error - contact developer") hbody hreason
      exact Or.inr (Or.inr ⟨reason, rfl, hcaught⟩)
  | ok observation =>
      by_cases hcomputes : service.mCalculator.Computes observation
      · exact Or.inl ⟨observation, rfl, hcomputes, Handler.tryCatch_of_ok
          (addStationMagnitude_of_computes hdecoded hcomputes reactor)⟩
      · refine Or.inr (Or.inl ⟨observation, rfl, hcomputes, ?_⟩)
        cases hcompute : service.mCalculator.computeStationMagnitude observation with
        | ok outcome => exact absurd ⟨outcome, hcompute⟩ hcomputes
        | error reason =>
            have hfatal : ¬ reason.IsException := noexcept_error_not_isException hcompute
            have hbody : service.addStationMagnitude inverse hypocenter measurement reactor =
                .error (.fault reason) reactor := by
              unfold addStationMagnitude
              rw [Handler.lift_bind_ok hdecoded, hcompute]
              rfl
            exact ⟨reason, hfatal, Handler.tryCatch_of_fatal hbody hfatal⟩

variable (inverse service) in
/-- The loop gets through all measurements, or to the first one that stops it. -/
theorem addStationMagnitudes_cases (hlatitude : hypocenter.mHasLatitude = true)
    (hlongitude : hypocenter.mHasLongitude = true) (hdepth : hypocenter.mHasDepth = true)
    (measurements : List (Api.StationAmplitudeMeasurement F))
    (reactor : Reactor (Api.StationMagnitudesFromAmplitudesResponse F)) :
    (∃ observations, Decodes inverse hypocenter measurements observations ∧
        (∀ o ∈ observations, service.mCalculator.Computes o) ∧
        addStationMagnitudes inverse service hypocenter measurements reactor =
          .ok () (service.withObservations observations reactor)) ∨
      ∃ before measurement rest observations, measurements = before ++ measurement :: rest ∧
        Decodes inverse hypocenter before observations ∧
        (∀ o ∈ observations, service.mCalculator.Computes o) ∧
        ((∃ observation,
            Observation.ofMeasurement inverse measurement hypocenter = .ok observation ∧
            ¬ service.mCalculator.Computes observation ∧ ∃ reason, ¬ reason.IsException ∧
              addStationMagnitudes inverse service hypocenter measurements reactor =
                .error (.fault reason) (service.withObservations observations reactor)) ∨
          ∃ reason, Observation.ofMeasurement inverse measurement hypocenter = .error reason ∧
            addStationMagnitudes inverse service hypocenter measurements reactor =
              .error .returned
                (malformedAnswer (service.withObservations observations reactor))) := by
  induction measurements generalizing reactor with
  | nil =>
      refine Or.inl ⟨[], .nil, fun o ho => absurd ho List.not_mem_nil, ?_⟩
      rw [withObservations_nil]
      rfl
  | cons measurement rest ih =>
      unfold addStationMagnitudes
      rcases step_cases inverse service hlatitude hlongitude hdepth measurement reactor with
        ⟨o, ho, hcomputes, hstep⟩ | ⟨o, ho, hnot, reason, hfatal, hstep⟩ |
          ⟨reason, hreason, hstep⟩
      · -- One more measurement is done; the rest of the loop goes on.
        rw [Handler.bind_of_ok hstep]
        rcases ih (service.withObservations [o] reactor) with
          ⟨observations, hdecodes, hall, hend⟩ |
            ⟨before, stopping, after, observations, hsplit, hdecodes, hall, hstop⟩
        · refine Or.inl ⟨o :: observations, .cons ho hdecodes,
            List.forall_mem_cons.mpr ⟨hcomputes, hall⟩, ?_⟩
          rw [hend, withObservations_append, List.singleton_append]
        · refine Or.inr ⟨measurement :: before, stopping, after, o :: observations,
            by rw [hsplit, List.cons_append], .cons ho hdecodes,
            List.forall_mem_cons.mpr ⟨hcomputes, hall⟩, ?_⟩
          rw [withObservations_append, List.singleton_append] at hstop
          exact hstop
      · refine Or.inr ⟨[], measurement, rest, [], rfl, .nil,
          fun o ho => absurd ho List.not_mem_nil, Or.inl ⟨o, ho, hnot, reason, hfatal, ?_⟩⟩
        rw [Handler.bind_of_error hstep, withObservations_nil]
      · refine Or.inr ⟨[], measurement, rest, [], rfl, .nil,
          fun o ho => absurd ho List.not_mem_nil, Or.inr ⟨reason, hreason, ?_⟩⟩
        rw [Handler.bind_of_error hstep, withObservations_nil]

/-- At a malformed measurement the loop refuses the call, unless the process is gone
before. -/
theorem addStationMagnitudes_of_malformed (hlatitude : hypocenter.mHasLatitude = true)
    (hlongitude : hypocenter.mHasLongitude = true) (hdepth : hypocenter.mHasDepth = true)
    {before rest : List (Api.StationAmplitudeMeasurement F)}
    {malformed : Api.StationAmplitudeMeasurement F} {observations : List (Observation F)}
    (hbefore : Decodes inverse hypocenter before observations) {reason : Fault}
    (hmalformed : Observation.ofMeasurement inverse malformed hypocenter = .error reason)
    (reactor : Reactor (Api.StationMagnitudesFromAmplitudesResponse F)) :
    ((∀ o ∈ observations, service.mCalculator.Computes o) ∧
        addStationMagnitudes inverse service hypocenter (before ++ malformed :: rest) reactor =
          .error .returned (malformedAnswer (service.withObservations observations reactor))) ∨
      ((∃ o ∈ observations, ¬ service.mCalculator.Computes o) ∧
        ∃ fatal after, ¬ fatal.IsException ∧
          addStationMagnitudes inverse service hypocenter (before ++ malformed :: rest)
            reactor = .error (.fault fatal) after) := by
  induction hbefore generalizing reactor with
  | nil =>
      refine Or.inl ⟨fun o ho => absurd ho List.not_mem_nil, ?_⟩
      rw [List.nil_append]
      unfold addStationMagnitudes
      rcases step_cases inverse service hlatitude hlongitude hdepth malformed reactor with
        ⟨o, ho, -⟩ | ⟨o, ho, -⟩ | ⟨-, -, hstep⟩
      · rw [hmalformed] at ho
        cases ho
      · rw [hmalformed] at ho
        cases ho
      · rw [Handler.bind_of_error hstep, withObservations_nil]
  | @cons measurement observation _ observations hdecoded _ ih =>
      rw [List.cons_append]
      unfold addStationMagnitudes
      rcases step_cases inverse service hlatitude hlongitude hdepth measurement reactor with
        ⟨o, ho, hcomputes, hstep⟩ | ⟨o, ho, hnot, fatal, hfatal, hstep⟩ | ⟨_, ho, -⟩
      · obtain rfl : o = observation := Except.ok.inj (ho.symm.trans hdecoded)
        rw [Handler.bind_of_ok hstep]
        rcases ih (service.withObservations [o] reactor) with
          ⟨hall, hend⟩ | ⟨⟨gone, hmem, hgone⟩, hend⟩
        · rw [withObservations_append, List.singleton_append] at hend
          exact Or.inl ⟨List.forall_mem_cons.mpr ⟨hcomputes, hall⟩, hend⟩
        · exact Or.inr ⟨⟨gone, List.mem_cons_of_mem o hmem, hgone⟩, hend⟩
      · obtain rfl : o = observation := Except.ok.inj (ho.symm.trans hdecoded)
        exact Or.inr ⟨⟨o, List.mem_cons_self, hnot⟩, fatal, reactor, hfatal,
          Handler.bind_of_error hstep⟩
      · rw [hdecoded] at ho
        cases ho

variable (inverse) in
/-- For an authorized client the handler gets to the hypocenter. -/
theorem computeStationMagnitudesFromAmplitudes_eq {clientMetadata : ClientMetadata}
    (hauthorized : service.Authorizes clientMetadata) (version : Version)
    (request : Api.StationMagnitudesFromAmplitudesRequest F) :
    computeStationMagnitudesFromAmplitudes inverse version service clientMetadata request
        { mRouteName := "ComputeStationMagnitudesFromAmplitudes", response := {} } =
      (Handler.tryCatch
        (match request.hypocenter with
          | none => Handler.clientError "Malformed request - hypocenter not set"
          | some message => do
              let hypocenter ← liftM (Hypocenter.ofMessage message)
              addStationMagnitudes inverse service hypocenter
                request.stationAmplitudeMeasurements)
        (fun _ => Handler.clientError "Check hypocenter")
        (fun _ => Handler.serverError "Server error - try using a different endpoint") >>=
          fun _ => Handler.succeed) (stationStarted version request.identifier) := by
  unfold computeStationMagnitudesFromAmplitudes stationStarted
  rw [Handler.bind_of_ok (hauthorized.checkClient _), Handler.respond_bind]
  cases request.identifier with
  | none => rfl
  | some identifier => rfl

/-- A measurement of a decoded request is itself decoded. -/
theorem Decodes.exists_of_mem {measurements : List (Api.StationAmplitudeMeasurement F)}
    {observations : List (Observation F)}
    (h : Decodes inverse hypocenter measurements observations)
    {measurement : Api.StationAmplitudeMeasurement F} (hmem : measurement ∈ measurements) :
    ∃ o ∈ observations, Observation.ofMeasurement inverse measurement hypocenter = .ok o := by
  obtain ⟨i, hi, rfl⟩ := List.getElem_of_mem hmem
  have hlength := List.Forall₂.length_eq h
  have hdecoded := List.Forall₂.get h hi (by omega : i < observations.length)
  exact ⟨observations[i], List.getElem_mem _, hdecoded⟩

section Calls

variable (inverse service) in
/-- How the call of an authorized client ends: with the magnitudes that can be computed
when the request is decoded and the calculator returns for each observation, and with a
refusal when the request cannot be decoded.  Otherwise the process is gone. -/
inductive StationEnds (request : Api.StationMagnitudesFromAmplitudesRequest F)
    (started : Reactor (Api.StationMagnitudesFromAmplitudesResponse F)) :
    Throws (Reactor (Api.StationMagnitudesFromAmplitudesResponse F)) → Prop
  | answered {observations : List (Observation F)}
      (hdecoded : decode inverse request.hypocenter request.stationAmplitudeMeasurements =
        .ok observations)
      (hcomputes : ∀ o ∈ observations, service.mCalculator.Computes o) :
      StationEnds request started (.ok (okAnswer (service.withObservations observations started)))
  | refused {refusal : Refusal}
      (hrefusal : decode inverse request.hypocenter request.stationAmplitudeMeasurements =
        .error refusal)
      (hcomputes : ∀ o ∈ tried inverse request.hypocenter request.stationAmplitudeMeasurements,
        service.mCalculator.Computes o)
      (observations : List (Observation F)) (message : String) :
      StationEnds request started
        (.ok (clientErrorAnswer (service.withObservations observations started) message))
  | terminated
      (hdecoded : ∀ observations,
        decode inverse request.hypocenter request.stationAmplitudeMeasurements =
          .ok observations → ∃ o ∈ observations, ¬ service.mCalculator.Computes o)
      (htried : ∃ o ∈ tried inverse request.hypocenter request.stationAmplitudeMeasurements,
        ¬ service.mCalculator.Computes o)
      {reason : Fault} (hfatal : ¬ reason.IsException) :
      StationEnds request started (.error reason)

variable {clientMetadata : ClientMetadata} (hauthorized : service.Authorizes clientMetadata)
  (version : Version) {request : Api.StationMagnitudesFromAmplitudesRequest F}

include hauthorized

variable (inverse) in
theorem stationEnds_of_noHypocenter (hgiven : request.hypocenter = none) :
    StationEnds inverse service request (stationStarted version request.identifier)
      (stationReactor inverse version service clientMetadata request) := by
  have hstart := computeStationMagnitudesFromAmplitudes_eq inverse hauthorized version
    request
  rw [hgiven] at hstart
  have hrun : stationReactor inverse version service clientMetadata request =
      .ok (clientErrorAnswer (service.withObservations []
        (stationStarted version request.identifier))
          "Malformed request - hypocenter not set") := by
    rw [withObservations_nil]
    exact Handler.run_of_returned (hstart.trans (Handler.bind_of_error rfl))
  have hrefusal : decode inverse request.hypocenter request.stationAmplitudeMeasurements =
      .error .noHypocenter := by
    rw [hgiven]
    rfl
  rw [hrun]
  refine .refused hrefusal ?_ [] _
  rw [hgiven]
  exact fun o ho => absurd ho List.not_mem_nil

variable (inverse) in
theorem stationEnds_of_badHypocenter {given : Api.Hypocenter F} {reason : Fault}
    (hgiven : request.hypocenter = some given)
    (hhypocenter : Hypocenter.ofMessage given = .error reason) :
    StationEnds inverse service request (stationStarted version request.identifier)
      (stationReactor inverse version service clientMetadata request) := by
  have hstart := computeStationMagnitudesFromAmplitudes_eq inverse hauthorized version
    request
  rw [hgiven] at hstart
  dsimp only at hstart
  rw [hhypocenter] at hstart
  have hreason := Hypocenter.raises_ofMessage given reason hhypocenter
  obtain ⟨what, -, hcaught⟩ := Handler.tryCatch_of_invalidArgument
    (fun _ => Handler.clientError "Check hypocenter")
    (fun _ => Handler.serverError "Server error - try using a different endpoint")
    (Handler.bind_of_error (f := fun hypocenter => addStationMagnitudes inverse service
      hypocenter request.stationAmplitudeMeasurements)
      (Handler.lift_error reason (stationStarted version request.identifier))) hreason
  have hrun : stationReactor inverse version service clientMetadata request =
      .ok (clientErrorAnswer (service.withObservations []
        (stationStarted version request.identifier)) "Check hypocenter") := by
    rw [withObservations_nil]
    refine Handler.run_of_returned (hstart.trans (Handler.bind_of_error ?_))
    rw [hcaught]
    rfl
  have hrefusal : decode inverse request.hypocenter request.stationAmplitudeMeasurements =
      .error .badHypocenter := by
    rw [hgiven, decode, hhypocenter]
  rw [hrun]
  refine .refused hrefusal ?_ [] _
  rw [hgiven, tried, hhypocenter]
  exact fun o ho => absurd ho List.not_mem_nil

variable (inverse) in
/-- With a hypocenter the call ends the way the loop does. -/
theorem stationEnds_of_hypocenter {given : Api.Hypocenter F} {hypocenter : Hypocenter F}
    (hgiven : request.hypocenter = some given)
    (hhypocenter : Hypocenter.ofMessage given = .ok hypocenter) :
    StationEnds inverse service request (stationStarted version request.identifier)
      (stationReactor inverse version service clientMetadata request) := by
  have hstart := computeStationMagnitudesFromAmplitudes_eq inverse hauthorized version
    request
  rw [hgiven] at hstart
  dsimp only at hstart
  rw [hhypocenter] at hstart
  obtain ⟨hlatitude, hlongitude, hdepth⟩ := Hypocenter.complete_of_ofMessage hhypocenter
  have hdecode {observations : List (Observation F)} :
      decode inverse request.hypocenter request.stationAmplitudeMeasurements =
        .ok observations ↔
      Decodes inverse hypocenter request.stationAmplitudeMeasurements observations := by
    rw [hgiven, decode, hhypocenter]
    exact decodeMeasurements_eq_ok
  rcases addStationMagnitudes_cases inverse service hlatitude hlongitude hdepth
      request.stationAmplitudeMeasurements (stationStarted version request.identifier) with
    ⟨observations, hdecodes, hall, hend⟩ |
      ⟨before, stopping, rest, observations, hsplit, hbefore, hcomputes, hstop⟩
  · have hrun : stationReactor inverse version service clientMetadata request = _ :=
      Handler.run_of_ok (hstart.trans (Handler.bind_of_ok (Handler.tryCatch_of_ok hend)))
    rw [hrun]
    exact .answered (hdecode.mpr hdecodes) hall
  · have hmem : stopping ∈ request.stationAmplitudeMeasurements := by
      rw [hsplit]
      exact List.mem_append_right _ (List.mem_cons_self ..)
    -- What was tried are the observations before, and what the stopping measurement adds.
    have htried := hbefore.decodeUpTo_append (stopping :: rest)
    rw [← hsplit, ← tried_some hhypocenter, ← hgiven] at htried
    rcases hstop with ⟨o, ho, hnot, reason, hfatal, hfault⟩ | ⟨reason, hreason, hrefused⟩
    · have hrun : stationReactor inverse version service clientMetadata request = _ :=
        Handler.run_of_fault (hstart.trans
          (Handler.bind_of_error (Handler.tryCatch_of_fatal hfault hfatal)))
      rw [hrun]
      refine .terminated (fun all hall => ?_) ⟨o, ?_, hnot⟩ hfatal
      · obtain ⟨o', ho', hdecoded⟩ := (hdecode.mp hall).exists_of_mem hmem
        rw [ho] at hdecoded
        obtain rfl := Except.ok.inj hdecoded
        exact ⟨o, ho', hnot⟩
      · rw [htried, decodeUpTo_cons_ok ho]
        exact List.mem_append_right _ List.mem_cons_self
    · have hrun : stationReactor inverse version service clientMetadata request = _ :=
        Handler.run_of_returned (hstart.trans
          (Handler.bind_of_error (Handler.tryCatch_of_returned hrefused)))
      rw [hrun]
      cases hall : decode inverse request.hypocenter request.stationAmplitudeMeasurements with
      | error refusal =>
          refine .refused hall ?_ observations _
          rw [htried, decodeUpTo_cons_error hreason, List.append_nil]
          exact hcomputes
      | ok all =>
          obtain ⟨o, -, hdecoded⟩ := (hdecode.mp hall).exists_of_mem hmem
          rw [hreason] at hdecoded
          cases hdecoded

variable (inverse request) in
theorem stationReactor_ends :
    StationEnds inverse service request (stationStarted version request.identifier)
      (stationReactor inverse version service clientMetadata request) := by
  cases hgiven : request.hypocenter with
  | none => exact stationEnds_of_noHypocenter inverse hauthorized version hgiven
  | some given =>
      cases hhypocenter : Hypocenter.ofMessage given with
      | error reason =>
          exact stationEnds_of_badHypocenter inverse hauthorized version hgiven hhypocenter
      | ok hypocenter =>
          exact stationEnds_of_hypocenter inverse hauthorized version hgiven hhypocenter

/-- A request with a malformed measurement is refused with the number of magnitudes in front
of it, unless the process is gone before. -/
theorem stationReactor_of_malformed {given : Api.Hypocenter F} {hypocenter : Hypocenter F}
    (hgiven : request.hypocenter = some given)
    (hhypocenter : Hypocenter.ofMessage given = .ok hypocenter)
    {before rest : List (Api.StationAmplitudeMeasurement F)}
    {malformed : Api.StationAmplitudeMeasurement F}
    (hsplit : request.stationAmplitudeMeasurements = before ++ malformed :: rest)
    {observations : List (Observation F)}
    (hbefore : Decodes inverse hypocenter before observations) {reason : Fault}
    (hmalformed : Observation.ofMeasurement inverse malformed hypocenter = .error reason) :
    ((∀ o ∈ observations, service.mCalculator.Computes o) ∧
        stationReactor inverse version service clientMetadata request =
          .ok (malformedAnswer (service.withObservations observations
            (stationStarted version request.identifier)))) ∨
      ((∃ o ∈ observations, ¬ service.mCalculator.Computes o) ∧
        ∃ fatal, stationReactor inverse version service clientMetadata request =
          .error fatal) := by
  have hstart := computeStationMagnitudesFromAmplitudes_eq inverse hauthorized version
    request
  rw [hgiven] at hstart
  dsimp only at hstart
  rw [hhypocenter, hsplit] at hstart
  obtain ⟨hlatitude, hlongitude, hdepth⟩ := Hypocenter.complete_of_ofMessage hhypocenter
  rcases addStationMagnitudes_of_malformed hlatitude
      hlongitude hdepth hbefore hmalformed (stationStarted version request.identifier) with
    ⟨hall, hend⟩ | ⟨hgone, fatal, after, hfatal, hend⟩
  · exact Or.inl ⟨hall, Handler.run_of_returned (hstart.trans
      (Handler.bind_of_error (Handler.tryCatch_of_returned hend)))⟩
  · exact Or.inr ⟨hgone, fatal, Handler.run_of_fault (hstart.trans
      (Handler.bind_of_error (Handler.tryCatch_of_fatal hend hfatal)))⟩

variable (request) in
/-- The station endpoint answers with `OK` exactly when the request is decoded and the
calculator returns for each observation. -/
theorem stationReactor_answers_ok_iff
    {reactor : Reactor (Api.StationMagnitudesFromAmplitudesResponse F)} :
    stationReactor inverse version service clientMetadata request = .ok reactor ∧
        reactor.Answers .ok ↔
      ∃ observations,
        decode inverse request.hypocenter request.stationAmplitudeMeasurements =
          .ok observations ∧
        (∀ o ∈ observations, service.mCalculator.Computes o) ∧
        reactor = okAnswer (service.withObservations observations
          (stationStarted version request.identifier)) := by
  have hends := stationReactor_ends inverse hauthorized version request
  generalize stationReactor inverse version service clientMetadata request = result at hends ⊢
  cases hends with
  | @answered observations hdecoded hcomputes =>
      rw [hdecoded]
      constructor
      · intro h
        rcases h with ⟨h, -⟩
        exact ⟨observations, rfl, hcomputes, (Except.ok.inj h).symm⟩
      · intro hall
        rcases hall with ⟨others, hothers, -, rfl⟩
        obtain rfl := Except.ok.inj hothers
        exact ⟨rfl, answers_okAnswer rfl⟩
  | refused hrefusal hcomputes observations message =>
      rw [hrefusal]
      constructor
      · intro hall
        rcases hall with ⟨h, hok⟩
        obtain rfl := Except.ok.inj h
        exact absurd (hok.unique (answers_clientErrorAnswer rfl message)) nofun
      · intro hall
        rcases hall with ⟨observations, hdecoded, -⟩
        exact absurd hdecoded nofun
  | terminated hdecoded htried hfatal =>
      constructor
      · intro hall
        rcases hall with ⟨h, -⟩
        exact absurd h nofun
      · intro hall
        rcases hall with ⟨observations, hobservations, hcomputes, -⟩
        obtain ⟨o, ho, hfault⟩ := hdecoded observations hobservations
        exact absurd (hcomputes o ho) hfault

end Calls

end Station

end MagnitudeService

end Grpc
end ULocalMagnitude
