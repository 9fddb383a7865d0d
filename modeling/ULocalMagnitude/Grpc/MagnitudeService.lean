import ULocalMagnitude.Grpc.Reactor
import ULocalMagnitude.Magnitude.NetworkAverage

/-!
# The magnitude service

`grpc/magnitudeService.cpp` and `grpc/validateClient.hpp`: the two endpoints that
compute magnitudes from amplitudes and the one that tells the station corrections.  All
of them go through the parts of the request one by one, each part under a `try` of its
own inside of a larger one.

`decode` is what the measurements of a request stand for.  Every exception that is
thrown while they are unpacked is a `std::invalid_argument`, so the branches for other
exceptions are dead.
-/

namespace ULocalMagnitude
namespace Grpc

open Cxx
open Corrections (Distance Hypocenter StationIdentifier)
open Magnitude (NetworkMagnitude NetworkMagnitudeCalculator NetworkMagnitudeCalculatorOptions
  Observation Residual StationMagnitude StationCalculatorErrorCode)
open Magnitude.NetworkMagnitudeCalculator (Computes)

variable {F : Type} [Arithmetic F] {R : Type}

/-- `Version`; the build configuration provides the two texts. -/
structure Version where
  getVersion : Bytes
  getTag : Bytes

def Version.getVersionWithTag (version : Version) : Bytes :=
  if version.getTag = [] then version.getVersion
  else version.getVersion ++ bytes "-" ++ version.getTag

/-- `CallbackServerContext::client_metadata` -/
abbrev ClientMetadata := List (Bytes × Bytes)

/-- `validateClient` -/
def validateClient (clientMetadata : ClientMetadata) (accessToken : Bytes) : Bool :=
  if accessToken = [] then true
  else clientMetadata.any fun item =>
    item.1 = bytes "x-custom-auth-token" && item.2 = accessToken

/-- `MagnitudeService::MagnitudeServiceImpl` -/
structure MagnitudeService (F : Type) [Arithmetic F] where
  mCalculator : NetworkMagnitudeCalculator F
  mAccessToken : Option Bytes := none

namespace MagnitudeService

/-- Constructor -/
def ofOptions (calculatorOptions : NetworkMagnitudeCalculatorOptions F)
    (accessToken : Option Bytes) : Throws (MagnitudeService F) := do
  let calculator ← NetworkMagnitudeCalculator.ofOptions calculatorOptions
  throwIf (!calculator.isInitialized)
    (.runtimeError "Failed to initialize network magnitude calculator")
  return { mCalculator := calculator, mAccessToken := accessToken }

/-- Validate the client? -/
def checkClient (service : MagnitudeService F) (clientMetadata : ClientMetadata) :
    Handler R Unit :=
  match service.mAccessToken with
  | none => pure ()
  | some accessToken =>
      if !validateClient clientMetadata accessToken then
        Handler.refuse .unauthenticated
          { code := .unauthenticated, message := "Invalid access token" }
      else pure ()

/-! ## Network magnitude -/

/-- The loop of step 1 over the measurements. -/
def packObservations (inverse : Distance.Inverse F) (hypocenter : Hypocenter F) :
    List (Api.StationAmplitudeMeasurement F) → List (Observation F) →
      Handler R (List (Observation F))
  | [], observations => return observations
  | grpcMeasurement :: rest, observations => do
      let observation ← Handler.tryCatch
        (liftM (Observation.ofMeasurement inverse grpcMeasurement hypocenter))
        (fun _ => Handler.clientError
          ("Check hypocenter and " ++ Nat.repr observations.length ++ " measurement"))
        (fun _ => Handler.serverError "Server error - contact maintainer")
      packObservations inverse hypocenter rest (observations ++ [observation])

/-- Step 1: Pack the observations -/
def packRequest (inverse : Distance.Inverse F)
    (request : Api.NetworkMagnitudeFromAmplitudesRequest F) :
    Handler R (List (Observation F)) :=
  Handler.tryCatch
    (match request.hypocenter with
      | none => Handler.clientError "Malformed request - hypocenter not set"
      | some message => do
          let hypocenter ← liftM (Hypocenter.ofMessage message)
          packObservations inverse hypocenter request.stationAmplitudeMeasurements [])
    (fun _ => Handler.clientError "Check hypocenter")
    (fun _ => Handler.serverError "Server error - try using a different endpoint")

/-- The loop over the residuals. -/
def addResiduals : List (Residual F × Int) →
    Handler (Api.NetworkMagnitudeFromAmplitudesResponse F) Unit
  | [] => return ()
  | residual :: rest => do
      let stationMagRes ← liftM residual.1.toStationMagnitudeAndResidualMessage
      let stationMagRes :=
        { stationMagRes with
          inputObservationNumber := some (NetworkMagnitude.toUInt32 residual.2) }
      Handler.respond fun response =>
        { response with
          stationMagnitudesAndResiduals :=
            response.stationMagnitudesAndResiduals ++ [stationMagRes] }
      addResiduals rest

/-- The branch for a magnitude that was computed; the value is logged first. -/
def writeMagnitude (magnitude : NetworkMagnitude F) :
    Handler (Api.NetworkMagnitudeFromAmplitudesResponse F) Unit := do
  let _ ← liftM magnitude.getValue
  let value ← liftM magnitude.getValue
  Handler.respond fun response => { response with value := some value }
  addResiduals (← liftM magnitude.getResiduals)
  let rejectedObservations ← liftM magnitude.toRejectedObservationsMessage
  Handler.respond fun response =>
    { response with
      rejectedObservations := response.rejectedObservations ++ rejectedObservations }

/-- The branches for an error of the calculator. -/
def refuseMagnitude : NetworkMagnitudeCalculator.ErrorCode →
    Handler (Api.NetworkMagnitudeFromAmplitudesResponse F) Unit
  -- 400 errors
  | .tooFewObservations => Handler.clientError "Too few observations"
  | .noObservations => Handler.clientError "No observations"
  | .duplicateObservations => Handler.clientError "Duplicate observations"
  -- 500 errors
  | .uninitialized => Handler.serverError "Server error - contact maintainer"
  | .algorithm => Handler.serverError "Algorithm error - contact maintainer"
  | _ => Handler.serverError "Algorithm error - contact maintainer"

/-- The branches for what the calculator returned. -/
def writeResult : Except NetworkMagnitudeCalculator.ErrorCode (NetworkMagnitude F) →
    Handler (Api.NetworkMagnitudeFromAmplitudesResponse F) Unit
  | .ok magnitude => writeMagnitude magnitude
  | .error errorCode => refuseMagnitude errorCode

/-- The part of the constructor behind step 1. -/
def computeMagnitude (service : MagnitudeService F) (observations : List (Observation F)) :
    Handler (Api.NetworkMagnitudeFromAmplitudesResponse F) Unit :=
  if observations.isEmpty then Handler.clientError "No observations"
  else do
    -- Step 2: Compute Magnitude
    let magnitudeResult ← liftM (service.mCalculator.apply observations)
    writeResult magnitudeResult
    Handler.succeed

/-- The constructor of the reactor of `ComputeNetworkMagnitudeFromAmplitudes`. -/
def computeNetworkMagnitudeFromAmplitudes (inverse : Distance.Inverse F) (version : Version)
    (service : MagnitudeService F) (clientMetadata : ClientMetadata)
    (request : Api.NetworkMagnitudeFromAmplitudesRequest F) :
    Handler (Api.NetworkMagnitudeFromAmplitudesResponse F) Unit := do
  service.checkClient clientMetadata
  Handler.respond fun response => { response with version := some version.getVersionWithTag }
  match request.identifier with
  | some identifier =>
      Handler.respond fun response => { response with identifier := some identifier }
  | none => pure ()
  service.computeMagnitude (← packRequest inverse request)

/-- The reactor that answers a call. -/
def networkReactor (inverse : Distance.Inverse F) (version : Version)
    (service : MagnitudeService F) (clientMetadata : ClientMetadata)
    (request : Api.NetworkMagnitudeFromAmplitudesRequest F) :
    Throws (Reactor (Api.NetworkMagnitudeFromAmplitudesResponse F)) :=
  (computeNetworkMagnitudeFromAmplitudes inverse version service clientMetadata request).run
    { mRouteName := "ComputeNetworkMagnitudeFromAmplitudes", response := {} }

/-! ## Station magnitudes -/

/-- What is tried for one measurement. -/
def addStationMagnitude (service : MagnitudeService F) (inverse : Distance.Inverse F)
    (hypocenter : Hypocenter F) (grpcMeasurement : Api.StationAmplitudeMeasurement F) :
    Handler (Api.StationMagnitudesFromAmplitudesResponse F) Unit := do
  let observation ← liftM (Observation.ofMeasurement inverse grpcMeasurement hypocenter)
  match ← liftM (service.mCalculator.computeStationMagnitude observation) with
  | .ok stationMagnitude => do
      let stationMagnitudeMessage ← liftM stationMagnitude.toMessage
      Handler.respond fun response =>
        { response with
          stationMagnitudes := response.stationMagnitudes ++ [stationMagnitudeMessage] }
  | .error _ => pure ()

/-- The answer to a malformed measurement. -/
def refuseMeasurement : Handler (Api.StationMagnitudesFromAmplitudesResponse F) Unit := do
  let index := (← get).response.stationMagnitudes.length
  Handler.clientError ("Measurement " ++ Nat.repr (index + 1) ++ " is malformed")

/-- The loop over the measurements. -/
def addStationMagnitudes (inverse : Distance.Inverse F) (service : MagnitudeService F)
    (hypocenter : Hypocenter F) : List (Api.StationAmplitudeMeasurement F) →
      Handler (Api.StationMagnitudesFromAmplitudesResponse F) Unit
  | [] => return ()
  | grpcMeasurement :: rest => do
      Handler.tryCatch (service.addStationMagnitude inverse hypocenter grpcMeasurement)
        (fun _ => refuseMeasurement)
        (fun _ => Handler.serverError "Server error - contact developer")
      addStationMagnitudes inverse service hypocenter rest

/-- The constructor of the reactor of `ComputeStationMagnitudesFromAmplitudes`. -/
def computeStationMagnitudesFromAmplitudes (inverse : Distance.Inverse F) (version : Version)
    (service : MagnitudeService F) (clientMetadata : ClientMetadata)
    (request : Api.StationMagnitudesFromAmplitudesRequest F) :
    Handler (Api.StationMagnitudesFromAmplitudesResponse F) Unit := do
  service.checkClient clientMetadata
  Handler.respond fun response => { response with version := some version.getVersionWithTag }
  match request.identifier with
  | some identifier =>
      Handler.respond fun response => { response with identifier := some identifier }
  | none => pure ()
  Handler.tryCatch
    (match request.hypocenter with
      | none => Handler.clientError "Malformed request - hypocenter not set"
      | some message => do
          let hypocenter ← liftM (Hypocenter.ofMessage message)
          addStationMagnitudes inverse service hypocenter
            request.stationAmplitudeMeasurements)
    (fun _ => Handler.clientError "Check hypocenter")
    (fun _ => Handler.serverError "Server error - try using a different endpoint")
  Handler.succeed

/-- The reactor that answers a call. -/
def stationReactor (inverse : Distance.Inverse F) (version : Version)
    (service : MagnitudeService F) (clientMetadata : ClientMetadata)
    (request : Api.StationMagnitudesFromAmplitudesRequest F) :
    Throws (Reactor (Api.StationMagnitudesFromAmplitudesResponse F)) :=
  (computeStationMagnitudesFromAmplitudes inverse version service clientMetadata request).run
    { mRouteName := "ComputeStationMagnitudesFromAmplitudes", response := {} }

/-! ## Station corrections -/

/-- What is tried for one station. -/
def addStationCorrection (service : MagnitudeService F)
    (grpcStationIdentifier : Api.StationIdentifier) :
    Handler (Api.StationCorrectionsResponse F) Unit := do
  let identifier ← liftM (StationIdentifier.ofMessage grpcStationIdentifier)
  let correction ← liftM (service.mCalculator.getStationCorrection identifier)
  let stationCorrection : Api.StationCorrection F :=
    match correction with
    | some value =>
        { stationIdentifier := some grpcStationIdentifier, value := some value,
          doesExist := some true }
    | none =>
        { stationIdentifier := some grpcStationIdentifier, value := some (.finite 0),
          doesExist := some false }
  Handler.respond fun response =>
    { response with stationCorrections := response.stationCorrections ++ [stationCorrection] }

/-- The loop over the stations. -/
def addStationCorrections (service : MagnitudeService F) : List Api.StationIdentifier →
    Handler (Api.StationCorrectionsResponse F) Unit
  | [] => return ()
  | grpcStationIdentifier :: rest => do
      Handler.tryCatch (service.addStationCorrection grpcStationIdentifier)
        (fun _ => Handler.clientError "Malformed station identifier")
        (fun _ => Handler.serverError "Server error - contact developer")
      addStationCorrections service rest

/-- The constructor of the reactor of `GetStationCorrections`.  The clause around the
loop is for all exceptions. -/
def getStationCorrections (service : MagnitudeService F) (clientMetadata : ClientMetadata)
    (request : Api.StationCorrectionsRequest) :
    Handler (Api.StationCorrectionsResponse F) Unit := do
  service.checkClient clientMetadata
  match request.identifier with
  | some identifier =>
      Handler.respond fun response => { response with identifier := some identifier }
  | none => pure ()
  Handler.tryCatch (service.addStationCorrections request.stationIdentifiers)
    (fun _ => Handler.serverError "Server error - try using a different endpoint")
    (fun _ => Handler.serverError "Server error - try using a different endpoint")
  Handler.succeed

/-- The reactor that answers a call. -/
def correctionsReactor (service : MagnitudeService F) (clientMetadata : ClientMetadata)
    (request : Api.StationCorrectionsRequest) :
    Throws (Reactor (Api.StationCorrectionsResponse F)) :=
  (getStationCorrections service clientMetadata request).run
    { mRouteName := "GetStationCorrections", response := {} }

/-! ## Services and clients -/

/-- Made by the constructor from options that were filled in by their setters. -/
def IsReachable (service : MagnitudeService F) : Prop :=
  ∃ calculatorOptions accessToken,
    NetworkMagnitudeCalculatorOptions.IsReachable calculatorOptions ∧
      ofOptions calculatorOptions accessToken = .ok service

theorem IsReachable.calculator {service : MagnitudeService F} (h : service.IsReachable) :
    service.mCalculator.IsReachable := by
  obtain ⟨calculatorOptions, accessToken, hoptions, h⟩ := h
  unfold ofOptions at h
  obtain ⟨calculator, hcalculator, h⟩ := bind_eq_ok.mp h
  rw [throwIf_bind_eq_ok] at h
  obtain rfl := Except.ok.inj h.2
  exact ⟨calculatorOptions, hoptions, hcalculator⟩

/-- There is no access token to show, or the client shows it. -/
def Authorizes (service : MagnitudeService F) (clientMetadata : ClientMetadata) : Prop :=
  ∀ accessToken, service.mAccessToken = some accessToken →
    validateClient clientMetadata accessToken = true

theorem Authorizes.checkClient {service : MagnitudeService F}
    {clientMetadata : ClientMetadata} (h : service.Authorizes clientMetadata)
    (reactor : Reactor R) : service.checkClient clientMetadata reactor = .ok () reactor := by
  unfold MagnitudeService.checkClient
  cases htoken : service.mAccessToken with
  | none => rfl
  | some accessToken =>
      dsimp only
      rw [if_neg (by simp [h accessToken htoken])]
      rfl

/-- The rest of the handler runs for an authorized client. -/
theorem Authorizes.run_checkClient {service : MagnitudeService F}
    {clientMetadata : ClientMetadata} (h : service.Authorizes clientMetadata)
    (rest : Unit → Handler R Unit) (reactor : Reactor R) :
    Handler.run (service.checkClient clientMetadata >>= rest) reactor =
      Handler.run (rest ()) reactor := by
  unfold Handler.run
  rw [Handler.bind_of_ok (h.checkClient reactor)]

/-- The answer to another client. -/
def unauthenticatedAnswer (reactor : Reactor R) : Reactor R :=
  reactor.refused .unauthenticated { code := .unauthenticated, message := "Invalid access token" }

/-- The rest of the handler does not run for another client. -/
theorem run_checkClient_of_not_authorized {service : MagnitudeService F}
    {clientMetadata : ClientMetadata} (h : ¬ service.Authorizes clientMetadata)
    (rest : Unit → Handler R Unit) (reactor : Reactor R) :
    Handler.run (service.checkClient clientMetadata >>= rest) reactor =
      .ok (unauthenticatedAnswer reactor) := by
  unfold Authorizes at h
  push Not at h
  obtain ⟨accessToken, htoken, hinvalid⟩ := h
  have hrefused : service.checkClient clientMetadata reactor =
      .error .returned (unauthenticatedAnswer reactor) := by
    unfold checkClient
    rw [htoken]
    dsimp only
    rw [if_pos (by simpa using hinvalid)]
    rfl
  exact Handler.run_of_returned (Handler.bind_of_error hrefused)

/-! ## What the measurements stand for -/

/-- Why the measurements of a request are refused. -/
inductive Refusal where
  | noHypocenter
  | badHypocenter
  | badMeasurement (number : Nat)
deriving DecidableEq

/-- The observations of measurements, the first of which has number `number`. -/
def decodeMeasurements (inverse : Distance.Inverse F) (hypocenter : Hypocenter F) :
    Nat → List (Api.StationAmplitudeMeasurement F) → Except Refusal (List (Observation F))
  | _, [] => .ok []
  | number, measurement :: rest =>
      match Observation.ofMeasurement inverse measurement hypocenter with
      | .ok observation =>
          Except.map (observation :: ·)
            (decodeMeasurements inverse hypocenter (number + 1) rest)
      | .error _ => .error (.badMeasurement number)

/-- The observations of a request. -/
def decode (inverse : Distance.Inverse F) (hypocenter : Option (Api.Hypocenter F))
    (measurements : List (Api.StationAmplitudeMeasurement F)) :
    Except Refusal (List (Observation F)) :=
  match hypocenter with
  | none => .error .noHypocenter
  | some message =>
      match Hypocenter.ofMessage message with
      | .ok decoded => decodeMeasurements inverse decoded 1 measurements
      | .error _ => .error .badHypocenter

end MagnitudeService

end Grpc
end ULocalMagnitude
