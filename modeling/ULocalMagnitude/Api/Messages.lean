import ULocalMagnitude.Cxx.Double
import ULocalMagnitude.Cxx.Text

/-!
# The messages of the service

The protobuf messages of `uLocalMagnitudeServiceAPI/magnitude/v1`.  Every
singular field has presence, so it is an `Option`: `has_field()` asks whether it
is there and `field()` reads it.  Enumerations are open, so a client may send a
unit that this version does not know.  The `notices` of the responses are left
out: nothing writes them.
-/

namespace ULocalMagnitude
namespace Api

open Cxx

/-- `message StreamIdentifier` -/
structure StreamIdentifier where
  network : Option Bytes
  station : Option Bytes
  channel : Option Bytes
  locationCode : Option Bytes
deriving DecidableEq

/-- `message StationIdentifier` -/
structure StationIdentifier where
  network : Option Bytes
  station : Option Bytes
deriving DecidableEq

/-- `enum Amplitude.Units` -/
inductive Units where
  | unspecified
  | millimeters
  | centimeters
  | meters
  /-- A number that is none of the above. -/
  | unrecognized (number : Int)
deriving DecidableEq

/-- `message Amplitude` -/
structure Amplitude (F : Type) where
  streamIdentifier : Option StreamIdentifier
  value : Option (Double F)
  units : Option Units
deriving DecidableEq

/-- `message StationLocation` -/
structure StationLocation (F : Type) where
  latitude : Option (Double F)
  longitude : Option (Double F)
deriving DecidableEq

/-- `message Hypocenter` -/
structure Hypocenter (F : Type) where
  latitude : Option (Double F)
  longitude : Option (Double F)
  depth : Option (Double F)
deriving DecidableEq

/-- `message StationAmplitudeMeasurement` -/
structure StationAmplitudeMeasurement (F : Type) where
  amplitudeStream1 : Option (Amplitude F)
  amplitudeStream2 : Option (Amplitude F)
  stationLocation : Option (StationLocation F)
deriving DecidableEq

/-- `message StationMagnitude` -/
structure StationMagnitude (F : Type) where
  amplitude1 : Option (Amplitude F)
  amplitude2 : Option (Amplitude F)
  value : Option (Double F)
  stationCorrection : Option (Double F)
  distanceCorrection : Option (Double F)
deriving DecidableEq

/-- `message NetworkMagnitudeFromAmplitudesRequest` -/
structure NetworkMagnitudeFromAmplitudesRequest (F : Type) where
  identifier : Option Bytes
  stationAmplitudeMeasurements : List (StationAmplitudeMeasurement F)
  hypocenter : Option (Hypocenter F)
deriving DecidableEq

/-- `enum NetworkMagnitudeFromAmplitudesResponse.Reason` -/
inductive Reason where
  | unspecified
  | tooClose
  | tooFar
  | invalidAmplitudes
  | noStationCorrection
  | algorithm
deriving DecidableEq

/-- `message NetworkMagnitudeFromAmplitudesResponse.RejectedObservation` -/
structure RejectedObservation where
  inputObservationNumber : Option Nat
  reason : Option Reason
deriving DecidableEq

/-- `message NetworkMagnitudeFromAmplitudesResponse.StationMagnitudeAndResidual` -/
structure StationMagnitudeAndResidual (F : Type) where
  inputObservationNumber : Option Nat
  identifier : Option StationIdentifier
  stationMagnitude : Option (StationMagnitude F)
  residual : Option (Double F)
deriving DecidableEq

/-- `message NetworkMagnitudeFromAmplitudesResponse` -/
structure NetworkMagnitudeFromAmplitudesResponse (F : Type) where
  identifier : Option Bytes := none
  version : Option Bytes := none
  value : Option (Double F) := none
  stationMagnitudesAndResiduals : List (StationMagnitudeAndResidual F) := []
  rejectedObservations : List RejectedObservation := []
deriving DecidableEq

/-- `message StationMagnitudesFromAmplitudesRequest` -/
structure StationMagnitudesFromAmplitudesRequest (F : Type) where
  identifier : Option Bytes
  stationAmplitudeMeasurements : List (StationAmplitudeMeasurement F)
  hypocenter : Option (Hypocenter F)
deriving DecidableEq

/-- `message StationMagnitudesFromAmplitudesResponse` -/
structure StationMagnitudesFromAmplitudesResponse (F : Type) where
  identifier : Option Bytes := none
  version : Option Bytes := none
  stationMagnitudes : List (StationMagnitude F) := []
deriving DecidableEq

/-- `message StationCorrectionsRequest` -/
structure StationCorrectionsRequest where
  identifier : Option Bytes
  stationIdentifiers : List StationIdentifier
deriving DecidableEq

/-- `message StationCorrectionsResponse.StationCorrection` -/
structure StationCorrection (F : Type) where
  stationIdentifier : Option StationIdentifier
  value : Option (Double F)
  /-- The field is called `exists`, which is a keyword here. -/
  doesExist : Option Bool
deriving DecidableEq

/-- `message StationCorrectionsResponse` -/
structure StationCorrectionsResponse (F : Type) where
  identifier : Option Bytes := none
  stationCorrections : List (StationCorrection F) := []
deriving DecidableEq

end Api
end ULocalMagnitude
