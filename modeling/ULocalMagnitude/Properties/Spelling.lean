import ULocalMagnitude.Rationals

/-!
# Spellings of a request

A request can be written in more than one way: names in either case and with blanks, a
blank location code or none, amplitudes in one of three units, longitudes with whole
turns.  The constructors of the classes bring all of this to one form, so the answers
to two spellings of a request differ in nothing but the identifier of the request,
which is handed back as it came.
-/

namespace ULocalMagnitude
namespace Properties

open Cxx Magnitude Grpc
open Corrections (Distance Hypocenter StationLocation)
open Grpc.Handler (Alike seen)
open Grpc.MagnitudeService (networkReactor stationReactor)

variable {F : Type} [ExactArithmetic F]

/-! ## Spellings -/

/-- Names in any case and with any blanks; an absent location code is a blank one. -/
structure SameStream (first second : Api.StreamIdentifier) : Prop where
  network : Option.Rel SameSpelling first.network second.network
  station : Option.Rel SameSpelling first.station second.station
  channel : Option.Rel SameSpelling first.channel second.channel
  locationCode : SameSpelling (first.locationCode.getD []) (second.locationCode.getD [])

/-- `v` centimeters, written in one of the three units. -/
inductive Centimeters (v : Double F) : Api.Units → Double F → Prop
  | centimeters : Centimeters v .centimeters v
  | millimeters : Centimeters v .millimeters (.finite 10 * v)
  | meters : Centimeters v .meters (v / .finite 100)

/-- The same value, or one length in two units. -/
inductive SameAmount (first second : Api.Amplitude F) : Prop
  | unchanged (hvalue : first.value = second.value) (hunits : first.units = second.units)
  | rescaled {v value value' : Double F} {units units' : Api.Units}
      (hfirst : Centimeters v units value) (hsecond : Centimeters v units' value')
      (hvalue : first.value = some value) (hunits : first.units = some units)
      (hvalue' : second.value = some value') (hunits' : second.units = some units')

structure SameAmplitude (first second : Api.Amplitude F) : Prop where
  streamIdentifier : Option.Rel SameStream first.streamIdentifier second.streamIdentifier
  amount : SameAmount first second

/-- One longitude, up to whole turns. -/
inductive SameLongitude : Double F → Double F → Prop
  | unchanged (longitude : Double F) : SameLongitude longitude longitude
  | turned (x : F) (turns : ℤ) : SameLongitude (.finite x) (.finite (x + 360 * turns))

structure SamePlace (first second : Api.StationLocation F) : Prop where
  latitude : first.latitude = second.latitude
  longitude : Option.Rel SameLongitude first.longitude second.longitude

structure SameHypocenter (first second : Api.Hypocenter F) : Prop where
  latitude : first.latitude = second.latitude
  longitude : Option.Rel SameLongitude first.longitude second.longitude
  depth : first.depth = second.depth

structure SameMeasurement (first second : Api.StationAmplitudeMeasurement F) : Prop where
  amplitudeStream1 : Option.Rel SameAmplitude first.amplitudeStream1 second.amplitudeStream1
  amplitudeStream2 : Option.Rel SameAmplitude first.amplitudeStream2 second.amplitudeStream2
  stationLocation : Option.Rel SamePlace first.stationLocation second.stationLocation

/-- Two spellings of a request for a network magnitude; the identifiers may be any. -/
structure SameNetworkRequest (first second : Api.NetworkMagnitudeFromAmplitudesRequest F) :
    Prop where
  measurements : List.Forall₂ SameMeasurement first.stationAmplitudeMeasurements
    second.stationAmplitudeMeasurements
  hypocenter : Option.Rel SameHypocenter first.hypocenter second.hypocenter

/-- Two spellings of a request for station magnitudes; the identifiers may be any. -/
structure SameStationRequest (first second : Api.StationMagnitudesFromAmplitudesRequest F) :
    Prop where
  measurements : List.Forall₂ SameMeasurement first.stationAmplitudeMeasurements
    second.stationAmplitudeMeasurements
  hypocenter : Option.Rel SameHypocenter first.hypocenter second.hypocenter

/-! ## The classes bring them to one form -/

/-- Each setter looks at the normal form of its argument. -/
theorem setter_congr {given given' : Bytes} (h : SameSpelling given given') :
    StreamIdentifier.setNetwork given = StreamIdentifier.setNetwork given' ∧
      StreamIdentifier.setStation given = StreamIdentifier.setStation given' ∧
      StreamIdentifier.setChannel given = StreamIdentifier.setChannel given' ∧
      StreamIdentifier.setLocationCode given = StreamIdentifier.setLocationCode given' := by
  have hnormal : removeBlanksAndCapitalize given = removeBlanksAndCapitalize given' :=
    h.capitalized_eq
  unfold StreamIdentifier.setNetwork StreamIdentifier.setStation
    StreamIdentifier.setChannel StreamIdentifier.setLocationCode
  rw [hnormal]
  exact ⟨rfl, rfl, rfl, rfl⟩

theorem SameStream.ofMessage_eq {first second : Api.StreamIdentifier}
    (h : SameStream first second) :
    StreamIdentifier.ofMessage first = StreamIdentifier.ofMessage second := by
  obtain ⟨network, station, channel, locationCode⟩ := first
  obtain ⟨network', station', channel', locationCode'⟩ := second
  obtain ⟨hnetwork, hstation, hchannel, hlocation⟩ := h
  dsimp only at hnetwork hstation hchannel hlocation
  unfold StreamIdentifier.ofMessage
  dsimp only
  cases hnetwork with
  | none => rfl
  | some hnetwork =>
      cases hstation with
      | none => rfl
      | some hstation =>
          cases hchannel with
          | none => rfl
          | some hchannel =>
              simp only [require_some, bind_ok]
              rw [(setter_congr hnetwork).1, (setter_congr hstation).2.1,
                (setter_congr hchannel).2.2.1]
              refine bind_congr fun _ => bind_congr fun _ => bind_congr fun identifier => ?_
              -- Without a location code, a blank one is set.
              have hlast := congrArg (Method.call · identifier) (setter_congr hlocation).2.2.2
              cases locationCode <;> cases locationCode' <;> exact hlast

/-- Every spelling of a length is the same number of millimeters. -/
theorem Centimeters.inMillimeters_eq {v value : Double F} {units : Api.Units}
    (h : Centimeters v units value) :
    Amplitude.inMillimeters units value = .ok (v * .finite 10) := by
  cases h with
  | centimeters => rfl
  | millimeters => exact congrArg Except.ok (Double.mul_comm _ _)
  | meters =>
      have hscale : (1000 : F) / 100 = 10 := by norm_num
      refine congrArg Except.ok ?_
      rw [Double.div_mul_finite v (by norm_num) (by norm_num), hscale]

theorem SameAmplitude.ofMessage_eq {first second : Api.Amplitude F}
    (h : SameAmplitude first second) :
    Amplitude.ofMessage first = Amplitude.ofMessage second := by
  obtain ⟨stream, value, units⟩ := first
  obtain ⟨stream', value', units'⟩ := second
  obtain ⟨hstream, hamount⟩ := h
  dsimp only at hstream
  unfold Amplitude.ofMessage
  dsimp only
  cases hstream with
  | none => rfl
  | some hstream =>
      rw [require_some, require_some, bind_ok, bind_ok, hstream.ofMessage_eq]
      cases hamount with
      | unchanged hvalue hunits =>
          dsimp only at hvalue hunits
          rw [hvalue, hunits]
      | rescaled hfirst hsecond hvalue hunits hvalue' hunits' =>
          dsimp only at hvalue hunits hvalue' hunits'
          subst hvalue hunits hvalue' hunits'
          simp only [require_some, bind_ok, hfirst.inMillimeters_eq, hsecond.inMillimeters_eq]

theorem SameLongitude.isFinite_eq {longitude longitude' : Double F}
    (h : SameLongitude longitude longitude') : longitude.isFinite = longitude'.isFinite := by
  cases h with
  | unchanged => rfl
  | turned x turns => rfl

theorem SameLongitude.reduceLongitude_eq {longitude longitude' : Double F}
    (h : SameLongitude longitude longitude') :
    Corrections.reduceLongitude longitude = Corrections.reduceLongitude longitude' := by
  cases h with
  | unchanged => rfl
  | turned x turns => exact (Corrections.reduceLongitude_add_turns x turns).symm

theorem SamePlace.ofMessage_eq {first second : Api.StationLocation F}
    (h : SamePlace first second) :
    StationLocation.ofMessage first = StationLocation.ofMessage second := by
  obtain ⟨latitude, longitude⟩ := first
  obtain ⟨latitude', longitude'⟩ := second
  obtain ⟨hlatitude, hlongitude⟩ := h
  dsimp only at hlatitude hlongitude
  subst hlatitude
  unfold StationLocation.ofMessage
  cases hlongitude with
  | none => rfl
  | some hlongitude =>
      simp only [require_some, bind_ok, StationLocation.setLongitude, hlongitude.isFinite_eq,
        hlongitude.reduceLongitude_eq]

theorem SameHypocenter.ofMessage_eq {first second : Api.Hypocenter F}
    (h : SameHypocenter first second) :
    Hypocenter.ofMessage first = Hypocenter.ofMessage second := by
  obtain ⟨latitude, longitude, depth⟩ := first
  obtain ⟨latitude', longitude', depth'⟩ := second
  obtain ⟨hlatitude, hlongitude, hdepth⟩ := h
  dsimp only at hlatitude hlongitude hdepth
  subst hlatitude hdepth
  unfold Hypocenter.ofMessage
  cases hlongitude with
  | none => rfl
  | some hlongitude =>
      simp only [require_some, bind_ok, Hypocenter.setLongitude, hlongitude.isFinite_eq,
        hlongitude.reduceLongitude_eq]

/-- The calls of a constructor are those for the two amplitudes and the location. -/
theorem SameMeasurement.ofMeasurement_eq {first second : Api.StationAmplitudeMeasurement F}
    (h : SameMeasurement first second) (inverse : Distance.Inverse F)
    (hypocenter : Hypocenter F) :
    Observation.ofMeasurement inverse first hypocenter =
      Observation.ofMeasurement inverse second hypocenter := by
  obtain ⟨amplitude1, amplitude2, location⟩ := first
  obtain ⟨amplitude1', amplitude2', location'⟩ := second
  obtain ⟨hamplitude1, hamplitude2, hlocation⟩ := h
  dsimp only at hamplitude1 hamplitude2 hlocation
  unfold Observation.ofMeasurement
  dsimp only
  cases hamplitude1 with
  | none => rfl
  | some hamplitude1 =>
      cases hamplitude2 with
      | none => rfl
      | some hamplitude2 =>
          cases hlocation with
          | none => rfl
          | some hlocation =>
              simp only [require_some, bind_ok, hamplitude1.ofMessage_eq,
                hamplitude2.ofMessage_eq, hlocation.ofMessage_eq]

/-! ## The handlers look at nothing else -/

section Handlers

variable {R S : Type} {see : R → S} {inverse : Distance.Inverse F}
  (service : MagnitudeService F)

theorem alike_checkClient (clientMetadata : ClientMetadata) :
    Alike see (service.checkClient clientMetadata) (service.checkClient clientMetadata) := by
  unfold MagnitudeService.checkClient
  cases service.mAccessToken with
  | none => exact .pure ()
  | some accessToken =>
      dsimp only
      split
      · exact .refuse _ _
      · exact .pure ()

/-- The identifier of the request is copied where it is not seen. -/
theorem alike_copyIdentifier {copy : Bytes → R → R}
    (hcopy : ∀ identifier response, see (copy identifier response) = see response)
    {rest rest' : Unit → Handler R Unit} (h : Alike see (rest ()) (rest' ()))
    (identifier identifier' : Option Bytes) :
    Alike see
      (match identifier with
        | some identifier => Handler.respond (copy identifier) >>= rest
        | none => rest ())
      (match identifier' with
        | some identifier => Handler.respond (copy identifier) >>= rest'
        | none => rest' ()) := by
  cases identifier with
  | none =>
      cases identifier' with
      | none => exact h
      | some code' => exact .unseen_right (hcopy code') h
  | some code =>
      cases identifier' with
      | none => exact .unseen_left (hcopy code) h
      | some code' => exact .unseen_left (hcopy code) (.unseen_right (hcopy code') h)

theorem alike_packObservations {measurements measurements' :
      List (Api.StationAmplitudeMeasurement F)}
    (h : List.Forall₂ SameMeasurement measurements measurements') (hypocenter : Hypocenter F)
    (observations : List (Observation F)) :
    Alike see
      (MagnitudeService.packObservations inverse hypocenter measurements observations)
      (MagnitudeService.packObservations inverse hypocenter measurements' observations) := by
  induction h generalizing observations with
  | nil => exact .pure observations
  | cons hsame _ ih =>
      unfold MagnitudeService.packObservations
      rw [hsame.ofMeasurement_eq]
      refine .bind (.tryCatch (.lift _) (fun _ => ?_) fun _ => ?_) fun observation => ih _
      · exact .refuse _ _
      · exact .refuse _ _

theorem alike_packRequest {request request' : Api.NetworkMagnitudeFromAmplitudesRequest F}
    (h : SameNetworkRequest request request') :
    Alike see (MagnitudeService.packRequest inverse request)
      (MagnitudeService.packRequest inverse request') := by
  obtain ⟨identifier, measurements, message⟩ := request
  obtain ⟨identifier', measurements', message'⟩ := request'
  obtain ⟨hmeasurements, hhypocenter⟩ := h
  dsimp only at hmeasurements hhypocenter
  unfold MagnitudeService.packRequest
  refine .tryCatch ?_ (fun _ => .refuse _ _) fun _ => .refuse _ _
  cases hhypocenter with
  | none => exact .refuse _ _
  | some hsame =>
      dsimp only
      rw [hsame.ofMessage_eq]
      exact .bind (.lift _) fun hypocenter =>
        alike_packObservations hmeasurements hypocenter []

/-- The response but for the identifier of the request. -/
def networkContent (response : Api.NetworkMagnitudeFromAmplitudesResponse F) :
    Api.NetworkMagnitudeFromAmplitudesResponse F :=
  { response with identifier := none }

theorem alike_addResiduals (residuals : List (Residual F × Int)) :
    Alike networkContent (MagnitudeService.addResiduals residuals)
      (MagnitudeService.addResiduals residuals) := by
  induction residuals with
  | nil => exact .pure ()
  | cons residual rest ih =>
      unfold MagnitudeService.addResiduals
      refine .bind (.lift _) fun _ => .bind (.respond_of_commute ?_) fun _ => ih
      intro response
      rfl

theorem alike_computeMagnitude (observations : List (Observation F)) :
    Alike networkContent (service.computeMagnitude observations)
      (service.computeMagnitude observations) := by
  unfold MagnitudeService.computeMagnitude
  split
  · exact .refuse _ _
  · refine .bind (.lift _) fun result => .bind ?_ fun _ => .succeed
    cases result with
    | ok magnitude =>
        refine .bind (.lift _) fun _ => .bind (.lift _) fun value =>
          .bind (.respond_of_commute fun _ => rfl) fun _ => .bind (.lift _) fun residuals =>
            .bind (alike_addResiduals residuals) fun _ => .bind (.lift _) fun rejected =>
              .respond_of_commute fun _ => rfl
    | error errorCode =>
        cases errorCode <;> exact .refuse _ _

theorem alike_computeNetworkMagnitude {request request' :
      Api.NetworkMagnitudeFromAmplitudesRequest F} (h : SameNetworkRequest request request')
    (version : Version) (clientMetadata : ClientMetadata) :
    Alike networkContent
      (MagnitudeService.computeNetworkMagnitudeFromAmplitudes inverse version service
        clientMetadata request)
      (MagnitudeService.computeNetworkMagnitudeFromAmplitudes inverse version service
        clientMetadata request') := by
  unfold MagnitudeService.computeNetworkMagnitudeFromAmplitudes
  refine .bind (alike_checkClient service clientMetadata) fun _ =>
    .bind (.respond_of_commute fun _ => rfl) fun _ => ?_
  refine alike_copyIdentifier ?_ ?_ request.identifier request'.identifier
  · intro identifier response
    rfl
  · exact .bind (alike_packRequest h) (alike_computeMagnitude service)

/-- The response but for the identifier of the request. -/
def stationContent (response : Api.StationMagnitudesFromAmplitudesResponse F) :
    Api.StationMagnitudesFromAmplitudesResponse F :=
  { response with identifier := none }

theorem alike_addStationMagnitude {measurement measurement' :
      Api.StationAmplitudeMeasurement F} (h : SameMeasurement measurement measurement')
    (hypocenter : Hypocenter F) :
    Alike stationContent (service.addStationMagnitude inverse hypocenter measurement)
      (service.addStationMagnitude inverse hypocenter measurement') := by
  unfold MagnitudeService.addStationMagnitude
  rw [h.ofMeasurement_eq]
  refine .bind (.lift _) fun observation => .bind (.lift _) fun outcome => ?_
  cases outcome with
  | ok magnitude =>
      exact .bind (.lift _) fun _ => .respond_of_commute fun _ => rfl
  | error errorCode => exact .pure ()

omit [ExactArithmetic F] in
/-- The magnitudes that the message counts are part of what is seen. -/
theorem alike_refuseMeasurement :
    Alike (stationContent (F := F)) MagnitudeService.refuseMeasurement
      MagnitudeService.refuseMeasurement := by
  intro first second h
  have hcount : first.response.stationMagnitudes = second.response.stationMagnitudes :=
    congrArg (fun reactor => reactor.response.stationMagnitudes) h
  show Handler.SameEnd stationContent
    (Handler.clientError ("Measurement " ++
      Nat.repr (first.response.stationMagnitudes.length + 1) ++ " is malformed") first)
    (Handler.clientError ("Measurement " ++
      Nat.repr (second.response.stationMagnitudes.length + 1) ++ " is malformed") second)
  rw [hcount]
  exact Alike.refuse _ _ first second h

theorem alike_addStationMagnitudes {measurements measurements' :
      List (Api.StationAmplitudeMeasurement F)}
    (h : List.Forall₂ SameMeasurement measurements measurements')
    (hypocenter : Hypocenter F) :
    Alike stationContent
      (MagnitudeService.addStationMagnitudes inverse service hypocenter measurements)
      (MagnitudeService.addStationMagnitudes inverse service hypocenter measurements') := by
  induction h with
  | nil => exact .pure ()
  | cons hsame _ ih =>
      unfold MagnitudeService.addStationMagnitudes
      refine .bind (.tryCatch (alike_addStationMagnitude service hsame hypocenter)
        (fun _ => alike_refuseMeasurement) fun _ => .refuse _ _) fun _ => ih

theorem alike_computeStationMagnitudes {request request' :
      Api.StationMagnitudesFromAmplitudesRequest F} (h : SameStationRequest request request')
    (version : Version) (clientMetadata : ClientMetadata) :
    Alike stationContent
      (MagnitudeService.computeStationMagnitudesFromAmplitudes inverse version service
        clientMetadata request)
      (MagnitudeService.computeStationMagnitudesFromAmplitudes inverse version service
        clientMetadata request') := by
  obtain ⟨identifier, measurements, message⟩ := request
  obtain ⟨identifier', measurements', message'⟩ := request'
  obtain ⟨hmeasurements, hhypocenter⟩ := h
  dsimp only at hmeasurements hhypocenter
  unfold MagnitudeService.computeStationMagnitudesFromAmplitudes
  refine .bind (alike_checkClient service clientMetadata) fun _ =>
    .bind (.respond_of_commute fun _ => rfl) fun _ => ?_
  refine alike_copyIdentifier ?_ ?_ identifier identifier'
  · intro identifier response
    rfl
  · refine .bind (.tryCatch ?_ (fun _ => .refuse _ _) fun _ => .refuse _ _) fun _ => .succeed
    dsimp only
    cases hhypocenter with
    | none => exact .refuse _ _
    | some hsame =>
        dsimp only
        rw [hsame.ofMessage_eq]
        exact .bind (.lift _) fun hypocenter =>
          alike_addStationMagnitudes service hmeasurements hypocenter

end Handlers

/-- Two spellings of a request are answered alike: the calls end in the same way, and the
reactors differ in nothing but the identifier in the response.  So it is for both
endpoints, whatever the service and whoever the client. -/
theorem spelling_does_not_matter (inverse : Distance.Inverse F) (version : Version)
    (service : MagnitudeService F) (clientMetadata : ClientMetadata) :
    (∀ request request' : Api.NetworkMagnitudeFromAmplitudesRequest F,
      SameNetworkRequest request request' →
        Except.map (seen networkContent)
            (networkReactor inverse version service clientMetadata request) =
          Except.map (seen networkContent)
            (networkReactor inverse version service clientMetadata request')) ∧
    ∀ request request' : Api.StationMagnitudesFromAmplitudesRequest F,
      SameStationRequest request request' →
        Except.map (seen stationContent)
            (stationReactor inverse version service clientMetadata request) =
          Except.map (seen stationContent)
            (stationReactor inverse version service clientMetadata request') := by
  constructor
  · intro request request' h
    exact (alike_computeNetworkMagnitude service h version clientMetadata).run _
  · intro request request' h
    exact (alike_computeStationMagnitudes service h version clientMetadata).run _

/-! ## A request in two spellings -/

/-- The two amplitudes of a station, both of one value. -/
def spelled (network station : Bytes) (locationCode : Option Bytes) (units : Api.Units)
    (value : Double ℚ) (longitude : ℚ) : Api.StationAmplitudeMeasurement ℚ :=
  let amplitude (channel : Bytes) : Api.Amplitude ℚ :=
    { streamIdentifier := some
        { network := some network, station := some station, channel := some channel,
          locationCode }
      value := some value
      units := some units }
  { amplitudeStream1 := some (amplitude (bytes "HHN"))
    amplitudeStream2 := some (amplitude (bytes "HHE"))
    stationLocation := some
      { latitude := some (.finite 41), longitude := some (.finite longitude) } }

def plainMeasurements : List (Api.StationAmplitudeMeasurement ℚ) :=
  [spelled (bytes "UU") (bytes "ASU7") none .millimeters (.finite 10 * .finite 2) (-112),
    spelled (bytes "UU") (bytes "BSUT") none .centimeters (.finite 2) (-112)]

def fancyMeasurements : List (Api.StationAmplitudeMeasurement ℚ) :=
  [spelled (bytes "uu") (bytes " asu 7") (some (bytes "  ")) .centimeters (.finite 2)
      (-112 + 360 * (1 : ℤ)),
    spelled (bytes "uU ") (bytes "BsUt") (some []) .meters (.finite 2 / .finite 100)
      (-112 + 360 * (-3 : ℤ))]

/-- The epicenter two turns further. -/
def fancyEvent : Api.Hypocenter ℚ :=
  { Rationals.event with longitude := some (.finite (-112 + 360 * (2 : ℤ))) }

theorem spelled_same {network network' station station' : Bytes}
    {locationCode locationCode' : Option Bytes} {v value value' : Double ℚ}
    {units units' : Api.Units}
    (hnetwork : SameSpelling network network') (hstation : SameSpelling station station')
    (hlocation : SameSpelling (locationCode.getD []) (locationCode'.getD []))
    (hvalue : Centimeters v units value) (hvalue' : Centimeters v units' value') (turns : ℤ) :
    SameMeasurement (spelled network station locationCode units value (-112))
      (spelled network' station' locationCode' units' value' (-112 + 360 * turns)) := by
  have hstream (channel : Bytes) : SameStream
      { network := some network, station := some station, channel := some channel,
        locationCode }
      { network := some network', station := some station', channel := some channel,
        locationCode := locationCode' } :=
    ⟨.some hnetwork, .some hstation, .some (.refl channel), hlocation⟩
  exact
    { amplitudeStream1 := .some ⟨.some (hstream _), .rescaled hvalue hvalue' rfl rfl rfl rfl⟩
      amplitudeStream2 := .some ⟨.some (hstream _), .rescaled hvalue hvalue' rfl rfl rfl rfl⟩
      stationLocation := .some ⟨rfl, .some (.turned _ turns)⟩ }

theorem fancyMeasurements_same :
    List.Forall₂ SameMeasurement plainMeasurements fancyMeasurements := by
  refine .cons ?_ (.cons ?_ .nil)
  · exact spelled_same (by decide) (by decide) (by decide) .millimeters .centimeters 1
  · exact spelled_same (by decide) (by decide) (by decide) .centimeters .meters (-3)

theorem fancyEvent_same : SameHypocenter Rationals.event fancyEvent where
  latitude := rfl
  longitude := .some (.turned _ 2)
  depth := rfl

/-- Both requests are answered with the same two magnitudes. -/
theorem fancy_request_is_answered_alike :
    Except.map (seen networkContent)
        (networkReactor Rationals.inverse Rationals.version Rationals.magnitudeService []
          { identifier := some (bytes "plain"), stationAmplitudeMeasurements := plainMeasurements
            hypocenter := some Rationals.event }) =
      Except.map (seen networkContent)
        (networkReactor Rationals.inverse Rationals.version Rationals.magnitudeService []
          { identifier := none, stationAmplitudeMeasurements := fancyMeasurements
            hypocenter := some fancyEvent }) ∧
    Except.map (seen stationContent)
        (stationReactor Rationals.inverse Rationals.version Rationals.magnitudeService []
          { identifier := some (bytes "plain"), stationAmplitudeMeasurements := plainMeasurements
            hypocenter := some Rationals.event }) =
      Except.map (seen stationContent)
        (stationReactor Rationals.inverse Rationals.version Rationals.magnitudeService []
          { identifier := none, stationAmplitudeMeasurements := fancyMeasurements
            hypocenter := some fancyEvent }) := by
  have hboth := spelling_does_not_matter Rationals.inverse Rationals.version
    Rationals.magnitudeService []
  exact ⟨hboth.1 _ _ ⟨fancyMeasurements_same, .some fancyEvent_same⟩,
    hboth.2 _ _ ⟨fancyMeasurements_same, .some fancyEvent_same⟩⟩

end Properties
end ULocalMagnitude
