import ULocalMagnitude.Properties.StationNames

/-!
# The two endpoints

What the endpoint for network magnitudes accepts is accepted by the one for station
magnitudes, with the same magnitudes.  The other way round a list of measurements can
be refused although its stations are different: the network endpoint goes by names, and
two stations may have one.  The mean is the one that the arithmetic of the code makes of the
values, from the first to the last; without rounding it is the mean.
-/

namespace ULocalMagnitude
namespace Properties

open Cxx Magnitude Grpc
open Batch (mean)
open Corrections (Distance Hypocenter StationIdentifier)
open Grpc.MagnitudeService (Decodes elementMessage networkReactor stationReactor)
open Magnitude.NetworkMagnitudeCalculator (averageOf averages_of_apply residualAt)

variable {F : Type} [Arithmetic F]

/-- The network and the station code of a measurement, those of its first amplitude. -/
def stationCodes (measurement : Api.StationAmplitudeMeasurement F) :
    Option (Bytes × Bytes) := do
  let amplitude ← measurement.amplitudeStream1
  let identifier ← amplitude.streamIdentifier
  return (capitalized (← identifier.network), capitalized (← identifier.station))

/-- The values of the messages, all of which are numbers. -/
def HaveValues (magnitudes : List (Api.StationMagnitude F)) (values : List F) : Prop :=
  magnitudes.map (fun magnitude => magnitude.value) =
    values.map fun value => some (.finite value)

omit [Arithmetic F] in
theorem HaveValues.unique {magnitudes : List (Api.StationMagnitude F)}
    {values values' : List F} (h : HaveValues magnitudes values)
    (h' : HaveValues magnitudes values') : values = values' := by
  have hinjective : Function.Injective fun value : F => some (Double.finite value) := by
    intro x y hxy
    exact Double.finite.inj (Option.some.inj hxy)
  exact List.map_injective_iff.mpr hinjective (h.symm.trans h')

theorem stationCodes_of_ofMeasurement {inverse : Distance.Inverse F}
    {measurement : Api.StationAmplitudeMeasurement F} {hypocenter : Hypocenter F}
    {observation : Observation F}
    (h : Observation.ofMeasurement inverse measurement hypocenter = .ok observation) :
    stationCodes measurement = some observation.station.codes := by
  obtain ⟨message, _, _, _, _, amplitude, _, hmessage, -, -, -, -, hamplitude, -, -, -, -, -,
    rfl⟩ := Observation.ofMeasurement_eq_ok.mp h
  obtain ⟨stream, _, _, _, identifier, hstream, -, -, -, -, hidentifier, rfl⟩ :=
    Amplitude.ofMessage_eq_ok_iff.mp hamplitude
  obtain ⟨network, station, _, hnetwork, hstation, -, -, -, -, rfl⟩ :=
    StreamIdentifier.ofMessage_eq_ok.mp hidentifier
  simp [stationCodes, hmessage, hstream, hnetwork, hstation, Observation.station,
    Observation.stationOf, StationIdentifier.codes, capitalized_capitalized]

/-- Decoded measurements are at the stations of their observations. -/
theorem stationCodes_of_decodes {inverse : Distance.Inverse F} {hypocenter : Hypocenter F}
    {measurements : List (Api.StationAmplitudeMeasurement F)}
    {observations : List (Observation F)}
    (h : Decodes inverse hypocenter measurements observations) :
    measurements.filterMap stationCodes = observations.map fun o => o.station.codes := by
  induction h with
  | nil => rfl
  | cons hdecoded _ ih =>
      rw [List.filterMap_cons_some (stationCodes_of_ofMeasurement hdecoded), List.map_cons, ih]

section Service

variable {service : MagnitudeService F}

/-- The messages of the magnitudes that are accepted carry what is averaged. -/
theorem haveValues_accepted (observations : List (Observation F)) :
    HaveValues
      ((observations.filterMap service.mCalculator.assessment.accepted).map
        StationMagnitude.message)
      (service.mCalculator.assessment.measures observations) := by
  unfold HaveValues Batch.Assessment.measures
  rw [List.map_map, List.map_map]
  refine List.map_congr_left fun magnitude hmem => ?_
  obtain ⟨o, -, haccepted⟩ := List.mem_filterMap.mp hmem
  have houtcome := Batch.Assessment.accepted_eq_some_iff.mp haccepted
  have hvalue := (NetworkMagnitudeCalculator.complete_of_outcome houtcome).2
  show some magnitude.mValue = some (.finite magnitude.mValue.val)
  rw [← hvalue]

variable {inverse : Distance.Inverse F} {version : Version} {clientMetadata : ClientMetadata}
  {networkRequest : Api.NetworkMagnitudeFromAmplitudesRequest F}
  {stationRequest : Api.StationMagnitudesFromAmplitudesRequest F}

/-- What the network endpoint accepts is accepted by the station endpoint, with the
magnitudes that it averages. -/
theorem station_endpoint_agrees (hauthorized : service.Authorizes clientMetadata)
    (hhypocenter : stationRequest.hypocenter = networkRequest.hypocenter)
    (hmeasurements : stationRequest.stationAmplitudeMeasurements =
      networkRequest.stationAmplitudeMeasurements)
    {reactor : Reactor (Api.NetworkMagnitudeFromAmplitudesResponse F)}
    (h : networkReactor inverse version service clientMetadata networkRequest = .ok reactor)
    (hok : reactor.Answers .ok) :
    ∃ reactor' values,
      stationReactor inverse version service clientMetadata stationRequest = .ok reactor' ∧
      reactor'.Answers .ok ∧
      reactor.response.stationMagnitudesAndResiduals.map (fun m => m.stationMagnitude) =
        reactor'.response.stationMagnitudes.map some ∧
      HaveValues reactor'.response.stationMagnitudes values ∧
      reactor.response.value = some (averageOf (values.map .finite)) := by
  obtain ⟨observations, magnitude, hdecoded, happly, rfl⟩ :=
    MagnitudeService.exists_magnitude_of_answers_ok h hok
  obtain ⟨-, hcomputes, rfl⟩ := averages_of_apply happly
  rw [← hhypocenter, ← hmeasurements] at hdecoded
  obtain ⟨hreactor', hok'⟩ := (MagnitudeService.stationReactor_answers_ok_iff hauthorized
    version stationRequest).mpr ⟨observations, hdecoded, hcomputes, rfl⟩
  refine ⟨_, service.mCalculator.assessment.measures observations, hreactor', hok', ?_,
    haveValues_accepted observations, ?_⟩
  · have haccepted := Batch.Assessment.accepted_map_fst (a := service.mCalculator.assessment)
      observations
    show ((((service.mCalculator.assessment.result observations).accepted.map
        (residualAt _)).map elementMessage).map fun m => m.stationMagnitude) =
      ((observations.filterMap service.mCalculator.assessment.accepted).map
        StationMagnitude.message).map some
    rw [← haccepted, List.map_map, List.map_map, List.map_map, List.map_map]
    rfl
  · exact congrArg (fun values => some (averageOf values))
      NetworkMagnitudeCalculator.acceptedValues_eq

/-- What the station endpoint accepts, with enough magnitudes and a mean in range, is
accepted by the network endpoint as long as the stations have different names. -/
theorem network_endpoint_agrees_iff (hservice : service.IsReachable)
    (hauthorized : service.Authorizes clientMetadata)
    (hhypocenter : stationRequest.hypocenter = networkRequest.hypocenter)
    (hmeasurements : stationRequest.stationAmplitudeMeasurements =
      networkRequest.stationAmplitudeMeasurements)
    {reactor' : Reactor (Api.StationMagnitudesFromAmplitudesResponse F)} {values : List F}
    (h : stationReactor inverse version service clientMetadata stationRequest = .ok reactor')
    (hok : reactor'.Answers .ok)
    (hvalues : HaveValues reactor'.response.stationMagnitudes values)
    (hnonempty : networkRequest.stationAmplitudeMeasurements ≠ [])
    (hdistinct : (networkRequest.stationAmplitudeMeasurements.filterMap stationCodes).Nodup)
    (henough : max 1 service.mCalculator.mOptions.getMinimumNumberOfStationMagnitudes ≤
      (values.length : Int))
    (hrange : .finite (-10) ≤ averageOf (values.map .finite) ∧
      averageOf (values.map .finite) ≤ .finite 10) :
    (∃ reactor,
        networkReactor inverse version service clientMetadata networkRequest = .ok reactor ∧
        reactor.Answers .ok) ↔
      ∀ p ∈ networkRequest.stationAmplitudeMeasurements.filterMap stationCodes,
        ∀ q ∈ networkRequest.stationAmplitudeMeasurements.filterMap stationCodes,
          ¬ Confusable dot p q := by
  have hinitialized := hservice.calculator.initialized
  obtain ⟨observations, hdecoded, hcomputes, rfl⟩ :=
    (MagnitudeService.stationReactor_answers_ok_iff hauthorized version stationRequest).mp
      ⟨h, hok⟩
  rw [hhypocenter, hmeasurements] at hdecoded
  obtain ⟨given, decoded, -, -, hdecodes⟩ := MagnitudeService.decode_eq_ok.mp hdecoded
  have hcomplete := MagnitudeService.missing_of_decode hdecoded service.mCalculator
  obtain rfl : values = service.mCalculator.assessment.measures observations :=
    hvalues.unique (haveValues_accepted observations)
  rw [← NetworkMagnitudeCalculator.acceptedValues_eq] at hrange
  rw [← NetworkMagnitudeCalculator.length_acceptedValues] at henough
  have hset (o : Observation F) (ho : o ∈ observations) : o.Inv ∧ o.mHasAmplitudes = true :=
    ⟨MagnitudeService.inv_of_decode hdecoded o ho,
      (NetworkMagnitudeCalculator.missing_eq_none_iff.mp (hcomplete o ho)).1⟩
  have hcodes := stationCodes_of_decodes hdecodes
  rw [hcodes] at hdistinct ⊢
  have hstations : (observations.map Observation.station).Nodup := by
    refine List.Nodup.of_map StationIdentifier.codes ?_
    rwa [List.map_map]
  have hnames := Observation.nodup_stationNames_iff hset hstations
  simp only [List.forall_mem_map]
  rw [← hnames]
  constructor
  · intro hall
    rcases hall with ⟨reactor, hreactor, hanswers⟩
    obtain ⟨others, magnitude, hothers, happly, -⟩ :=
      MagnitudeService.exists_magnitude_of_answers_ok hreactor hanswers
    obtain rfl : observations = others := Except.ok.inj (hdecoded.symm.trans hothers)
    exact (averages_of_apply happly).1.admitted.distinct
  · intro hnodup
    have hobservations : observations ≠ [] := by
      rintro rfl
      exact hnonempty (List.forall₂_nil_right_iff.mp hdecodes)
    have haverages : service.mCalculator.Averages observations :=
      { admitted := ⟨hobservations, hcomplete, hnodup⟩
        enough := henough
        inRange := not_or.mpr
          ⟨Double.not_lt_of_le hrange.1, Double.not_lt_of_le hrange.2⟩ }
    have happly := (NetworkMagnitudeCalculator.apply_eq_ok_ok_iff_averages hinitialized).mpr
      ⟨haverages, hcomputes, rfl⟩
    have hreactor := (MagnitudeService.networkReactor_of_decode hauthorized hdecoded).trans
      (MagnitudeService.run_computeMagnitude_of_magnitude happly
        (MagnitudeService.networkStarted version networkRequest.identifier))
    exact ⟨_, hreactor, MagnitudeService.answers_okAnswer rfl⟩

end Service

/-- For every submission of an authorized client to both endpoints: where the network
endpoint answers with `OK`, so does the station endpoint, with the same magnitudes in the
same order, and the value is their mean.  Where the station endpoint answers with `OK`
for different stations, with enough magnitudes and a mean in range, the network endpoint
answers with `OK` exactly as long as no two of the stations have one name.  In exact
arithmetic the mean is their sum over their number. -/
theorem endpoints_agree_iff (inverse : Distance.Inverse F) (version : Version)
    (service : MagnitudeService F) (clientMetadata : ClientMetadata)
    (hservice : service.IsReachable) (hauthorized : service.Authorizes clientMetadata)
    (hypocenter : Option (Api.Hypocenter F))
    (measurements : List (Api.StationAmplitudeMeasurement F))
    (identifier identifier' : Option Bytes) :
    (∀ reactor,
      networkReactor inverse version service clientMetadata
        { identifier, stationAmplitudeMeasurements := measurements, hypocenter } =
          .ok reactor →
      reactor.Answers .ok →
        ∃ reactor' values,
          stationReactor inverse version service clientMetadata
            { identifier := identifier', stationAmplitudeMeasurements := measurements,
              hypocenter } = .ok reactor' ∧
          reactor'.Answers .ok ∧
          reactor.response.stationMagnitudesAndResiduals.map (fun m => m.stationMagnitude) =
            reactor'.response.stationMagnitudes.map some ∧
          HaveValues reactor'.response.stationMagnitudes values ∧
          reactor.response.value = some (averageOf (values.map .finite))) ∧
    (∀ reactor' values,
      stationReactor inverse version service clientMetadata
        { identifier := identifier', stationAmplitudeMeasurements := measurements,
          hypocenter } = .ok reactor' →
      reactor'.Answers .ok →
      HaveValues reactor'.response.stationMagnitudes values →
      measurements ≠ [] →
      (measurements.filterMap stationCodes).Nodup →
      max 1 service.mCalculator.mOptions.getMinimumNumberOfStationMagnitudes ≤
        (reactor'.response.stationMagnitudes.length : Int) →
      .finite (-10) ≤ averageOf (values.map .finite) ∧
        averageOf (values.map .finite) ≤ .finite 10 →
        ((∃ reactor,
            networkReactor inverse version service clientMetadata
              { identifier, stationAmplitudeMeasurements := measurements, hypocenter } =
                .ok reactor ∧
            reactor.Answers .ok) ↔
          ∀ p ∈ measurements.filterMap stationCodes,
            ∀ q ∈ measurements.filterMap stationCodes, ¬ Confusable dot p q)) ∧
    ∀ [IsExact F] (values : List F), values ≠ [] →
      averageOf (values.map .finite) = .finite (mean values) := by
  refine ⟨?_, ?_, fun values => NetworkMagnitudeCalculator.averageOf_finite⟩
  · intro reactor h hok
    exact station_endpoint_agrees hauthorized rfl rfl h hok
  · intro reactor' values h hok hvalues hnonempty hdistinct henough hrange
    have hlength := congrArg List.length hvalues
    rw [List.length_map, List.length_map] at hlength
    rw [hlength] at henough
    exact network_endpoint_agrees_iff hservice hauthorized rfl rfl h hok hvalues hnonempty
      hdistinct henough hrange

/-! ## Two stations with one name -/

def dottedService : MagnitudeService ℚ :=
  Rationals.service Rationals.table (Rationals.stationsSet dottedCorrections) 1

/-- Measurements at station `C` of network `A.B` and at station `B.C` of network `A`. -/
def dottedMeasurements : List (Api.StationAmplitudeMeasurement ℚ) :=
  [Rationals.measurement (bytes "A.B") (bytes "C") 2 2,
    Rationals.measurement (bytes "A") (bytes "B.C") 20 20]

/-- What the station endpoint makes of some measurements. -/
def stationAnswer (service : MagnitudeService ℚ)
    (measurements : List (Api.StationAmplitudeMeasurement ℚ)) :
    Reactor (Api.StationMagnitudesFromAmplitudesResponse ℚ) :=
  Rationals.returned
    (stationReactor Rationals.inverse Rationals.version service []
      { identifier := none, stationAmplitudeMeasurements := measurements
        hypocenter := some Rationals.event })
    { mRouteName := "", response := {} }

/-- Two magnitudes, one and two, for two stations: the station endpoint answers with
`OK`, but the network endpoint takes the stations for one. -/
theorem dotted_stations_are_refused :
    dottedService.IsReachable ∧ dottedService.Authorizes [] ∧
      stationReactor Rationals.inverse Rationals.version dottedService []
        { identifier := none, stationAmplitudeMeasurements := dottedMeasurements
          hypocenter := some Rationals.event } =
        .ok (stationAnswer dottedService dottedMeasurements) ∧
      (stationAnswer dottedService dottedMeasurements).Answers .ok ∧
      HaveValues (stationAnswer dottedService dottedMeasurements).response.stationMagnitudes
        [1, 2] ∧
      dottedMeasurements ≠ [] ∧ (dottedMeasurements.filterMap stationCodes).Nodup ∧
      max 1 dottedService.mCalculator.mOptions.getMinimumNumberOfStationMagnitudes ≤
        ((stationAnswer dottedService dottedMeasurements).response.stationMagnitudes.length :
          Int) ∧
      (.finite (-10) ≤ averageOf (([1, 2] : List ℚ).map .finite) ∧
        averageOf (([1, 2] : List ℚ).map .finite) ≤ .finite 10) ∧
      ¬ ∃ reactor,
        networkReactor Rationals.inverse Rationals.version dottedService []
          { identifier := none, stationAmplitudeMeasurements := dottedMeasurements
            hypocenter := some Rationals.event } = .ok reactor ∧
        reactor.Answers .ok := by
  have hrefused : (networkReactor Rationals.inverse Rationals.version dottedService []
      { identifier := none, stationAmplitudeMeasurements := dottedMeasurements
        hypocenter := some Rationals.event }).toOption.all (fun reactor =>
      decide (reactor.finished =
        [{ code := .invalidArgument, message := "Duplicate observations" }])) = true := by
    decide +kernel
  have hreachable : dottedService.IsReachable :=
    Rationals.service_isReachable Rationals.sample.table_isReachable dottedCorrections_isReachable
      rfl
  have hstation := Rationals.eq_ok_of_isOk
    (x := stationReactor Rationals.inverse Rationals.version dottedService []
      { identifier := none, stationAmplitudeMeasurements := dottedMeasurements
        hypocenter := some Rationals.event })
    (by decide +kernel) { mRouteName := "", response := {} }
  refine ⟨hreachable, Rationals.service_authorizes _ _ _ _, hstation,
    ⟨"", by decide +kernel⟩, ?_, by decide +kernel, by decide +kernel, by decide +kernel,
    by decide +kernel, ?_⟩
  · unfold HaveValues
    decide +kernel
  · intro h
    rcases h with ⟨reactor, hreactor, hok⟩
    rw [hreactor] at hrefused
    have hanswers : reactor.Answers .invalidArgument := ⟨_, of_decide_eq_true hrefused⟩
    exact absurd (hok.unique hanswers) nofun

/-- For three stations, one of which has no correction, the endpoints agree both ways. -/
theorem three_measurements_agree :
    (∃ reactor' values,
      stationReactor Rationals.inverse Rationals.version Rationals.magnitudeService []
        { identifier := none, stationAmplitudeMeasurements := Rationals.measurements
          hypocenter := some Rationals.event } = .ok reactor' ∧
      reactor'.Answers .ok ∧
      Rationals.reactor.response.stationMagnitudesAndResiduals.map
          (fun m => m.stationMagnitude) =
        reactor'.response.stationMagnitudes.map some ∧
      HaveValues reactor'.response.stationMagnitudes values ∧
      Rationals.reactor.response.value = some (averageOf (values.map .finite))) ∧
    (∃ reactor,
      networkReactor Rationals.inverse Rationals.version Rationals.magnitudeService []
        { identifier := some (bytes "request")
          stationAmplitudeMeasurements := Rationals.measurements
          hypocenter := some Rationals.event } = .ok reactor ∧
      reactor.Answers .ok) ∧
    averageOf (([1, 5 / 2] : List ℚ).map .finite) = .finite (7 / 4) := by
  have hagree := endpoints_agree_iff Rationals.inverse Rationals.version
    Rationals.magnitudeService [] Rationals.sample.magnitudeService_isReachable
    (Rationals.service_authorizes _ _ _ _) (some Rationals.event) Rationals.measurements
    (some (bytes "request")) none
  have hvalues : HaveValues
      (stationAnswer Rationals.magnitudeService
        Rationals.measurements).response.stationMagnitudes [1, 5 / 2] := by
    unfold HaveValues
    decide +kernel
  have hplain : ∀ p ∈ Rationals.measurements.filterMap stationCodes, dot ∉ p.1 := by
    decide +kernel
  refine ⟨hagree.1 _ Rationals.sample.networkReactor_request Rationals.sample.reactor_answers,
    ?_, ?_⟩
  · refine (hagree.2.1 _ _ (Rationals.eq_ok_of_isOk (by decide +kernel) _)
      ⟨"", by decide +kernel⟩ hvalues (by decide +kernel) (by decide +kernel)
      (by decide +kernel) (by decide +kernel)).mpr ?_
    intro p hp q hq
    exact not_confusable_of_not_mem (hplain p hp) (hplain q hq)
  · have hmean : mean ([1, 5 / 2] : List ℚ) = 7 / 4 := by decide +kernel
    rw [← hmean]
    exact hagree.2.2 _ (List.cons_ne_nil _ _)

end Properties
end ULocalMagnitude
