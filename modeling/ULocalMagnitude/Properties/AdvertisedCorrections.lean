import ULocalMagnitude.Grpc.StationCorrections
import ULocalMagnitude.Properties.Endpoints

/-!
# Advertised corrections

The correction that the service tells for a station is the one it uses.  The name of a
station is built from a station identifier for the one and from a pair of stream
identifiers for the other; for one network and station code, however they are spelled,
both arrive at one name.
-/

namespace ULocalMagnitude
namespace Properties

open Cxx Magnitude Grpc
open Corrections (Distance Hypocenter Station StationIdentifier StationsSet)
open Grpc.MagnitudeService (networkReactor stationReactor correctionsReactor)

variable {F : Type} [ExactArithmetic F]

/-- The network and the station are set, and neither is blank. -/
def NamesStation (message : Api.StationIdentifier) : Prop :=
  ∃ network station, message.network = some network ∧ message.station = some station ∧
    ¬ IsBlank network ∧ ¬ IsBlank station

/-- The normalized network and station code of an identifier. -/
def identifierCodes (message : Api.StationIdentifier) : Option (Bytes × Bytes) := do
  return (capitalized (← message.network), capitalized (← message.station))

/-- The normalized network and station code of a station magnitude. -/
def magnitudeCodes (magnitude : Api.StationMagnitude F) : Option (Bytes × Bytes) := do
  let identifier ← (← magnitude.amplitude1).streamIdentifier
  return (capitalized (← identifier.network), capitalized (← identifier.station))

/-- The entry echoes the identifier, with what is configured under its normalized name. -/
structure Advertises (set : StationsSet F) (message : Api.StationIdentifier)
    (entry : Api.StationCorrection F) : Prop where
  stationIdentifier : entry.stationIdentifier = some message
  configured : ∀ codes station, identifierCodes message = some codes →
    set.mCorrections.lookup (joined dot codes.1 codes.2) = some station →
      entry.doesExist = some true ∧ entry.value = some station.mCorrection
  notConfigured : ∀ codes, identifierCodes message = some codes →
    set.mCorrections.lookup (joined dot codes.1 codes.2) = none →
      entry.doesExist = some false ∧ entry.value = some (.finite 0)

/-- The magnitude was computed with the correction of the entry: without it and the
distance correction, the logarithm of a quarter of the sum of the amplitudes is left. -/
structure CorrectedBy (entry : Api.StationCorrection F) (magnitude : Api.StationMagnitude F) :
    Prop where
  doesExist : entry.doesExist = some true
  stationCorrection : magnitude.stationCorrection = entry.value
  formula : ∃ amplitude1 amplitude2 value stationCorrection distanceCorrection : F,
    magnitude.amplitude1.bind (fun amplitude => amplitude.value) = some (.finite amplitude1) ∧
      magnitude.amplitude2.bind (fun amplitude => amplitude.value) =
        some (.finite amplitude2) ∧
      magnitude.value = some (.finite value) ∧
      magnitude.stationCorrection = some (.finite stationCorrection) ∧
      magnitude.distanceCorrection = some (.finite distanceCorrection) ∧
      value - stationCorrection - distanceCorrection =
        Arithmetic.log10 ((amplitude1 + amplitude2) / 4)

/-- The calculator and both endpoints use the entry for every measurement with the codes
of the identifier. -/
structure Applies (service : MagnitudeService F) (message : Api.StationIdentifier)
    (entry : Api.StationCorrection F) : Prop where
  computed : ∀ inverse measurement hypocenter observation magnitude,
    Observation.ofMeasurement inverse measurement hypocenter = .ok observation →
    stationCodes measurement = identifierCodes message →
    service.mCalculator.computeStationMagnitude observation = .ok (.ok magnitude) →
      ∃ magnitudeMessage, magnitude.toMessage = .ok magnitudeMessage ∧
        CorrectedBy entry magnitudeMessage
  rejected : ∀ inverse measurement hypocenter observation,
    Observation.ofMeasurement inverse measurement hypocenter = .ok observation →
    stationCodes measurement = identifierCodes message → entry.doesExist = some false →
      service.mCalculator.computeStationMagnitude observation =
        .ok (.error .observationHasNoCorrection)
  networkEndpoint : ∀ inverse version clientMetadata request reactor,
    networkReactor inverse version service clientMetadata request = .ok reactor →
    reactor.Answers .ok →
    ∀ (k : Nat) measurement, request.stationAmplitudeMeasurements[k]? = some measurement →
      stationCodes measurement = identifierCodes message →
        (∀ residual ∈ reactor.response.stationMagnitudesAndResiduals,
          residual.inputObservationNumber = some (k + 1) →
            ∃ magnitude, residual.stationMagnitude = some magnitude ∧
              CorrectedBy entry magnitude) ∧
        (entry.doesExist = some false →
          { inputObservationNumber := some (k + 1), reason := some .noStationCorrection } ∈
            reactor.response.rejectedObservations)
  stationEndpoint : ∀ inverse version clientMetadata request reactor,
    service.Authorizes clientMetadata →
    stationReactor inverse version service clientMetadata request = .ok reactor →
    reactor.Answers .ok →
    ∀ magnitude ∈ reactor.response.stationMagnitudes,
      magnitudeCodes magnitude = identifierCodes message → CorrectedBy entry magnitude

/-! ## One name for both -/

theorem identifierCodes_of_ofMessage {message : Api.StationIdentifier}
    {identifier : StationIdentifier} (h : StationIdentifier.ofMessage message = .ok identifier) :
    identifierCodes message = some identifier.codes := by
  obtain ⟨network, station, hnetwork, hstation, -, -, rfl⟩ :=
    StationIdentifier.ofMessage_eq_ok.mp h
  simp [identifierCodes, hnetwork, hstation, StationIdentifier.codes]

theorem exists_ofMessage_iff {message : Api.StationIdentifier} :
    (∃ identifier, StationIdentifier.ofMessage message = .ok identifier) ↔
      NamesStation message := by
  simp only [StationIdentifier.ofMessage_eq_ok, ne_eq, capitalized_eq_nil_iff, NamesStation]
  constructor
  · intro h
    rcases h with ⟨_, network, station, hnetwork, hstation, hn, hs, rfl⟩
    exact ⟨network, station, hnetwork, hstation, hn, hs⟩
  · intro h
    rcases h with ⟨network, station, hnetwork, hstation, hn, hs⟩
    exact ⟨_, network, station, hnetwork, hstation, hn, hs, rfl⟩

section Observed

variable {observation : Observation F} {identifier : StationIdentifier}

/-- With the codes of the identifier the observation has its name. -/
theorem stationName_of_codes (hobservation : observation.Inv)
    (hamplitudes : observation.mHasAmplitudes = true)
    (hcodes : observation.station.codes = identifier.codes) :
    observation.mStationName = identifier.name := by
  obtain ⟨-, -, -, hname⟩ := hobservation.amplitudes hamplitudes
  exact hname.trans (congrArg StationIdentifier.name
    (StationIdentifier.codes_injective hcodes))

variable {calculator : NetworkMagnitudeCalculator F} {distance : Distance F}
  {set : StationsSet F} (hwellFormed : calculator.WellFormed distance set)
  (hobservation : observation.Inv) (hmissing : calculator.missing observation = none)

include hwellFormed hobservation hmissing

/-- A magnitude is computed from two numbers, one of them the correction of the station. -/
theorem exists_magnitudeOf {magnitude : StationMagnitude F}
    (h : calculator.computeStationMagnitude observation = .ok (.ok magnitude)) :
    ∃ station distanceCorrection stationCorrection,
      set.mCorrections.lookup observation.mStationName = some station ∧
        station.mCorrection = .finite stationCorrection ∧
        magnitude = StationMagnitudeCalculator.magnitudeOf observation distanceCorrection
          stationCorrection := by
  rw [hwellFormed.computeStationMagnitude_eq hmissing] at h
  cases hlookup : set.mCorrections.lookup observation.mStationName with
  | none =>
      rw [hlookup] at h
      exact absurd (Except.ok.inj h) nofun
  | some station =>
      have hinv := hwellFormed.calculatorOf_inv hlookup
      have hfits := hwellFormed.fits hmissing hlookup
      rw [hlookup] at h
      dsimp only at h
      cases happly : (NetworkMagnitudeCalculator.calculatorOf station distance).apply
          observation with
      | error reason =>
          rw [happly] at h
          exact absurd h nofun
      | ok outcome =>
          rw [happly] at h
          obtain ⟨hsafe, -⟩ :=
            StationMagnitudeCalculator.isSafe_of_apply hinv hobservation hfits happly
          obtain ⟨answered, hanswered, hanswer⟩ :=
            StationMagnitudeCalculator.exists_apply_of_isSafe hinv hobservation hfits hsafe
          obtain rfl : outcome = answered := Except.ok.inj (happly.symm.trans hanswered)
          cases hanswer with
          | tooClose => exact absurd (Except.ok.inj h) nofun
          | tooFar => exact absurd (Except.ok.inj h) nofun
          | magnitude distanceCorrection stationCorrection _ hstation =>
              exact ⟨station, distanceCorrection, stationCorrection, rfl, hstation,
                (Except.ok.inj (Except.ok.inj h)).symm⟩

/-- A magnitude at the station of the identifier is corrected by its entry. -/
theorem correctedBy_correctionEntry (message : Api.StationIdentifier)
    (hname : observation.mStationName = identifier.name) {magnitude : StationMagnitude F}
    (h : calculator.computeStationMagnitude observation = .ok (.ok magnitude)) :
    CorrectedBy (correctionEntry set message identifier) magnitude.message := by
  obtain ⟨hamplitudes, -, -⟩ := NetworkMagnitudeCalculator.missing_eq_none_iff.mp hmissing
  obtain ⟨hpaired, hfirst, hsecond, -⟩ := hobservation.amplitudes hamplitudes
  obtain ⟨x, hx, -⟩ := hfirst.inv.exists_value hpaired.first.value
  obtain ⟨y, hy, -⟩ := hsecond.inv.exists_value hpaired.second.value
  obtain ⟨station, distanceCorrection, stationCorrection, hlookup, hstation, rfl⟩ :=
    exists_magnitudeOf hwellFormed hobservation hmissing h
  have hentry : correctionEntry set message identifier =
      { stationIdentifier := some message, value := some (.finite stationCorrection),
        doesExist := some true } := by
    unfold correctionEntry
    rw [← hname, hlookup, ← hstation]
  rw [hentry]
  refine ⟨rfl, rfl, x, y, _, stationCorrection, distanceCorrection, congrArg some hx,
    congrArg some hy, rfl, rfl, rfl, ?_⟩
  have hquarter : 1 / 2 * (1 / 2 * (x + y)) = (x + y) / 4 := by ring
  unfold StationMagnitudeCalculator.uncorrected
  rw [hx, hy, Double.val_finite, Double.val_finite, hquarter]
  ring

omit hobservation in
/-- Where the entry says that there is no correction, the observation is rejected. -/
theorem computeStationMagnitude_of_not_exists {message : Api.StationIdentifier}
    (hname : observation.mStationName = identifier.name)
    (hnot : (correctionEntry set message identifier).doesExist = some false) :
    calculator.computeStationMagnitude observation =
      .ok (.error .observationHasNoCorrection) := by
  rw [hwellFormed.computeStationMagnitude_eq hmissing, hname]
  unfold correctionEntry at hnot
  cases hlookup : set.mCorrections.lookup identifier.name with
  | none => rfl
  | some station =>
      rw [hlookup] at hnot
      cases Option.some.inj hnot

end Observed

theorem magnitudeCodes_message {calculator : NetworkMagnitudeCalculator F}
    {observation : Observation F} {magnitude : StationMagnitude F}
    (h : calculator.computeStationMagnitude observation = .ok (.ok magnitude)) :
    magnitudeCodes magnitude.message = some observation.station.codes := by
  obtain ⟨-, hsame⟩ := NetworkMagnitudeCalculator.complete_of_computeStationMagnitude h
  have hstation : observation.station = Observation.stationOf magnitude.mAmplitudes.1 := by
    rw [hsame]
    rfl
  rw [hstation]
  rfl

section Entry

variable {service : MagnitudeService F} {distance : Distance F} {set : StationsSet F}
  (hwellFormed : service.mCalculator.WellFormed distance set)
  {message : Api.StationIdentifier} {identifier : StationIdentifier}
  (hcodes : identifierCodes message = some identifier.codes)

include hcodes

/-- A measurement with the codes of the identifier is looked up under its name. -/
theorem stationName_of_ofMeasurement (calculator : NetworkMagnitudeCalculator F)
    {inverse : Distance.Inverse F} {measurement : Api.StationAmplitudeMeasurement F}
    {hypocenter : Hypocenter F} {observation : Observation F}
    (hdecoded : Observation.ofMeasurement inverse measurement hypocenter = .ok observation)
    (hsame : stationCodes measurement = identifierCodes message) :
    observation.mStationName = identifier.name := by
  have hmissing : calculator.missing observation = none :=
    NetworkMagnitudeCalculator.missing_of_ofMeasurement hdecoded
  rw [stationCodes_of_ofMeasurement hdecoded, hcodes] at hsame
  exact stationName_of_codes (Observation.inv_of_ofMeasurement hdecoded)
    (NetworkMagnitudeCalculator.missing_eq_none_iff.mp hmissing).1 (Option.some.inj hsame)

include hwellFormed

/-- In the response of the network endpoint: the magnitudes of measurements with the codes
are corrected by the entry, and without a correction the measurements are rejected. -/
theorem entry_of_networkReactor {inverse : Distance.Inverse F} {version : Version}
    {clientMetadata : ClientMetadata}
    {request : Api.NetworkMagnitudeFromAmplitudesRequest F}
    {reactor : Reactor (Api.NetworkMagnitudeFromAmplitudesResponse F)}
    (hreactor : networkReactor inverse version service clientMetadata request = .ok reactor)
    (hok : reactor.Answers .ok) {k : Nat} {measurement : Api.StationAmplitudeMeasurement F}
    (hat : request.stationAmplitudeMeasurements[k]? = some measurement)
    (hsame : stationCodes measurement = identifierCodes message) :
    (∀ residual ∈ reactor.response.stationMagnitudesAndResiduals,
        residual.inputObservationNumber = some (k + 1) →
          ∃ magnitude, residual.stationMagnitude = some magnitude ∧
            CorrectedBy (correctionEntry set message identifier) magnitude) ∧
      ((correctionEntry set message identifier).doesExist = some false →
        { inputObservationNumber := some (k + 1), reason := some .noStationCorrection } ∈
          reactor.response.rejectedObservations) := by
  obtain ⟨observations, hobservations, -, hcomputes, rfl⟩ :=
    MagnitudeService.exists_average_of_answers_ok hreactor hok
  obtain ⟨given, decoded, -, -, hdecodes⟩ := MagnitudeService.decode_eq_ok.mp hobservations
  -- The observation that the measurement stands for.
  have hlt : k < observations.length := by
    rw [← List.Forall₂.length_eq hdecodes]
    exact (List.getElem?_eq_some_iff.mp hat).1
  obtain ⟨o, ho⟩ : ∃ o, observations[k]? = some o :=
    ⟨observations[k], List.getElem?_eq_getElem hlt⟩
  obtain ⟨measurement', hat', hdecoded⟩ := hdecodes.measurement_at ho
  obtain rfl : measurement = measurement' := Option.some.inj (hat.symm.trans hat')
  have hname := stationName_of_ofMeasurement hcodes service.mCalculator hdecoded hsame
  have hmem := List.mem_of_getElem? ho
  have hmissing := MagnitudeService.missing_of_decode hobservations service.mCalculator o hmem
  constructor
  · intro residual hresidual hnumber
    obtain ⟨⟨magnitude, number⟩, haccepted, rfl⟩ := List.mem_map.mp hresidual
    obtain rfl : number = k + 1 := Option.some.inj hnumber
    obtain ⟨-, o', ho', houtcome⟩ := Batch.Assessment.mem_accepted_iff.mp haccepted
    obtain rfl : o = o' := Option.some.inj (ho.symm.trans ho')
    exact ⟨magnitude.message, rfl, correctedBy_correctionEntry hwellFormed
      (MagnitudeService.inv_of_decode hobservations o hmem) hmissing message hname
      (NetworkMagnitudeCalculator.outcome_eq_ok_iff.mp houtcome)⟩
  · intro hnot
    have hrejected := computeStationMagnitude_of_not_exists hwellFormed hmissing hname hnot
    rw [(hcomputes o hmem).computeStationMagnitude_eq] at hrejected
    exact List.mem_map.mpr ⟨(.observationHasNoCorrection, k + 1),
      Batch.Assessment.mem_rejected_iff.mpr
        ⟨Nat.le_add_left 1 k, o, ho, Except.ok.inj hrejected⟩, rfl⟩

/-- In the response of the station endpoint, which does not number its magnitudes. -/
theorem entry_of_stationReactor {inverse : Distance.Inverse F} {version : Version}
    {clientMetadata : ClientMetadata}
    {request : Api.StationMagnitudesFromAmplitudesRequest F}
    {reactor : Reactor (Api.StationMagnitudesFromAmplitudesResponse F)}
    (hauthorized : service.Authorizes clientMetadata)
    (hreactor : stationReactor inverse version service clientMetadata request = .ok reactor)
    (hok : reactor.Answers .ok) {magnitude : Api.StationMagnitude F}
    (hmagnitude : magnitude ∈ reactor.response.stationMagnitudes)
    (hsame : magnitudeCodes magnitude = identifierCodes message) :
    CorrectedBy (correctionEntry set message identifier) magnitude := by
  obtain ⟨observations, hobservations, -, rfl⟩ :=
    (MagnitudeService.stationReactor_answers_ok_iff hauthorized version request).mp
      ⟨hreactor, hok⟩
  obtain ⟨stationMagnitude, haccepted, rfl⟩ := List.mem_map.mp hmagnitude
  obtain ⟨o, hmem, ho⟩ := List.mem_filterMap.mp haccepted
  have hcomputed := NetworkMagnitudeCalculator.outcome_eq_ok_iff.mp
    (Batch.Assessment.accepted_eq_some_iff.mp ho)
  have hmissing := MagnitudeService.missing_of_decode hobservations service.mCalculator o hmem
  have hinv := MagnitudeService.inv_of_decode hobservations o hmem
  rw [magnitudeCodes_message hcomputed, hcodes] at hsame
  exact correctedBy_correctionEntry hwellFormed hinv hmissing message
    (stationName_of_codes hinv
      (NetworkMagnitudeCalculator.missing_eq_none_iff.mp hmissing).1 (Option.some.inj hsame))
    hcomputed

omit hcodes in
/-- What the entry of a station says is what the service does. -/
theorem applies_of_isEntry {entry : Api.StationCorrection F} (h : IsEntry set message entry) :
    Applies service message entry := by
  obtain ⟨identifier, hidentifier, rfl⟩ := h
  have hcodes := identifierCodes_of_ofMessage hidentifier
  refine ⟨?_, ?_, ?_, ?_⟩
  · intro inverse measurement hypocenter observation magnitude hdecoded hsame hmagnitude
    have hname := stationName_of_ofMeasurement hcodes service.mCalculator hdecoded hsame
    have hcomplete :=
      (NetworkMagnitudeCalculator.complete_of_computeStationMagnitude hmagnitude).1
    exact ⟨magnitude.message, hcomplete.toMessage, correctedBy_correctionEntry hwellFormed
      (Observation.inv_of_ofMeasurement hdecoded)
      (NetworkMagnitudeCalculator.missing_of_ofMeasurement hdecoded) message hname hmagnitude⟩
  · intro inverse measurement hypocenter observation hdecoded hsame hnot
    have hname := stationName_of_ofMeasurement hcodes service.mCalculator hdecoded hsame
    exact computeStationMagnitude_of_not_exists hwellFormed
      (NetworkMagnitudeCalculator.missing_of_ofMeasurement hdecoded) hname hnot
  · intro inverse version clientMetadata request reactor hreactor hok k measurement hat hsame
    exact entry_of_networkReactor hwellFormed hcodes hreactor hok hat hsame
  · intro inverse version clientMetadata request reactor hauthorized hreactor hok magnitude
      hmagnitude hsame
    exact entry_of_stationReactor hwellFormed hcodes hauthorized hreactor hok hmagnitude hsame

end Entry

theorem advertises_of_isEntry {set : StationsSet F} {message : Api.StationIdentifier}
    {entry : Api.StationCorrection F} (h : IsEntry set message entry) :
    Advertises set message entry := by
  obtain ⟨identifier, hidentifier, rfl⟩ := h
  have hcodes := identifierCodes_of_ofMessage hidentifier
  unfold correctionEntry
  refine ⟨?_, ?_, ?_⟩
  · cases set.mCorrections.lookup identifier.name <;> rfl
  · intro codes station hsame hlookup
    obtain rfl : identifier.codes = codes := Option.some.inj (hcodes.symm.trans hsame)
    have hfound : set.mCorrections.lookup identifier.name = some station := hlookup
    rw [hfound]
    exact ⟨rfl, rfl⟩
  · intro codes hsame hlookup
    obtain rfl : identifier.codes = codes := Option.some.inj (hcodes.symm.trans hsame)
    have hfound : set.mCorrections.lookup identifier.name = none := hlookup
    rw [hfound]
    exact ⟨rfl, rfl⟩

/-- An authorized request for corrections is answered with `OK` exactly when each of its
identifiers names a station.  The response then has an entry for each of them, in order,
that tells what is configured for the station, and what an entry tells is what the
service uses. -/
theorem advertised_corrections_are_applied (service : MagnitudeService F)
    (clientMetadata : ClientMetadata) (hservice : service.IsReachable)
    (hauthorized : service.Authorizes clientMetadata)
    (request : Api.StationCorrectionsRequest) :
    ∃ set reactor, service.mCalculator.mOptions.getStationCorrections = .ok set ∧
      correctionsReactor service clientMetadata request = .ok reactor ∧
      (reactor.Answers .ok ↔ ∀ message ∈ request.stationIdentifiers, NamesStation message) ∧
      (reactor.Answers .ok →
        List.Forall₂ (fun message entry => Advertises set message entry ∧
            Applies service message entry)
          request.stationIdentifiers reactor.response.stationCorrections) := by
  obtain ⟨distance, set, hwellFormed⟩ := hservice.calculator.wellFormed
  rcases MagnitudeService.correctionsReactor_cases hwellFormed hauthorized request with
    ⟨entries, hentries, hreactor⟩ | ⟨⟨message, hmem, reason, hreason⟩, entries, hreactor⟩
  · refine ⟨set, _, hwellFormed.stationCorrections, hreactor, ?_, fun _ => ?_⟩
    · refine iff_of_true (MagnitudeService.answers_okAnswer rfl) fun message hmem => ?_
      obtain ⟨i, hi, rfl⟩ := List.getElem_of_mem hmem
      have hlength := List.Forall₂.length_eq hentries
      obtain ⟨identifier, hidentifier, -⟩ :=
        List.Forall₂.get hentries hi (by omega : i < entries.length)
      exact exists_ofMessage_iff.mp ⟨identifier, hidentifier⟩
    · exact hentries.imp fun message entry hentry =>
        ⟨advertises_of_isEntry hentry, applies_of_isEntry hwellFormed hentry⟩
  · have hrefused : (MagnitudeService.unnamedAnswer (MagnitudeService.withEntries entries
        (MagnitudeService.correctionsStarted request.identifier))).Answers .invalidArgument :=
      MagnitudeService.answers_clientErrorAnswer rfl "Malformed station identifier"
    refine ⟨set, _, hwellFormed.stationCorrections, hreactor, ?_, fun hok => ?_⟩
    · refine iff_of_false (fun hok => absurd (hok.unique hrefused) nofun) fun hall => ?_
      obtain ⟨identifier, hidentifier⟩ := exists_ofMessage_iff.mpr (hall message hmem)
      rw [hreason] at hidentifier
      cases hidentifier
    · exact absurd (hok.unique hrefused) nofun

/-- Two spellings of a station with a correction, and a station without one. -/
def threeStations : List Api.StationIdentifier :=
  [{ network := some (bytes "uu"), station := some (bytes " asu7") },
    { network := some (bytes "UU"), station := some (bytes "ASU7") },
    { network := some (bytes "UU"), station := some (bytes "CVRU") }]

theorem three_corrections_are_applied :
    ∃ set reactor,
      Rationals.magnitudeService.mCalculator.mOptions.getStationCorrections = .ok set ∧
      correctionsReactor Rationals.magnitudeService []
        { identifier := none, stationIdentifiers := threeStations } = .ok reactor ∧
      reactor.Answers .ok ∧
      reactor.response.stationCorrections.map (fun entry => entry.doesExist) =
        [some true, some true, some false] ∧
      List.Forall₂ (fun message entry => Advertises set message entry ∧
          Applies Rationals.magnitudeService message entry)
        threeStations reactor.response.stationCorrections := by
  obtain ⟨set, reactor, hset, hreactor, hok, hentries⟩ := advertised_corrections_are_applied
    Rationals.magnitudeService [] Rationals.sample.magnitudeService_isReachable
    (Rationals.service_authorizes _ _ _ _)
    { identifier := none, stationIdentifiers := threeStations }
  have hnamed : ∀ message ∈ threeStations, NamesStation message := by
    intro message hmem
    refine exists_ofMessage_iff.mp ⟨_, Rationals.eq_ok_of_isOk ?_ {}⟩
    revert message
    decide
  have hexist : (correctionsReactor Rationals.magnitudeService []
      { identifier := none, stationIdentifiers := threeStations }).toOption.map (fun reactor =>
        reactor.response.stationCorrections.map fun entry => entry.doesExist) =
      some [some true, some true, some false] := by
    decide +kernel
  rw [hreactor] at hexist
  exact ⟨set, reactor, hset, hreactor, hok.mpr hnamed, Option.some.inj hexist,
    hentries (hok.mpr hnamed)⟩

end Properties
end ULocalMagnitude
