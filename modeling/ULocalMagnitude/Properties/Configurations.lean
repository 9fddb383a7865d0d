import ULocalMagnitude.Grpc.Alike
import ULocalMagnitude.Grpc.Server
import ULocalMagnitude.Grpc.StationCorrections
import ULocalMagnitude.ProgramOptions
import ULocalMagnitude.Properties.DistanceTables
import ULocalMagnitude.Properties.StationFiles
import ULocalMagnitude.Properties.StationNames

/-!
# From configurations to answers

What the loader reads for the network magnitude always makes a server.  The server tells
the corrections that are written in the rows of the file, except where a row is of another
station with the name of the one that is asked for; and files that say the same, with
their rows in any order and separated in any way, make servers that answer every call alike.
-/

namespace ULocalMagnitude
namespace Properties

open Cxx Configuration Corrections
open Grpc (ClientMetadata MagnitudeService Server ServerOptions Version correctionEntry IsEntry)
open Magnitude (NetworkMagnitudeCalculatorOptions dot)
open ProgramOptions (HasNetworkMagnitude minimumIn readNetworkMagnitude)

variable {F : Type} [ExactArithmetic F]

/-! ## What files say -/

/-- The rows of the table -/
def tableRows (propertyTree : PropertyTree) : List Bytes :=
  rowsOf (DistanceOptions.itemName (sectionPrefix (bytes "DistanceCorrections"))) propertyTree

/-- The rows of the stations -/
def stationRows (propertyTree : PropertyTree) : List Bytes :=
  rowsOf (StationsSet.itemName (sectionPrefix (bytes "StationCorrections"))) propertyTree

/-- The file is there, and boost can read it. -/
structure HasFile (platform : Platform F) (iniFile : Bytes) (propertyTree : PropertyTree) :
    Prop where
  doesExist : platform.files.doesExist iniFile = true
  read : platform.boost.readIni iniFile = .ok propertyTree

/-- Two files give the same settings; their tables have the same numbers and their stations
the same corrections, in some order. -/
structure SameConfiguration (platform platform' : Platform F)
    (propertyTree propertyTree' : PropertyTree) : Prop where
  minimum : minimumIn platform'.boost propertyTree' = minimumIn platform.boost propertyTree
  strategy : toLower (propertyTree'.getString (bytes "NetworkMagnitude.strategy")
      (bytes "average")) =
    toLower (propertyTree.getString (bytes "NetworkMagnitude.strategy") (bytes "average"))
  interpolation : ∀ interpolation,
    DistanceOptions.readInterpolation propertyTree'
        (sectionPrefix (bytes "DistanceCorrections")) = .ok interpolation ↔
      DistanceOptions.readInterpolation propertyTree
        (sectionPrefix (bytes "DistanceCorrections")) = .ok interpolation
  distanceType : ∀ type,
    DistanceOptions.readDistanceType propertyTree'
        (sectionPrefix (bytes "DistanceCorrections")) = .ok type ↔
      DistanceOptions.readDistanceType propertyTree
        (sectionPrefix (bytes "DistanceCorrections")) = .ok type
  datum : DistanceOptions.datumIn platform'.toDouble propertyTree'
      (sectionPrefix (bytes "DistanceCorrections")) =
    DistanceOptions.datumIn platform.toDouble propertyTree
      (sectionPrefix (bytes "DistanceCorrections"))
  table : ∃ rows rows' : List (Double F × Double F),
    List.Forall₂ DistanceOptions.IsNumbers (tableRows propertyTree) rows ∧
      List.Forall₂ DistanceOptions.IsNumbers (tableRows propertyTree') rows' ∧
      rows'.Perm rows
  stations : SaysSame (stationRows propertyTree) (stationRows propertyTree')
  corrections : ∃ entries : List (Entry F),
    List.Forall₂ IsCorrection (stationRows propertyTree) entries

/-- The two services answer every call in the same way. -/
structure AnswerAlike (service service' : MagnitudeService F) : Prop where
  network : ∀ inverse version clientMetadata request,
    MagnitudeService.networkReactor inverse version service' clientMetadata request =
      MagnitudeService.networkReactor inverse version service clientMetadata request
  station : ∀ inverse version clientMetadata request,
    MagnitudeService.stationReactor inverse version service' clientMetadata request =
      MagnitudeService.stationReactor inverse version service clientMetadata request
  corrections : ∀ clientMetadata request,
    MagnitudeService.correctionsReactor service' clientMetadata request =
      MagnitudeService.correctionsReactor service clientMetadata request

/-! ## Files that say the same -/

section Same

variable {platform platform' : Platform F} {propertyTree propertyTree' : PropertyTree}

theorem SameConfiguration.symm
    (h : SameConfiguration platform platform' propertyTree propertyTree') :
    SameConfiguration platform' platform propertyTree' propertyTree := by
  obtain ⟨rows, rows', hrows, hrows', hperm⟩ := h.table
  obtain ⟨entries, hentries⟩ := h.corrections
  obtain ⟨entries', hentries', -⟩ := h.stations.exists_entries hentries
  exact
    { minimum := h.minimum.symm
      strategy := h.strategy.symm
      interpolation := fun interpolation => (h.interpolation interpolation).symm
      distanceType := fun type => (h.distanceType type).symm
      datum := h.datum.symm
      table := ⟨rows', rows, hrows', hrows, hperm.symm⟩
      stations := h.stations.symm
      corrections := ⟨entries', hentries'⟩ }

/-- In any order the rows are sorted to one table. -/
theorem sortByDistance_eq_of_perm {rows rows' : List (Double F × Double F)}
    (hfinite : ∀ row ∈ rows, row.1.isFinite = true) (hperm : rows'.Perm rows)
    (h : DistanceOptions.Accepts rows) :
    DistanceOptions.Accepts rows' ∧
      DistanceOptions.sortByDistance rows' = DistanceOptions.sortByDistance rows := by
  obtain ⟨after, hafter⟩ := h
  have hafter' := DistanceOptions.call_setCorrections_of_perm hfinite hperm hafter
  refine ⟨⟨after, hafter'⟩, ?_⟩
  obtain ⟨-, hstored⟩ := DistanceOptions.call_setCorrections_eq_ok_iff.mp hafter
  obtain ⟨-, hstored'⟩ := DistanceOptions.call_setCorrections_eq_ok_iff.mp hafter'
  exact congrArg DistanceOptions.mCorrections (hstored'.trans hstored.symm)

/-- The same options are loaded for the distances. -/
theorem SameConfiguration.loads
    (h : SameConfiguration platform platform' propertyTree propertyTree')
    {options : DistanceOptions F}
    (hloads : DistanceOptions.Loads platform.toDouble propertyTree
      (sectionPrefix (bytes "DistanceCorrections")) options) :
    DistanceOptions.Loads platform'.toDouble propertyTree'
      (sectionPrefix (bytes "DistanceCorrections")) options := by
  obtain ⟨interpolation, type, rows, hinterpolation, htype, hdatum, hstarts, haccepts, rfl⟩ :=
    hloads
  obtain ⟨numbers, rows', hnumbers, hrows', hperm⟩ := h.table
  obtain rfl : rows = numbers := rows_unique hstarts (startsWithNumbers_of_isNumbers hnumbers)
  obtain ⟨haccepts', hsorted⟩ :=
    sortByDistance_eq_of_perm (isFinite_of_isNumbers hnumbers) hperm haccepts
  refine ⟨interpolation, type, rows', (h.interpolation _).mpr hinterpolation,
    (h.distanceType _).mpr htype, ?_, startsWithNumbers_of_isNumbers hrows', haccepts', ?_⟩
  · rw [h.datum]
    exact hdatum
  · unfold DistanceOptions.optionsOf
    rw [h.datum, hsorted]

/-- A section is loaded to one set only. -/
theorem loads_unique {sectionName : Bytes} {set set' : StationsSet F}
    (h : StationsSet.Loads propertyTree sectionName set)
    (h' : StationsSet.Loads propertyTree sectionName set') : set = set' := by
  obtain ⟨stations, hstations, -, rfl⟩ := h
  obtain ⟨stations', hstations', -, rfl⟩ := h'
  rw [stations_unique hstations hstations']

/-- A set of corrections is loaded when they are of different stations. -/
theorem loads_iff {texts : List Bytes} {entries : List (Entry F)} {sectionName : Bytes}
    (htexts : rowsOf (StationsSet.itemName sectionName) propertyTree = texts)
    (h : List.Forall₂ IsCorrection texts entries) {set : StationsSet F} :
    StationsSet.Loads propertyTree sectionName set ↔ (entries.map Entry.codes).Nodup ∧
      StationsSet.withStations {} (entries.map Entry.toStation) = set := by
  have hread := isReadAs_of_isCorrection h
  unfold StationsSet.Loads
  rw [htexts, ← nodup_names_iff h]
  constructor
  · rintro ⟨stations, hstations, hnodup, hset⟩
    obtain rfl := stations_unique hread hstations
    exact ⟨hnodup, hset⟩
  · rintro ⟨hnodup, hset⟩
    exact ⟨_, hread, hnodup, hset⟩

/-- Sets of the same corrections are loaded, if not in the same order. -/
theorem SameConfiguration.exists_set
    (h : SameConfiguration platform platform' propertyTree propertyTree')
    {set : StationsSet F}
    (hloads : StationsSet.Loads propertyTree (sectionPrefix (bytes "StationCorrections")) set) :
    ∃ set' : StationsSet F,
      StationsSet.Loads propertyTree' (sectionPrefix (bytes "StationCorrections")) set' ∧
        set'.empty = set.empty ∧
        ∀ name, set'.mCorrections.lookup name = set.mCorrections.lookup name := by
  obtain ⟨entries, hentries⟩ := h.corrections
  obtain ⟨entries', hentries', hperm⟩ := h.stations.exists_entries hentries
  obtain ⟨hnodup, rfl⟩ := (loads_iff rfl hentries).mp hloads
  have hnodup' : (entries'.map Entry.codes).Nodup := (hperm.map _).nodup_iff.mpr hnodup
  refine ⟨_, (loads_iff rfl hentries').mpr ⟨hnodup', rfl⟩, ?_, fun name => ?_⟩
  · have hlength := StationsSet.length_withStations ((nodup_names_iff hentries).mpr hnodup)
    have hlength' := StationsSet.length_withStations ((nodup_names_iff hentries').mpr hnodup')
    rw [List.length_map] at hlength hlength'
    unfold StationsSet.empty
    unfold StationsSet.getCorrections at hlength hlength'
    rw [Bool.eq_iff_iff, List.isEmpty_iff, List.isEmpty_iff, ← List.length_eq_zero_iff,
      ← List.length_eq_zero_iff, hlength, hlength', hperm.length_eq]
  · refine Option.ext fun station => ?_
    rw [StationsSet.lookup_withStations ((nodup_names_iff hentries).mpr hnodup),
      StationsSet.lookup_withStations ((nodup_names_iff hentries').mpr hnodup'),
      (hperm.map Entry.toStation).mem_iff]

/-- What one file has for the network magnitude the other one has. -/
theorem SameConfiguration.hasNetworkMagnitude
    (h : SameConfiguration platform platform' propertyTree propertyTree')
    (hhas : HasNetworkMagnitude platform propertyTree) :
    HasNetworkMagnitude platform' propertyTree' := by
  obtain ⟨options, hoptions⟩ := hhas.distances
  obtain ⟨set, hset, hnonempty⟩ := hhas.stations
  obtain ⟨set', hset', hempty, -⟩ := h.exists_set hset
  exact ⟨h.strategy.trans hhas.strategy, ⟨options, h.loads hoptions⟩, set', hset',
    hempty.trans hnonempty⟩

end Same

/-! ## Servers -/

section Servers

variable {platform : Platform F} {iniFile : Bytes} {propertyTree : PropertyTree}
  {options : NetworkMagnitudeCalculatorOptions F}

/-- The service goes by the settings, the table and the stations of the file. -/
structure GoesBy (platform : Platform F) (propertyTree : PropertyTree)
    (service : MagnitudeService F) (distanceOptions : DistanceOptions F)
    (set : StationsSet F) : Prop where
  minimum : service.mCalculator.mOptions.mMinimumNumberOfStationMagnitudes =
    minimumIn platform.boost propertyTree
  distances : DistanceOptions.Loads platform.toDouble propertyTree
    (sectionPrefix (bytes "DistanceCorrections")) distanceOptions
  stations : StationsSet.Loads propertyTree (sectionPrefix (bytes "StationCorrections")) set
  wellFormed : ∃ distance, Distance.ofOptions distanceOptions = .ok distance ∧
    service.mCalculator.WellFormed distance set

/-- Every file that is loaded makes a server. -/
theorem exists_server (hfile : HasFile platform iniFile propertyTree)
    (hloaded : readNetworkMagnitude platform iniFile propertyTree = .ok options)
    (grpcOptions : ServerOptions) :
    ∃ server, Server.ofOptions grpcOptions options = .ok server ∧
      server.magnitudeService.mAccessToken =
        (if grpcOptions.useTLS then grpcOptions.getAccessToken else none) ∧
      ∃ distanceOptions set,
        GoesBy platform propertyTree server.magnitudeService distanceOptions set := by
  obtain ⟨distanceOptions, distance, set, hdistances, hdistance, hstations, rfl, hreachable⟩ :=
    ProgramOptions.loaded_of_readNetworkMagnitude hfile.doesExist hfile.read hloaded
  obtain ⟨server, hserver, hcalculator, hoptions, htoken⟩ :=
    Server.exists_ofOptions_of_validate grpcOptions hreachable rfl
  refine ⟨server, hserver, htoken, distanceOptions, set, ?_, hdistances, hstations, distance,
    hdistance, ?_⟩
  · rw [hoptions]
  · obtain ⟨distance', set', hwellFormed⟩ := hcalculator.wellFormed
    have hgetDistance := hwellFormed.distanceCorrections
    have hgetSet := hwellFormed.stationCorrections
    rw [hoptions] at hgetDistance hgetSet
    obtain rfl := Except.ok.inj hgetDistance
    obtain rfl := Except.ok.inj hgetSet
    exact hwellFormed

/-- The entry of the answer for a station is what the row of the station says. -/
def IsRowEntry (texts : List Bytes) (identifier : StationIdentifier)
    (entry : Api.StationCorrection F) : Prop :=
  (entry.doesExist = some true ∧ ∃ text ∈ texts, ∃ station : Station F,
      StationsSet.IsReadAs text station ∧ station.identifier.codes = identifier.codes ∧
      entry.value = some station.mCorrection) ∨
    (entry.doesExist = some false ∧ entry.value = some (.finite 0) ∧
      ∀ text ∈ texts, ∀ station : Station F, StationsSet.IsReadAs text station →
        station.identifier.codes ≠ identifier.codes)

/-- No row is of another station with the name of this one. -/
def IsUnshared (F : Type) [ExactArithmetic F] (texts : List Bytes)
    (identifier : StationIdentifier) : Prop :=
  ∀ text ∈ texts, ∀ station : Station F, StationsSet.IsReadAs text station →
    ¬ OneName station.identifier identifier

/-- The entry repeats what was asked for, and tells the row of the station exactly when no
other station has its name. -/
def TellsRow (texts : List Bytes) (message : Api.StationIdentifier)
    (entry : Api.StationCorrection F) : Prop :=
  entry.stationIdentifier = some message ∧
    ∃ identifier, StationIdentifier.ofMessage message = .ok identifier ∧
      (IsRowEntry texts identifier entry ↔ IsUnshared F texts identifier)

/-- A set that is loaded has what the rows say. -/
theorem tellsRow_of_isEntry {set : StationsSet F}
    (hstations : StationsSet.Loads propertyTree (sectionPrefix (bytes "StationCorrections"))
      set) {message : Api.StationIdentifier} {entry : Api.StationCorrection F}
    (h : IsEntry set message entry) : TellsRow (stationRows propertyTree) message entry := by
  obtain ⟨identifier, hmessage, rfl⟩ := h
  obtain ⟨stations, hread, hnodup, rfl⟩ := hstations
  have hlookup {station : Station F} :
      (StationsSet.withStations {} stations).mCorrections.lookup identifier.name = some station ↔
        station ∈ stations ∧ station.name = identifier.name :=
    StationsSet.lookup_withStations hnodup
  -- The row is read as one station only, and that one is in the set.
  have hstation {text : Bytes} (htext : text ∈ stationRows propertyTree) {station : Station F}
      (hrow : StationsSet.IsReadAs text station) (hname : station.name = identifier.name) :
      (StationsSet.withStations {} stations).mCorrections.lookup identifier.name =
        some station := by
    obtain ⟨other, hother, hrow'⟩ := exists_row_of_mem hread.flip htext
    obtain rfl : other = station := isReadAs_unique hrow' hrow
    exact hlookup.mpr ⟨hother, hname⟩
  have hname_of_codes {station : Station F}
      (hcodes : station.identifier.codes = identifier.codes) : station.name = identifier.name :=
    congrArg StationIdentifier.name (StationIdentifier.codes_injective hcodes)
  refine ⟨by unfold correctionEntry; split <;> rfl, identifier, hmessage, ?_, ?_⟩
  · -- The row that is told is the only one with the name.
    intro h text htext station hrow hconfusable
    have hname : station.name = identifier.name :=
      (StationIdentifier.name_eq_name_iff _ _).mpr (Or.inr hconfusable)
    have hfound := hstation htext hrow hname
    unfold correctionEntry at h
    rw [hfound] at h
    rcases h with ⟨-, text', htext', station', hrow', hcodes, -⟩ | ⟨hnot, -⟩
    · have hfound' := hstation htext' hrow' (hname_of_codes hcodes)
      obtain rfl : station = station' := Option.some.inj (hfound.symm.trans hfound')
      exact hconfusable.ne hcodes
    · cases Option.some.inj hnot
  · intro hunshared
    unfold correctionEntry
    cases hfound : (StationsSet.withStations {} stations).mCorrections.lookup
        identifier.name with
    | some station =>
        obtain ⟨hmem, hname⟩ := hlookup.mp hfound
        obtain ⟨text, htext, hrow⟩ := exists_row_of_mem hread hmem
        have hcodes : station.identifier.codes = identifier.codes :=
          congrArg StationIdentifier.codes (((StationIdentifier.name_eq_name_iff _ _).mp
            hname).resolve_right (hunshared text htext station hrow))
        exact Or.inl ⟨rfl, text, htext, station, hrow, hcodes, rfl⟩
    | none =>
        refine Or.inr ⟨rfl, rfl, fun text htext station hrow hcodes => ?_⟩
        cases hfound.symm.trans (hstation htext hrow (hname_of_codes hcodes))

/-- Rows that are corrections share no names with a station whose network has no dot. -/
theorem isUnshared_of_isCorrection {texts : List Bytes} {entries : List (Entry F)}
    (h : List.Forall₂ IsCorrection texts entries) {identifier : StationIdentifier}
    (hdot : dot ∉ identifier.mNetwork) : IsUnshared F texts identifier := by
  intro text htext station hrow
  obtain ⟨entry, -, hentry⟩ := exists_row_of_mem h.flip htext
  obtain rfl := isReadAs_unique hrow (IsCorrection.isReadAs hentry)
  obtain ⟨_, _, _, -, hnetwork, -, -, -, -, hcode, -⟩ := hentry
  have hentryDot : dot ∉ entry.network := by
    rw [hcode]
    exact dot_not_mem_capitalized hnetwork
  exact not_confusable_of_not_mem hentryDot hdot

end Servers

/-- What is loaded for the network magnitude makes a server with any options of its own, and
its corrections endpoint tells authorized clients, for every station that is asked for, what
the row of the station says; exactly as long as no row is of another station with its name. -/
theorem loaded_corrections_are_advertised (platform : Platform F) (iniFile : Bytes)
    (propertyTree : PropertyTree) (options : NetworkMagnitudeCalculatorOptions F)
    (hfile : HasFile platform iniFile propertyTree)
    (hloaded : readNetworkMagnitude platform iniFile propertyTree = .ok options)
    (grpcOptions : ServerOptions) :
    ∃ server, Server.ofOptions grpcOptions options = .ok server ∧
      ∀ clientMetadata, server.magnitudeService.Authorizes clientMetadata →
        ∀ request : Api.StationCorrectionsRequest,
          (∀ message ∈ request.stationIdentifiers, ∃ identifier,
            StationIdentifier.ofMessage message = .ok identifier) →
          ∃ reactor, MagnitudeService.correctionsReactor server.magnitudeService clientMetadata
              request = .ok reactor ∧
            reactor.finished = [{ code := .ok }] ∧
            List.Forall₂ (TellsRow (stationRows propertyTree)) request.stationIdentifiers
              reactor.response.stationCorrections := by
  obtain ⟨server, hserver, -, distanceOptions, set, hgoesBy⟩ :=
    exists_server hfile hloaded grpcOptions
  refine ⟨server, hserver, fun clientMetadata hauthorized request hnamed => ?_⟩
  obtain ⟨distance, -, hwellFormed⟩ := hgoesBy.wellFormed
  rcases MagnitudeService.correctionsReactor_cases hwellFormed hauthorized request with
    ⟨entries, hentries, hreactor⟩ | ⟨⟨message, hmessage, reason, hreason⟩, -⟩
  · refine ⟨_, hreactor, rfl, ?_⟩
    exact hentries.imp fun _ _ hentry => tellsRow_of_isEntry hgoesBy.stations hentry
  · obtain ⟨identifier, hidentifier⟩ := hnamed message hmessage
    cases hreason.symm.trans hidentifier

/-- A file with a table of two rows and two stations, as it is written. -/
def writtenTree (near far first second : Bytes) : PropertyTree := fun path =>
  if path = bytes "DistanceCorrections.interpolation" then some (bytes "nearest")
  else if path = bytes "DistanceCorrections.distanceType" then some (bytes "epicentral")
  else if path = bytes "DistanceCorrections.distance_correction_1" then some near
  else if path = bytes "DistanceCorrections.distance_correction_2" then some far
  else if path = bytes "StationCorrections.station_correction_1" then some first
  else if path = bytes "StationCorrections.station_correction_2" then some second
  else none

def writtenPlatform (propertyTree : PropertyTree) : Platform ℚ where
  files := { doesExist := fun _ => true, contents := fun _ => none }
  boost :=
    { readIni := fun _ => .ok propertyTree
      toInt := fun _ => none
      toUInt16 := fun _ => none
      toBool := fun _ => none }
  toDouble := fun _ => none
  environment := { toInt64 := fun _ => none, getenv := fun _ => none, withOtlpGrpc := false }

/-- A file with commas. -/
def commasTree : PropertyTree :=
  writtenTree (bytes "0, 1") (bytes "5000, 1.4") (bytes "UU, ASU7, 0.3") (bytes "UU, BSUT, -0.1")

/-- The same with blanks, dots, and the rows in the other order. -/
def blanksTree : PropertyTree :=
  writtenTree (bytes "5000 1.4") (bytes "0  1") (bytes "UU.BSUT -0.1") (bytes "UU.ASU7\t0.3")

def commas : Platform ℚ := writtenPlatform commasTree

def blanks : Platform ℚ := writtenPlatform blanksTree

/-- The corrections of both files -/
def writtenEntries : List (Entry ℚ) :=
  [⟨bytes "UU", bytes "ASU7", 3 / 10⟩, ⟨bytes "UU", bytes "BSUT", -1 / 10⟩]

theorem stationRows_commas :
    stationRows commasTree = [bytes "UU, ASU7, 0.3", bytes "UU, BSUT, -0.1"] := by
  decide +kernel

theorem commas_areCorrections :
    List.Forall₂ IsCorrection (stationRows commasTree) writtenEntries := by
  rw [stationRows_commas]
  have hfirst : IsCorrection (bytes "UU, ASU7, 0.3")
      (⟨bytes "UU", bytes "ASU7", 3 / 10⟩ : Entry ℚ) :=
    ⟨bytes "UU", bytes "ASU7", bytes "0.3", Or.inl (by decide +kernel), by decide, by decide,
      by decide, by decide, by decide +kernel, by decide, by decide⟩
  have hsecond : IsCorrection (bytes "UU, BSUT, -0.1")
      (⟨bytes "UU", bytes "BSUT", -1 / 10⟩ : Entry ℚ) :=
    ⟨bytes "UU", bytes "BSUT", bytes "-0.1", Or.inl (by decide +kernel), by decide, by decide,
      by decide, by decide, by decide +kernel, by decide, by decide⟩
  exact .cons hfirst (.cons hsecond .nil)

/-- A spelling of the first station. -/
def asu7 : Api.StationIdentifier := { network := some (bytes "uu"), station := some (bytes "asu7") }

/-- The station is advertised with its correction. -/
theorem loaded_station_is_advertised :
    ∃ options server, Server.ofOptions {} options = .ok server ∧
      ∀ clientMetadata, server.magnitudeService.Authorizes clientMetadata →
        ∃ reactor entry, MagnitudeService.correctionsReactor server.magnitudeService
            clientMetadata { identifier := none, stationIdentifiers := [asu7] } = .ok reactor ∧
          reactor.response.stationCorrections = [entry] ∧
          IsRowEntry (F := ℚ) (stationRows commasTree)
            { mNetwork := bytes "UU", mStation := bytes "ASU7" } entry := by
  have hfile : HasFile commas (bytes "ini") commasTree := ⟨rfl, rfl⟩
  have hloaded := Rationals.eq_ok_of_isOk
    (x := readNetworkMagnitude commas (bytes "ini") commasTree) (by decide +kernel) {}
  obtain ⟨server, hserver, hadvertised⟩ := loaded_corrections_are_advertised commas
    (bytes "ini") commasTree _ hfile hloaded {}
  have hnamed : StationIdentifier.ofMessage asu7 =
      .ok { mNetwork := bytes "UU", mStation := bytes "ASU7" } := by decide +kernel
  refine ⟨_, server, hserver, fun clientMetadata hauthorized => ?_⟩
  obtain ⟨reactor, hreactor, -, hrows⟩ := hadvertised clientMetadata hauthorized
    { identifier := none, stationIdentifiers := [asu7] } fun message hmessage => by
      obtain rfl := List.mem_singleton.mp hmessage
      exact ⟨_, hnamed⟩
  obtain ⟨entry, rest, ⟨-, identifier, hidentifier, hiff⟩, hnone, hentries⟩ :=
    List.forall₂_cons_left_iff.mp hrows
  obtain rfl := List.forall₂_nil_left_iff.mp hnone
  obtain rfl := Except.ok.inj (hnamed.symm.trans hidentifier)
  exact ⟨reactor, entry, hreactor, hentries,
    hiff.mpr (isUnshared_of_isCorrection commas_areCorrections (by decide))⟩

/-- Files that say the same are loaded together, and the servers that they make answer every
call on the three routes in the same way. -/
theorem same_configurations_answer_alike (platform platform' : Platform F)
    (iniFile iniFile' : Bytes) (propertyTree propertyTree' : PropertyTree)
    (hfile : HasFile platform iniFile propertyTree)
    (hfile' : HasFile platform' iniFile' propertyTree')
    (hsame : SameConfiguration platform platform' propertyTree propertyTree') :
    ((∃ options, readNetworkMagnitude platform iniFile propertyTree = .ok options) ↔
        ∃ options, readNetworkMagnitude platform' iniFile' propertyTree' = .ok options) ∧
      ∀ options options',
        readNetworkMagnitude platform iniFile propertyTree = .ok options →
        readNetworkMagnitude platform' iniFile' propertyTree' = .ok options' →
        ∀ grpcOptions, ∃ server server',
          Server.ofOptions grpcOptions options = .ok server ∧
            Server.ofOptions grpcOptions options' = .ok server' ∧
            AnswerAlike server.magnitudeService server'.magnitudeService := by
  constructor
  · rw [ProgramOptions.exists_readNetworkMagnitude hfile.doesExist hfile.read,
      ProgramOptions.exists_readNetworkMagnitude hfile'.doesExist hfile'.read, hsame.minimum]
    exact and_congr_right fun _ =>
      ⟨hsame.hasNetworkMagnitude, hsame.symm.hasNetworkMagnitude⟩
  · intro options options' hloaded hloaded' grpcOptions
    obtain ⟨server, hserver, htoken, distanceOptions, set, hgoesBy⟩ :=
      exists_server hfile hloaded grpcOptions
    obtain ⟨server', hserver', htoken', distanceOptions', set', hgoesBy'⟩ :=
      exists_server hfile' hloaded' grpcOptions
    refine ⟨server, server', hserver, hserver', ?_⟩
    obtain ⟨distance, hdistance, hwellFormed⟩ := hgoesBy.wellFormed
    obtain ⟨distance', hdistance', hwellFormed'⟩ := hgoesBy'.wellFormed
    -- Both have loaded the one table, and sets with the same corrections.
    obtain rfl := hgoesBy'.distances.unique (hsame.loads hgoesBy.distances)
    obtain rfl := Except.ok.inj (hdistance'.symm.trans hdistance)
    obtain ⟨other, hother, -, hlookup⟩ := hsame.exists_set hgoesBy.stations
    obtain rfl := loads_unique hgoesBy'.stations hother
    have hcalculators := hwellFormed.alike hwellFormed' hlookup
      (by rw [hgoesBy'.minimum, hgoesBy.minimum, hsame.minimum])
    have halike : server.magnitudeService.Alike server'.magnitudeService :=
      ⟨hcalculators, htoken'.trans htoken.symm⟩
    exact ⟨halike.networkReactor_eq, halike.stationReactor_eq, halike.correctionsReactor_eq⟩

theorem commas_and_blanks_say_the_same : SameConfiguration commas blanks commasTree blanksTree := by
  have hnear {text : Bytes} (htokens : tokens text = [bytes "0", bytes "1"]) :
      DistanceOptions.IsNumbers (F := ℚ) text (.finite 0, .finite 1) :=
    ⟨bytes "0", bytes "1", 0, 1, htokens, by decide +kernel, by decide +kernel, rfl⟩
  have hfar {text : Bytes} (htokens : tokens text = [bytes "5000", bytes "1.4"]) :
      DistanceOptions.IsNumbers (F := ℚ) text (.finite 5000, .finite (7 / 5)) :=
    ⟨bytes "5000", bytes "1.4", 5000, 7 / 5, htokens, by decide +kernel, by decide +kernel, rfl⟩
  have htable : tableRows commasTree = [bytes "0, 1", bytes "5000, 1.4"] := by decide +kernel
  have htable' : tableRows blanksTree = [bytes "5000 1.4", bytes "0  1"] := by decide +kernel
  have hstations' : stationRows blanksTree = [bytes "UU.BSUT -0.1", bytes "UU.ASU7\t0.3"] := by
    decide +kernel
  have hinterpolation (tree : PropertyTree) (h : tree = commasTree ∨ tree = blanksTree) :
      DistanceOptions.readInterpolation tree (sectionPrefix (bytes "DistanceCorrections")) =
        .ok .nearest := by
    rcases h with rfl | rfl
    · decide +kernel
    · decide +kernel
  have htype (tree : PropertyTree) (h : tree = commasTree ∨ tree = blanksTree) :
      DistanceOptions.readDistanceType tree (sectionPrefix (bytes "DistanceCorrections")) =
        .ok .epicentral := by
    rcases h with rfl | rfl
    · decide +kernel
    · decide +kernel
  have hfirst : Says (bytes "UU, ASU7, 0.3") (bytes "UU") (bytes "ASU7") (bytes "0.3") ∧
      Says (bytes "UU.ASU7\t0.3") (bytes "UU") (bytes "ASU7") (bytes "0.3") :=
    ⟨Or.inl (by decide +kernel), Or.inr (by decide +kernel)⟩
  have hsecond : Says (bytes "UU, BSUT, -0.1") (bytes "UU") (bytes "BSUT") (bytes "-0.1") ∧
      Says (bytes "UU.BSUT -0.1") (bytes "UU") (bytes "BSUT") (bytes "-0.1") :=
    ⟨Or.inl (by decide +kernel), Or.inr (by decide +kernel)⟩
  refine
    { minimum := by decide +kernel
      strategy := by decide +kernel
      interpolation := fun _ => by rw [hinterpolation _ (.inl rfl), hinterpolation _ (.inr rfl)]
      distanceType := fun _ => by rw [htype _ (.inl rfl), htype _ (.inr rfl)]
      datum := by decide +kernel
      table := ⟨[(.finite 0, .finite 1), (.finite 5000, .finite (7 / 5))],
        [(.finite 5000, .finite (7 / 5)), (.finite 0, .finite 1)], ?_, ?_, .swap _ _ _⟩
      stations := ?_
      corrections := ⟨writtenEntries, commas_areCorrections⟩ }
  · rw [htable]
    exact .cons (hnear (by decide +kernel)) (.cons (hfar (by decide +kernel)) .nil)
  · rw [htable']
    exact .cons (hfar (by decide +kernel)) (.cons (hnear (by decide +kernel)) .nil)
  · rw [stationRows_commas, hstations']
    exact ⟨_, .cons ⟨_, _, _, hfirst⟩ (.cons ⟨_, _, _, hsecond⟩ .nil), .swap _ _ _⟩

/-- Two files that are written differently. -/
theorem commas_and_blanks_answer_alike :
    (∃ options, readNetworkMagnitude blanks (bytes "ini") blanksTree = .ok options) ∧
      ∀ options options',
        readNetworkMagnitude commas (bytes "ini") commasTree = .ok options →
        readNetworkMagnitude blanks (bytes "ini") blanksTree = .ok options' →
        ∀ grpcOptions, ∃ server server',
          Server.ofOptions grpcOptions options = .ok server ∧
            Server.ofOptions grpcOptions options' = .ok server' ∧
            AnswerAlike server.magnitudeService server'.magnitudeService := by
  have h := same_configurations_answer_alike commas blanks (bytes "ini") (bytes "ini") commasTree
    blanksTree ⟨rfl, rfl⟩ ⟨rfl, rfl⟩ commas_and_blanks_say_the_same
  exact ⟨h.1.mp ⟨_, Rationals.eq_ok_of_isOk (by decide +kernel) {}⟩, h.2⟩

end Properties
end ULocalMagnitude
