import ULocalMagnitude.Grpc.NetworkAnswers
import ULocalMagnitude.Properties.Configurations

/-!
# The service that a file describes

An initialization file describes a network: a table with the numbers of its rows, the
stations of its rows, and a minimum.  The server that is made of the file is the service of
that network, on each of its three routes, for stations that are told apart: no two of them
have one name, nor do they share theirs with another one in the file.
-/

namespace ULocalMagnitude
namespace Properties

open Cxx Configuration Corrections Grpc
open Corrections.Distance (interpolationOf)
open Grpc.MagnitudeService (decode)
open Magnitude (NetworkMagnitudeCalculatorOptions Observation readingOf)
open Magnitude.NetworkMagnitudeCalculator (Knows)
open ProgramOptions (minimumIn readNetworkMagnitude)
open Richter (Network)

variable {F : Type} [ExactArithmetic F]

/-- The table is read at distances with this datum, or at epicentral distances. -/
def DescribesDistances (platform : Platform F) (propertyTree : PropertyTree) : Option F → Prop
  | none => DistanceOptions.readDistanceType propertyTree
      (sectionPrefix (bytes "DistanceCorrections")) = .ok .epicentral
  | some datum => DistanceOptions.readDistanceType propertyTree
        (sectionPrefix (bytes "DistanceCorrections")) = .ok .hypocentral ∧
      DistanceOptions.datumIn platform.toDouble propertyTree
        (sectionPrefix (bytes "DistanceCorrections")) = .finite datum

/-- The file describes the network: the rows of its table have the nodes in some order, and
the rows of its stations, by their two codes, have the corrections, all of which are numbers. -/
structure Describes (platform : Platform F) (propertyTree : PropertyTree)
    (network : Network (Bytes × Bytes) F) : Prop where
  mode : DistanceOptions.readInterpolation propertyTree
    (sectionPrefix (bytes "DistanceCorrections")) = .ok (interpolationOf network.mode)
  distances : DescribesDistances platform propertyTree network.datum
  nodes : ∃ rows : List (Double F × Double F),
    List.Forall₂ DistanceOptions.IsNumbers (tableRows propertyTree) rows ∧
      (network.nodes.map fun node => (Double.finite node.1, Double.finite node.2)).Perm rows
  numbers : ∀ text ∈ stationRows propertyTree, ∀ station : Station F,
    StationsSet.IsReadAs text station → station.mCorrection.isFinite = true
  stations : ∀ codes correction, network.correction codes = some correction ↔
    ∃ text ∈ stationRows propertyTree, ∃ station : Station F,
      StationsSet.IsReadAs text station ∧ station.identifier.codes = codes ∧
        station.mCorrection = .finite correction
  minimum : network.minimum = minimumIn platform.boost propertyTree
  lower : network.lower = -10
  upper : network.upper = 10

section Described

variable {platform : Platform F} {propertyTree : PropertyTree}
  {network : Network (Bytes × Bytes) F}

/-- Nodes in increasing order are what their rows are sorted to. -/
theorem sortByDistance_of_perm {nodes : List (F × F)} {rows : List (Double F × Double F)}
    (hincreasing : nodes.Pairwise fun node node' => node.1 < node'.1)
    (hperm : (nodes.map fun node => (Double.finite node.1, Double.finite node.2)).Perm rows)
    (haccepts : DistanceOptions.Accepts rows) :
    DistanceOptions.sortByDistance rows =
      nodes.map fun node => (Double.finite node.1, Double.finite node.2) := by
  have hstored : (nodes.map fun node => (Double.finite node.1, Double.finite node.2)) =
      storedRows (nodes.map fun node => (node.1, Double.finite node.2)) := by
    unfold storedRows
    rw [List.map_map]
    rfl
  rw [hstored] at hperm ⊢
  have hfinite : ∀ item ∈ rows, item.1.isFinite = true := by
    intro item hitem
    obtain ⟨row, -, rfl⟩ := List.mem_map.mp (hperm.mem_iff.mpr hitem)
    rfl
  obtain ⟨rows, rfl⟩ := exists_storedRows hfinite
  obtain ⟨after, hafter⟩ := haccepts
  obtain ⟨-, -, hseparated, -⟩ := DistanceOptions.call_setCorrections_storedRows.mp hafter
  have hsorted : (nodes.map fun node => (node.1, Double.finite node.2)).Pairwise
      fun a b => a.1 ≤ b.1 := List.pairwise_map.mpr (hincreasing.imp le_of_lt)
  obtain ⟨sorted, hsortedRows, hpermRows, hincreasingRows⟩ := DistanceOptions.exists_sorted rows
  rw [hsortedRows, DistanceOptions.sorted_eq hpermRows hincreasingRows hseparated,
    ← DistanceOptions.sorted_eq (storedRows_perm.mp hperm) hsorted hseparated]

/-- The options that are loaded make the table of the network. -/
theorem Describes.realizes (h : Describes platform propertyTree network)
    {options : DistanceOptions F}
    (hloads : DistanceOptions.Loads platform.toDouble propertyTree
      (sectionPrefix (bytes "DistanceCorrections")) options) {distance : Distance F}
    (hdistance : Distance.ofOptions options = .ok distance) : distance.Realizes network := by
  have hoptions := Distance.options_of_ofOptions hdistance
  obtain ⟨interpolation, type, rows, hinterpolation, htype, -, hstarts, haccepts, rfl⟩ := hloads
  obtain ⟨numbers, hnumbers, hperm⟩ := h.nodes
  obtain rfl : rows = numbers := rows_unique hstarts (startsWithNumbers_of_isNumbers hnumbers)
  refine ⟨?_, ?_, ?_, ?_⟩
  · rw [Distance.HasNodes, hoptions]
    exact sortByDistance_of_perm network.increasing hperm haccepts
  · rw [hoptions]
    exact Except.ok.inj (hinterpolation.symm.trans h.mode)
  · rw [hoptions]
    have hdistances := h.distances
    cases hdatum : network.datum with
    | none =>
        rw [hdatum] at hdistances
        obtain rfl := Except.ok.inj (htype.symm.trans hdistances)
        exact iff_of_false nofun Bool.false_ne_true
    | some datum =>
        rw [hdatum] at hdistances
        obtain rfl := Except.ok.inj (htype.symm.trans hdistances.1)
        exact iff_of_true rfl rfl
  · intro datum hdatum
    rw [hoptions]
    have hdistances := h.distances
    rw [Option.mem_def.mp hdatum] at hdistances
    obtain rfl := Except.ok.inj (htype.symm.trans hdistances.1)
    unfold DistanceOptions.optionsOf
    rw [if_pos rfl]
    exact hdistances.2

/-- The set that is loaded knows the stations that share their names with no other one. -/
theorem Describes.knows (h : Describes platform propertyTree network) {set : StationsSet F}
    (hloads : StationsSet.Loads propertyTree (sectionPrefix (bytes "StationCorrections")) set)
    {identifier : StationIdentifier}
    (hunshared : IsUnshared F (stationRows propertyTree) identifier) :
    Knows network set identifier := by
  obtain ⟨stations, hread, hnodup, rfl⟩ := hloads
  have hlookup {station : Station F} :
      (StationsSet.withStations {} stations).mCorrections.lookup identifier.name = some station ↔
        station ∈ stations ∧ station.name = identifier.name :=
    StationsSet.lookup_withStations hnodup
  unfold Knows
  cases hfound : (StationsSet.withStations {} stations).mCorrections.lookup
      identifier.name with
  | some station =>
      obtain ⟨hmem, hname⟩ := hlookup.mp hfound
      obtain ⟨text, htext, hrow⟩ := exists_row_of_mem hread hmem
      have hcodes : station.identifier.codes = identifier.codes :=
        congrArg StationIdentifier.codes (((StationIdentifier.name_eq_name_iff _ _).mp
          hname).resolve_right (hunshared text htext station hrow))
      obtain ⟨correction, hcorrection⟩ := Double.exists_finite (h.numbers text htext station hrow)
      rw [(h.stations _ correction).mpr ⟨text, htext, station, hrow, hcodes, hcorrection⟩,
        Option.map_some, Option.map_some, hcorrection]
  | none =>
      cases hcorrection : network.correction identifier.codes with
      | none => rfl
      | some correction =>
          obtain ⟨text, htext, station, hrow, hcodes, -⟩ :=
            (h.stations _ correction).mp hcorrection
          have hname : station.name = identifier.name :=
            congrArg StationIdentifier.name (StationIdentifier.codes_injective hcodes)
          -- The row is one of those that were read.
          obtain ⟨other, hother, hrow'⟩ := exists_row_of_mem hread.flip htext
          obtain rfl : other = station := isReadAs_unique hrow' hrow
          cases hfound.symm.trans (hlookup.mpr ⟨hother, hname⟩)

end Described

/-- No two of the stations have one name, and none shares its name with another station in
the rows. -/
structure ToldApart (F : Type) [ExactArithmetic F] (texts : List Bytes)
    (stations : List StationIdentifier) : Prop where
  rows : ∀ identifier ∈ stations, IsUnshared F texts identifier
  stations : ∀ identifier ∈ stations, ∀ identifier' ∈ stations, ¬ OneName identifier identifier'

/-- The server of a file is the service of the network that the file describes.  A request
with observations at stations that are told apart is answered with the average of their readings
or with the reason why there is none, and at the other endpoint with the magnitudes of the
readings; stations are told with their corrections. -/
theorem loaded_service_is_its_network (platform : Platform F) (iniFile : Bytes)
    (propertyTree : PropertyTree) (options : NetworkMagnitudeCalculatorOptions F)
    (hfile : HasFile platform iniFile propertyTree)
    (hloaded : readNetworkMagnitude platform iniFile propertyTree = .ok options)
    (network : Network (Bytes × Bytes) F)
    (hdescribes : Describes platform propertyTree network) (grpcOptions : ServerOptions) :
    ∃ server, Server.ofOptions grpcOptions options = .ok server ∧
      ∀ clientMetadata, server.magnitudeService.Authorizes clientMetadata →
        (∀ inverse version, ∀ request : Api.NetworkMagnitudeFromAmplitudesRequest F,
          ∀ observations, decode inverse request.hypocenter
              request.stationAmplitudeMeasurements = .ok observations →
            ToldApart F (stationRows propertyTree) (observations.map Observation.station) →
            ∃ reactor, MagnitudeService.networkReactor inverse version server.magnitudeService
                clientMetadata request = .ok reactor ∧
              TellsAnswer reactor
                ((network.assessment Arithmetic.log10 Arithmetic.hypot).average
                  (observations.map readingOf))) ∧
        (∀ inverse version, ∀ request : Api.StationMagnitudesFromAmplitudesRequest F,
          ∀ observations, decode inverse request.hypocenter
              request.stationAmplitudeMeasurements = .ok observations →
            (∀ o ∈ observations, IsUnshared F (stationRows propertyTree) o.station) →
            ∃ reactor, MagnitudeService.stationReactor inverse version server.magnitudeService
                clientMetadata request = .ok reactor ∧
              reactor.Answers .ok ∧
              List.Forall₂ TellsTerms reactor.response.stationMagnitudes
                ((observations.map readingOf).filterMap
                  (network.assessment Arithmetic.log10 Arithmetic.hypot).accepted)) ∧
        ∀ request : Api.StationCorrectionsRequest,
          (∀ message ∈ request.stationIdentifiers, ∃ identifier,
            StationIdentifier.ofMessage message = .ok identifier) →
          ∃ reactor, MagnitudeService.correctionsReactor server.magnitudeService clientMetadata
              request = .ok reactor ∧
            reactor.Answers .ok ∧
            List.Forall₂ (fun message entry => ∀ identifier,
                StationIdentifier.ofMessage message = .ok identifier →
                IsUnshared F (stationRows propertyTree) identifier →
                  TellsCorrection network message entry)
              request.stationIdentifiers reactor.response.stationCorrections := by
  obtain ⟨server, hserver, -, distanceOptions, set, hgoesBy⟩ :=
    exists_server hfile hloaded grpcOptions
  obtain ⟨distance, hdistance, hwellFormed⟩ := hgoesBy.wellFormed
  have hrealizes : server.magnitudeService.mCalculator.Realizes network distance set :=
    { wellFormed := hwellFormed
      distance := hdescribes.realizes hgoesBy.distances hdistance
      minimum := hgoesBy.minimum.trans hdescribes.minimum.symm
      lower := hdescribes.lower
      upper := hdescribes.upper }
  refine ⟨server, hserver, fun clientMetadata hauthorized => ⟨?_, ?_, ?_⟩⟩
  · intro inverse version request observations hdecoded hapart
    refine MagnitudeService.tellsAnswer_networkReactor hrealizes hauthorized version hdecoded
      (fun o ho => ?_) fun o ho o' ho' => ?_
    · exact hdescribes.knows hgoesBy.stations (hapart.rows _ (List.mem_map_of_mem ho))
    · exact hapart.stations _ (List.mem_map_of_mem ho) _ (List.mem_map_of_mem ho')
  · intro inverse version request observations hdecoded hunshared
    exact MagnitudeService.tellsTerms_stationReactor hrealizes hauthorized version hdecoded
      fun o ho => hdescribes.knows hgoesBy.stations (hunshared o ho)
  · intro request hnamed
    obtain ⟨reactor, hreactor, hok, hentries⟩ :=
      MagnitudeService.tellsCorrection_correctionsReactor hrealizes hauthorized request hnamed
    refine ⟨reactor, hreactor, hok, hentries.imp fun message entry hentry identifier hidentifier
      hunshared => ?_⟩
    exact hentry identifier hidentifier (hdescribes.knows hgoesBy.stations hunshared)

/-- The network of the file with commas. -/
def commasNetwork : Network (Bytes × Bytes) ℚ where
  nodes := [(0, 1), (5000, 7 / 5)]
  nonempty := List.cons_ne_nil _ _
  increasing := by decide +kernel
  mode := .nearest
  datum := none
  correction codes :=
    if codes = (bytes "UU", bytes "ASU7") then some (3 / 10)
    else if codes = (bytes "UU", bytes "BSUT") then some (-1 / 10)
    else none
  minimum := 2
  lower := -10
  upper := 10

theorem commas_describe : Describes commas commasTree commasNetwork := by
  have htable : tableRows commasTree = [bytes "0, 1", bytes "5000, 1.4"] := by decide +kernel
  have hnear : DistanceOptions.IsNumbers (F := ℚ) (bytes "0, 1") (.finite 0, .finite 1) :=
    ⟨bytes "0", bytes "1", 0, 1, by decide +kernel, by decide +kernel, by decide +kernel, rfl⟩
  have hfar : DistanceOptions.IsNumbers (F := ℚ) (bytes "5000, 1.4")
      (.finite 5000, .finite (7 / 5)) :=
    ⟨bytes "5000", bytes "1.4", 5000, 7 / 5, by decide +kernel, by decide +kernel,
      by decide +kernel, rfl⟩
  -- The rows are read as the stations of the two corrections, and as nothing else.
  have hrows (text : Bytes) (htext : text ∈ stationRows commasTree) (station : Station ℚ)
      (hrow : StationsSet.IsReadAs text station) :
      ∃ entry ∈ writtenEntries, entry.toStation = station := by
    obtain ⟨entry, hentry, hwritten⟩ := exists_row_of_mem commas_areCorrections.flip htext
    exact ⟨entry, hentry, isReadAs_unique (IsCorrection.isReadAs hwritten) hrow⟩
  have hentries (entry : Entry ℚ) (hentry : entry ∈ writtenEntries) :
      commasNetwork.correction entry.codes = some entry.correction := by
    revert entry
    decide +kernel
  refine
    { mode := by decide +kernel
      distances := (by decide +kernel : DistanceOptions.readDistanceType commasTree
        (sectionPrefix (bytes "DistanceCorrections")) = .ok .epicentral)
      nodes := ⟨[(.finite 0, .finite 1), (.finite 5000, .finite (7 / 5))], ?_, .refl _⟩
      numbers := ?_
      stations := fun codes correction => ⟨?_, ?_⟩
      minimum := by decide +kernel
      lower := rfl
      upper := rfl }
  · rw [htable]
    exact .cons hnear (.cons hfar .nil)
  · intro text htext station hrow
    obtain ⟨entry, -, rfl⟩ := hrows text htext station hrow
    rfl
  · intro h
    obtain ⟨entry, hentry, rfl, rfl⟩ : ∃ entry ∈ writtenEntries, entry.codes = codes ∧
        entry.correction = correction := by
      unfold commasNetwork at h
      dsimp only at h
      split at h
      · rename_i hcodes
        exact ⟨_, List.mem_cons_self, hcodes.symm, Option.some.inj h⟩
      split at h
      · rename_i hcodes
        exact ⟨_, List.mem_cons_of_mem _ List.mem_cons_self, hcodes.symm, Option.some.inj h⟩
      · cases h
    obtain ⟨text, htext, hwritten⟩ := exists_row_of_mem commas_areCorrections hentry
    exact ⟨text, htext, entry.toStation, IsCorrection.isReadAs hwritten, rfl, rfl⟩
  · rintro ⟨text, htext, station, hrow, rfl, hcorrection⟩
    obtain ⟨entry, hentry, rfl⟩ := hrows text htext station hrow
    rw [← Double.finite.inj hcorrection]
    exact hentries entry hentry

/-- The two stations of the file and one that it does not have are averaged as the network
averages them. -/
theorem commas_service_is_its_network :
    ∃ options server, readNetworkMagnitude commas (bytes "ini") commasTree = .ok options ∧
      Server.ofOptions {} options = .ok server ∧
      ∀ clientMetadata, server.magnitudeService.Authorizes clientMetadata →
        ∃ reactor, MagnitudeService.networkReactor Rationals.inverse Rationals.version
            server.magnitudeService clientMetadata Rationals.request = .ok reactor ∧
          TellsAnswer reactor
            ((commasNetwork.assessment Arithmetic.log10 Arithmetic.hypot).average
              (Rationals.observations.map readingOf)) := by
  have hfile : HasFile commas (bytes "ini") commasTree := ⟨rfl, rfl⟩
  have hloaded := Rationals.eq_ok_of_isOk
    (x := readNetworkMagnitude commas (bytes "ini") commasTree) (by decide +kernel) {}
  obtain ⟨server, hserver, htells⟩ := loaded_service_is_its_network commas (bytes "ini")
    commasTree _ hfile hloaded commasNetwork commas_describe {}
  have hdecoded : decode Rationals.inverse Rationals.request.hypocenter
      Rationals.request.stationAmplitudeMeasurements = .ok Rationals.observations := by
    decide +kernel
  have hnetworks : ∀ o ∈ Rationals.observations, Magnitude.dot ∉ o.station.mNetwork := by
    decide +kernel
  have hapart : ToldApart ℚ (stationRows commasTree)
      (Rationals.observations.map Observation.station) := by
    refine ⟨List.forall_mem_map.mpr fun o ho => ?_, List.forall_mem_map.mpr fun o ho =>
      List.forall_mem_map.mpr fun o' ho' => ?_⟩
    · exact isUnshared_of_isCorrection commas_areCorrections (hnetworks o ho)
    · exact not_confusable_of_not_mem (hnetworks o ho) (hnetworks o' ho')
  exact ⟨_, server, hloaded, hserver, fun clientMetadata hauthorized =>
    (htells clientMetadata hauthorized).1 _ Rationals.version Rationals.request _ hdecoded hapart⟩

end Properties
end ULocalMagnitude
