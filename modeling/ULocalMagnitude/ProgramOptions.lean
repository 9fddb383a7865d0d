import ULocalMagnitude.Configuration.OTelOptions
import ULocalMagnitude.Corrections.DistanceFile
import ULocalMagnitude.Corrections.Lookup
import ULocalMagnitude.Corrections.StationsFile
import ULocalMagnitude.Grpc.ServerFile
import ULocalMagnitude.Magnitude.NetworkMagnitudeCalculatorOptions

/-!
# Options of the program

`programOptions.hpp`.  `parseInitializationFile` loads the options of the network magnitude
with their corrections, the server's options and the options of the exporters.  The options
of the network magnitude are checked and then dropped.
-/

namespace ULocalMagnitude

open Cxx Configuration Corrections Grpc
open Configuration.OTelOptions
open Magnitude (NetworkMagnitudeCalculatorOptions Strategy)
open Magnitude.NetworkMagnitudeCalculatorOptions

variable {F : Type} [ExactArithmetic F]

/-- What the program runs on; `toDouble` is the translator behind `get<double>`. -/
structure Platform (F : Type) where
  files : FileSystem
  boost : Boost
  toDouble : Bytes → Option (Double F)
  environment : Environment

/-- The interval of the summary is in seconds. -/
structure ProgramOptions (F : Type) [ExactArithmetic F] where
  otelHTTPMetricsOptions : HTTPMetrics := {}
  otelHTTPLogOptions : HTTPLog := {}
  otelGRPCMetricsOptions : GRPCMetrics := {}
  otelGRPCLogOptions : GRPCLog := {}
  applicationName : Bytes := bytes "uLocalMagnitudeService"
  printSummaryInterval : Int := 900
  grpcServerOptions : ServerOptions := {}
  networkMagnitudeCalculatorOptions : NetworkMagnitudeCalculatorOptions F := {}
  verbosity : Int := 3
  exportLogs : Bool := false
  exportLogsWithHTTP : Bool := true
  exportMetrics : Bool := false
  exportMetricsWithHTTP : Bool := true

namespace ProgramOptions

/-! ## The initialization file -/

/-- The application's name, its verbosity and the interval of its summary.  The default of
the interval is in seconds, but what is read counts as minutes. -/
def readGeneral (boost : Boost) (propertyTree : PropertyTree) (options : ProgramOptions F) :
    ProgramOptions F :=
  let applicationName :=
    propertyTree.getString (bytes "General.applicationName") options.applicationName
  let summaryIntervalInMinutes := propertyTree.getValue boost.toInt
    (bytes "General.printSummaryIntervalInMinutes") options.printSummaryInterval
  { options with
    applicationName :=
      if applicationName = [] then bytes "uLocalMagnitudeService" else applicationName
    verbosity := propertyTree.getValue boost.toInt (bytes "General.verbosity") options.verbosity
    printSummaryInterval := 60 * summaryIntervalInMinutes }

def readStrategy (propertyTree : PropertyTree) : Throws Strategy :=
  let networkMagnitudeStrategy :=
    toLower (propertyTree.getString (bytes "NetworkMagnitude.strategy") (bytes "average"))
  if networkMagnitudeStrategy = bytes "average" then return .average
  else .error (.invalidArgument ("Unhandled network mag strategy " ++
    toText networkMagnitudeStrategy ++ "; only 'average' implemented"))

/-- The options of the network magnitude -/
def readNetworkMagnitude (platform : Platform F) (iniFile : Bytes)
    (propertyTree : PropertyTree) : Throws (NetworkMagnitudeCalculatorOptions F) := do
  let options : NetworkMagnitudeCalculatorOptions F := {}
  let minStationMagnitudes := propertyTree.getValue platform.boost.toInt
    (bytes "NetworkMagnitude.minimumNumberOfStationMagnitudes")
    options.getMinimumNumberOfStationMagnitudes
  let options ← (setMinimumNumberOfStationMagnitudes
    minStationMagnitudes).call options
  let strategy ← readStrategy propertyTree
  let options ← (setStrategy strategy).call options
  let distanceCorrectionsOptions ← DistanceOptions.fromInitializationFile platform.files
    platform.boost platform.toDouble iniFile (bytes "DistanceCorrections")
  let distanceCorrections ← Distance.ofOptions distanceCorrectionsOptions
  let options ← (setDistanceCorrections
    distanceCorrections).call options
  let stationCorrections ← StationsSet.fromInitializationFile platform.files platform.boost
    iniFile (bytes "StationCorrections")
  (setStationCorrections stationCorrections).call options

/-- Where logs go: with HTTP if there is such a section, otherwise with gRPC. -/
def readLogs (platform : Platform F) (propertyTree : PropertyTree) (options : ProgramOptions F) :
    Throws (ProgramOptions F) := do
  match getHTTPLogOptionsFromIniFile platform.boost platform.environment propertyTree
      (bytes "OTelHTTPLogOptions") with
  | some httpLog =>
      return { options with
        otelHTTPLogOptions := httpLog, exportLogs := true, exportLogsWithHTTP := true }
  | none => do
      match ← getGRPCLogOptionsFromIniFile platform.files platform.boost platform.environment
          propertyTree (bytes "OTelGRPCLogOptions") with
      | some grpcLog =>
          return { options with
            otelGRPCLogOptions := grpcLog, exportLogs := true, exportLogsWithHTTP := false }
      | none => return { options with exportLogs := false }

/-- Where metrics go, in the same way. -/
def readMetrics (platform : Platform F) (propertyTree : PropertyTree)
    (options : ProgramOptions F) : Throws (ProgramOptions F) := do
  match ← getHTTPMetricsOptionsFromIniFile platform.boost platform.environment propertyTree
      (bytes "OTelHTTPMetricsOptions") with
  | some httpMetrics =>
      return { options with
        otelHTTPMetricsOptions := httpMetrics
        exportMetrics := true
        exportMetricsWithHTTP := true }
  | none => do
      match ← getGRPCMetricsOptionsFromIniFile platform.files platform.boost
          platform.environment propertyTree (bytes "OTelGRPCMetricsOptions") with
      | some grpcMetrics =>
          return { options with
            otelGRPCMetricsOptions := grpcMetrics
            exportMetrics := true
            exportMetricsWithHTTP := false }
      | none => return { options with exportMetrics := false }

def parseInitializationFile (platform : Platform F) (iniFile : Bytes) :
    Throws (ProgramOptions F) := do
  let options : ProgramOptions F := {}
  if !platform.files.doesExist iniFile then return options
  else do
    let propertyTree ← platform.boost.readIni iniFile
    let options := readGeneral platform.boost propertyTree options
    -- A local variable of the source; the member of the same name keeps its defaults.
    let _networkMagnitudeCalculatorOptions ←
      readNetworkMagnitude platform iniFile propertyTree
    let grpcServerOptions ← ServerOptions.fromInitializationFile platform.files platform.boost
      iniFile (bytes "GRPCServer")
    let options := { options with grpcServerOptions }
    let options ← readLogs platform propertyTree options
    readMetrics platform propertyTree options

/-! ## Which files can be parsed -/

/-- The minimum of a file -/
def minimumIn (boost : Boost) (propertyTree : PropertyTree) : Int :=
  propertyTree.getValue boost.toInt
    (bytes "NetworkMagnitude.minimumNumberOfStationMagnitudes") 2

/-- Everything but the minimum that the options of the network magnitude need. -/
structure HasNetworkMagnitude (platform : Platform F) (propertyTree : PropertyTree) : Prop where
  strategy : toLower (propertyTree.getString (bytes "NetworkMagnitude.strategy")
    (bytes "average")) = bytes "average"
  distances : ∃ options, DistanceOptions.Loads platform.toDouble propertyTree
    (sectionPrefix (bytes "DistanceCorrections")) options
  stations : ∃ set : StationsSet F, StationsSet.Loads propertyTree
    (sectionPrefix (bytes "StationCorrections")) set ∧ set.empty = false

/-- Metrics have a section for HTTP that can be read, or none, and then gRPC is compiled in
and has the same. -/
def HasMetrics (platform : Platform F) (propertyTree : PropertyTree) : Prop :=
  if (propertyTree (bytes "OTelHTTPMetricsOptions")).isSome then
    getOTelCollectorURL platform.boost platform.environment propertyTree
        (bytes "OTelHTTPMetricsOptions") ≠ [] →
      HasPositiveTimes platform.environment propertyTree (bytes "OTelHTTPMetricsOptions")
  else platform.environment.withOtlpGrpc = true ∧
    ((propertyTree (bytes "OTelGRPCMetricsOptions")).isSome →
      HasPositiveTimes platform.environment propertyTree (bytes "OTelGRPCMetricsOptions"))

/-- The file can be parsed, as far as the minimum is not concerned. -/
structure CanBeParsed (platform : Platform F) (propertyTree : PropertyTree) : Prop where
  networkMagnitude : HasNetworkMagnitude platform propertyTree
  server : ∃ options, ServerOptions.Reads platform.files platform.boost propertyTree
    (sectionPrefix (bytes "GRPCServer")) options
  logs : (propertyTree (bytes "OTelHTTPLogOptions")).isSome ∨
    platform.environment.withOtlpGrpc = true
  metrics : HasMetrics platform propertyTree

section Parsed

variable {platform : Platform F} {propertyTree : PropertyTree} {iniFile : Bytes}
  {options after : ProgramOptions F}

theorem readStrategy_eq_ok {strategy : Strategy} :
    readStrategy propertyTree = .ok strategy ↔
      toLower (propertyTree.getString (bytes "NetworkMagnitude.strategy") (bytes "average")) =
        bytes "average" := by
  unfold readStrategy
  dsimp only
  split_ifs with haverage
  · cases strategy
    exact iff_of_true rfl haverage
  · exact iff_of_false (fun h => nomatch h) haverage

/-- Options that are loaded make distance corrections. -/
theorem exists_distance {distanceOptions : DistanceOptions F} {sectionName : Bytes}
    (h : DistanceOptions.Loads platform.toDouble propertyTree sectionName distanceOptions) :
    ∃ distance, Distance.ofOptions distanceOptions = .ok distance ∧
      distance.isInitialized = true := by
  have hreachable := h.isReachable
  obtain ⟨interpolation, type, rows, -, -, -, -, -, rfl⟩ := h
  obtain ⟨distance, hdistance, -⟩ := Distance.exists_ofOptions hreachable rfl rfl rfl
  have hdistanceReachable : distance.IsReachable := ⟨_, hreachable, hdistance⟩
  exact ⟨distance, hdistance, hdistanceReachable.inv.initialized⟩

theorem exists_readNetworkMagnitude (hexists : platform.files.doesExist iniFile = true)
    (hread : platform.boost.readIni iniFile = .ok propertyTree) :
    (∃ networkMagnitude, readNetworkMagnitude platform iniFile propertyTree =
      .ok networkMagnitude) ↔
      1 ≤ minimumIn platform.boost propertyTree ∧
        HasNetworkMagnitude platform propertyTree := by
  unfold readNetworkMagnitude
  constructor
  · rintro ⟨_, h⟩
    obtain ⟨_, hminimum, h⟩ := bind_eq_ok.mp h
    obtain ⟨_, hstrategy, h⟩ := bind_eq_ok.mp h
    obtain ⟨_, -, h⟩ := bind_eq_ok.mp h
    obtain ⟨distanceOptions, hdistances, h⟩ := bind_eq_ok.mp h
    obtain ⟨_, -, h⟩ := bind_eq_ok.mp h
    obtain ⟨_, -, h⟩ := bind_eq_ok.mp h
    obtain ⟨set, hstations, h⟩ := bind_eq_ok.mp h
    have hminimum' := call_setMinimumNumberOfStationMagnitudes_eq_ok.mp hminimum
    have hnonempty := (call_setStationCorrections_eq_ok.mp h).1
    refine ⟨hminimum'.1, readStrategy_eq_ok.mp hstrategy, ⟨distanceOptions, ?_⟩, set, ?_,
      hnonempty⟩
    · exact (DistanceOptions.fromInitializationFile_eq_ok hexists hread).mp hdistances
    · exact (StationsSet.fromInitializationFile_eq_ok hexists hread).mp hstations
  · rintro ⟨hminimum, hstrategy, ⟨distanceOptions, hdistances⟩, set, hstations, hnonempty⟩
    -- Corrections can be made from options that were loaded, so only the checks of the
    -- setters are left.
    obtain ⟨distance, hdistance, hinitialized⟩ := exists_distance hdistances
    have hdistances' :=
      (DistanceOptions.fromInitializationFile_eq_ok hexists hread).mpr hdistances
    have hstations' := (StationsSet.fromInitializationFile_eq_ok hexists hread).mpr hstations
    refine ⟨{ mDistanceCorrections := some distance
              mStationCorrections := set
              mMinimumNumberOfStationMagnitudes := minimumIn platform.boost propertyTree
              mHasDistanceCorrections := true
              mHasStationCorrections := true }, ?_⟩
    refine bind_eq_ok.mpr ⟨_,
      call_setMinimumNumberOfStationMagnitudes_eq_ok.mpr ⟨hminimum, rfl⟩, ?_⟩
    refine bind_eq_ok.mpr ⟨.average, readStrategy_eq_ok.mpr hstrategy, ?_⟩
    refine bind_eq_ok.mpr ⟨_, rfl, bind_eq_ok.mpr ⟨_, hdistances', ?_⟩⟩
    refine bind_eq_ok.mpr ⟨_, hdistance, bind_eq_ok.mpr ⟨_,
      call_setDistanceCorrections_eq_ok.mpr ⟨hinitialized, rfl⟩, ?_⟩⟩
    exact bind_eq_ok.mpr ⟨set, hstations',
      call_setStationCorrections_eq_ok.mpr ⟨hnonempty, rfl⟩⟩

/-- The options that are loaded have the minimum, the table and the stations of the file. -/
theorem loaded_of_readNetworkMagnitude (hexists : platform.files.doesExist iniFile = true)
    (hread : platform.boost.readIni iniFile = .ok propertyTree)
    {networkMagnitude : NetworkMagnitudeCalculatorOptions F}
    (h : readNetworkMagnitude platform iniFile propertyTree = .ok networkMagnitude) :
    ∃ distanceOptions distance set,
      DistanceOptions.Loads platform.toDouble propertyTree
        (sectionPrefix (bytes "DistanceCorrections")) distanceOptions ∧
      Distance.ofOptions distanceOptions = .ok distance ∧
      StationsSet.Loads propertyTree (sectionPrefix (bytes "StationCorrections")) set ∧
      networkMagnitude =
        { mDistanceCorrections := some distance
          mStationCorrections := set
          mMinimumNumberOfStationMagnitudes := minimumIn platform.boost propertyTree
          mHasDistanceCorrections := true
          mHasStationCorrections := true } ∧
      networkMagnitude.IsReachable := by
  unfold readNetworkMagnitude at h
  obtain ⟨_, hminimum, h⟩ := bind_eq_ok.mp h
  obtain ⟨strategy, -, h⟩ := bind_eq_ok.mp h
  obtain ⟨_, hsetStrategy, h⟩ := bind_eq_ok.mp h
  obtain ⟨distanceOptions, hdistances, h⟩ := bind_eq_ok.mp h
  obtain ⟨distance, hdistance, h⟩ := bind_eq_ok.mp h
  obtain ⟨_, hsetDistances, h⟩ := bind_eq_ok.mp h
  obtain ⟨set, hstations, h⟩ := bind_eq_ok.mp h
  have hdistances' := (DistanceOptions.fromInitializationFile_eq_ok hexists hread).mp hdistances
  have hstations' := (StationsSet.fromInitializationFile_eq_ok hexists hread).mp hstations
  have hnew : NetworkMagnitudeCalculatorOptions.IsReachable
      ({} : NetworkMagnitudeCalculatorOptions F) := .init rfl
  have hreachable := (((hnew.call_eq_ok (i := .minimumNumberOfStationMagnitudes _) trivial
    hminimum).call_eq_ok (i := .strategy strategy) trivial hsetStrategy).call_eq_ok
    (i := .distanceCorrections distance) ⟨_, hdistances'.isReachable, hdistance⟩
    hsetDistances).call_eq_ok (i := .stationCorrections set) hstations'.isReachable h
  refine ⟨distanceOptions, distance, set, hdistances', hdistance, hstations', ?_, hreachable⟩
  obtain ⟨-, rfl⟩ := call_setMinimumNumberOfStationMagnitudes_eq_ok.mp hminimum
  obtain rfl := Except.ok.inj hsetStrategy
  obtain ⟨-, rfl⟩ := call_setDistanceCorrections_eq_ok.mp hsetDistances
  obtain ⟨-, rfl⟩ := call_setStationCorrections_eq_ok.mp h
  cases strategy
  rfl

theorem exists_readLogs :
    (∃ after, readLogs platform propertyTree options = .ok after) ↔
      (propertyTree (bytes "OTelHTTPLogOptions")).isSome ∨
        platform.environment.withOtlpGrpc = true := by
  unfold readLogs getHTTPLogOptionsFromIniFile
  cases propertyTree (bytes "OTelHTTPLogOptions") with
  | some text => exact iff_of_true ⟨_, rfl⟩ (Or.inl rfl)
  | none =>
      -- What follows the section for gRPC can not fail.
      have htotal (grpcLog : Option GRPCLog) : ∃ after, (match grpcLog with
          | some grpcLog => pure { options with
              otelGRPCLogOptions := grpcLog, exportLogs := true, exportLogsWithHTTP := false }
          | none => pure { options with exportLogs := false } : Throws (ProgramOptions F)) =
            .ok after := by
        cases grpcLog with
        | none => exact ⟨_, rfl⟩
        | some grpcLog => exact ⟨_, rfl⟩
      refine (exists_bind_eq_ok fun grpcLog _ => htotal grpcLog).trans ?_
      rw [exists_getGRPCLogOptionsFromIniFile]
      exact ⟨Or.inr, fun h => h.resolve_left Bool.false_ne_true⟩

theorem exists_readMetrics :
    (∃ after, readMetrics platform propertyTree options = .ok after) ↔
      HasMetrics platform propertyTree := by
  unfold readMetrics HasMetrics
  by_cases hsection : (propertyTree (bytes "OTelHTTPMetricsOptions")).isSome = true
  · rw [if_pos hsection, exists_bind_eq_ok, exists_getHTTPMetricsOptionsFromIniFile]
    · exact ⟨fun h => h hsection, fun h _ => h⟩
    · intro httpMetrics hread
      obtain ⟨_, rfl⟩ := isSome_of_getHTTPMetricsOptionsFromIniFile hsection hread
      exact ⟨_, rfl⟩
  · have hnone : getHTTPMetricsOptionsFromIniFile platform.boost platform.environment
        propertyTree (bytes "OTelHTTPMetricsOptions") = .ok none := by
      unfold getHTTPMetricsOptionsFromIniFile
      rw [Option.not_isSome_iff_eq_none.mp hsection]
      rfl
    rw [if_neg hsection, hnone, bind_ok]
    dsimp only
    rw [exists_bind_eq_ok, exists_getGRPCMetricsOptionsFromIniFile]
    intro grpcMetrics _
    cases grpcMetrics with
    | none => exact ⟨_, rfl⟩
    | some grpcMetrics => exact ⟨_, rfl⟩

/-- The options of the exporters are read beside the others. -/
structure SameServices (before after : ProgramOptions F) : Prop where
  grpcServerOptions : after.grpcServerOptions = before.grpcServerOptions
  networkMagnitude : after.networkMagnitudeCalculatorOptions =
    before.networkMagnitudeCalculatorOptions

theorem sameServices_of_readLogs (h : readLogs platform propertyTree options = .ok after) :
    SameServices options after := by
  unfold readLogs at h
  split at h
  · obtain rfl := Except.ok.inj h
    exact ⟨rfl, rfl⟩
  · obtain ⟨grpcLog, -, h⟩ := bind_eq_ok.mp h
    cases grpcLog with
    | none =>
        obtain rfl := Except.ok.inj h
        exact ⟨rfl, rfl⟩
    | some grpcLog =>
        obtain rfl := Except.ok.inj h
        exact ⟨rfl, rfl⟩

theorem sameServices_of_readMetrics
    (h : readMetrics platform propertyTree options = .ok after) :
    SameServices options after := by
  unfold readMetrics at h
  obtain ⟨httpMetrics, -, h⟩ := bind_eq_ok.mp h
  cases httpMetrics with
  | some httpMetrics =>
      obtain rfl := Except.ok.inj h
      exact ⟨rfl, rfl⟩
  | none =>
      obtain ⟨grpcMetrics, -, h⟩ := bind_eq_ok.mp h
      cases grpcMetrics with
      | none =>
          obtain rfl := Except.ok.inj h
          exact ⟨rfl, rfl⟩
      | some grpcMetrics =>
          obtain rfl := Except.ok.inj h
          exact ⟨rfl, rfl⟩

/-- Parsed options have the server's options of the file, but the options of the network
magnitude are the default ones. -/
theorem services_of_parseInitializationFile (hexists : platform.files.doesExist iniFile = true)
    (h : parseInitializationFile platform iniFile = .ok options) :
    ServerOptions.fromInitializationFile platform.files platform.boost iniFile
        (bytes "GRPCServer") = .ok options.grpcServerOptions ∧
      options.networkMagnitudeCalculatorOptions = {} := by
  unfold parseInitializationFile at h
  rw [if_neg (by simp [hexists])] at h
  obtain ⟨_, -, h⟩ := bind_eq_ok.mp h
  obtain ⟨_, -, h⟩ := bind_eq_ok.mp h
  obtain ⟨_, hserver, h⟩ := bind_eq_ok.mp h
  obtain ⟨_, hlogs, hmetrics⟩ := bind_eq_ok.mp h
  have hlogs' := sameServices_of_readLogs hlogs
  have hmetrics' := sameServices_of_readMetrics hmetrics
  constructor
  · rw [hmetrics'.grpcServerOptions, hlogs'.grpcServerOptions, hserver]
  · rw [hmetrics'.networkMagnitude, hlogs'.networkMagnitude]
    rfl

/-- A file is parsed when its minimum is positive and everything else can be read. -/
theorem exists_parseInitializationFile (hexists : platform.files.doesExist iniFile = true)
    (hread : platform.boost.readIni iniFile = .ok propertyTree) :
    (∃ options, parseInitializationFile platform iniFile = .ok options) ↔
      1 ≤ minimumIn platform.boost propertyTree ∧ CanBeParsed platform propertyTree := by
  unfold parseInitializationFile
  rw [if_neg (by simp [hexists]), hread, bind_ok]
  constructor
  · rintro ⟨_, h⟩
    obtain ⟨networkMagnitude, hnetwork, h⟩ := bind_eq_ok.mp h
    obtain ⟨server, hserver, h⟩ := bind_eq_ok.mp h
    obtain ⟨logs, hlogs, hmetrics⟩ := bind_eq_ok.mp h
    obtain ⟨hminimum, hnetwork'⟩ :=
      (exists_readNetworkMagnitude hexists hread).mp ⟨networkMagnitude, hnetwork⟩
    have hreads := (ServerOptions.fromInitializationFile_eq_ok hexists hread).mp hserver
    exact ⟨hminimum, hnetwork', ⟨server, hreads⟩, exists_readLogs.mp ⟨logs, hlogs⟩,
      exists_readMetrics.mp ⟨_, hmetrics⟩⟩
  · rintro ⟨hminimum, hnetwork, ⟨server, hreads⟩, hlogs, hmetrics⟩
    obtain ⟨networkMagnitude, hnetwork'⟩ :=
      (exists_readNetworkMagnitude hexists hread).mpr ⟨hminimum, hnetwork⟩
    have hserver := (ServerOptions.fromInitializationFile_eq_ok hexists hread).mpr hreads
    obtain ⟨logs, hlogs'⟩ := exists_readLogs.mpr hlogs
    obtain ⟨after, hmetrics'⟩ := exists_readMetrics.mpr hmetrics
    exact ⟨after, bind_eq_ok.mpr ⟨networkMagnitude, hnetwork', bind_eq_ok.mpr
      ⟨server, hserver, bind_eq_ok.mpr ⟨logs, hlogs', hmetrics'⟩⟩⟩⟩

/-! ## What is thrown -/

/-- Nothing but the minimum is refused before the distance corrections are sorted, and that
can not be done. -/
def HasUnsortableDistances (platform : Platform F) (propertyTree : PropertyTree) : Prop :=
  toLower (propertyTree.getString (bytes "NetworkMagnitude.strategy") (bytes "average")) =
      bytes "average" ∧
    DistanceOptions.HasUnsortableTable platform.toDouble propertyTree
      (sectionPrefix (bytes "DistanceCorrections"))

theorem raises_readNetworkMagnitude (hexists : platform.files.doesExist iniFile = true)
    (hread : platform.boost.readIni iniFile = .ok propertyTree) :
    Raises (readNetworkMagnitude platform iniFile propertyTree) fun fault =>
      fault.IsException ∨
        fault = .undefinedBehavior ∧ HasUnsortableDistances platform propertyTree := by
  have hlift {α : Type} {x : Throws α} (hx : Raises x Fault.IsException) :
      Raises x fun fault => fault.IsException ∨
        fault = .undefinedBehavior ∧ HasUnsortableDistances platform propertyTree :=
    hx.mono fun _ => Or.inl
  have hstrategy : Raises (readStrategy propertyTree) Fault.IsException := by
    unfold readStrategy
    dsimp only
    split_ifs
    · exact .ok _
    · exact .error trivial
  refine .bind (hlift (raises_setter (.minimumNumberOfStationMagnitudes _))) fun _ _ => ?_
  refine .bind (hlift hstrategy) fun strategy haverage => ?_
  refine .bind (hlift (raises_setter (.strategy strategy))) fun _ _ => ?_
  refine .bind ((DistanceOptions.raises_fromInitializationFile hread).mono
    fun fault => Or.imp_right fun h => ⟨h.1, readStrategy_eq_ok.mp haverage, h.2⟩)
    fun distanceOptions hdistances => hlift ?_
  have hloads := (DistanceOptions.fromInitializationFile_eq_ok hexists hread).mp hdistances
  obtain ⟨distance, hdistance, -⟩ := exists_distance hloads
  rw [hdistance, bind_ok]
  refine .bind (raises_setter (.distanceCorrections distance)) fun _ _ => ?_
  exact .bind (StationsSet.raises_fromInitializationFile hread) fun set _ =>
    raises_setter (.stationCorrections set)

theorem raises_readLogs :
    Raises (readLogs platform propertyTree options) Fault.IsException := by
  unfold readLogs
  split
  · exact .ok _
  · refine .bind raises_getGRPCLogOptionsFromIniFile fun grpcLog _ => ?_
    cases grpcLog with
    | none => exact .ok _
    | some grpcLog => exact .ok _

theorem raises_readMetrics :
    Raises (readMetrics platform propertyTree options) Fault.IsException := by
  refine .bind raises_getHTTPMetricsOptionsFromIniFile fun httpMetrics _ => ?_
  cases httpMetrics with
  | some httpMetrics => exact .ok _
  | none =>
      refine .bind raises_getGRPCMetricsOptionsFromIniFile fun grpcMetrics _ => ?_
      cases grpcMetrics with
      | none => exact .ok _
      | some grpcMetrics => exact .ok _

/-- With a minimum that is accepted nothing comes before the distance corrections. -/
theorem parseInitializationFile_of_unsortable (hexists : platform.files.doesExist iniFile = true)
    (hread : platform.boost.readIni iniFile = .ok propertyTree)
    (hminimum : 1 ≤ minimumIn platform.boost propertyTree)
    (h : HasUnsortableDistances platform propertyTree) :
    parseInitializationFile platform iniFile = .error .undefinedBehavior := by
  obtain ⟨hstrategy, htable⟩ := h
  have hdistances := DistanceOptions.fromInitializationFile_of_unsortable hexists hread htable
  have hnetwork : readNetworkMagnitude platform iniFile propertyTree =
      .error .undefinedBehavior := by
    have hset {options : NetworkMagnitudeCalculatorOptions F} :
        (setMinimumNumberOfStationMagnitudes (minimumIn platform.boost propertyTree)).call options =
          .ok { options with
            mMinimumNumberOfStationMagnitudes := minimumIn platform.boost propertyTree } :=
      call_setMinimumNumberOfStationMagnitudes_eq_ok.mpr ⟨hminimum, rfl⟩
    have haverage : readStrategy propertyTree = .ok .average := readStrategy_eq_ok.mpr hstrategy
    calc readNetworkMagnitude platform iniFile propertyTree
        = (setMinimumNumberOfStationMagnitudes (minimumIn platform.boost propertyTree)).call
            ({} : NetworkMagnitudeCalculatorOptions F) >>= _ := rfl
      _ = .error .undefinedBehavior := by
          rw [hset, bind_ok, haverage, bind_ok, setStrategy, Method.call_modify, bind_ok,
            hdistances]
          rfl
  unfold parseInitializationFile
  rw [if_neg (by simp [hexists]), hread, bind_ok, hnetwork]
  rfl

/-- A file that is there and can be read is parsed, or an exception is thrown, unless the
distance corrections can not be sorted. -/
theorem raises_parseInitializationFile (hexists : platform.files.doesExist iniFile = true)
    (hread : platform.boost.readIni iniFile = .ok propertyTree) :
    Raises (parseInitializationFile platform iniFile) fun fault =>
      fault.IsException ∨
        fault = .undefinedBehavior ∧ HasUnsortableDistances platform propertyTree := by
  unfold parseInitializationFile
  rw [if_neg (by simp [hexists]), hread, bind_ok]
  refine .bind (raises_readNetworkMagnitude hexists hread) fun _ _ => Raises.mono ?_ fun _ => Or.inl
  refine .bind (ServerOptions.raises_fromInitializationFile hread) fun _ _ => ?_
  exact .bind raises_readLogs fun _ _ => raises_readMetrics

end Parsed

end ProgramOptions

end ULocalMagnitude
