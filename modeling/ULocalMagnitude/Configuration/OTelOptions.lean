import ULocalMagnitude.Configuration.Items

/-!
# Options of the exporters

`otelOptions.hpp`: where logs and metrics go.  A section that is absent is no error, except
that the sections for gRPC may only be looked for when gRPC is compiled in.
-/

namespace ULocalMagnitude
namespace Configuration

open Cxx

/-- What the exporters depend on: the translator behind `get<int64_t>`, the variables of the
environment, and `WITH_OTLP_GRPC`. -/
structure Environment where
  toInt64 : Bytes → Option Int
  getenv : Bytes → Option Bytes
  withOtlpGrpc : Bool

namespace OTelOptions

/-- Durations are in milliseconds. -/
structure GRPCMetrics where
  url : Bytes := bytes "localhost:4317"
  exportInterval : Int := 15000
  exportTimeOut : Int := 500
  /-- Path to the cert file -/
  certificatePath : Bytes := []

structure GRPCLog where
  url : Bytes := bytes "localhost:4317"
  exportTimeOut : Int := 500
  /-- Path to the cert file -/
  certificatePath : Bytes := []

structure HTTPMetrics where
  url : Bytes := bytes "localhost:4318"
  exportInterval : Int := 15000
  exportTimeOut : Int := 500
  suffix : Bytes := bytes "/v1/metrics"

structure HTTPLog where
  url : Bytes := bytes "localhost:4318"
  certificatePath : Bytes := []
  suffix : Bytes := bytes "/v1/logs"

def getOTelMetricsIntervalAndTimeOut (environment : Environment) (propertyTree : PropertyTree)
    (sectionName : Bytes) (defaultExportInterval defaultExportTimeOut : Int) :
    Throws (Int × Int) := do
  let exportInterval := propertyTree.getValue environment.toInt64
    (sectionName ++ bytes ".exportIntervalInMilliSeconds") defaultExportInterval
  throwIf (exportInterval ≤ 0) (.runtimeError "Export interval must be positive")
  let exportTimeOut := propertyTree.getValue environment.toInt64
    (sectionName ++ bytes ".exportTimeOutInMilliSeconds") defaultExportTimeOut
  throwIf (exportTimeOut ≤ 0) (.invalidArgument "Export time out must be positive")
  return (exportInterval, exportTimeOut)

def getOTelCollectorURL (boost : Boost) (environment : Environment)
    (propertyTree : PropertyTree) (sectionName : Bytes) : Bytes :=
  let hostFromEnvironment :=
    if propertyTree.getValue boost.toBool (sectionName ++ bytes ".getHostFromEnvironment") false
    then (environment.getenv (bytes "OTEL_COLLECTOR_HOST")).getD [] else []
  let otelCollectorHost :=
    if hostFromEnvironment = [] then propertyTree.getString (sectionName ++ bytes ".host") []
    else hostFromEnvironment
  let otelCollectorPort :=
    propertyTree.getValue boost.toUInt16 (sectionName ++ bytes ".port") 4218
  if otelCollectorHost = [] then []
  else otelCollectorHost ++ bytes ":" ++ decimal otelCollectorPort.toNat

/-- The suffix of a URL, with a slash between the two. -/
def withSlash (url suffix : Bytes) : Bytes :=
  if url ≠ [] ∧ suffix ≠ [] ∧ url.getLast? ≠ some 47 ∧ suffix.head? ≠ some 47 then
    bytes "/" ++ suffix
  else suffix

/-- The certificate of a section, if there is such a file. -/
def certificatePathIn (files : FileSystem) (propertyTree : PropertyTree) (sectionName : Bytes) :
    Bytes :=
  match propertyTree (sectionName ++ bytes ".certificate") with
  | some certificatePath => if files.doesExist certificatePath then certificatePath else []
  | none => []

def getHTTPLogOptionsFromIniFile (boost : Boost) (environment : Environment)
    (propertyTree : PropertyTree) (sectionName : Bytes) : Option HTTPLog := do
  let _ ← propertyTree sectionName
  let url := getOTelCollectorURL boost environment propertyTree sectionName
  let suffix := propertyTree.getString (sectionName ++ bytes ".suffix") (bytes "/v1/logs")
  return { url, suffix := withSlash url suffix }

def getGRPCLogOptionsFromIniFile (files : FileSystem) (boost : Boost)
    (environment : Environment) (propertyTree : PropertyTree) (sectionName : Bytes) :
    Throws (Option GRPCLog) := do
  throwIf (!environment.withOtlpGrpc)
    (.runtimeError "Recompile with Conan to use gRPC logs exporter option")
  match propertyTree sectionName with
  | none => return none
  | some _ =>
      return some
        { url := getOTelCollectorURL boost environment propertyTree sectionName
          certificatePath := certificatePathIn files propertyTree sectionName }

def getHTTPMetricsOptionsFromIniFile (boost : Boost) (environment : Environment)
    (propertyTree : PropertyTree) (sectionName : Bytes) : Throws (Option HTTPMetrics) := do
  match propertyTree sectionName with
  | none => return none
  | some _ => do
      let url := getOTelCollectorURL boost environment propertyTree sectionName
      let suffix := propertyTree.getString (sectionName ++ bytes ".suffix") (bytes "/v1/metrics")
      let metricsOptions : HTTPMetrics := { url, suffix := withSlash url suffix }
      if url = [] then return some metricsOptions
      else do
        let (exportInterval, exportTimeOut) ← getOTelMetricsIntervalAndTimeOut environment
          propertyTree sectionName metricsOptions.exportInterval metricsOptions.exportTimeOut
        return some { metricsOptions with exportInterval, exportTimeOut }

def getGRPCMetricsOptionsFromIniFile (files : FileSystem) (boost : Boost)
    (environment : Environment) (propertyTree : PropertyTree) (sectionName : Bytes) :
    Throws (Option GRPCMetrics) := do
  throwIf (!environment.withOtlpGrpc)
    (.runtimeError "Recompile with Conan to use gRPC metrics exporter option")
  match propertyTree sectionName with
  | none => return none
  | some _ => do
      let metricsOptions : GRPCMetrics :=
        { url := getOTelCollectorURL boost environment propertyTree sectionName }
      let (exportInterval, exportTimeOut) ← getOTelMetricsIntervalAndTimeOut environment
        propertyTree sectionName metricsOptions.exportInterval metricsOptions.exportTimeOut
      return some
        { metricsOptions with
          exportInterval, exportTimeOut
          certificatePath := certificatePathIn files propertyTree sectionName }

/-! ## Which sections can be read -/

section Sections

variable {files : FileSystem} {boost : Boost} {environment : Environment}
  {propertyTree : PropertyTree} {sectionName : Bytes}

/-- The export interval and the time out of a section, or their defaults, are positive. -/
def HasPositiveTimes (environment : Environment) (propertyTree : PropertyTree)
    (sectionName : Bytes) : Prop :=
  0 < propertyTree.getValue environment.toInt64
      (sectionName ++ bytes ".exportIntervalInMilliSeconds") 15000 ∧
    0 < propertyTree.getValue environment.toInt64
      (sectionName ++ bytes ".exportTimeOutInMilliSeconds") 500

theorem exists_getOTelMetricsIntervalAndTimeOut :
    (∃ times, getOTelMetricsIntervalAndTimeOut environment propertyTree sectionName 15000 500 =
      .ok times) ↔ HasPositiveTimes environment propertyTree sectionName := by
  unfold getOTelMetricsIntervalAndTimeOut HasPositiveTimes
  simp only [throwIf_bind_eq_ok, Int.not_le]
  constructor
  · rintro ⟨_, hinterval, htimeOut, -⟩
    exact ⟨hinterval, htimeOut⟩
  · rintro ⟨hinterval, htimeOut⟩
    exact ⟨_, hinterval, htimeOut, rfl⟩

theorem raises_getOTelMetricsIntervalAndTimeOut {interval timeOut : Int} :
    Raises (getOTelMetricsIntervalAndTimeOut environment propertyTree sectionName interval
      timeOut) Fault.IsException :=
  .bind (.throwIf fun _ => trivial) fun _ _ => .bind (.throwIf fun _ => trivial) fun _ _ =>
    .ok _

/-- Metrics can be sent with HTTP when the section has positive times, which are only looked
at when it has a host. -/
theorem exists_getHTTPMetricsOptionsFromIniFile :
    (∃ options, getHTTPMetricsOptionsFromIniFile boost environment propertyTree sectionName =
      .ok options) ↔
      ((propertyTree sectionName).isSome →
        getOTelCollectorURL boost environment propertyTree sectionName ≠ [] →
          HasPositiveTimes environment propertyTree sectionName) := by
  unfold getHTTPMetricsOptionsFromIniFile
  cases propertyTree sectionName with
  | none => exact ⟨fun _ h => absurd h Bool.false_ne_true, fun _ => ⟨none, rfl⟩⟩
  | some text =>
      dsimp only
      by_cases hurl : getOTelCollectorURL boost environment propertyTree sectionName = []
      · rw [if_pos hurl]
        exact ⟨fun _ _ hnonempty => absurd hurl hnonempty, fun _ => ⟨_, rfl⟩⟩
      · rw [if_neg hurl]
        refine (exists_bind_eq_ok fun _ _ => ⟨_, rfl⟩).trans ?_
        rw [exists_getOTelMetricsIntervalAndTimeOut]
        exact ⟨fun htimes _ _ => htimes, fun htimes => htimes rfl hurl⟩

theorem exists_getGRPCMetricsOptionsFromIniFile :
    (∃ options, getGRPCMetricsOptionsFromIniFile files boost environment propertyTree
      sectionName = .ok options) ↔
      environment.withOtlpGrpc = true ∧
        ((propertyTree sectionName).isSome →
          HasPositiveTimes environment propertyTree sectionName) := by
  unfold getGRPCMetricsOptionsFromIniFile
  simp only [throwIf_bind_eq_ok, exists_and_left, Bool.not_eq_true', Bool.not_eq_false]
  refine and_congr_right fun _ => ?_
  cases propertyTree sectionName with
  | none => exact ⟨fun _ h => absurd h Bool.false_ne_true, fun _ => ⟨none, rfl⟩⟩
  | some text =>
      dsimp only
      refine (exists_bind_eq_ok fun _ _ => ⟨_, rfl⟩).trans ?_
      rw [exists_getOTelMetricsIntervalAndTimeOut]
      exact ⟨fun htimes _ => htimes, fun htimes => htimes rfl⟩

/-- Nothing else is needed for logs with gRPC. -/
theorem exists_getGRPCLogOptionsFromIniFile :
    (∃ options, getGRPCLogOptionsFromIniFile files boost environment propertyTree
      sectionName = .ok options) ↔ environment.withOtlpGrpc = true := by
  unfold getGRPCLogOptionsFromIniFile
  simp only [throwIf_bind_eq_ok, exists_and_left, Bool.not_eq_true', Bool.not_eq_false]
  cases propertyTree sectionName with
  | none => exact ⟨fun h => h.1, fun h => ⟨h, none, rfl⟩⟩
  | some text => exact ⟨fun h => h.1, fun h => ⟨h, _, rfl⟩⟩

/-- A section for HTTP that is there has options. -/
theorem isSome_of_getHTTPMetricsOptionsFromIniFile {options : Option HTTPMetrics}
    (hsection : (propertyTree sectionName).isSome)
    (h : getHTTPMetricsOptionsFromIniFile boost environment propertyTree sectionName =
      .ok options) : ∃ metricsOptions, options = some metricsOptions := by
  unfold getHTTPMetricsOptionsFromIniFile at h
  obtain ⟨text, htext⟩ := Option.isSome_iff_exists.mp hsection
  rw [htext] at h
  dsimp only at h
  split_ifs at h
  · exact ⟨_, (Except.ok.inj h).symm⟩
  · obtain ⟨_, -, hreturned⟩ := bind_eq_ok.mp h
    exact ⟨_, (Except.ok.inj hreturned).symm⟩

/-! ## What is thrown -/

theorem raises_getGRPCLogOptionsFromIniFile :
    Raises (getGRPCLogOptionsFromIniFile files boost environment propertyTree sectionName)
      Fault.IsException := by
  refine .bind (.throwIf fun _ => trivial) fun _ _ => ?_
  cases propertyTree sectionName with
  | none => exact .ok _
  | some text => exact .ok _

theorem raises_getHTTPMetricsOptionsFromIniFile :
    Raises (getHTTPMetricsOptionsFromIniFile boost environment propertyTree sectionName)
      Fault.IsException := by
  unfold getHTTPMetricsOptionsFromIniFile
  cases propertyTree sectionName with
  | none => exact .ok _
  | some text =>
      dsimp only
      split_ifs
      · exact .ok _
      · exact .bind raises_getOTelMetricsIntervalAndTimeOut fun _ _ => .ok _

theorem raises_getGRPCMetricsOptionsFromIniFile :
    Raises (getGRPCMetricsOptionsFromIniFile files boost environment propertyTree sectionName)
      Fault.IsException := by
  refine .bind (.throwIf fun _ => trivial) fun _ _ => ?_
  cases propertyTree sectionName with
  | none => exact .ok _
  | some text => exact .bind raises_getOTelMetricsIntervalAndTimeOut fun _ _ => .ok _

end Sections

end OTelOptions

end Configuration
end ULocalMagnitude
