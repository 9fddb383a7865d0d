import ULocalMagnitude.Cxx.Programs
import ULocalMagnitude.ProgramOptions

/-!
# Logs

`logger.hpp` and `otelSpdlogSink.hpp`: the logger of the program and where its records go.
The provider of the exporter is global, and the sink asks for it with every record, so a
logger with that sink must not be used once the provider was taken away.
-/

namespace ULocalMagnitude

open Cxx Configuration
open Configuration.OTelOptions (HTTPLog GRPCLog)

/-- `spdlog::level` -/
inductive Level where
  | trace
  | debug
  | info
  | warn
  | err
  | critical
  | off
deriving DecidableEq

/-- The number of a level; a logger passes what is not below its own. -/
def Level.number : Level → Nat
  | .trace => 0
  | .debug => 1
  | .info => 2
  | .warn => 3
  | .err => 4
  | .critical => 5
  | .off => 6

/-- `opentelemetry::logs::Severity`, as far as the sink uses it. -/
inductive Severity where
  | kInvalid
  | kTrace
  | kDebug
  | kInfo
  | kWarn
  | kError
  | kFatal
deriving DecidableEq

def levelToSeverity : Level → Severity
  | .critical => .kFatal
  | .err => .kError
  | .warn => .kWarn
  | .info => .kInfo
  | .debug => .kDebug
  | .trace => .kTrace
  | .off => .kInvalid

/-- An exporter as its factory is told to make it. -/
inductive LogExporter where
  | http (url : Bytes)
  | grpc (endpoint : Bytes) (caCertificatePath : Option Bytes)

inductive MetricExporter where
  | http (url : Bytes) (exportInterval exportTimeOut : Int)
  | grpc (endpoint : Bytes) (caCertificatePath : Option Bytes)
      (exportInterval exportTimeOut : Int)

/-- A global provider of OpenTelemetry: at first one that does nothing, later one with an
exporter or a null pointer. -/
inductive Provider (ε : Type) where
  | noop
  | null
  | exporting (exporter : ε)

/-- The global state of the program. -/
structure Globals where
  /-- The names in spdlog's registry -/
  registry : List String := []
  /-- The environment variable `OTEL_SERVICE_NAME` -/
  serviceName : Option Bytes := none
  /-- Whether `loggerProvider` is not null -/
  loggerProvider : Bool := false
  apiLoggerProvider : Provider LogExporter := .noop
  metricsInitialized : Bool := false
  apiMeterProvider : Provider MetricExporter := .noop
  /-- The severities of the records that were exported -/
  exported : List Severity := []

/-- What the program finds on its host, beside the platform that its options are read on.
A factory answers with an exporter, or it throws an exception with this text. -/
structure Host (F : Type) where
  platform : Platform F
  createLogExporter : LogExporter → Option String
  createMetricExporter : MetricExporter → Option String

variable {F : Type} [ExactArithmetic F]

/-- A factory is called. -/
def create {ε : Type} (factory : ε → Option String) (exporter : ε) : Throws Unit :=
  match factory exporter with
  | some what => .error (.runtimeError what)
  | none => .ok ()

namespace Logger

inductive Sink where
  | console
  | openTelemetry
deriving DecidableEq

/-- `spdlog::logger` -/
structure SpdLogger where
  sinks : List Sink
  level : Level := .info

/-- `sink_it_` -/
def sinkIt (level : Level) : Sink → Method Globals Unit
  | .console => pure ()
  | .openTelemetry => do
      let globals ← get
      match globals.apiLoggerProvider with
      | .null => liftM (.error .undefinedBehavior : Throws Unit)
      -- It creates no records.
      | .noop => pure ()
      | .exporting _ => modify fun globals =>
          { globals with exported := globals.exported ++ [levelToSeverity level] }

/-- The macros `SPDLOG_LOGGER_...`; the one for debugging is not compiled in. -/
def SpdLogger.log (logger : SpdLogger) (level : Level) : Method Globals Unit :=
  if logger.level.number ≤ level.number then Method.forEach (sinkIt level) logger.sinks
  else pure ()

def setVerbosityForSPDLOG (verbosity : Int) (logger : SpdLogger) : SpdLogger :=
  let logger := if verbosity ≤ 1 then { logger with level := .critical } else logger
  let logger := if verbosity = 2 then { logger with level := .warn } else logger
  let logger := if verbosity = 3 then { logger with level := .info } else logger
  if 4 ≤ verbosity then { logger with level := .debug } else logger

/-- What `initializeHTTP` and `initializeGRPC` have in common. -/
def initializeWith (host : Host F) (verbosity : Int) (exportLogs : Bool)
    (exporter : LogExporter) : Method Globals SpdLogger := do
  if exportLogs then do
    liftM (create host.createLogExporter exporter)
    modify fun globals =>
      { globals with loggerProvider := true, apiLoggerProvider := .exporting exporter }
    return setVerbosityForSPDLOG verbosity { sinks := [.openTelemetry, .console] }
  else return setVerbosityForSPDLOG verbosity { sinks := [.console] }

/-- The exporter of `initializeHTTP` -/
def httpExporter (options : HTTPLog) : LogExporter := .http (options.url ++ options.suffix)

/-- The exporter of `initializeGRPC`; the certificate is looked for once more. -/
def grpcExporter (host : Host F) (options : GRPCLog) : LogExporter :=
  .grpc options.url
    (if options.certificatePath ≠ [] ∧
        host.platform.files.doesExist options.certificatePath = true then
      some options.certificatePath else none)

/-- The exporter that the options ask for -/
def exporterOf (host : Host F) (options : ProgramOptions F) : LogExporter :=
  if options.exportLogsWithHTTP then httpExporter options.otelHTTPLogOptions
  else grpcExporter host options.otelGRPCLogOptions

def initializeLogger (host : Host F) (options : ProgramOptions F) : Method Globals SpdLogger :=
  if options.exportLogsWithHTTP then
    initializeWith host options.verbosity options.exportLogs
      (httpExporter options.otelHTTPLogOptions)
  else if host.platform.environment.withOtlpGrpc then
    initializeWith host options.verbosity options.exportLogs
      (grpcExporter host options.otelGRPCLogOptions)
  else liftM (.error (.runtimeError "Recompile with Conan and OTLP_GRPC") : Throws SpdLogger)

/-- The records are flushed and the provider is taken away. -/
def cleaned (globals : Globals) : Globals :=
  if globals.loggerProvider then
    { globals with loggerProvider := false, apiLoggerProvider := .null }
  else globals

def cleanup : Method Globals Unit := modify cleaned

/-! ## What a logger does -/

/-- The logger of a program that exports its logs or not, with the record of every error. -/
structure IsFor (exportLogs : Bool) (logger : SpdLogger) : Prop where
  sinks : logger.sinks = if exportLogs then [.openTelemetry, .console] else [.console]
  level : logger.level.number ≤ Level.critical.number

@[simp] theorem setVerbosityForSPDLOG_sinks (verbosity : Int) (logger : SpdLogger) :
    (setVerbosityForSPDLOG verbosity logger).sinks = logger.sinks := by
  unfold setVerbosityForSPDLOG
  dsimp only
  split_ifs <;> rfl

/-- No verbosity mutes errors that end the program. -/
theorem setVerbosityForSPDLOG_level (verbosity : Int) {logger : SpdLogger}
    (h : logger.level.number ≤ Level.critical.number) :
    (setVerbosityForSPDLOG verbosity logger).level.number ≤ Level.critical.number := by
  unfold setVerbosityForSPDLOG
  dsimp only
  split_ifs <;> first | exact h | exact Nat.le_of_ble_eq_true rfl

/-- The state after a record of this level, when there is an exporter. -/
def recorded (level : Level) (globals : Globals) : Globals :=
  { globals with exported := globals.exported ++ [levelToSeverity level] }

theorem sinkIt_exporting {globals : Globals} {exporter : LogExporter} (level : Level)
    (h : globals.apiLoggerProvider = .exporting exporter) :
    sinkIt level .openTelemetry globals = .ok () (recorded level globals) := by
  show (match globals.apiLoggerProvider with
    | .null => liftM (.error .undefinedBehavior : Throws Unit)
    | .noop => pure ()
    | .exporting _ => modify (recorded level) : Method Globals Unit) globals = _
  rw [h]
  rfl

/-- A logger for the console only. -/
theorem log_console {logger : SpdLogger} {globals : Globals} (level : Level)
    (hsinks : logger.sinks = [.console]) : logger.log level globals = .ok () globals := by
  unfold SpdLogger.log
  split
  · rw [hsinks]
    rfl
  · rfl

/-- With an exporter a record is exported, unless its level is too low. -/
theorem log_exporting {logger : SpdLogger} {globals : Globals} {exporter : LogExporter}
    (level : Level) (hsinks : logger.sinks = [.openTelemetry, .console])
    (h : globals.apiLoggerProvider = .exporting exporter) :
    logger.log level globals = .ok () (if logger.level.number ≤ level.number then
      recorded level globals else globals) := by
  unfold SpdLogger.log
  split
  · rw [hsinks]
    show (do
      sinkIt level .openTelemetry
      Method.forEach (sinkIt level) [.console] : Method Globals Unit) globals = _
    show EStateM.bind (sinkIt level .openTelemetry) _ globals = _
    unfold EStateM.bind
    rw [sinkIt_exporting level h]
    rfl
  · rfl

end Logger
end ULocalMagnitude
