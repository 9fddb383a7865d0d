import ULocalMagnitude.Main
import ULocalMagnitude.Properties.Shutdown
import ULocalMagnitude.Rationals

/-!
# The life of the program

What `main` sets up it takes away again on every way out, in the order metrics before logs,
and no record is sent to a provider that is gone.  `main` can not get as far as its server,
though: what the initialization file says about the network magnitude is dropped, and the
server refuses options without corrections.
-/

namespace ULocalMagnitude
namespace Properties

open Cxx Configuration
open Grpc (Server ServerBuilder ServerOptions)
open Logger (SpdLogger)
open Method (Ends)

variable {F : Type} [ExactArithmetic F]

/-- Nothing is exported any more, and no global of the exporters is set. -/
structure TornDown (globals : Globals) : Prop where
  loggerProvider : globals.loggerProvider = false
  apiLoggerProvider : ∀ exporter, globals.apiLoggerProvider ≠ .exporting exporter
  metricsInitialized : globals.metricsInitialized = false
  apiMeterProvider : ∀ exporter, globals.apiMeterProvider ≠ .exporting exporter

/-- A provider with an exporter, or the one that does nothing. -/
def Provider.of {ε : Type} : Option ε → Provider ε
  | some exporter => .exporting exporter
  | none => .noop

/-- The exporters that are set up, under this name of the service. -/
structure Exporting (logs : Option LogExporter) (metrics : Option MetricExporter)
    (serviceName : Option Bytes) (globals : Globals) : Prop where
  registered : "console" ∈ globals.registry
  serviceName : globals.serviceName = serviceName
  loggerProvider : globals.loggerProvider = logs.isSome
  apiLoggerProvider : globals.apiLoggerProvider = Provider.of logs
  metricsInitialized : globals.metricsInitialized = metrics.isSome
  apiMeterProvider : globals.apiMeterProvider = Provider.of metrics

/-- The exporter of the logs, if they are to be exported. -/
def logsOf (host : Host F) (options : ProgramOptions F) : Option LogExporter :=
  if options.exportLogs then some (Logger.exporterOf host options) else none

/-- The exporter of the metrics, if they are to be exported. -/
def metricsOf (options : ProgramOptions F) : Option MetricExporter :=
  if options.exportMetrics then some (Metrics.exporterOf options) else none

/-- The name of the service is the one of the environment, or that of the application when
somebody exports. -/
def serviceNameOf (options : ProgramOptions F) (serviceName : Option Bytes) : Option Bytes :=
  if (options.exportLogs || options.exportMetrics) && serviceName.isNone then
    some options.applicationName
  else serviceName

/-- The global state where the program options have been read. -/
def Globals.atOptions (serviceName : Option Bytes) : Globals where
  registry := ["console"]
  serviceName := serviceName

/-- The last record that was exported tells of the error that ends the program. -/
def TellsError (options : ProgramOptions F) (globals : Globals) : Prop :=
  options.exportLogs = true → ∃ earlier, globals.exported = earlier ++ [.kFatal]

/-- The logger can not be made. -/
def LoggerFails (host : Host F) (options : ProgramOptions F) : Prop :=
  (options.exportLogsWithHTTP = false ∧ host.platform.environment.withOtlpGrpc = false) ∨
    (options.exportLogs = true ∧
      (host.createLogExporter (Logger.exporterOf host options)).isSome = true)

/-- The program ends without the logger that would tell of its error: no exporter was set up,
and no record was sent. -/
structure Unrecorded (host : Host F) (options : ProgramOptions F) (globals : Globals) : Prop where
  fails : LoggerFails host options
  tornDown : TornDown globals
  exported : globals.exported = []

/-- Metrics can not be set up. -/
def MetricsFail (host : Host F) (options : ProgramOptions F) : Prop :=
  (options.exportMetricsWithHTTP = false ∧ host.platform.environment.withOtlpGrpc = false) ∨
    (options.exportMetrics = true ∧
      (host.createMetricExporter (Metrics.exporterOf options)).isSome = true)

/-- The program gets as far as this server. -/
structure Makes (host : Host F) (options : ProgramOptions F) (server : Server F) : Prop where
  metrics : ¬ MetricsFail host options
  server : Server.ofOptions options.grpcServerOptions
    options.networkMagnitudeCalculatorOptions = .ok server

section Steps

variable {host : Host F} {options : ProgramOptions F} {globals : Globals}
  {logs : Option LogExporter} {metrics : Option MetricExporter} {serviceName : Option Bytes}
  {logger : SpdLogger}

theorem ends_create {ε : Type} (factory : ε → Option String) (exporter : ε) :
    Ends (liftM (create factory exporter) : Method Globals Unit) globals
      (fun _ after => after = globals ∧ factory exporter = none)
      (fun fault after => after = globals ∧ (factory exporter).isSome = true ∧
        fault.IsException) := by
  refine Ends.lift ?_ ?_
  · intro _ h
    unfold create at h
    cases hfactory : factory exporter with
    | none => exact ⟨rfl, rfl⟩
    | some what =>
        rw [hfactory] at h
        cases h
  · intro fault h
    unfold create at h
    cases hfactory : factory exporter with
    | none =>
        rw [hfactory] at h
        cases h
    | some what =>
        rw [hfactory] at h
        obtain rfl := Except.error.inj h
        exact ⟨rfl, rfl, trivial⟩

/-- Records go to an exporter or nowhere; errors are never muted. -/
theorem ends_log (hlogger : Logger.IsFor logs.isSome logger)
    (h : Exporting logs metrics serviceName globals) (level : Level) :
    Ends (logger.log level) globals
      (fun _ after => Exporting logs metrics serviceName after ∧
        (level = .critical → logs.isSome = true →
          ∃ earlier, after.exported = earlier ++ [.kFatal]))
      (fun _ _ => False) := by
  have hsinks := hlogger.sinks
  cases logs with
  | none =>
      refine Ends.of_ok (Logger.log_console level (by simpa using hsinks)) ⟨h, ?_⟩
      intro _ hsome
      exact absurd hsome (by simp)
  | some exporter =>
      refine Ends.of_ok (Logger.log_exporting level (by simpa using hsinks)
        h.apiLoggerProvider) ⟨?_, ?_⟩
      · split
        · exact ⟨h.registered, h.serviceName, h.loggerProvider, h.apiLoggerProvider,
            h.metricsInitialized, h.apiMeterProvider⟩
        · exact h
      · intro hlevel _
        subst hlevel
        rw [if_pos hlogger.level]
        exact ⟨globals.exported, rfl⟩

theorem tornDown_cleaned (hlogger : globals.loggerProvider = logs.isSome)
    (hlogs : globals.apiLoggerProvider = Provider.of logs)
    (hinitialized : globals.metricsInitialized = false)
    (hmeters : ∀ exporter, globals.apiMeterProvider ≠ .exporting exporter) :
    TornDown (Logger.cleaned globals) ∧
      (Logger.cleaned globals).exported = globals.exported := by
  unfold Logger.cleaned
  cases logs with
  | none =>
      have hnone : globals.loggerProvider = false := hlogger
      have hnoop : globals.apiLoggerProvider = .noop := hlogs
      rw [if_neg (by simp [hnone])]
      exact ⟨⟨hnone, by simp [hnoop], hinitialized, hmeters⟩, rfl⟩
  | some exporter =>
      have hset : globals.loggerProvider = true := hlogger
      rw [if_pos hset]
      exact ⟨⟨rfl, nofun, hinitialized, hmeters⟩, rfl⟩

/-- Metrics are cleaned up before logs. -/
theorem tornDown_of_exporting (h : Exporting logs metrics serviceName globals) :
    TornDown (Logger.cleaned (Metrics.cleaned globals)) ∧
      (Logger.cleaned (Metrics.cleaned globals)).exported = globals.exported := by
  have hlogger : (Metrics.cleaned globals).loggerProvider = logs.isSome := by
    unfold Metrics.cleaned
    split <;> exact h.loggerProvider
  have hlogs : (Metrics.cleaned globals).apiLoggerProvider = Provider.of logs := by
    unfold Metrics.cleaned
    split <;> exact h.apiLoggerProvider
  have hexported : (Metrics.cleaned globals).exported = globals.exported := by
    unfold Metrics.cleaned
    split <;> rfl
  have hmeters : ∀ exporter, (Metrics.cleaned globals).apiMeterProvider ≠ .exporting exporter := by
    unfold Metrics.cleaned
    dsimp only
    cases metrics with
    | none =>
        have hnone : globals.metricsInitialized = false := h.metricsInitialized
        have hnoop : globals.apiMeterProvider = .noop := h.apiMeterProvider
        rw [if_neg (by simp [hnone])]
        simp [hnoop]
    | some exporter =>
        have hset : globals.metricsInitialized = true := h.metricsInitialized
        rw [if_pos hset]
        exact nofun
  rw [← hexported]
  exact tornDown_cleaned hlogger hlogs rfl hmeters

/-- Before an exporter is set up there is nothing to take away. -/
theorem tornDown_of_none (h : Exporting none none serviceName globals) : TornDown globals where
  loggerProvider := h.loggerProvider
  apiLoggerProvider := by simp [h.apiLoggerProvider, Provider.of]
  metricsInitialized := h.metricsInitialized
  apiMeterProvider := by simp [h.apiMeterProvider, Provider.of]

theorem ends_fail (hlogger : Logger.IsFor logs.isSome logger)
    (h : Exporting logs metrics serviceName globals) :
    Ends (Main.fail logger) globals
      (fun ending after => ending = .failure ∧ TornDown after ∧
        (logs.isSome = true → ∃ earlier, after.exported = earlier ++ [.kFatal]))
      (fun _ _ => False) := by
  refine (ends_log hlogger h .critical).safe_bind fun _ after hafter => ?_
  obtain ⟨hexporting, hrecord⟩ := hafter
  obtain ⟨htornDown, hexported⟩ := tornDown_of_exporting hexporting
  refine Ends.of_ok rfl ⟨rfl, htornDown, fun hsome => ?_⟩
  rw [hexported]
  exact hrecord rfl hsome

omit [ExactArithmetic F] in
/-- The logger is made, with its exporter if there is to be one, or nothing has changed. -/
theorem ends_loggerInitializeWith (verbosity : Int) {exportLogs : Bool}
    {exporter : LogExporter} (h : Exporting none metrics serviceName globals) :
    Ends (Logger.initializeWith host verbosity exportLogs exporter) globals
      (fun logger after => Logger.IsFor exportLogs logger ∧
        Exporting (if exportLogs then some exporter else none) metrics serviceName after ∧
        (exportLogs = true → host.createLogExporter exporter = none))
      (fun fault after => after = globals ∧ fault.IsException ∧ exportLogs = true ∧
        (host.createLogExporter exporter).isSome = true) := by
  unfold Logger.initializeWith
  cases exportLogs with
  | true =>
      refine (Ends.mono (ends_create host.createLogExporter exporter) (fun _ _ h => h)
        fun fault after h => ⟨h.1, h.2.2, rfl, h.2.1⟩).bind fun _ after hcreated => ?_
      obtain ⟨rfl, hcreated⟩ := hcreated
      exact Ends.of_ok rfl ⟨⟨by simp, Logger.setVerbosityForSPDLOG_level _ (by decide)⟩,
        ⟨h.registered, h.serviceName, rfl, rfl, h.metricsInitialized, h.apiMeterProvider⟩,
        fun _ => hcreated⟩
  | false =>
      exact Ends.of_ok rfl ⟨⟨by simp, Logger.setVerbosityForSPDLOG_level _ (by decide)⟩, h,
        fun hfalse => absurd hfalse Bool.false_ne_true⟩

/-- The only branch without an exporter of its own is the one that is not compiled in. -/
theorem initializeLogger_eq :
    Logger.initializeLogger host options =
      if options.exportLogsWithHTTP = false ∧ host.platform.environment.withOtlpGrpc = false then
        liftM (.error (.runtimeError "Recompile with Conan and OTLP_GRPC") : Throws SpdLogger)
      else Logger.initializeWith host options.verbosity options.exportLogs
        (Logger.exporterOf host options) := by
  unfold Logger.initializeLogger Logger.exporterOf
  cases options.exportLogsWithHTTP with
  | true => rfl
  | false =>
      cases host.platform.environment.withOtlpGrpc with
      | true => rfl
      | false => rfl

theorem ends_initializeLogger (h : Exporting none metrics serviceName globals) :
    Ends (Logger.initializeLogger host options) globals
      (fun logger after => Logger.IsFor options.exportLogs logger ∧
        Exporting (logsOf host options) metrics serviceName after ∧ ¬ LoggerFails host options)
      (fun fault after => after = globals ∧ fault.IsException ∧ LoggerFails host options) := by
  unfold LoggerFails logsOf
  rw [initializeLogger_eq]
  split
  case isTrue hmissing => exact ⟨rfl, trivial, Or.inl hmissing⟩
  case isFalse hcompiled =>
    refine (ends_loggerInitializeWith options.verbosity h).mono ?_ ?_
    · rintro logger after ⟨hlogger, hafter, hcreated⟩
      refine ⟨hlogger, hafter, ?_⟩
      rintro (hmissing | ⟨hexport, hfails⟩)
      · exact hcompiled hmissing
      · rw [hcreated hexport] at hfails
        cases hfails
    · rintro fault after ⟨hsame, hexception, hexport, hfails⟩
      exact ⟨hsame, hexception, Or.inr ⟨hexport, hfails⟩⟩

theorem initializeMetrics_eq :
    Metrics.initializeMetrics host options =
      if options.exportMetricsWithHTTP = false ∧
          host.platform.environment.withOtlpGrpc = false then
        liftM (.error (.runtimeError "Recompile with Conan and OTLP_GRPC") : Throws Unit)
      else Metrics.initializeWith host options.exportMetrics (Metrics.exporterOf options) := by
  unfold Metrics.initializeMetrics Metrics.exporterOf
  cases options.exportMetricsWithHTTP with
  | true => rfl
  | false =>
      cases host.platform.environment.withOtlpGrpc with
      | true => rfl
      | false => rfl

omit [ExactArithmetic F] in
theorem ends_metricsInitializeWith {exportMetrics : Bool} {exporter : MetricExporter}
    (h : Exporting logs none serviceName globals) :
    Ends (Metrics.initializeWith host exportMetrics exporter) globals
      (fun _ after =>
        Exporting logs (if exportMetrics then some exporter else none) serviceName after ∧
          (exportMetrics = true → host.createMetricExporter exporter = none))
      (fun fault after => after = globals ∧ fault.IsException ∧ exportMetrics = true ∧
        (host.createMetricExporter exporter).isSome = true) := by
  unfold Metrics.initializeWith
  cases exportMetrics with
  | false => exact ⟨h, fun hfalse => absurd hfalse Bool.false_ne_true⟩
  | true =>
      refine (Ends.mono (ends_create host.createMetricExporter exporter) (fun _ _ h => h)
        fun fault after h => ⟨h.1, h.2.2, rfl, h.2.1⟩).bind fun _ after hcreated => ?_
      obtain ⟨rfl, hcreated⟩ := hcreated
      exact ⟨⟨h.registered, h.serviceName, h.loggerProvider, h.apiLoggerProvider, rfl, rfl⟩,
        fun _ => hcreated⟩

theorem ends_initializeMetrics (h : Exporting logs none serviceName globals) :
    Ends (Metrics.initializeMetrics host options) globals
      (fun _ after => Exporting logs (metricsOf options) serviceName after ∧
        ¬ MetricsFail host options)
      (fun fault after => after = globals ∧ fault.IsException ∧ MetricsFail host options) := by
  unfold MetricsFail metricsOf
  rw [initializeMetrics_eq]
  split
  case isTrue hmissing => exact ⟨rfl, trivial, Or.inl hmissing⟩
  case isFalse hcompiled =>
    refine (ends_metricsInitializeWith h).mono ?_ ?_
    · rintro _ after ⟨hafter, hcreated⟩
      refine ⟨hafter, ?_⟩
      rintro (hmissing | ⟨hexport, hfails⟩)
      · exact hcompiled hmissing
      · rw [hcreated hexport] at hfails
        cases hfails
    · rintro fault after ⟨hsame, hexception, hexport, hfails⟩
      exact ⟨hsame, hexception, Or.inr ⟨hexport, hfails⟩⟩

/-- The first logger of this name is in the way of the second. -/
theorem ends_registerLogger (h : "console" ∈ globals.registry) :
    Ends (Main.registerLogger "console") globals (fun _ _ => False)
      (fun fault after => fault.IsException ∧ after = globals) := by
  unfold Main.registerLogger
  have hthrows : Ends (liftM (throwIf ("console" ∈ globals.registry)
      (.runtimeError ("logger with name '" ++ "console" ++ "' already exists")))) globals
      (fun _ _ => False) (fun fault after => fault.IsException ∧ after = globals) := by
    refine Ends.lift ?_ ?_
    · intro _ hok
      exact absurd h (throwIf_eq_ok.mp hok)
    · intro fault herror
      rw [throwIf_pos h] at herror
      obtain rfl := Except.error.inj herror
      exact ⟨trivial, rfl⟩
  exact Ends.get_bind (Ends.bind hthrows fun _ _ h => h.elim)

end Steps

section Ends

variable (host : Host F) (start : ServerOptions → StartOutcome) (options : ProgramOptions F)
  (serviceName : Option Bytes)

/-- How the program ends after its options were read. -/
inductive Finished : Ending → Globals → Prop
  | serves {server : Server F} {after : Globals} (hmakes : Makes host options server)
      (hstart : start server.mGRPCOptions = .serves)
      (hexporting : Exporting (logsOf host options) (metricsOf options)
        (serviceNameOf options serviceName) after) : Finished .serves after
  | succeeds {server : Server F} {after : Globals} (hmakes : Makes host options server)
      (hstart : start server.mGRPCOptions = .returns)
      (htornDown : TornDown after) : Finished .success after
  | fails {after : Globals}
      (hcause : ∀ server, Makes host options server →
        ∃ what, start server.mGRPCOptions = .throws what)
      (htornDown : TornDown after) (herror : TellsError options after) :
      Finished .failure after

theorem ends_startProcess {globals : Globals} {logs : Option LogExporter}
    {metrics : Option MetricExporter} {name : Option Bytes} {logger : SpdLogger}
    (hlogger : Logger.IsFor logs.isSome logger) (h : Exporting logs metrics name globals)
    (outcome : StartOutcome) :
    Ends (Main.startProcess logger outcome) globals
      (fun ending after =>
        (ending = .serves ∧ outcome = .serves ∧ Exporting logs metrics name after) ∨
          (ending = .success ∧ outcome = .returns ∧ TornDown after))
      (fun fault after => fault.IsException ∧ Exporting logs metrics name after ∧
        ∃ what, outcome = .throws what) := by
  cases outcome with
  | serves =>
      refine (ends_log hlogger h .info).safe_bind fun _ after hafter => ?_
      exact Or.inl ⟨rfl, rfl, hafter.1⟩
  | returns =>
      refine (ends_log hlogger h .info).safe_bind fun _ after hafter => ?_
      exact Or.inr ⟨rfl, rfl, (tornDown_of_exporting hafter.1).1⟩
  | throws what =>
      refine (ends_log hlogger h .info).safe_bind fun _ between hbetween => ?_
      refine (ends_log hlogger hbetween.1 .critical).safe_bind fun _ after hafter => ?_
      exact ⟨trivial, hafter.1, what, rfl⟩

/-- A process is made from options that its classes have made. -/
theorem ends_makeServer {globals : Globals} {logs : Option LogExporter}
    {metrics : Option MetricExporter} {name : Option Bytes} {logger : SpdLogger}
    (hoptions : options.networkMagnitudeCalculatorOptions.IsReachable)
    (hlogger : Logger.IsFor logs.isSome logger) (h : Exporting logs metrics name globals) :
    Ends (do
      logger.log .info
      liftM (Server.ofOptions options.grpcServerOptions
        options.networkMagnitudeCalculatorOptions)) globals
      (fun server after => Server.ofOptions options.grpcServerOptions
        options.networkMagnitudeCalculatorOptions = .ok server ∧
          Exporting logs metrics name after)
      (fun fault after => fault.IsException ∧ Exporting logs metrics name after ∧
        Server.ofOptions options.grpcServerOptions
          options.networkMagnitudeCalculatorOptions = .error fault) := by
  refine (ends_log hlogger h .info).safe_bind fun _ after hafter => Ends.lift ?_ ?_
  · exact fun server hserver => ⟨hserver, hafter.1⟩
  · exact fun fault hfault =>
      ⟨Server.raises_ofOptions _ hoptions fault hfault, hafter.1, hfault⟩

theorem ends_run (hoptions : options.networkMagnitudeCalculatorOptions.IsReachable) :
    Ends (Main.run host start options) (Globals.atOptions serviceName)
      (fun ending after => Finished host start options serviceName ending after ∧
        ¬ LoggerFails host options)
      (fun fault after => fault.IsException ∧ Unrecorded host options after) := by
  have hlogs : (logsOf host options).isSome = options.exportLogs := by
    unfold logsOf
    cases options.exportLogs <;> rfl
  have hnamed : Ends (Main.setServiceName options) (Globals.atOptions serviceName)
      (fun _ after => Exporting none none (serviceNameOf options serviceName) after ∧
        after.exported = [])
      (fun fault after => fault.IsException ∧ Unrecorded host options after) := by
    refine Ends.modify ?_
    unfold serviceNameOf Globals.atOptions
    dsimp only
    by_cases hset : ((options.exportLogs || options.exportMetrics) && serviceName.isNone) = true
    · rw [if_pos hset, if_pos hset]
      exact ⟨⟨List.mem_singleton.mpr rfl, rfl, rfl, rfl, rfl, rfl⟩, rfl⟩
    · rw [if_neg hset, if_neg hset]
      exact ⟨⟨List.mem_singleton.mpr rfl, rfl, rfl, rfl, rfl, rfl⟩, rfl⟩
  refine hnamed.bind fun _ globals hglobals => ?_
  obtain ⟨hglobals, hunrecorded⟩ := hglobals
  refine (ends_initializeLogger hglobals).attempt ?_ ?_ ?_
  · rintro logger globals ⟨hlogger, hglobals, hmade⟩
    rw [← hlogs] at hlogger
    -- From here on every error is recorded and cleaned up after.
    have hfail {metrics : Option MetricExporter} {globals : Globals}
        (h : Exporting (logsOf host options) metrics (serviceNameOf options serviceName)
          globals)
        (hcause : ∀ server, Makes host options server →
          ∃ what, start server.mGRPCOptions = .throws what) :
        Ends (Main.fail logger) globals
          (fun ending after => Finished host start options serviceName ending after ∧
            ¬ LoggerFails host options)
          (fun fault after => fault.IsException ∧ Unrecorded host options after) := by
      refine (ends_fail hlogger h).mono ?_ fun _ _ h => h.elim
      rintro ending after ⟨rfl, htornDown, hrecord⟩
      exact ⟨.fails hcause htornDown fun hexport => hrecord (hlogs.trans hexport), hmade⟩
    refine (ends_initializeMetrics hglobals).attempt ?_ ?_ ?_
    · rintro _ globals ⟨hglobals, hmetrics⟩
      refine (ends_makeServer options hoptions hlogger hglobals).attempt ?_ ?_ ?_
      · rintro server globals ⟨hserver, hglobals⟩
        have hmakes : Makes host options server := ⟨hmetrics, hserver⟩
        refine (ends_startProcess hlogger hglobals (start server.mGRPCOptions)).attempt ?_ ?_ ?_
        · rintro ending globals (⟨rfl, hstart, hexporting⟩ | ⟨rfl, hstart, htornDown⟩)
          · exact ⟨.serves hmakes hstart hexporting, hmade⟩
          · exact ⟨.succeeds hmakes hstart htornDown, hmade⟩
        · rintro fault what globals - ⟨-, hglobals, hthrows⟩
          refine hfail hglobals fun other hother => ?_
          obtain rfl := Except.ok.inj (hserver.symm.trans hother.server)
          exact hthrows
        · exact fun fault globals hfault h => absurd h.1 hfault
      · rintro fault what globals - ⟨-, hglobals, hrefused⟩
        refine hfail hglobals fun server hserver => ?_
        cases hrefused.symm.trans hserver.server
      · exact fun fault globals hfault h => absurd h.1 hfault
    · rintro fault what globals - ⟨rfl, -, hmetrics⟩
      refine (ends_log hlogger hglobals .critical).safe_bind fun _ after hafter => ?_
      have htornDown := tornDown_cleaned hafter.1.loggerProvider hafter.1.apiLoggerProvider
        hafter.1.metricsInitialized (by simp [hafter.1.apiMeterProvider, Provider.of])
      refine Ends.of_ok rfl ⟨.fails (fun server hserver => absurd hmetrics hserver.metrics)
        htornDown.1 fun hexport => ?_, hmade⟩
      rw [htornDown.2]
      exact hafter.2 rfl (hlogs.trans hexport)
    · exact fun fault globals hfault h => absurd h.2.1 hfault
  · rintro fault what globals - ⟨rfl, -, hfails⟩
    have hregister : Ends (Main.registerLogger "console") globals (fun _ _ => False)
        (fun fault after => fault.IsException ∧ Unrecorded host options after) := by
      refine (ends_registerLogger hglobals.registered).mono (fun _ _ h => h) ?_
      rintro fault after ⟨hexception, rfl⟩
      exact ⟨hexception, hfails, tornDown_of_none hglobals, hunrecorded⟩
    exact hregister.bind fun _ _ h => h.elim
  · rintro fault globals hfault ⟨-, hexception, -⟩
    exact absurd hexception hfault

end Ends

/-- What `main` sets up for its options it takes away again on every way out, unless its
server serves; an error that ends it is recorded before.  No record is ever sent to a
provider that is gone.  The one error that `main` does not survive is that of its logger:
the program is terminated before the error is recorded, with nothing set up. -/
theorem exporters_are_torn_down (host : Host F) (start : ServerOptions → StartOutcome)
    (options : ProgramOptions F) (serviceName : Option Bytes)
    (hoptions : options.networkMagnitudeCalculatorOptions.IsReachable) :
    Ends (Method.uncaught (Main.run host start options)) (Globals.atOptions serviceName)
      (fun ending after => Finished host start options serviceName ending after ∧
        ¬ LoggerFails host options)
      (fun fault after => fault = .terminate ∧ Unrecorded host options after) :=
  (ends_run host start options serviceName hoptions).uncaught
    (fun _ _ _ h => ⟨rfl, h.2⟩) fun _ _ hfault h => absurd h.1 hfault

/-- A host where every exporter can be made. -/
def anyHost : Host ℚ where
  platform :=
    { files := { doesExist := fun _ => true, contents := fun _ => none }
      boost :=
        { readIni := fun _ => .ok fun _ => none
          toInt := fun _ => none
          toUInt16 := fun _ => none
          toBool := fun _ => none }
      toDouble := fun _ => none
      environment :=
        { toInt64 := fun _ => none, getenv := fun _ => none, withOtlpGrpc := false } }
  createLogExporter := fun _ => none
  createMetricExporter := fun _ => none

/-- The options of a program that exports its logs. -/
def exportingOptions : ProgramOptions ℚ where
  networkMagnitudeCalculatorOptions :=
    Rationals.calculatorOptions Rationals.table (Rationals.stationsSet Rationals.corrections) 2
  exportLogs := true

/-- A process that returns leaves no exporter of logs behind. -/
theorem exporters_are_torn_down_sample :
    Ends (Method.uncaught (Main.run anyHost (fun _ => .returns) exportingOptions))
      (Globals.atOptions none)
      (fun ending after => Finished anyHost (fun _ => .returns) exportingOptions none ending
        after ∧ ¬ LoggerFails anyHost exportingOptions)
      (fun fault after => fault = .terminate ∧ Unrecorded anyHost exportingOptions after) :=
  exporters_are_torn_down anyHost (fun _ => .returns) exportingOptions none
    (Rationals.calculatorOptions_isReachable Rationals.sample.table_isReachable
      Rationals.sample.corrections_isReachable 2)

/-! ## What `start` comes to -/

section Start

variable (starts : ServerBuilder → Bool) (options : ServerOptions)

/-- The main thread of a process leaves `start` exactly when the outcome is an exception,
and then there is no server left that the destructor would stop. -/
theorem start_throws_iff :
    (∃ process, Process.IsReachable starts options ⟨process, [], Process.destroy⟩) ↔
      Process.startOutcome starts options = .throws "Failed to start server" := by
  unfold Process.startOutcome
  constructor
  · rintro ⟨process, hreachable⟩
    rcases isReachable_cases hreachable with hs | ⟨-, hs⟩ | ⟨hfails, -⟩
    · rcases hs.block with hblock | hblock
      · cases hblock
      · cases hblock
    · rcases hs.block with hblock | hblock
      · cases hblock
      · cases hblock
    · rw [hfails]
      rfl
  · intro h
    cases hstarts : starts options.configure with
    | true =>
        rw [hstarts] at h
        cases h
    | false =>
        have hbuild : (Process.language starts options).execute .buildAndStart
            { mKeepRunning := true } = some (.throws { mKeepRunning := true }) := by
          simp [Process.language, Process.execute, hstarts]
        have hthrows : Threads.Step (Process.language starts options)
            ⟨{ mKeepRunning := true }, Process.start.tail, Process.destroy⟩
            ⟨{ mKeepRunning := true }, [], Process.destroy⟩ := .executes hbuild
        exact ⟨_, Threads.Reaches.execute rfl (Threads.Reaches.step hthrows)⟩

end Start

/-! ## The program as it is -/

/-- The options of the network magnitude do not get out of the loader. -/
theorem networkMagnitude_of_parseInitializationFile {platform : Platform F} {iniFile : Bytes}
    {options : ProgramOptions F}
    (h : ProgramOptions.parseInitializationFile platform iniFile = .ok options) :
    options.networkMagnitudeCalculatorOptions = {} := by
  cases hexists : platform.files.doesExist iniFile with
  | true => exact (ProgramOptions.services_of_parseInitializationFile hexists h).2
  | false =>
      unfold ProgramOptions.parseInitializationFile at h
      rw [if_pos (by simp [hexists])] at h
      obtain rfl := Except.ok.inj h
      rfl

/-- The user asks for the help message. -/
def AsksForHelp (parsed : Throws CommandLine) : Prop :=
  ∃ vm, parsed = .ok vm ∧ vm.help = true

theorem isHelp_of_parseCommandLineOptions {files : FileSystem} {parsed : Throws CommandLine}
    {iniFile : Bytes} (h : parseCommandLineOptions files parsed = .ok (iniFile, true)) :
    AsksForHelp parsed := by
  obtain ⟨vm, hparsed, h⟩ := bind_eq_ok.mp h
  refine ⟨vm, hparsed, ?_⟩
  by_contra hhelp
  rw [if_neg hhelp] at h
  cases hini : vm.ini with
  | none =>
      rw [hini] at h
      cases h
  | some iniFile =>
      rw [hini] at h
      cases (throwIf_bind_eq_ok.mp h).2

omit [ExactArithmetic F] in
theorem iniFileOf_eq_none_iff {host : Host F} {parsed : Throws CommandLine} :
    Main.iniFileOf host parsed = .ok none ↔ AsksForHelp parsed := by
  constructor
  · intro h
    obtain ⟨⟨iniFileName, isHelp⟩, hread, h⟩ := bind_eq_ok.mp h
    cases isHelp with
    | true => exact isHelp_of_parseCommandLineOptions hread
    | false => cases (throwIf_bind_eq_ok.mp h).2
  · rintro ⟨vm, rfl, hhelp⟩
    unfold Main.iniFileOf parseCommandLineOptions
    rw [bind_ok, if_pos hhelp]
    rfl

omit [ExactArithmetic F] in
/-- What goes wrong with the command line is an exception, as far as boost keeps to them. -/
theorem isException_of_iniFileOf {host : Host F} {parsed : Throws CommandLine} {fault : Fault}
    (h : Main.iniFileOf host parsed = .error fault) :
    fault.IsException ∨ parsed = .error fault := by
  cases parsed with
  | error thrown => exact Or.inr (congrArg Except.error (Except.error.inj h))
  | ok vm =>
      have hraises : Raises (Main.iniFileOf host (.ok vm)) Fault.IsException := by
        refine .bind ?_ fun read _ => ?_
        · unfold parseCommandLineOptions
          rw [bind_ok]
          split
          · exact .ok _
          · cases vm.ini with
            | none => exact .ok _
            | some iniFile => exact .bind (.throwIf fun _ => trivial) fun _ _ => .ok _
        · dsimp only
          split
          · exact .ok _
          · exact .bind (.throwIf fun _ => trivial) fun _ _ => .ok _
      exact Or.inl (hraises fault h)

/-- The file has a distance table that `std::sort` is not defined for. -/
def HasUnsortableFile (platform : Platform F) (iniFile : Bytes) : Prop :=
  platform.files.doesExist iniFile = true ∧
    ∃ propertyTree, platform.boost.readIni iniFile = .ok propertyTree ∧
      ProgramOptions.HasUnsortableDistances platform propertyTree

theorem isException_of_parseInitializationFile {platform : Platform F} {iniFile : Bytes}
    {fault : Fault}
    (h : ProgramOptions.parseInitializationFile platform iniFile = .error fault) :
    fault.IsException ∨ platform.boost.readIni iniFile = .error fault ∨
      fault = .undefinedBehavior ∧ HasUnsortableFile platform iniFile := by
  cases hexists : platform.files.doesExist iniFile with
  | false =>
      unfold ProgramOptions.parseInitializationFile at h
      rw [if_pos (by simp [hexists])] at h
      cases h
  | true =>
      cases hread : platform.boost.readIni iniFile with
      | ok propertyTree =>
          refine (ProgramOptions.raises_parseInitializationFile hexists hread fault h).imp_right ?_
          exact fun hunsortable =>
            Or.inr ⟨hunsortable.1, hexists, propertyTree, hread, hunsortable.2⟩
      | error thrown =>
          unfold ProgramOptions.parseInitializationFile at h
          rw [if_neg (by simp [hexists]), hread] at h
          exact Or.inr (Or.inl (congrArg Except.error (Except.error.inj h)))

/-- The first logger is registered. -/
theorem registerLogger_first (serviceName : Option Bytes) :
    Main.registerLogger "console" { serviceName := serviceName } =
      .ok () (Globals.atOptions serviceName) := rfl

/-- Why the program may end without a status: its logger could not be made, boost has thrown
something else than an exception, or the distances of its file can not be sorted. -/
inductive Crash (host : Host F) (parsed : Throws CommandLine) : Fault → Prop
  | logger {iniFile : Bytes} {options : ProgramOptions F}
      (hparse : ProgramOptions.parseInitializationFile host.platform iniFile = .ok options)
      (hfails : LoggerFails host options) : Crash host parsed .terminate
  | commandLine {fault : Fault} (hparsed : parsed = .error fault)
      (hfault : ¬ fault.IsException) : Crash host parsed fault
  | file {iniFile : Bytes} {fault : Fault}
      (hread : host.platform.boost.readIni iniFile = .error fault)
      (hfault : ¬ fault.IsException) : Crash host parsed fault
  | distances {iniFile : Bytes} (hunsortable : HasUnsortableFile host.platform iniFile) :
      Crash host parsed .undefinedBehavior

/-- What is read before the exporters are set up leaves the globals alone. -/
theorem ends_lift_atOptions {α : Type} (x : Throws α) (serviceName : Option Bytes) :
    Ends (liftM x) (Globals.atOptions serviceName)
      (fun a after => x = .ok a ∧ after = Globals.atOptions serviceName)
      (fun fault after => x = .error fault ∧ after = Globals.atOptions serviceName) :=
  Ends.lift (fun _ h => ⟨h, rfl⟩) fun _ h => ⟨h, rfl⟩

/-- The program never gets as far as its server, whatever its command line, its files and
its exporters are: the loader drops what it has read for the network magnitude, and no server
is made of options without corrections.  Every run that returns is a failure, unless it was for the
help message. -/
theorem server_is_never_started (host : Host F) (start : ServerOptions → StartOutcome)
    (parsed : Throws CommandLine) (serviceName : Option Bytes) :
    Ends (Main.main host start parsed) { serviceName := serviceName }
        (fun ending after => TornDown after ∧
          ((AsksForHelp parsed ∧ ending = .success) ∨
            (¬ AsksForHelp parsed ∧ ending = .failure)))
        (fun fault _ => Crash host parsed fault) ∧
      ∀ iniFile options, ProgramOptions.parseInitializationFile host.platform iniFile =
        .ok options → ∀ server, ¬ Makes host options server := by
  have hrefused : ∀ iniFile options, ProgramOptions.parseInitializationFile host.platform
      iniFile = .ok options → ∀ server, ¬ Makes host options server := by
    intro iniFile options hparse server hmakes
    have hserver := hmakes.server
    rw [networkMagnitude_of_parseInitializationFile hparse] at hserver
    have hvalid := (Server.exists_ofOptions_iff options.grpcServerOptions
      (.init rfl)).mp ⟨server, hserver⟩
    cases hvalid
  have htornDown : TornDown (Globals.atOptions serviceName) := ⟨rfl, nofun, rfl, nofun⟩
  refine ⟨?_, hrefused⟩
  -- Only the logger's error leaves the body of `main` as an exception.
  have hexception : ∀ fault, fault.IsException →
      (Crash host parsed fault ∨ fault.IsException ∧ Crash host parsed .terminate) →
        Crash host parsed .terminate := by
    rintro fault hfault (h | h)
    · cases h with
      | logger hparse hfails => exact .logger hparse hfails
      | commandLine hparsed hother => exact absurd hfault hother
      | file hread hother => exact absurd hfault hother
      | distances hunsortable => exact hfault.elim
    · exact h.2
  refine Ends.uncaught ?_ (fun fault _ => hexception fault)
    fun fault _ hfault h => h.resolve_right fun h => hfault h.1
  have hregistered : Ends (Main.registerLogger "console") { serviceName := serviceName }
      (fun _ after => after = Globals.atOptions serviceName)
      (fun fault _ =>
        Crash host parsed fault ∨ fault.IsException ∧ Crash host parsed .terminate) :=
    .of_ok (registerLogger_first serviceName) rfl
  refine Ends.bind hregistered fun _ globals hglobals => ?_
  subst hglobals
  refine Ends.attempt (ends_lift_atOptions (Main.iniFileOf host parsed) serviceName) ?_ ?_ ?_
  · rintro iniFile globals ⟨hiniFile, rfl⟩
    cases iniFile with
    | none => exact Ends.pure ⟨htornDown, Or.inl ⟨iniFileOf_eq_none_iff.mp hiniFile, rfl⟩⟩
    | some iniFile =>
        have hno : ¬ AsksForHelp parsed := fun h => by
          cases hiniFile.symm.trans (iniFileOf_eq_none_iff.mpr h)
        refine Ends.attempt (ends_lift_atOptions
          (ProgramOptions.parseInitializationFile host.platform iniFile) serviceName) ?_ ?_ ?_
        · rintro options globals ⟨hparse, rfl⟩
          have hoptions : options.networkMagnitudeCalculatorOptions.IsReachable := by
            rw [networkMagnitude_of_parseInitializationFile hparse]
            exact .init rfl
          refine (ends_run host start options serviceName hoptions).mono ?_ ?_
          · rintro ending after ⟨hfinished, -⟩
            cases hfinished with
            | serves hmakes hstart hexporting => exact absurd hmakes (hrefused _ _ hparse _)
            | succeeds hmakes hstart hgone => exact absurd hmakes (hrefused _ _ hparse _)
            | fails hcause hgone herror => exact ⟨hgone, Or.inr ⟨hno, rfl⟩⟩
          · rintro fault after ⟨hfault, hfails⟩
            exact Or.inr ⟨hfault, .logger hparse hfails.fails⟩
        · rintro fault what globals - ⟨-, rfl⟩
          exact Ends.pure ⟨htornDown, Or.inr ⟨hno, rfl⟩⟩
        · rintro fault globals hfault ⟨hparse, -⟩
          rcases (isException_of_parseInitializationFile hparse).resolve_left hfault with
            hread | ⟨rfl, hunsortable⟩
          · exact Or.inl (.file hread hfault)
          · exact Or.inl (.distances hunsortable)
  · rintro fault what globals - ⟨hiniFile, rfl⟩
    have hno : ¬ AsksForHelp parsed := fun h => by
      cases hiniFile.symm.trans (iniFileOf_eq_none_iff.mpr h)
    exact Ends.pure ⟨htornDown, Or.inr ⟨hno, rfl⟩⟩
  · rintro fault globals hfault ⟨hiniFile, -⟩
    exact Or.inl (.commandLine ((isException_of_iniFileOf hiniFile).resolve_left hfault) hfault)

end Properties
end ULocalMagnitude
