import ULocalMagnitude.Logger

/-!
# Export of metrics

`metrics.hpp`: the provider of the exporter is set last, so a factory that throws leaves
nothing behind.
-/

namespace ULocalMagnitude
namespace Metrics

open Cxx Configuration
open Configuration.OTelOptions (HTTPMetrics GRPCMetrics)

variable {F : Type} [ExactArithmetic F]

/-- What `initializeHTTP` and `initializeGRPC` have in common. -/
def initializeWith (host : Host F) (exportMetrics : Bool) (exporter : MetricExporter) :
    Method Globals Unit := do
  if !exportMetrics then return ()
  else do
    liftM (create host.createMetricExporter exporter)
    modify fun globals =>
      { globals with apiMeterProvider := .exporting exporter, metricsInitialized := true }

/-- The exporter of `initializeHTTP` -/
def httpExporter (options : HTTPMetrics) : MetricExporter :=
  .http (options.url ++ options.suffix) options.exportInterval options.exportTimeOut

/-- The exporter of `initializeGRPC` -/
def grpcExporter (options : GRPCMetrics) : MetricExporter :=
  .grpc options.url
    (if options.certificatePath ≠ [] then some options.certificatePath else none)
    options.exportInterval options.exportTimeOut

/-- The exporter that the options ask for -/
def exporterOf (options : ProgramOptions F) : MetricExporter :=
  if options.exportMetricsWithHTTP then httpExporter options.otelHTTPMetricsOptions
  else grpcExporter options.otelGRPCMetricsOptions

def initializeMetrics (host : Host F) (options : ProgramOptions F) : Method Globals Unit :=
  if options.exportMetricsWithHTTP then
    initializeWith host options.exportMetrics (httpExporter options.otelHTTPMetricsOptions)
  else if host.platform.environment.withOtlpGrpc then
    initializeWith host options.exportMetrics (grpcExporter options.otelGRPCMetricsOptions)
  else liftM (.error (.runtimeError "Recompile with Conan and OTLP_GRPC") : Throws Unit)

def cleaned (globals : Globals) : Globals :=
  let globals :=
    if globals.metricsInitialized then { globals with apiMeterProvider := .null } else globals
  { globals with metricsInitialized := false }

def cleanup : Method Globals Unit := modify cleaned

end Metrics
end ULocalMagnitude
