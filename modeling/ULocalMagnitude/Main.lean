import ULocalMagnitude.Grpc.Server
import ULocalMagnitude.Metrics.Exporter

/-!
# The program

`main` of `main.cpp` and `parseCommandLineOptions.hpp`.  The function is a sequence of `try`
blocks: each step either hands something to the next one, or the program returns with
`EXIT_FAILURE` after it has taken away what the steps before have set up.

What a call of `Process::start` comes to is left open here; `Process.startOutcome` is what
the main thread of a process makes of it.
-/

namespace ULocalMagnitude

open Cxx Configuration
open Grpc (Server ServerOptions)

variable {F : Type} [ExactArithmetic F]

/-- The `variables_map` of the command line. -/
structure CommandLine where
  help : Bool := false
  ini : Option Bytes := none

/-- Reads the program options from the command line; boost has parsed it or has thrown. -/
def parseCommandLineOptions (files : FileSystem) (parsed : Throws CommandLine) :
    Throws (Bytes × Bool) := do
  let vm ← parsed
  if vm.help then return ([], true)
  else
    match vm.ini with
    | none => return ([], false)
    | some iniFile => do
        throwIf (!files.doesExist iniFile) (.runtimeError ("Initialization file: " ++
          toText iniFile ++ " does not exist"))
        return (iniFile, false)

/-- How the program ends: with a status, or it waits for a server that nobody shuts down. -/
inductive Ending where
  | exits (status : Int)
  | serves
deriving DecidableEq

def Ending.success : Ending := .exits 0

def Ending.failure : Ending := .exits 1

/-- What a call of `Process::start` comes to. -/
inductive StartOutcome where
  | serves
  | returns
  | throws (what : String)
deriving DecidableEq

/-- `Process::start`; `starts` tells whether `BuildAndStart` yields a server. -/
def Process.startOutcome (starts : Grpc.ServerBuilder → Bool) (options : ServerOptions) :
    StartOutcome :=
  if starts options.configure then .serves else .throws "Failed to start server"

namespace Main

open Logger (SpdLogger)

/-- `spdlog::stdout_color_st(name)`; the registry takes every name once. -/
def registerLogger (name : String) : Method Globals Unit := do
  let globals ← get
  liftM (throwIf (name ∈ globals.registry)
    (.runtimeError ("logger with name '" ++ name ++ "' already exists")))
  modify fun globals => { globals with registry := name :: globals.registry }

/-- `setenv("OTEL_SERVICE_NAME", ...)` if somebody exports and the variable is not there. -/
def setServiceName (options : ProgramOptions F) : Method Globals Unit :=
  modify fun globals =>
    if (options.exportLogs || options.exportMetrics) && globals.serviceName.isNone then
      { globals with serviceName := some options.applicationName }
    else globals

/-- `process->start()` and what follows it in its `try` block.  A process that returns has
logged more before that. -/
def startProcess (logger : SpdLogger) : StartOutcome → Method Globals Ending
  | .serves => do
      logger.log .info
      return .serves
  | .returns => do
      logger.log .info
      Metrics.cleanup
      Logger.cleanup
      return .success
  | .throws what => do
      logger.log .info
      logger.log .critical
      liftM (.error (.runtimeError what) : Throws Ending)

/-- A `catch` clause after the exporters were set up. -/
def fail (logger : SpdLogger) : Method Globals Ending := do
  logger.log .critical
  Metrics.cleanup
  Logger.cleanup
  return .failure

/-- `main` from where the program options have been read. -/
def run (host : Host F) (start : ServerOptions → StartOutcome) (options : ProgramOptions F) :
    Method Globals Ending := do
  setServiceName options
  -- Create the real logger
  Method.attempt (Logger.initializeLogger host options)
    (fun _ => do
      -- The first logger of this name is still registered.
      registerLogger "console"
      return .failure)
    fun logger =>
      Method.attempt (Metrics.initializeMetrics host options)
        (fun _ => do
          logger.log .critical
          Logger.cleanup
          return .failure)
        fun _ =>
          Method.attempt
            (do
              logger.log .info
              liftM (Server.ofOptions options.grpcServerOptions
                options.networkMagnitudeCalculatorOptions))
            (fun _ => fail logger)
            fun server =>
              Method.attempt (startProcess logger (start server.mGRPCOptions))
                (fun _ => fail logger) pure

/-- Parse the command line arguments: nothing is left to do for help. -/
def iniFileOf (host : Host F) (parsed : Throws CommandLine) : Throws (Option Bytes) := do
  let (iniFileName, isHelp) ← parseCommandLineOptions host.platform.files parsed
  if isHelp then return none
  else do
    throwIf (iniFileName = []) (.runtimeError "No initialization file specified")
    return some iniFileName

def main (host : Host F) (start : ServerOptions → StartOutcome)
    (parsed : Throws CommandLine) : Method Globals Ending :=
  Method.uncaught do
    registerLogger "console"
    Method.attempt (liftM (iniFileOf host parsed)) (fun _ => return .failure) fun iniFile =>
      match iniFile with
      | none => return .success
      | some iniFile =>
          -- Get the program options
          Method.attempt (liftM (ProgramOptions.parseInitializationFile host.platform iniFile))
            (fun _ => return .failure) fun options => run host start options

end Main
end ULocalMagnitude
