import Mathlib.Logic.Function.Basic
import ULocalMagnitude.Grpc.Server
import ULocalMagnitude.Threads

/-!
# The process

The main thread of `main.cpp`, from the start of the process to its destruction, with
the parts of `grpc/server.cpp` that it runs.  A statement that calls a function puts the
statements of that function in front.  Between any two statements the process can be
sent a signal.
-/

namespace ULocalMagnitude

open Grpc (ServerBuilder ServerOptions)
open Threads (Language Outcome Thread)

/-- The signals that the process reacts to. -/
inductive Signal where
  | sigint
  | sigterm
deriving DecidableEq

/-- What is done about a signal: the default action ends the process. -/
inductive Disposition where
  | default
  | signalHandler
deriving DecidableEq

/-- `grpc::Server`; there is one from `BuildAndStart` on. -/
inductive GrpcServer where
  | serving
  | shutDown
deriving DecidableEq

/-- The part of `Server::ServerImpl` that changes. -/
structure ServerImpl where
  mServer : Option GrpcServer := none
  mServerStarted : Bool := false

/-- `Process`, with the variables that its signal handler sets.  The constructor makes
the server and nothing resets the pointer to it. -/
structure Process where
  mServer : ServerImpl := {}
  mKeepRunning : Bool := false
  mStopProcessRequested : Bool := false
  mSignalStatus : Option Signal := none
  mInterrupted : Bool := false
  disposition : Signal → Disposition := fun _ => .default

/-- The statements of the main thread. -/
inductive Statement where
  /-- `mKeepRunning.store(value)` -/
  | storeKeepRunning (value : Bool)
  /-- `mServer = builder.BuildAndStart()` and the exception when there is no server -/
  | buildAndStart
  /-- `mServerStarted.store(value)` -/
  | storeServerStarted (value : Bool)
  /-- `mServer->Wait()` -/
  | wait
  /-- `std::signal(signal, Process::signalHandler)` -/
  | signal (signal : Signal)
  /-- `while (!mStopProcessRequested)` -/
  | whileNotStopRequested
  /-- `if (mInterrupted)` in the loop -/
  | ifInterrupted
  /-- `if (!areFuturesOkay(waitForFuture))` in the loop -/
  | ifFuturesNotOkay
  /-- `mStopProcessCondition.wait_for(lock, pause, ...)` -/
  | waitFor
  /-- `if (mStopProcessRequested)` after the loop -/
  | ifStopRequested
  /-- `if (mServer && mServerStarted.exchange(false))` -/
  | ifServerStarted
  /-- `mServer->Shutdown(deadline)` -/
  | shutdown
  /-- `mServer = nullptr` -/
  | resetServer
deriving DecidableEq

namespace ServerImpl

/-- What `start` does after the builder has been told everything. -/
def start : List Statement :=
  [.buildAndStart, .storeServerStarted true, .wait, .storeServerStarted false]

def stop : List Statement := [.ifServerStarted]

/-- Destructor; a gRPC server that were still there would shut itself down. -/
def destroy : List Statement := stop ++ [.resetServer]

end ServerImpl

namespace Process

/-- Stops processes -/
def stop : List Statement := .storeKeepRunning false :: ServerImpl.stop

/-- Checks any futures -/
def areFuturesOkay : Bool := true

/-- Defines the signals we'll react to. -/
def catchSignals : List Statement := [.signal .sigint, .signal .sigterm]

/-- Handles main thread activities. -/
def handleMainThread : List Statement :=
  catchSignals ++ [.whileNotStopRequested, .ifStopRequested]

/-- Starts processes -/
def start : List Statement := .storeKeepRunning true :: (ServerImpl.start ++ handleMainThread)

/-- Destructor -/
def destroy : List Statement := stop ++ ServerImpl.destroy

/-- The handler of `SIGINT` and `SIGTERM`. -/
def signalHandler (signal : Signal) (process : Process) : Process :=
  { process with mSignalStatus := some signal, mInterrupted := true }

/-- The process is sent a signal; by default that is its end. -/
def raise (signal : Signal) (process : Process) : Option Process :=
  match process.disposition signal with
  | .default => none
  | .signalHandler => some (process.signalHandler signal)

/-- Executes a statement; `starts` tells whether `BuildAndStart` yields a server. -/
def execute (starts : Bool) : Statement → Process → Option (Outcome Statement Process)
  | .storeKeepRunning value, process =>
      some (.continues { process with mKeepRunning := value } [])
  | .buildAndStart, process =>
      if starts then
        some (.continues { process with
          mServer := { process.mServer with mServer := some .serving } } [])
      else
        some (.throws { process with mServer := { process.mServer with mServer := none } })
  | .storeServerStarted value, process =>
      some (.continues { process with
        mServer := { process.mServer with mServerStarted := value } } [])
  | .wait, process =>
      -- It returns only when the server has been shut down.
      if process.mServer.mServer = some .shutDown then some (.continues process []) else none
  | .signal signal, process =>
      some (.continues { process with
        disposition := Function.update process.disposition signal .signalHandler } [])
  | .whileNotStopRequested, process =>
      some (.continues process (if process.mStopProcessRequested then [] else [.ifInterrupted]))
  | .ifInterrupted, process =>
      if process.mInterrupted then
        some (.continues { process with mStopProcessRequested := true } [])
      else
        some (.continues process [.ifFuturesNotOkay])
  | .ifFuturesNotOkay, process =>
      if areFuturesOkay then
        some (.continues process [.waitFor, .whileNotStopRequested])
      else
        some (.continues { process with mStopProcessRequested := true } [])
  | .waitFor, process => some (.continues process [])
  | .ifStopRequested, process =>
      some (.continues process (if process.mStopProcessRequested then stop else []))
  | .ifServerStarted, process =>
      if process.mServer.mServer ≠ none ∧ process.mServer.mServerStarted then
        some (.continues { process with
          mServer := { process.mServer with mServerStarted := false } } [.shutdown, .resetServer])
      else
        some (.continues process [])
  | .shutdown, process =>
      some (.continues { process with
        mServer := { process.mServer with mServer := some .shutDown } } [])
  | .resetServer, process =>
      some (.continues { process with
        mServer := { process.mServer with mServer := none } } [])

/-- The signals that do not end the process. -/
def interrupts (process : Process) : List Process :=
  [Signal.sigint, Signal.sigterm].filterMap fun signal => process.raise signal

/-- The main thread of a process with these options; `starts` is what gRPC makes of what
the builder has been told. -/
def language (starts : ServerBuilder → Bool) (options : ServerOptions) :
    Language Statement Process where
  execute := execute (starts options.configure)
  interrupts := interrupts

/-- `main` from the call of `start` on; the destructor also follows an exception. -/
def init : Thread Statement Process := ⟨{}, start, destroy⟩

/-- A state in the life of the process. -/
def IsReachable (starts : ServerBuilder → Bool) (options : ServerOptions)
    (s : Thread Statement Process) : Prop :=
  Threads.Reaches (language starts options) init s

/-- The gRPC server has been started and not been shut down. -/
def IsServing (s : Thread Statement Process) : Prop :=
  s.memory.mServer.mServer = some .serving

/-- `Server::stop` has called `Shutdown`. -/
def IsShutDown (s : Thread Statement Process) : Prop :=
  s.memory.mServer.mServer = some .shutDown

/-- The handler has recorded a signal. -/
def interrupted (signal : Signal) (s : Thread Statement Process) : Thread Statement Process :=
  { s with memory := s.memory.signalHandler signal }

theorem raise_eq_some_iff {signal : Signal} {process process' : Process} :
    process.raise signal = some process' ↔
      process.disposition signal = .signalHandler ∧ process' = process.signalHandler signal := by
  unfold raise
  cases process.disposition signal with
  | default => simp
  | signalHandler => simp [eq_comm]

theorem raise_eq_none_iff {signal : Signal} {process : Process} :
    process.raise signal = none ↔ process.disposition signal = .default := by
  unfold raise
  cases process.disposition signal with
  | default => simp
  | signalHandler => simp

/-- A signal that does not end the process runs the handler. -/
theorem mem_interrupts_iff {process process' : Process} :
    process' ∈ process.interrupts ↔
      ∃ signal, process.disposition signal = .signalHandler ∧
        process' = process.signalHandler signal := by
  have hall : ∀ signal : Signal, signal ∈ [Signal.sigint, Signal.sigterm] := by
    intro signal
    cases signal with
    | sigint => simp
    | sigterm => simp
  unfold interrupts
  rw [List.mem_filterMap]
  constructor
  · intro h
    rcases h with ⟨signal, -, hraise⟩
    exact ⟨signal, raise_eq_some_iff.mp hraise⟩
  · intro h
    rcases h with ⟨signal, hhandler⟩
    exact ⟨signal, hall signal, raise_eq_some_iff.mpr hhandler⟩

end Process
end ULocalMagnitude
