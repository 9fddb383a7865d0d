import ULocalMagnitude.Cxx.Settings
import ULocalMagnitude.Grpc.ServerOptions
import ULocalMagnitude.Magnitude.NetworkMagnitudeCalculatorOptions

/-!
# Options of the magnitude service

`grpc/magnitudeServiceOptions.cpp`: the options of the server and those of the network
magnitude together.  Both setters validate what they are given, and what they throw says why
it cannot be set.
-/

namespace ULocalMagnitude
namespace Grpc

open Cxx
open Magnitude (NetworkMagnitudeCalculatorOptions)

variable {F : Type} [Arithmetic F]

/-- `MagnitudeServiceOptions::MagnitudeServiceOptionsImpl` -/
structure MagnitudeServiceOptions (F : Type) [Arithmetic F] where
  mNetworkMagnitudeCalculatorOptions : NetworkMagnitudeCalculatorOptions F := {}
  mGRPCServerOptions : ServerOptions := {}
  mMaximumRequestMessageSizeInBytes : Int := 4096
  mHasNetworkMagnitudeCalculatorOptions : Bool := false
  mHasGRPCServerOptions : Bool := false
deriving DecidableEq

namespace MagnitudeServiceOptions

/-- The `try` around a validation; `reason` is the start of what is thrown. -/
def validated (validate : Throws Unit) (reason : String) : Throws Unit :=
  Cxx.tryCatch validate
    (fun what => .error (.invalidArgument (reason ++ what)))
    (fun what => .error (.invalidArgument (reason ++ what)))

/-- gRPC server -/
def setGRPCOptions (options : ServerOptions) : Method (MagnitudeServiceOptions F) Unit := do
  liftM (validated options.validate "Cannot set gRPC server options because ")
  modify fun serviceOptions =>
    { serviceOptions with mGRPCServerOptions := options, mHasGRPCServerOptions := true }

def hasGRPCOptions (serviceOptions : MagnitudeServiceOptions F) : Bool :=
  serviceOptions.mHasGRPCServerOptions

def getGRPCOptions (serviceOptions : MagnitudeServiceOptions F) : Throws ServerOptions := do
  throwIf (!serviceOptions.hasGRPCOptions) (.runtimeError "gRPC server options not set")
  return serviceOptions.mGRPCServerOptions

/-- Network magnitude calculator options -/
def setNetworkMagnitudeCalculatorOptions (options : NetworkMagnitudeCalculatorOptions F) :
    Method (MagnitudeServiceOptions F) Unit := do
  liftM (validated options.validate "Cannot set magnitude calcalator options because ")
  modify fun serviceOptions =>
    { serviceOptions with
      mNetworkMagnitudeCalculatorOptions := options
      mHasNetworkMagnitudeCalculatorOptions := true }

def hasNetworkMagnitudeCalculatorOptions (serviceOptions : MagnitudeServiceOptions F) : Bool :=
  serviceOptions.mHasNetworkMagnitudeCalculatorOptions

def getNetworkMagnitudeCalculatorOptions (serviceOptions : MagnitudeServiceOptions F) :
    Throws (NetworkMagnitudeCalculatorOptions F) := do
  throwIf (!serviceOptions.hasNetworkMagnitudeCalculatorOptions)
    (.invalidArgument "Network magnitude calculator options not set")
  return serviceOptions.mNetworkMagnitudeCalculatorOptions

/-- Maximum request message size -/
def setMaximumRequestMessageSizeInBytes (maximumMessageSize : Int) :
    Method (MagnitudeServiceOptions F) Unit := do
  throwIf (maximumMessageSize ≤ 0)
    (.invalidArgument "Maximum request message size must be positive")
  modify fun serviceOptions =>
    { serviceOptions with mMaximumRequestMessageSizeInBytes := maximumMessageSize }

def getMaximumRequestMessageSizeInBytes (serviceOptions : MagnitudeServiceOptions F) : Int :=
  serviceOptions.mMaximumRequestMessageSizeInBytes

/-! ## The calls on options -/

/-- A setter with its argument. -/
inductive Setter (F : Type) [Arithmetic F] where
  | grpcOptions (newOptions : ServerOptions)
  | networkMagnitudeCalculatorOptions (newOptions : NetworkMagnitudeCalculatorOptions F)
  | maximumRequestMessageSizeInBytes (newSize : Int)

def Setter.method : Setter F → Method (MagnitudeServiceOptions F) Unit
  | .grpcOptions newOptions => setGRPCOptions newOptions
  | .networkMagnitudeCalculatorOptions newOptions =>
      setNetworkMagnitudeCalculatorOptions newOptions
  | .maximumRequestMessageSizeInBytes newSize => setMaximumRequestMessageSizeInBytes newSize

/-- Options of the network magnitude are themselves made through their class. -/
def Setter.Admissible : Setter F → Prop
  | .grpcOptions _ => True
  | .networkMagnitudeCalculatorOptions newOptions => newOptions.IsReachable
  | .maximumRequestMessageSizeInBytes _ => True

theorem validated_eq_ok {validate : Throws Unit} {reason : String} :
    validated validate reason = .ok () ↔ validate = .ok () := by
  unfold validated Cxx.tryCatch
  cases validate with
  | ok passed => exact Iff.rfl
  | error fault => cases fault <;> simp

/-! ## What the getters return -/

/-- The call is accepted. -/
def Setter.accepts : Setter F → Bool
  | .grpcOptions newOptions => newOptions.validate = .ok ()
  | .networkMagnitudeCalculatorOptions newOptions => newOptions.validate = .ok ()
  | .maximumRequestMessageSizeInBytes newSize => 0 < newSize

/-- What an accepted call stores. -/
def Setter.store : Setter F → MagnitudeServiceOptions F → MagnitudeServiceOptions F
  | .grpcOptions newOptions, options =>
      { options with mGRPCServerOptions := newOptions, mHasGRPCServerOptions := true }
  | .networkMagnitudeCalculatorOptions newOptions, options =>
      { options with
        mNetworkMagnitudeCalculatorOptions := newOptions
        mHasNetworkMagnitudeCalculatorOptions := true }
  | .maximumRequestMessageSizeInBytes newSize, options =>
      { options with mMaximumRequestMessageSizeInBytes := newSize }

theorem Setter.state_eq (call : Setter F) (options : MagnitudeServiceOptions F) :
    call.method.state options = if call.accepts then call.store options else options := by
  have hchecked (check : Throws Unit) (haccepts : check = .ok () ↔ call.accepts = true) :
      (liftM check >>= fun _ => modify call.store : Method _ Unit).state options =
        if call.accepts then call.store options else options := by
    rw [Method.state_checked, if_congr haccepts rfl rfl]
  cases call with
  | grpcOptions newOptions =>
      exact hchecked _ (validated_eq_ok.trans decide_eq_true_iff.symm)
  | networkMagnitudeCalculatorOptions newOptions =>
      exact hchecked _ (validated_eq_ok.trans decide_eq_true_iff.symm)
  | maximumRequestMessageSizeInBytes newSize =>
      exact hchecked _ (throwIf_eq_ok.trans (Int.not_le.trans decide_eq_true_iff.symm))

variable (F) in
/-- The setters of the class. -/
def setters : Setters (Setter.method (F := F)) where
  accepts := Setter.accepts
  store := Setter.store
  state_eq := Setter.state_eq

/-- The options of a server that a call gives. -/
def Setter.givenGRPCOptions : Setter F → Option ServerOptions
  | .grpcOptions newOptions => some newOptions
  | .networkMagnitudeCalculatorOptions _ => none
  | .maximumRequestMessageSizeInBytes _ => none

/-- The options of a network magnitude that a call gives. -/
def Setter.givenCalculatorOptions : Setter F → Option (NetworkMagnitudeCalculatorOptions F)
  | .grpcOptions _ => none
  | .networkMagnitudeCalculatorOptions newOptions => some newOptions
  | .maximumRequestMessageSizeInBytes _ => none

/-- The size that a call gives. -/
def Setter.givenSize : Setter F → Option Int
  | .grpcOptions _ => none
  | .networkMagnitudeCalculatorOptions _ => none
  | .maximumRequestMessageSizeInBytes newSize => some newSize

end MagnitudeServiceOptions

end Grpc
end ULocalMagnitude
