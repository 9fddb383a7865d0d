import ULocalMagnitude.Grpc.MagnitudeServiceOptions
import ULocalMagnitude.Grpc.Server
import ULocalMagnitude.Rationals

/-!
# What the options of a service were given

Options of the magnitude service that are default constructed and then used through their
setters, in any order and with any arguments, also invalid ones.  What their getters return is
what was given last of what is valid, and where all is given a server can be made of it: the
validation at the setters is all that the constructors ask for.
-/

namespace ULocalMagnitude
namespace Properties

open Cxx Grpc
open Grpc.MagnitudeServiceOptions (Setter setters)
open Magnitude (NetworkMagnitudeCalculatorOptions)

variable {F : Type} [Arithmetic F]

/-- The options after some calls of their setters. -/
def serviceOptions (calls : List (Setter F)) : MagnitudeServiceOptions F :=
  after Setter.method calls {}

/-- The valid options of a server that were given last. -/
def lastGRPCOptions (calls : List (Setter F)) : Option ServerOptions :=
  (setters F).lastGiven Setter.givenGRPCOptions calls

/-- The valid options of the network magnitude that were given last. -/
def lastCalculatorOptions (calls : List (Setter F)) :
    Option (NetworkMagnitudeCalculatorOptions F) :=
  (setters F).lastGiven Setter.givenCalculatorOptions calls

/-- The positive size that was given last. -/
def lastSize (calls : List (Setter F)) : Option Int :=
  (setters F).lastGiven Setter.givenSize calls

section Calls

variable (calls : List (Setter F))

theorem getGRPCOptions_serviceOptions : (serviceOptions calls).getGRPCOptions =
    require (lastGRPCOptions calls) (.runtimeError "gRPC server options not set") := by
  refine (setters F).throwing_get_after (fun call options => ?_) calls rfl
  cases call with
  | grpcOptions newOptions => rfl
  | networkMagnitudeCalculatorOptions newOptions => rfl
  | maximumRequestMessageSizeInBytes newSize => rfl

theorem getNetworkMagnitudeCalculatorOptions_serviceOptions :
    (serviceOptions calls).getNetworkMagnitudeCalculatorOptions =
      require (lastCalculatorOptions calls)
        (.invalidArgument "Network magnitude calculator options not set") := by
  refine (setters F).throwing_get_after (fun call options => ?_) calls rfl
  cases call with
  | grpcOptions newOptions => rfl
  | networkMagnitudeCalculatorOptions newOptions => rfl
  | maximumRequestMessageSizeInBytes newSize => rfl

theorem getMaximumRequestMessageSizeInBytes_serviceOptions :
    (serviceOptions calls).getMaximumRequestMessageSizeInBytes =
      (lastSize calls).getD 4096 := by
  refine (setters F).get_after (fun call options => ?_) calls {}
  cases call with
  | grpcOptions newOptions => rfl
  | networkMagnitudeCalculatorOptions newOptions => rfl
  | maximumRequestMessageSizeInBytes newSize => rfl

variable {calls}

theorem validate_of_lastGRPCOptions {grpcOptions : ServerOptions}
    (h : lastGRPCOptions calls = some grpcOptions) : grpcOptions.validate = .ok () := by
  obtain ⟨call, -, haccepts, hgiven⟩ := (setters F).exists_of_lastGiven h
  cases call with
  | grpcOptions newOptions =>
      obtain rfl := Option.some.inj hgiven
      exact of_decide_eq_true haccepts
  | networkMagnitudeCalculatorOptions newOptions => exact nomatch hgiven
  | maximumRequestMessageSizeInBytes newSize => exact nomatch hgiven

/-- What is stored is valid and was made through its class. -/
theorem validate_of_lastCalculatorOptions (hadmissible : ∀ call ∈ calls, call.Admissible)
    {calculatorOptions : NetworkMagnitudeCalculatorOptions F}
    (h : lastCalculatorOptions calls = some calculatorOptions) :
    calculatorOptions.IsReachable ∧ calculatorOptions.validate = .ok () := by
  obtain ⟨call, hcall, haccepts, hgiven⟩ := (setters F).exists_of_lastGiven h
  cases call with
  | grpcOptions newOptions => exact nomatch hgiven
  | networkMagnitudeCalculatorOptions newOptions =>
      obtain rfl := Option.some.inj hgiven
      exact ⟨hadmissible _ hcall, of_decide_eq_true haccepts⟩
  | maximumRequestMessageSizeInBytes newSize => exact nomatch hgiven

/-- The size is always positive. -/
theorem lastSize_pos : 0 < (lastSize calls).getD 4096 := by
  cases h : lastSize calls with
  | none => exact (by decide : (0 : Int) < 4096)
  | some size =>
      obtain ⟨call, -, haccepts, hgiven⟩ := (setters F).exists_of_lastGiven h
      cases call with
      | grpcOptions newOptions => exact nomatch hgiven
      | networkMagnitudeCalculatorOptions newOptions => exact nomatch hgiven
      | maximumRequestMessageSizeInBytes newSize =>
          obtain rfl := Option.some.inj hgiven
          exact of_decide_eq_true haccepts

end Calls

/-- Through any calls of the setters the getters return what was given last of what is valid;
a size is positive, and of options that are there a server can be made, with them and the
access token they have. -/
theorem given_options_make_a_server (calls : List (Setter F))
    (hadmissible : ∀ call ∈ calls, call.Admissible) :
    ((serviceOptions calls).getGRPCOptions =
        require (lastGRPCOptions calls) (.runtimeError "gRPC server options not set") ∧
      (serviceOptions calls).getNetworkMagnitudeCalculatorOptions =
        require (lastCalculatorOptions calls)
          (.invalidArgument "Network magnitude calculator options not set") ∧
      (serviceOptions calls).getMaximumRequestMessageSizeInBytes =
        (lastSize calls).getD 4096) ∧
      0 < (serviceOptions calls).getMaximumRequestMessageSizeInBytes ∧
      ∀ grpcOptions calculatorOptions,
        (serviceOptions calls).getGRPCOptions = .ok grpcOptions →
        (serviceOptions calls).getNetworkMagnitudeCalculatorOptions = .ok calculatorOptions →
        ∃ server, Server.ofOptions grpcOptions calculatorOptions = .ok server ∧
          server.mGRPCOptions = grpcOptions ∧
          server.magnitudeService.mCalculator.mOptions = calculatorOptions ∧
          server.magnitudeService.mAccessToken = grpcOptions.mAccessToken := by
  refine ⟨⟨getGRPCOptions_serviceOptions calls,
    getNetworkMagnitudeCalculatorOptions_serviceOptions calls,
    getMaximumRequestMessageSizeInBytes_serviceOptions calls⟩, ?_, ?_⟩
  · rw [getMaximumRequestMessageSizeInBytes_serviceOptions]
    exact lastSize_pos
  · intro grpcOptions calculatorOptions hgrpc hcalculator
    rw [getGRPCOptions_serviceOptions, require_eq_ok] at hgrpc
    rw [getNetworkMagnitudeCalculatorOptions_serviceOptions, require_eq_ok] at hcalculator
    obtain ⟨hreachable, hvalid⟩ := validate_of_lastCalculatorOptions hadmissible hcalculator
    obtain ⟨server, hserver, -, hoptions, -⟩ :=
      Server.exists_ofOptions_of_validate grpcOptions hreachable hvalid
    have htoken := Server.accessToken_of_ofOptions (validate_of_lastGRPCOptions hgrpc) hserver
    obtain ⟨service, -, hmade⟩ := bind_eq_ok.mp hserver
    obtain rfl := Except.ok.inj hmade
    exact ⟨_, hserver, rfl, hoptions, htoken⟩

/-- The options of a network with two corrected stations. -/
def someCalculatorOptions : NetworkMagnitudeCalculatorOptions ℚ :=
  Rationals.calculatorOptions Rationals.table (Rationals.stationsSet Rationals.corrections) 2

/-- Calls on the options of a service, three of them with something that is refused. -/
def someCalls : List (Setter ℚ) :=
  [.grpcOptions { mPort := 50001 },
    .networkMagnitudeCalculatorOptions someCalculatorOptions,
    .grpcOptions { mAccessToken := some (bytes "token") },
    .maximumRequestMessageSizeInBytes 0,
    .networkMagnitudeCalculatorOptions {}]

/-- What is refused is not what the server is made of. -/
theorem some_calls_make_a_server :
    (serviceOptions someCalls).getMaximumRequestMessageSizeInBytes = 4096 ∧
      ∃ server, Server.ofOptions { mPort := 50001 } someCalculatorOptions = .ok server ∧
        server.magnitudeService.mAccessToken = none := by
  have hoptions : someCalculatorOptions.IsReachable :=
    Rationals.calculatorOptions_isReachable Rationals.sample.table_isReachable
      Rationals.sample.corrections_isReachable 2
  have hadmissible : ∀ call ∈ someCalls, call.Admissible :=
    List.forall_mem_cons.mpr ⟨trivial, List.forall_mem_cons.mpr ⟨hoptions,
      List.forall_mem_cons.mpr ⟨trivial, List.forall_mem_cons.mpr ⟨trivial,
        List.forall_mem_cons.mpr ⟨.init rfl, List.forall_mem_nil _⟩⟩⟩⟩⟩
  obtain ⟨hdistance, hstations⟩ := Rationals.calculatorOptions_has
    Rationals.sample.table_isReachable
    (rfl : (Rationals.stationsSet Rationals.corrections).empty = false) 2
  have haccepts : (setters ℚ).accepts
      (.networkMagnitudeCalculatorOptions someCalculatorOptions) = true :=
    decide_eq_true (NetworkMagnitudeCalculatorOptions.validate_eq_ok.mpr ⟨hstations, hdistance⟩)
  have hkept : someCalls.filter (setters ℚ).accepts =
      [.grpcOptions { mPort := 50001 },
        .networkMagnitudeCalculatorOptions someCalculatorOptions] := by
    unfold someCalls
    rw [List.filter_cons_of_pos (by decide), List.filter_cons_of_pos haccepts,
      List.filter_cons_of_neg (by decide), List.filter_cons_of_neg (by decide),
      List.filter_cons_of_neg (by decide), List.filter_nil]
  obtain ⟨⟨hgrpc, hcalculator, hsize⟩, -, hserver⟩ :=
    given_options_make_a_server someCalls hadmissible
  unfold lastGRPCOptions Setters.lastGiven at hgrpc
  unfold lastCalculatorOptions Setters.lastGiven at hcalculator
  unfold lastSize Setters.lastGiven at hsize
  rw [hkept] at hgrpc hcalculator hsize
  obtain ⟨server, hmade, -, -, htoken⟩ := hserver _ _ hgrpc hcalculator
  exact ⟨hsize, server, hmade, htoken⟩

end Properties
end ULocalMagnitude
