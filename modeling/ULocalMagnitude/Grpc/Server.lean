import ULocalMagnitude.Grpc.MagnitudeService
import ULocalMagnitude.Grpc.ServerOptions

/-!
# The server

`grpc/server.cpp`: the service that the constructor creates, and what `start` hands to
the builder of the gRPC server.  What a gRPC server does with it is documented with
gRPC; `RefusesRequest`, `LimitsResponse` and `Admits` say it.
-/

namespace ULocalMagnitude
namespace Grpc

open Cxx
open Magnitude (NetworkMagnitudeCalculatorOptions)

variable {F : Type} [Arithmetic F]

/-- `Server::ServerImpl`; the one service stands for the map of services. -/
structure Server (F : Type) [Arithmetic F] where
  mGRPCOptions : ServerOptions
  magnitudeService : MagnitudeService F

/-- Use TLS? -/
def ServerOptions.useTLS (options : ServerOptions) : Bool :=
  if options.getServerKey = none ∨ options.getServerCertificate = none then false else true

theorem ServerOptions.useTLS_eq_true_iff {options : ServerOptions} :
    options.useTLS = true ↔ options.mServerKey ≠ none ∧ options.mServerCertificate ≠ none := by
  unfold useTLS getServerKey getServerCertificate
  by_cases hnone : options.mServerKey = none ∨ options.mServerCertificate = none
  · rw [if_pos hnone, ← not_or]
    simp [hnone]
  · rw [if_neg hnone, ← not_or]
    simp [hnone]

namespace Server

/-- Run during construction -/
def createServices (grpcOptions : ServerOptions)
    (calculatorOptions : NetworkMagnitudeCalculatorOptions F) : Throws (MagnitudeService F) :=
  -- Are we going to secure the server?
  let accessToken := if grpcOptions.useTLS then grpcOptions.getAccessToken else none
  MagnitudeService.ofOptions calculatorOptions accessToken

/-- Constructor -/
def ofOptions (grpcOptions : ServerOptions)
    (calculatorOptions : NetworkMagnitudeCalculatorOptions F) : Throws (Server F) := do
  let magnitudeService ← createServices grpcOptions calculatorOptions
  return { mGRPCOptions := grpcOptions, magnitudeService }

theorem raises_ofOptions (grpcOptions : ServerOptions)
    {calculatorOptions : NetworkMagnitudeCalculatorOptions F}
    (hoptions : calculatorOptions.IsReachable) :
    Raises (ofOptions grpcOptions calculatorOptions) Fault.IsException := by
  refine .bind ?_ fun _ _ => .ok _
  refine .bind (Magnitude.NetworkMagnitudeCalculator.raises_ofOptions hoptions) fun _ _ => ?_
  exact .bind (.throwIf fun _ => trivial) fun _ _ => .ok _

/-- The server can be constructed from the options of the network magnitude that pass their
validation. -/
theorem exists_ofOptions_iff (grpcOptions : ServerOptions)
    {calculatorOptions : NetworkMagnitudeCalculatorOptions F}
    (hoptions : calculatorOptions.IsReachable) :
    (∃ server, ofOptions grpcOptions calculatorOptions = .ok server) ↔
      calculatorOptions.validate = .ok () := by
  rw [← Magnitude.NetworkMagnitudeCalculator.exists_ofOptions_iff hoptions]
  unfold ofOptions createServices MagnitudeService.ofOptions
  refine (exists_bind_eq_ok fun service _ => ⟨_, rfl⟩).trans ?_
  refine exists_bind_eq_ok fun calculator hcalculator => ?_
  have hinitialized : calculator.mInitialized = true :=
    Magnitude.NetworkMagnitudeCalculator.IsReachable.initialized
      ⟨calculatorOptions, hoptions, hcalculator⟩
  rw [throwIf_neg (by simp [Magnitude.NetworkMagnitudeCalculator.isInitialized, hinitialized])]
  exact ⟨_, rfl⟩

/-- The server's calculator has the options that it was made of. -/
theorem exists_ofOptions_of_validate (grpcOptions : ServerOptions)
    {calculatorOptions : NetworkMagnitudeCalculatorOptions F}
    (hoptions : calculatorOptions.IsReachable) (hvalid : calculatorOptions.validate = .ok ()) :
    ∃ server, ofOptions grpcOptions calculatorOptions = .ok server ∧
      server.magnitudeService.mCalculator.IsReachable ∧
      server.magnitudeService.mCalculator.mOptions = calculatorOptions ∧
      server.magnitudeService.mAccessToken =
        if grpcOptions.useTLS then grpcOptions.getAccessToken else none := by
  obtain ⟨hstations, hdistance⟩ :=
    Magnitude.NetworkMagnitudeCalculatorOptions.validate_eq_ok.mp hvalid
  obtain ⟨calculator, hcalculator, hsame⟩ :=
    Magnitude.NetworkMagnitudeCalculator.exists_ofOptions hoptions hdistance hstations
  have hreachable : calculator.IsReachable := ⟨calculatorOptions, hoptions, hcalculator⟩
  refine ⟨{ mGRPCOptions := grpcOptions
            magnitudeService :=
              { mCalculator := calculator
                mAccessToken :=
                  if grpcOptions.useTLS then grpcOptions.getAccessToken else none } },
    ?_, hreachable, hsame, rfl⟩
  unfold ofOptions createServices MagnitudeService.ofOptions
  rw [hcalculator, bind_ok, throwIf_neg
    (by simp [Magnitude.NetworkMagnitudeCalculator.isInitialized, hreachable.initialized])]
  rfl

/-- A validated token is the token of the service. -/
theorem accessToken_of_ofOptions {grpcOptions : ServerOptions}
    {calculatorOptions : NetworkMagnitudeCalculatorOptions F} {server : Server F}
    (hvalid : grpcOptions.validate = .ok ())
    (h : ofOptions grpcOptions calculatorOptions = .ok server) :
    server.magnitudeService.mAccessToken = grpcOptions.mAccessToken := by
  obtain ⟨service, hservice, h⟩ := bind_eq_ok.mp h
  obtain rfl := Except.ok.inj h
  unfold createServices MagnitudeService.ofOptions at hservice
  obtain ⟨calculator, -, hservice⟩ := bind_eq_ok.mp hservice
  rw [throwIf_bind_eq_ok] at hservice
  obtain rfl := Except.ok.inj hservice.2
  show (if grpcOptions.useTLS then grpcOptions.mAccessToken else none) =
    grpcOptions.mAccessToken
  rcases ServerOptions.validate_eq_ok.mp hvalid with ⟨hcertificate, hkey⟩ |
    ⟨-, -, htoken, -⟩
  · rw [if_pos (ServerOptions.useTLS_eq_true_iff.mpr ⟨hkey, hcertificate⟩)]
  · rw [htoken, ite_self]

end Server

/-! ## The builder -/

/-- `grpc_ssl_client_certificate_request_type` -/
inductive ClientCertificateRequest where
  | dontRequest
  | requestButDontVerify
  | requestAndVerify
  | requestAndRequireButDontVerify
  | requestAndRequireAndVerify
deriving DecidableEq

/-- `grpc::SslServerCredentialsOptions` with its defaults; the pairs are of keys and
certificates. -/
structure SslServerCredentialsOptions where
  pemRootCerts : Bytes := []
  pemKeyCertPairs : List (Bytes × Bytes) := []
  clientCertificateRequest : ClientCertificateRequest := .dontRequest
deriving DecidableEq

/-- `grpc::ServerCredentials` -/
inductive ServerCredentials where
  | insecure
  | ssl (options : SslServerCredentialsOptions)
deriving DecidableEq

/-- `grpc::ServerBuilder` -/
structure ServerBuilder where
  maxReceiveMessageSize : Option Int := none
  maxSendMessageSize : Option Int := none
  channelArguments : List (String × Int) := []
  listeningPorts : List (Bytes × ServerCredentials) := []
  services : List String := []
deriving DecidableEq

namespace ServerOptions

/-- The branch for the credentials in `start`. -/
def credentials (options : ServerOptions) : ServerCredentials :=
  match options.useTLS, options.getServerKey, options.getServerCertificate with
  | true, some serverKey, some serverCertificate =>
      .ssl { pemKeyCertPairs := [(serverKey, serverCertificate)] }
  | _, _, _ => .insecure

/-- `static_cast<int>` -/
def castToInt (count : Int) : Int := count.bmod 4294967296

/-- What `start` tells the builder before `BuildAndStart`. -/
def configure (options : ServerOptions) : ServerBuilder where
  -- Add global rules like messages size limits etc.
  maxSendMessageSize := some options.getMaximumRequestMessageSizeInBytes
  channelArguments :=
    [("GRPC_ARG_MAX_CONNECTION_AGE_MS", castToInt options.getMaximumConnectionAge),
      ("GRPC_ARG_MAX_CONNECTION_AGE_GRACE_MS",
        castToInt options.getMaximumConnectionAgeGracePeriod)]
  listeningPorts := [(options.getAddress, options.credentials)]
  services := ["MagnitudeService"]

end ServerOptions

namespace ServerBuilder

/-- The bound on requests that is in force by default: 4 MB. -/
def defaultMaxReceiveMessageSize : Int := 4194304

/-- A request of this length is refused; a negative bound is none. -/
def RefusesRequest (builder : ServerBuilder) (length : Nat) : Prop :=
  let bound := builder.maxReceiveMessageSize.getD defaultMaxReceiveMessageSize
  0 ≤ bound ∧ bound < length

/-- A response of this length is not sent; without a bound all are. -/
def LimitsResponse (builder : ServerBuilder) (length : Nat) : Prop :=
  ∃ bound, builder.maxSendMessageSize = some bound ∧ 0 ≤ bound ∧ bound < length

end ServerBuilder

/-- The handshake succeeds with a client that presents this certificate or none.
`verifies` is the verification of a certificate against root certificates; it takes
place only where there are some. -/
def ServerCredentials.Admits (verifies : Bytes → Bytes → Prop) :
    ServerCredentials → Option Bytes → Prop
  | .insecure, _ => True
  | .ssl options, certificate =>
      options.pemRootCerts = [] ∨
      match options.clientCertificateRequest with
      | .dontRequest => True
      | .requestButDontVerify => True
      | .requestAndVerify => ∀ given, certificate = some given →
          verifies options.pemRootCerts given
      | .requestAndRequireButDontVerify => certificate ≠ none
      | .requestAndRequireAndVerify => ∃ given, certificate = some given ∧
          verifies options.pemRootCerts given

end Grpc
end ULocalMagnitude
