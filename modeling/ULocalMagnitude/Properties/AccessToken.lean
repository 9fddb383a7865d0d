import ULocalMagnitude.Grpc.Exits
import ULocalMagnitude.Grpc.Server
import ULocalMagnitude.Rationals

/-!
# The access token

From the initialization file to the refusal of a call: a token that is configured, in the
file itself or in one that it names, passes through the options and the server to the
service without getting lost or empty, so the service asks every client for it.
-/

namespace ULocalMagnitude
namespace Properties

open Cxx Grpc ULocalMagnitude.Configuration
open Corrections (Distance)
open Magnitude (NetworkMagnitudeCalculatorOptions)
open Grpc.MagnitudeService (networkReactor stationReactor correctionsReactor)

variable {F : Type} [Arithmetic F]

/-- The metadata entry that shows the token. -/
def tokenEntry (token : Bytes) : Bytes × Bytes := (bytes "x-custom-auth-token", token)

/-- The call on a route was refused as unauthenticated, with an untouched response. -/
def unauthenticated {R : Type} (route : String) (response : R) : Reactor R where
  mRouteName := route
  response := response
  finished := [{ code := .unauthenticated, message := "Invalid access token" }]
  incremented := [(.unauthenticated, route)]

/-- No call of `Finish` was with `UNAUTHENTICATED`. -/
def IsAdmitted {R : Type} (reactor : Reactor R) : Prop :=
  ∀ status ∈ reactor.finished, status.code ≠ .unauthenticated

/-- A client without the token gets the same answer to every request, whatever the tables
of the service are, and a client with the token is admitted. -/
structure Enforces (service : MagnitudeService F) (token : Bytes) : Prop where
  refused : ∀ clientMetadata, tokenEntry token ∉ clientMetadata →
    (∀ inverse version request,
      networkReactor inverse version service clientMetadata request =
        .ok (unauthenticated "ComputeNetworkMagnitudeFromAmplitudes" {})) ∧
    (∀ inverse version request,
      stationReactor inverse version service clientMetadata request =
        .ok (unauthenticated "ComputeStationMagnitudesFromAmplitudes" {})) ∧
    ∀ request, correctionsReactor service clientMetadata request =
      .ok (unauthenticated "GetStationCorrections" {})
  admitted : ∀ clientMetadata, tokenEntry token ∈ clientMetadata →
    (∀ inverse version request reactor,
      networkReactor inverse version service clientMetadata request = .ok reactor →
        IsAdmitted reactor) ∧
    (∀ inverse version request reactor,
      stationReactor inverse version service clientMetadata request = .ok reactor →
        IsAdmitted reactor) ∧
    ∀ request reactor, correctionsReactor service clientMetadata request = .ok reactor →
      IsAdmitted reactor

theorem validateClient_iff {clientMetadata : ClientMetadata} {token : Bytes}
    (htoken : token ≠ []) :
    validateClient clientMetadata token = true ↔ tokenEntry token ∈ clientMetadata := by
  unfold validateClient tokenEntry
  rw [if_neg htoken, List.any_eq_true]
  constructor
  · intro h
    rcases h with ⟨⟨name, value⟩, hmem, hitem⟩
    simp only [Bool.and_eq_true, decide_eq_true_eq] at hitem
    obtain ⟨rfl, rfl⟩ := hitem
    exact hmem
  · intro hmem
    exact ⟨_, hmem, by simp⟩

/-- A service with a token that is not empty admits the clients that show it. -/
theorem authorizes_iff {service : MagnitudeService F} {token : Bytes}
    (hservice : service.mAccessToken = some token) (htoken : token ≠ [])
    (clientMetadata : ClientMetadata) :
    service.Authorizes clientMetadata ↔ tokenEntry token ∈ clientMetadata := by
  unfold MagnitudeService.Authorizes
  rw [hservice, ← validateClient_iff htoken]
  simp

theorem isAdmitted_of_left {R : Type} {route : String} {reactor : Reactor R}
    (h : reactor.IsAnswered route ∨ reactor.IsRefused MagnitudeService.refusals route) :
    IsAdmitted reactor := by
  intro status hstatus
  rcases h with hanswered | hrefused
  · rw [hanswered.finished, List.mem_singleton] at hstatus
    rw [hstatus]
    decide
  · obtain ⟨refusal, hcode, hfinished, -⟩ := hrefused.refusal
    rw [hfinished, List.mem_singleton] at hstatus
    subst hstatus
    intro hsame
    rw [hsame] at hcode
    exact absurd hcode (by decide)

theorem enforces {service : MagnitudeService F} {token : Bytes}
    (hservice : service.mAccessToken = some token) (htoken : token ≠ []) :
    Enforces service token := by
  refine ⟨?_, ?_⟩
  · intro clientMetadata hmissing
    rw [← authorizes_iff hservice htoken] at hmissing
    refine ⟨?_, ?_, ?_⟩
    · intro inverse version request
      exact MagnitudeService.run_checkClient_of_not_authorized hmissing _ _
    · intro inverse version request
      exact MagnitudeService.run_checkClient_of_not_authorized hmissing _ _
    · intro request
      exact MagnitudeService.run_checkClient_of_not_authorized hmissing _ _
  · intro clientMetadata hshown
    rw [← authorizes_iff hservice htoken] at hshown
    refine ⟨?_, ?_, ?_⟩
    · intro inverse version request reactor h
      exact isAdmitted_of_left (MagnitudeService.networkReactor_left hshown h)
    · intro inverse version request reactor h
      exact isAdmitted_of_left (MagnitudeService.stationReactor_left hshown h)
    · intro request reactor h
      exact isAdmitted_of_left (MagnitudeService.correctionsReactor_left hshown h)

/-- Every server with options from a file with a token enforces the token. -/
theorem configured_token_is_enforced (files : FileSystem) (boost : Boost)
    (iniFile sectionIn : Bytes) (options : ServerOptions)
    (h : ServerOptions.fromInitializationFile files boost iniFile sectionIn = .ok options)
    (tree : PropertyTree) (htree : boost.readIni iniFile = .ok tree)
    (hset : (tree (sectionPrefix sectionIn ++ bytes "accessToken")).isSome ∨
      (tree (sectionPrefix sectionIn ++ bytes "accessTokenFile")).isSome) :
    ∃ token, token ≠ [] ∧
      resolveSecret files tree (sectionPrefix sectionIn ++ bytes "accessToken")
        (sectionPrefix sectionIn ++ bytes "accessTokenFile") = .ok (some token) ∧
      ∀ (calculatorOptions : NetworkMagnitudeCalculatorOptions F) (server : Server F),
        Server.ofOptions options calculatorOptions = .ok server →
          Enforces server.magnitudeService token := by
  obtain ⟨tree', htree', hreads⟩ := ServerOptions.reads_of_fromInitializationFile h
  obtain rfl : tree = tree' := Except.ok.inj (htree.symm.trans htree')
  obtain ⟨token, hsome⟩ := exists_of_resolveSecret hreads.accessToken hset
  have hnonempty : token ≠ [] := by
    rintro rfl
    exact hreads.reachable.inv.accessToken hsome
  refine ⟨token, hnonempty, hsome ▸ hreads.accessToken, ?_⟩
  intro calculatorOptions server hserver
  have hservice := Server.accessToken_of_ofOptions hreads.valid hserver
  exact enforces (hservice.trans hsome) hnonempty

/-! ## A token in a file -/

/-- The file `t` holds the token and a line break. -/
def tokenFiles : FileSystem where
  doesExist path := path = bytes "ini" ∨ path = bytes "t"
  contents path := if path = bytes "t" then some (bytes "secret\n") else none

/-- `[GRPCServer]` with `serverKey = k`, `serverCertificate = c`, `accessTokenFile = t` -/
def tokenTree : PropertyTree := fun path =>
  if path = bytes "GRPCServer.serverKey" then some (bytes "k")
  else if path = bytes "GRPCServer.serverCertificate" then some (bytes "c")
  else if path = bytes "GRPCServer.accessTokenFile" then some (bytes "t")
  else none

/-- None of the settings that are there is a number. -/
def tokenBoost : Boost where
  readIni _ := .ok tokenTree
  toInt _ := none
  toUInt16 _ := none
  toBool _ := none

def tokenOptions : ServerOptions where
  mServerKey := some (bytes "k")
  mServerCertificate := some (bytes "c")
  mAccessToken := some (bytes "secret")

theorem token_in_a_file_is_enforced :
    ServerOptions.fromInitializationFile tokenFiles tokenBoost (bytes "ini")
        (bytes "GRPCServer") = .ok tokenOptions ∧
      ∃ token, token ≠ [] ∧
        resolveSecret tokenFiles tokenTree (bytes "GRPCServer.accessToken")
          (bytes "GRPCServer.accessTokenFile") = .ok (some token) ∧
        ∀ (calculatorOptions : NetworkMagnitudeCalculatorOptions ℚ) (server : Server ℚ),
          Server.ofOptions tokenOptions calculatorOptions = .ok server →
            Enforces server.magnitudeService token := by
  have hloaded : ServerOptions.fromInitializationFile tokenFiles tokenBoost (bytes "ini")
      (bytes "GRPCServer") = .ok tokenOptions := by
    decide +kernel
  exact ⟨hloaded, configured_token_is_enforced tokenFiles tokenBoost (bytes "ini")
    (bytes "GRPCServer") tokenOptions hloaded tokenTree rfl (Or.inr (by decide +kernel))⟩

end Properties
end ULocalMagnitude
