import ULocalMagnitude.Grpc.Server

/-!
# Restrictions

Which of the restrictions in the options the running server has.  `start` passes the
maximum size of requests to the bound on responses, and the client certificate to nobody.
-/

namespace ULocalMagnitude
namespace Properties

open Cxx Grpc

/-- Requests are bounded by the option, and responses are not. -/
structure BoundsRequests (options : ServerOptions) : Prop where
  longer : ∀ length : Nat, options.getMaximumRequestMessageSizeInBytes < length →
    options.configure.RefusesRequest length
  shorter : ∀ length : Nat, length < options.getMaximumRequestMessageSizeInBytes →
    ¬ options.configure.RefusesRequest length
  responses : ∀ length : Nat, ¬ options.configure.LimitsResponse length

/-- A client is admitted only with a certificate that is verified against the one that
is set. -/
def VerifiesClients (verifies : Bytes → Bytes → Prop) (options : ServerOptions) : Prop :=
  ∀ certificate, options.getClientCertificate = some certificate →
    ∀ presented, options.credentials.Admits verifies presented →
      ∃ given, presented = some given ∧ verifies certificate given

/-- Setting a client certificate makes a difference to the credentials. -/
def TellsClientCertificates (options : ServerOptions) : Prop :=
  ∀ certificate, { options with mClientCertificate := some certificate }.validate = .ok () →
    { options with mClientCertificate := some certificate }.credentials ≠
      { options with mClientCertificate := none }.credentials

/-- Every restriction that the options carry is in force. -/
structure InForce (verifies : Bytes → Bytes → Prop) (options : ServerOptions) : Prop where
  requests : BoundsRequests options
  clients : VerifiesClients verifies options
  credentials : TellsClientCertificates options

section Options

variable {options : ServerOptions}

theorem refusesRequest_iff (length : Nat) :
    options.configure.RefusesRequest length ↔ 4194304 < length := by
  show (0 : Int) ≤ 4194304 ∧ (4194304 : Int) < length ↔ _
  omega

theorem limitsResponse_iff (hoptions : options.Inv) (length : Nat) :
    options.configure.LimitsResponse length ↔
      options.getMaximumRequestMessageSizeInBytes < length := by
  have hsize : 1 ≤ options.getMaximumRequestMessageSizeInBytes :=
    hoptions.maximumRequestMessageSize
  constructor
  · intro h
    rcases h with ⟨bound, hbound, -, hlt⟩
    obtain rfl : options.getMaximumRequestMessageSizeInBytes = bound := Option.some.inj hbound
    exact hlt
  · intro hlt
    exact ⟨_, rfl, by omega, hlt⟩

/-- The credentials have no root certificates, so they admit everybody. -/
theorem admits_credentials (verifies : Bytes → Bytes → Prop) (presented : Option Bytes) :
    options.credentials.Admits verifies presented := by
  unfold ServerOptions.credentials
  split
  · exact Or.inl rfl
  · trivial

/-- The client certificate does not get into the credentials. -/
theorem credentials_congr (certificate : Option Bytes) :
    { options with mClientCertificate := certificate }.credentials = options.credentials := rfl

end Options

/-- The restrictions are never all in force.  Longer requests are refused only from 4 MB
on, whatever the option says; it bounds the responses instead.  Clients are verified only
where no client certificate is set. -/
theorem restrictions_are_never_in_force (verifies : Bytes → Bytes → Prop)
    (options : ServerOptions) (hoptions : options.IsReachable) :
    ¬ InForce verifies options ∧
      ((∀ length : Nat, options.getMaximumRequestMessageSizeInBytes < length →
          options.configure.RefusesRequest length) ↔
        4194304 ≤ options.getMaximumRequestMessageSizeInBytes) ∧
      ((∀ length : Nat, length < options.getMaximumRequestMessageSizeInBytes →
          ¬ options.configure.RefusesRequest length) ↔
        options.getMaximumRequestMessageSizeInBytes ≤ 4194305) ∧
      (∀ length : Nat, options.configure.LimitsResponse length ↔
        options.getMaximumRequestMessageSizeInBytes < length) ∧
      (VerifiesClients verifies options ↔ options.getClientCertificate = none) ∧
      (TellsClientCertificates options ↔ ¬ options.useTLS) := by
  have hsize : 1 ≤ options.getMaximumRequestMessageSizeInBytes :=
    hoptions.inv.maximumRequestMessageSize
  refine ⟨?_, ?_, ?_, limitsResponse_iff hoptions.inv, ?_, ?_⟩
  · intro hforce
    -- A response that is longer than the bound on requests is not sent.
    refine hforce.requests.responses (options.getMaximumRequestMessageSizeInBytes + 1).toNat ?_
    rw [limitsResponse_iff hoptions.inv]
    omega
  · simp only [refusesRequest_iff]
    constructor
    · intro h
      have hnext := h (options.getMaximumRequestMessageSizeInBytes + 1).toNat (by omega)
      omega
    · intro hlarge length hlength
      omega
  · simp only [refusesRequest_iff]
    constructor
    · intro h
      have hprevious := h (options.getMaximumRequestMessageSizeInBytes - 1).toNat (by omega)
      omega
    · intro hsmall length hlength
      omega
  · constructor
    · intro hverifies
      cases hcertificate : options.getClientCertificate with
      | none => rfl
      | some certificate =>
          obtain ⟨given, hgiven, -⟩ :=
            hverifies certificate hcertificate none (admits_credentials verifies none)
          cases hgiven
    · intro hnone certificate hcertificate
      rw [hnone] at hcertificate
      cases hcertificate
  · constructor
    · intro htells htls
      have hcerts := ServerOptions.useTLS_eq_true_iff.mp htls
      refine htells (bytes "certificate")
        (ServerOptions.validate_eq_ok.mpr (Or.inl ⟨hcerts.2, hcerts.1⟩)) ?_
      exact (credentials_congr _).trans (credentials_congr _).symm
    · intro hinsecure certificate hcertificate
      rcases ServerOptions.validate_eq_ok.mp hcertificate with ⟨hserver, hkey⟩ |
        ⟨-, -, -, hclient⟩
      · exact absurd (ServerOptions.useTLS_eq_true_iff.mpr ⟨hkey, hserver⟩) hinsecure
      · cases hclient

/-- Key, certificate and client certificate set, with the default sizes. -/
def mutualOptions : ServerOptions where
  mServerKey := some (bytes "k")
  mServerCertificate := some (bytes "c")
  mClientCertificate := some (bytes "r")

theorem mutualOptions_isReachable : mutualOptions.IsReachable := by
  have hempty : ServerOptions.IsReachable {} := .init rfl
  have hkey := hempty.call_eq_ok (i := ServerOptions.Setter.serverKey (bytes "k")) trivial
    (ServerOptions.call_setServerKey_eq_ok.mpr ⟨by decide, rfl⟩)
  have hcertificate := hkey.call_eq_ok
    (i := ServerOptions.Setter.serverCertificate (bytes "c")) trivial
    (ServerOptions.call_setServerCertificate_eq_ok.mpr ⟨by decide, rfl⟩)
  exact hcertificate.call_eq_ok (i := ServerOptions.Setter.clientCertificate (bytes "r")) trivial
    (ServerOptions.call_setClientCertificate_eq_ok.mpr ⟨by decide, rfl⟩)

/-- A request that is too long is not refused, a response of that length is not sent, and
a client without a certificate is admitted. -/
theorem stranger_sends_long_request :
    mutualOptions.IsReachable ∧ mutualOptions.validate = .ok () ∧
      mutualOptions.getMaximumRequestMessageSizeInBytes = 65536 ∧
      ¬ mutualOptions.configure.RefusesRequest 65537 ∧
      mutualOptions.configure.LimitsResponse 65537 ∧
      mutualOptions.getClientCertificate = some (bytes "r") ∧
      (∀ verifies, mutualOptions.credentials.Admits verifies none) ∧
      ∀ verifies, ¬ InForce verifies mutualOptions := by
  have hlong : ¬ mutualOptions.configure.RefusesRequest 65537 := by
    rw [refusesRequest_iff]
    omega
  refine ⟨mutualOptions_isReachable, by decide, rfl, hlong, ?_, rfl,
    fun verifies => admits_credentials verifies none, ?_⟩
  · exact ⟨65536, rfl, by decide, by decide⟩
  · intro verifies hforce
    exact hlong (hforce.requests.longer 65537 (by decide))

/-- Even with 4 MB for requests the restrictions are not in force. -/
theorem four_megabytes_are_not_in_force :
    ¬ InForce (fun _ _ => True)
        { mutualOptions with mMaximumRequestMessageSizeInBytes := 4194304 } := by
  have hreachable := mutualOptions_isReachable.call_eq_ok
    (i := ServerOptions.Setter.maximumRequestMessageSizeInBytes 4194304) trivial
    (ServerOptions.call_setMaximumRequestMessageSizeInBytes_eq_ok.mpr ⟨by decide, rfl⟩)
  exact (restrictions_are_never_in_force (fun _ _ => True) _ hreachable).1

end Properties
end ULocalMagnitude
