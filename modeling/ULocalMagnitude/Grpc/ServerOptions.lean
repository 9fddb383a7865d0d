import ULocalMagnitude.Configuration.SecretFile
import ULocalMagnitude.Cxx.Objects

/-!
# Server options

`grpc/serverOptions.cpp`.  The setters check each option on its own and `validate` the
certificates, the access token and the client certificate together.  Options that are
loaded from a file have what the file says, or the default where it says nothing.
-/

namespace ULocalMagnitude
namespace Grpc

open Cxx ULocalMagnitude.Configuration

/-- `ServerOptions::ServerOptionsImpl`; durations are in milliseconds. -/
structure ServerOptions where
  mHost : Bytes := bytes "localhost"
  mPort : UInt16 := 50000
  mMaximumRequestMessageSizeInBytes : Int := 65536
  mMaximumConnectionAge : Int := 120000
  mMaximumGracePeriod : Int := 2000
  mAccessToken : Option Bytes := none
  mServerCertificate : Option Bytes := none
  mServerKey : Option Bytes := none
  mClientCertificate : Option Bytes := none
  mReflectionEnabled : Bool := false
deriving DecidableEq

namespace ServerOptions

def setHost (host : Bytes) : Method ServerOptions Unit := do
  throwIf (host = []) (.invalidArgument "Host cannot be empty.")
  modify fun options => { options with mHost := host }

def getHost (options : ServerOptions) : Bytes := options.mHost

def setPort (port : UInt16) : Method ServerOptions Unit := do
  throwIf (port = 0) (.invalidArgument "Port cannot be 0.")
  modify fun options => { options with mPort := port }

def getPort (options : ServerOptions) : UInt16 := options.mPort

def getAddress (options : ServerOptions) : Bytes :=
  options.getHost ++ bytes ":" ++ bytes (Nat.repr options.getPort.toNat)

def setAccessToken (accessToken : Bytes) : Method ServerOptions Unit := do
  throwIf (accessToken = []) (.invalidArgument "Access token cannot be empty.")
  modify fun options => { options with mAccessToken := some accessToken }

def getAccessToken (options : ServerOptions) : Option Bytes := options.mAccessToken

def setServerCertificate (serverCertificate : Bytes) : Method ServerOptions Unit := do
  throwIf (serverCertificate = []) (.invalidArgument "Server certificate cannot be empty.")
  modify fun options => { options with mServerCertificate := some serverCertificate }

def getServerCertificate (options : ServerOptions) : Option Bytes := options.mServerCertificate

def setServerKey (serverKey : Bytes) : Method ServerOptions Unit := do
  throwIf (serverKey = []) (.invalidArgument "Server key cannot be empty.")
  modify fun options => { options with mServerKey := some serverKey }

def getServerKey (options : ServerOptions) : Option Bytes := options.mServerKey

def setClientCertificate (clientCertificate : Bytes) : Method ServerOptions Unit := do
  throwIf (clientCertificate = []) (.invalidArgument "Client certificate cannot be empty.")
  modify fun options => { options with mClientCertificate := some clientCertificate }

def getClientCertificate (options : ServerOptions) : Option Bytes := options.mClientCertificate

def enableReflection : Method ServerOptions Unit :=
  modify fun options => { options with mReflectionEnabled := true }

def disableReflection : Method ServerOptions Unit :=
  modify fun options => { options with mReflectionEnabled := false }

def isReflectionEnabled (options : ServerOptions) : Bool := options.mReflectionEnabled

/-- Maximum request message -/
def setMaximumRequestMessageSizeInBytes (maxMessageSize : Int) : Method ServerOptions Unit := do
  throwIf (maxMessageSize < 1) (.invalidArgument "Max request message size must be positive")
  modify fun options => { options with mMaximumRequestMessageSizeInBytes := maxMessageSize }

def getMaximumRequestMessageSizeInBytes (options : ServerOptions) : Int :=
  options.mMaximumRequestMessageSizeInBytes

/-- Maximum connection age -/
def setMaximumConnectionAge (duration : Int) : Method ServerOptions Unit := do
  throwIf (duration < 1) (.invalidArgument "Max connection duration must be positive")
  modify fun options => { options with mMaximumConnectionAge := duration }

def getMaximumConnectionAge (options : ServerOptions) : Int := options.mMaximumConnectionAge

/-- Maximum grace period -/
def setMaximumConnectionAgeGracePeriod (period : Int) : Method ServerOptions Unit := do
  throwIf (period < 0) (.invalidArgument "Grace period must be non-negative")
  modify fun options => { options with mMaximumGracePeriod := period }

def getMaximumConnectionAgeGracePeriod (options : ServerOptions) : Int :=
  options.mMaximumGracePeriod

/-- Check the options make sense in aggregate -/
def validate (options : ServerOptions) : Throws Unit :=
  -- Server and key are set - everything else is gravy
  if options.getServerCertificate ≠ none ∧ options.getServerKey ≠ none then .ok ()
  else do
    -- After this check we can confirm that no server cert pair is set
    throwIf (options.getServerCertificate ≠ none ∨ options.getServerKey ≠ none)
      (.runtimeError "Server certificate and server key must both be set for TLS")
    -- Token specified but cert pair not set
    throwIf (options.getAccessToken ≠ none) (.runtimeError "Access token requires server certs")
    -- Client cert specificed but cert pair not set
    throwIf (options.getClientCertificate ≠ none)
      (.runtimeError "Client certificate requires server certs to enable mTLS")

/-! ## The initialization file -/

/-- The file-local `getOrDefault`. -/
def getOrDefault {α : Type} (tree : PropertyTree) (translate : Bytes → Option α) (key : Bytes)
    (defaultValue : α) : Throws α :=
  match tree key with
  | none => .ok defaultValue
  | some text =>
      require (tree.getOptional translate key)
        (.invalidArgument (toText key ++ " = " ++ toText text ++ " is not a valid value"))

/-- The host and the port -/
def readAddress (boost : Boost) (propertyTree : PropertyTree) (sectionName : Bytes)
    (options : ServerOptions) : Throws ServerOptions := do
  let host := propertyTree.getString (sectionName ++ bytes "host") options.getHost
  throwIf (host = []) (.invalidArgument (toText sectionName ++ "host is empty"))
  let options ← (setHost host).call options
  let port ← getOrDefault propertyTree boost.toUInt16 (sectionName ++ bytes "port") 50000
  (setPort port).call options

/-- The server's key and certificate; are they there? -/
def readServerCerts (files : FileSystem) (propertyTree : PropertyTree) (sectionName : Bytes)
    (options : ServerOptions) : Throws (ServerOptions × Bool) := do
  let serverKey ← resolveSecret files propertyTree
    (sectionName ++ bytes "serverKey") (sectionName ++ bytes "serverKeyFile")
  let serverCertificate ← resolveSecret files propertyTree
    (sectionName ++ bytes "serverCertificate") (sectionName ++ bytes "serverCertificateFile")
  match serverKey, serverCertificate with
  | some serverKey, some serverCertificate => do
      let options ← (setServerKey serverKey).call options
      let options ← (setServerCertificate serverCertificate).call options
      return (options, true)
  | none, none => return (options, false)
  | _, _ => .error (.invalidArgument "Server key and certificate must both be set")

/-- Reflection, the maximum request message size, and the ages of connections -/
def readLimits (boost : Boost) (propertyTree : PropertyTree) (sectionName : Bytes)
    (options : ServerOptions) : Throws ServerOptions := do
  let reflection ← getOrDefault propertyTree boost.toBool
    (sectionName ++ bytes "enableReflection") false
  let options ← disableReflection.call options
  let options ← (if reflection then enableReflection else pure ()).call options
  let maximumRequestMessageSize ← getOrDefault propertyTree boost.toInt
    (sectionName ++ bytes "maximumRequestMessageSizeInBytes")
    options.getMaximumRequestMessageSizeInBytes
  let options ← (setMaximumRequestMessageSizeInBytes maximumRequestMessageSize).call options
  let maxConnectionAgeMilliS ← getOrDefault propertyTree boost.toInt
    (sectionName ++ bytes "maximumConnectionAgeInMilliSeconds") options.getMaximumConnectionAge
  let options ← (setMaximumConnectionAge maxConnectionAgeMilliS).call options
  let maxGracePeriodMilliS ← getOrDefault propertyTree boost.toInt
    (sectionName ++ bytes "maximumConnectionAgeGracePeriodInMilliSeconds")
    options.getMaximumConnectionAgeGracePeriod
  (setMaximumConnectionAgeGracePeriod maxGracePeriodMilliS).call options

/-- A secret that needs the server's key and certificate; `what` says so when they are
not there. -/
def readSecret (files : FileSystem) (propertyTree : PropertyTree) (inlineKey fileKey : Bytes)
    (set : Bytes → Method ServerOptions Unit) (haveServerCerts : Bool) (what : String)
    (options : ServerOptions) : Throws ServerOptions := do
  match ← resolveSecret files propertyTree inlineKey fileKey with
  | some secret => do
      throwIf (!haveServerCerts) (.invalidArgument what)
      (set secret).call options
  | none => return options

/-- The `try` around the check at the end. -/
def validated (options : ServerOptions) : Throws Unit :=
  Cxx.tryCatch options.validate
    (fun what => .error (.invalidArgument ("Failed to validate options because " ++ what)))
    (fun what => .error (.invalidArgument ("Failed to validate options because " ++ what)))

/-- Read server options from a config file -/
def fromInitializationFile (files : FileSystem) (boost : Boost) (iniFile sectionIn : Bytes) :
    Throws ServerOptions := do
  throwIf (!files.doesExist iniFile)
    (.invalidArgument ("Initialization file " ++ toText iniFile ++ " does not exist"))
  let sectionName := sectionPrefix sectionIn
  let propertyTree ← boost.readIni iniFile
  let options ← readAddress boost propertyTree sectionName {}
  let (options, haveServerCerts) ← readServerCerts files propertyTree sectionName options
  let options ← readLimits boost propertyTree sectionName options
  let options ← readSecret files propertyTree
    (sectionName ++ bytes "accessToken") (sectionName ++ bytes "accessTokenFile")
    setAccessToken haveServerCerts
    "Server key and certificate required to use an access token" options
  let options ← readSecret files propertyTree
    (sectionName ++ bytes "clientCertificate") (sectionName ++ bytes "clientCertificateFile")
    setClientCertificate haveServerCerts
    "Server key and certificate required to use client certficate" options
  options.validated
  return options

/-! ## The setters -/

/-- A setter with its argument. -/
inductive Setter where
  | host (newHost : Bytes)
  | port (newPort : UInt16)
  | accessToken (newToken : Bytes)
  | serverCertificate (newCertificate : Bytes)
  | serverKey (newKey : Bytes)
  | clientCertificate (newCertificate : Bytes)
  | reflectionEnabled
  | reflectionDisabled
  | maximumRequestMessageSizeInBytes (newSize : Int)
  | maximumConnectionAge (newDuration : Int)
  | maximumConnectionAgeGracePeriod (newPeriod : Int)

def Setter.method : Setter → Method ServerOptions Unit
  | .host newHost => setHost newHost
  | .port newPort => setPort newPort
  | .accessToken newToken => setAccessToken newToken
  | .serverCertificate newCertificate => setServerCertificate newCertificate
  | .serverKey newKey => setServerKey newKey
  | .clientCertificate newCertificate => setClientCertificate newCertificate
  | .reflectionEnabled => enableReflection
  | .reflectionDisabled => disableReflection
  | .maximumRequestMessageSizeInBytes newSize =>
      setMaximumRequestMessageSizeInBytes newSize
  | .maximumConnectionAge newDuration => setMaximumConnectionAge newDuration
  | .maximumConnectionAgeGracePeriod newPeriod => setMaximumConnectionAgeGracePeriod newPeriod

/-- Default constructed, then used through the setters. -/
def IsReachable (options : ServerOptions) : Prop :=
  Reachable (fun built => built = {}) Setter.method (fun _ => True) options

theorem setter_atomic (setter : Setter) : setter.method.Atomic := by
  cases setter with
  | host newHost => exact .lift_bind fun _ => .modify _
  | port newPort => exact .lift_bind fun _ => .modify _
  | accessToken newToken => exact .lift_bind fun _ => .modify _
  | serverCertificate newCertificate => exact .lift_bind fun _ => .modify _
  | serverKey newKey => exact .lift_bind fun _ => .modify _
  | clientCertificate newCertificate => exact .lift_bind fun _ => .modify _
  | reflectionEnabled => exact .modify _
  | reflectionDisabled => exact .modify _
  | maximumRequestMessageSizeInBytes newSize => exact .lift_bind fun _ => .modify _
  | maximumConnectionAge newDuration => exact .lift_bind fun _ => .modify _
  | maximumConnectionAgeGracePeriod newPeriod => exact .lift_bind fun _ => .modify _

section Calls

variable {options after : ServerOptions}

theorem call_setHost_eq_ok {host : Bytes} :
    (setHost host).call options = .ok after ↔
      host ≠ [] ∧ { options with mHost := host } = after := by
  simp [setHost]

theorem call_setPort_eq_ok {port : UInt16} :
    (setPort port).call options = .ok after ↔
      port ≠ 0 ∧ { options with mPort := port } = after := by
  simp [setPort]

theorem call_setAccessToken_eq_ok {accessToken : Bytes} :
    (setAccessToken accessToken).call options = .ok after ↔
      accessToken ≠ [] ∧ { options with mAccessToken := some accessToken } = after := by
  simp [setAccessToken]

theorem call_setServerCertificate_eq_ok {serverCertificate : Bytes} :
    (setServerCertificate serverCertificate).call options = .ok after ↔
      serverCertificate ≠ [] ∧
        { options with mServerCertificate := some serverCertificate } = after := by
  simp [setServerCertificate]

theorem call_setServerKey_eq_ok {serverKey : Bytes} :
    (setServerKey serverKey).call options = .ok after ↔
      serverKey ≠ [] ∧ { options with mServerKey := some serverKey } = after := by
  simp [setServerKey]

theorem call_setClientCertificate_eq_ok {clientCertificate : Bytes} :
    (setClientCertificate clientCertificate).call options = .ok after ↔
      clientCertificate ≠ [] ∧
        { options with mClientCertificate := some clientCertificate } = after := by
  simp [setClientCertificate]

theorem call_setMaximumRequestMessageSizeInBytes_eq_ok {maxMessageSize : Int} :
    (setMaximumRequestMessageSizeInBytes maxMessageSize).call options = .ok after ↔
      1 ≤ maxMessageSize ∧
        { options with mMaximumRequestMessageSizeInBytes := maxMessageSize } = after := by
  simp [setMaximumRequestMessageSizeInBytes]

theorem call_setMaximumConnectionAge_eq_ok {duration : Int} :
    (setMaximumConnectionAge duration).call options = .ok after ↔
      1 ≤ duration ∧ { options with mMaximumConnectionAge := duration } = after := by
  simp [setMaximumConnectionAge]

theorem call_setMaximumConnectionAgeGracePeriod_eq_ok {period : Int} :
    (setMaximumConnectionAgeGracePeriod period).call options = .ok after ↔
      0 ≤ period ∧ { options with mMaximumGracePeriod := period } = after := by
  simp [setMaximumConnectionAgeGracePeriod]

/-- TLS is set up completely, or there is nothing that needs it. -/
theorem validate_eq_ok :
    options.validate = .ok () ↔
      (options.mServerCertificate ≠ none ∧ options.mServerKey ≠ none) ∨
        (options.mServerCertificate = none ∧ options.mServerKey = none ∧
          options.mAccessToken = none ∧ options.mClientCertificate = none) := by
  unfold validate getServerCertificate getServerKey getAccessToken getClientCertificate
  by_cases hcerts : options.mServerCertificate ≠ none ∧ options.mServerKey ≠ none
  · simp [hcerts]
  · rw [if_neg hcerts]
    simp only [throwIf_bind_eq_ok, throwIf_eq_ok, not_or, not_not, hcerts, false_or, ne_eq,
      and_assoc]

end Calls

/-- Each value passes the check of its own setter. -/
structure Inv (options : ServerOptions) : Prop where
  host : options.mHost ≠ []
  port : options.mPort ≠ 0
  maximumRequestMessageSize : 1 ≤ options.mMaximumRequestMessageSizeInBytes
  maximumConnectionAge : 1 ≤ options.mMaximumConnectionAge
  maximumGracePeriod : 0 ≤ options.mMaximumGracePeriod
  accessToken : options.mAccessToken ≠ some []
  serverCertificate : options.mServerCertificate ≠ some []
  serverKey : options.mServerKey ≠ some []
  clientCertificate : options.mClientCertificate ≠ some []

/-- Every default passes its own check, and so does what is set later. -/
theorem IsReachable.inv {options : ServerOptions} (h : options.IsReachable) : options.Inv := by
  have hset {secret : Bytes} (hsecret : secret ≠ []) : some secret ≠ some [] := by
    simpa using hsecret
  refine h.invariant_of_atomic ?_ setter_atomic ?_
  · rintro built rfl
    exact ⟨by decide, by decide, by decide, by decide, by decide, nofun, nofun, nofun, nofun⟩
  · intro setter before after _ _ hbefore hexec
    have hcall := Method.call_of_exec hexec
    cases setter with
    | host newHost =>
        obtain ⟨hhost, rfl⟩ := call_setHost_eq_ok.mp hcall
        exact { hbefore with host := hhost }
    | port newPort =>
        obtain ⟨hport, rfl⟩ := call_setPort_eq_ok.mp hcall
        exact { hbefore with port := hport }
    | accessToken newToken =>
        obtain ⟨htoken, rfl⟩ := call_setAccessToken_eq_ok.mp hcall
        exact { hbefore with accessToken := hset htoken }
    | serverCertificate newCertificate =>
        obtain ⟨hcertificate, rfl⟩ := call_setServerCertificate_eq_ok.mp hcall
        exact { hbefore with serverCertificate := hset hcertificate }
    | serverKey newKey =>
        obtain ⟨hkey, rfl⟩ := call_setServerKey_eq_ok.mp hcall
        exact { hbefore with serverKey := hset hkey }
    | clientCertificate newCertificate =>
        obtain ⟨hcertificate, rfl⟩ := call_setClientCertificate_eq_ok.mp hcall
        exact { hbefore with clientCertificate := hset hcertificate }
    | reflectionEnabled =>
        obtain rfl := Except.ok.inj hcall
        exact { hbefore with }
    | reflectionDisabled =>
        obtain rfl := Except.ok.inj hcall
        exact { hbefore with }
    | maximumRequestMessageSizeInBytes newSize =>
        obtain ⟨hsize, rfl⟩ := call_setMaximumRequestMessageSizeInBytes_eq_ok.mp hcall
        exact { hbefore with maximumRequestMessageSize := hsize }
    | maximumConnectionAge newDuration =>
        obtain ⟨hduration, rfl⟩ := call_setMaximumConnectionAge_eq_ok.mp hcall
        exact { hbefore with maximumConnectionAge := hduration }
    | maximumConnectionAgeGracePeriod newPeriod =>
        obtain ⟨hperiod, rfl⟩ := call_setMaximumConnectionAgeGracePeriod_eq_ok.mp hcall
        exact { hbefore with maximumGracePeriod := hperiod }

/-! ## What is read from a file -/

section Reading

variable {files : FileSystem} {boost : Boost} {tree : PropertyTree} {sectionName : Bytes}
  {options after : ServerOptions}

theorem readAddress_eq_ok (h : readAddress boost tree sectionName options = .ok after) :
    ∃ host port, tree.getString (sectionName ++ bytes "host") options.mHost = host ∧
      getOrDefault tree boost.toUInt16 (sectionName ++ bytes "port") 50000 = .ok port ∧
      { options with mHost := host, mPort := port } = after ∧
      (options.IsReachable → after.IsReachable) := by
  unfold readAddress at h
  obtain ⟨-, h⟩ := throwIf_bind_eq_ok.mp h
  obtain ⟨_, hhost, h⟩ := bind_eq_ok.mp h
  obtain ⟨port, hport, h⟩ := bind_eq_ok.mp h
  have hreachable (hoptions : options.IsReachable) : after.IsReachable :=
    (hoptions.call_eq_ok (i := Setter.host _) trivial hhost).call_eq_ok
      (i := Setter.port port) trivial h
  obtain ⟨-, rfl⟩ := call_setHost_eq_ok.mp hhost
  obtain ⟨-, rfl⟩ := call_setPort_eq_ok.mp h
  exact ⟨_, port, rfl, hport, rfl, hreachable⟩

theorem readServerCerts_eq_ok {haveServerCerts : Bool}
    (h : readServerCerts files tree sectionName options = .ok (after, haveServerCerts))
    (hkey : options.mServerKey = none) (hcertificate : options.mServerCertificate = none) :
    ∃ key certificate,
      resolveSecret files tree (sectionName ++ bytes "serverKey")
        (sectionName ++ bytes "serverKeyFile") = .ok key ∧
      resolveSecret files tree (sectionName ++ bytes "serverCertificate")
        (sectionName ++ bytes "serverCertificateFile") = .ok certificate ∧
      { options with mServerKey := key, mServerCertificate := certificate } = after ∧
      (options.IsReachable → after.IsReachable) := by
  unfold readServerCerts at h
  obtain ⟨key, hkey', h⟩ := bind_eq_ok.mp h
  obtain ⟨certificate, hcertificate', h⟩ := bind_eq_ok.mp h
  refine ⟨key, certificate, hkey', hcertificate', ?_⟩
  cases key with
  | none =>
      cases certificate with
      | none =>
          obtain ⟨rfl, rfl⟩ := Prod.mk.inj (Except.ok.inj h)
          refine ⟨?_, id⟩
          cases options
          simp_all
      | some certificate => cases h
  | some key =>
      cases certificate with
      | none => cases h
      | some certificate =>
          obtain ⟨_, hset, h⟩ := bind_eq_ok.mp h
          obtain ⟨_, hset', h⟩ := bind_eq_ok.mp h
          obtain ⟨rfl, rfl⟩ := Prod.mk.inj (Except.ok.inj h)
          have hreachable (hoptions : options.IsReachable) : IsReachable _ :=
            (hoptions.call_eq_ok (i := Setter.serverKey key) trivial hset).call_eq_ok
              (i := Setter.serverCertificate certificate) trivial hset'
          obtain ⟨-, rfl⟩ := call_setServerKey_eq_ok.mp hset
          obtain ⟨-, rfl⟩ := call_setServerCertificate_eq_ok.mp hset'
          exact ⟨rfl, hreachable⟩

theorem readLimits_eq_ok (h : readLimits boost tree sectionName options = .ok after) :
    ∃ reflection size age period,
      getOrDefault tree boost.toBool (sectionName ++ bytes "enableReflection") false =
        .ok reflection ∧
      getOrDefault tree boost.toInt (sectionName ++ bytes "maximumRequestMessageSizeInBytes")
        options.mMaximumRequestMessageSizeInBytes = .ok size ∧
      getOrDefault tree boost.toInt (sectionName ++ bytes "maximumConnectionAgeInMilliSeconds")
        options.mMaximumConnectionAge = .ok age ∧
      getOrDefault tree boost.toInt
        (sectionName ++ bytes "maximumConnectionAgeGracePeriodInMilliSeconds")
        options.mMaximumGracePeriod = .ok period ∧
      { options with
        mReflectionEnabled := reflection
        mMaximumRequestMessageSizeInBytes := size
        mMaximumConnectionAge := age
        mMaximumGracePeriod := period } = after ∧
      (options.IsReachable → after.IsReachable) := by
  unfold readLimits at h
  obtain ⟨reflection, hreflection, h⟩ := bind_eq_ok.mp h
  obtain ⟨disabled, hdisabled, h⟩ := bind_eq_ok.mp h
  obtain ⟨reflecting, hreflecting, h⟩ := bind_eq_ok.mp h
  have hreflects : { options with mReflectionEnabled := reflection } = reflecting ∧
      (options.IsReachable → reflecting.IsReachable) := by
    have hreachable (hoptions : options.IsReachable) : disabled.IsReachable :=
      hoptions.call_eq_ok (i := Setter.reflectionDisabled) trivial hdisabled
    obtain rfl := Except.ok.inj hdisabled
    cases reflection with
    | false =>
        obtain rfl := Except.ok.inj hreflecting
        exact ⟨rfl, hreachable⟩
    | true =>
        have henabled (hoptions : options.IsReachable) : reflecting.IsReachable :=
          (hreachable hoptions).call_eq_ok (i := Setter.reflectionEnabled) trivial hreflecting
        obtain rfl := Except.ok.inj hreflecting
        exact ⟨rfl, henabled⟩
  obtain ⟨rfl, hreachable⟩ := hreflects
  obtain ⟨size, hsize, h⟩ := bind_eq_ok.mp h
  obtain ⟨_, hsetSize, h⟩ := bind_eq_ok.mp h
  obtain ⟨age, hage, h⟩ := bind_eq_ok.mp h
  obtain ⟨_, hsetAge, h⟩ := bind_eq_ok.mp h
  obtain ⟨period, hperiod, h⟩ := bind_eq_ok.mp h
  have hafter (hoptions : options.IsReachable) : after.IsReachable :=
    (((hreachable hoptions).call_eq_ok (i := Setter.maximumRequestMessageSizeInBytes size)
      trivial hsetSize).call_eq_ok (i := Setter.maximumConnectionAge age) trivial
        hsetAge).call_eq_ok (i := Setter.maximumConnectionAgeGracePeriod period) trivial h
  obtain ⟨-, rfl⟩ := call_setMaximumRequestMessageSizeInBytes_eq_ok.mp hsetSize
  obtain ⟨-, rfl⟩ := call_setMaximumConnectionAge_eq_ok.mp hsetAge
  obtain ⟨-, rfl⟩ := call_setMaximumConnectionAgeGracePeriod_eq_ok.mp h
  exact ⟨reflection, size, age, period, hreflection, hsize, hage, hperiod, rfl, hafter⟩

/-- A secret that is given is set, which takes the server's key and certificate. -/
theorem readSecret_eq_ok {inlineKey fileKey : Bytes} {set : Bytes → Method ServerOptions Unit}
    {haveServerCerts : Bool} {what : String}
    (h : readSecret files tree inlineKey fileKey set haveServerCerts what options = .ok after) :
    ∃ secret, resolveSecret files tree inlineKey fileKey = .ok secret ∧
      ((secret = none ∧ options = after) ∨
        ∃ given, secret = some given ∧ (set given).call options = .ok after) := by
  unfold readSecret at h
  obtain ⟨secret, hsecret, h⟩ := bind_eq_ok.mp h
  refine ⟨secret, hsecret, ?_⟩
  cases secret with
  | none => exact Or.inl ⟨rfl, Except.ok.inj h⟩
  | some given => exact Or.inr ⟨given, rfl, (throwIf_bind_eq_ok.mp h).2⟩

theorem readAccessToken_eq_ok {inlineKey fileKey : Bytes} {haveServerCerts : Bool}
    {what : String} (hnone : options.mAccessToken = none)
    (h : readSecret files tree inlineKey fileKey setAccessToken haveServerCerts what options =
      .ok after) :
    ∃ token, resolveSecret files tree inlineKey fileKey = .ok token ∧
      { options with mAccessToken := token } = after ∧
      (options.IsReachable → after.IsReachable) := by
  obtain ⟨token, htoken, hset⟩ := readSecret_eq_ok h
  refine ⟨token, htoken, ?_⟩
  rcases hset with ⟨rfl, rfl⟩ | ⟨given, rfl, hcall⟩
  · refine ⟨?_, id⟩
    rw [← hnone]
  · have hreachable (hoptions : options.IsReachable) : after.IsReachable :=
      hoptions.call_eq_ok (i := Setter.accessToken given) trivial hcall
    exact ⟨(call_setAccessToken_eq_ok.mp hcall).2, hreachable⟩

theorem readClientCertificate_eq_ok {inlineKey fileKey : Bytes} {haveServerCerts : Bool}
    {what : String} (hnone : options.mClientCertificate = none)
    (h : readSecret files tree inlineKey fileKey setClientCertificate haveServerCerts what
      options = .ok after) :
    ∃ certificate, resolveSecret files tree inlineKey fileKey = .ok certificate ∧
      { options with mClientCertificate := certificate } = after ∧
      (options.IsReachable → after.IsReachable) := by
  obtain ⟨certificate, hcertificate, hset⟩ := readSecret_eq_ok h
  refine ⟨certificate, hcertificate, ?_⟩
  rcases hset with ⟨rfl, rfl⟩ | ⟨given, rfl, hcall⟩
  · refine ⟨?_, id⟩
    rw [← hnone]
  · have hreachable (hoptions : options.IsReachable) : after.IsReachable :=
      hoptions.call_eq_ok (i := Setter.clientCertificate given) trivial hcall
    exact ⟨(call_setClientCertificate_eq_ok.mp hcall).2, hreachable⟩

theorem validated_eq_ok : options.validated = .ok () ↔ options.validate = .ok () := by
  unfold validated Cxx.tryCatch
  cases options.validate with
  | ok u => simp
  | error fault => cases fault <;> simp

end Reading

/-- Beside the port the options have what the file says. -/
structure ReadsBesidePort (files : FileSystem) (boost : Boost) (tree : PropertyTree)
    (sectionName : Bytes) (options : ServerOptions) : Prop where
  host : tree.getString (sectionName ++ bytes "host") (bytes "localhost") = options.mHost
  serverKey : resolveSecret files tree (sectionName ++ bytes "serverKey")
    (sectionName ++ bytes "serverKeyFile") = .ok options.mServerKey
  serverCertificate : resolveSecret files tree (sectionName ++ bytes "serverCertificate")
    (sectionName ++ bytes "serverCertificateFile") = .ok options.mServerCertificate
  reflection : getOrDefault tree boost.toBool (sectionName ++ bytes "enableReflection") false =
    .ok options.mReflectionEnabled
  maximumRequestMessageSize : getOrDefault tree boost.toInt
    (sectionName ++ bytes "maximumRequestMessageSizeInBytes") 65536 =
      .ok options.mMaximumRequestMessageSizeInBytes
  maximumConnectionAge : getOrDefault tree boost.toInt
    (sectionName ++ bytes "maximumConnectionAgeInMilliSeconds") 120000 =
      .ok options.mMaximumConnectionAge
  maximumGracePeriod : getOrDefault tree boost.toInt
    (sectionName ++ bytes "maximumConnectionAgeGracePeriodInMilliSeconds") 2000 =
      .ok options.mMaximumGracePeriod
  accessToken : resolveSecret files tree (sectionName ++ bytes "accessToken")
    (sectionName ++ bytes "accessTokenFile") = .ok options.mAccessToken
  clientCertificate : resolveSecret files tree (sectionName ++ bytes "clientCertificate")
    (sectionName ++ bytes "clientCertificateFile") = .ok options.mClientCertificate
  reachable : options.IsReachable
  valid : options.validate = .ok ()

/-- The options have what the file says. -/
structure Reads (files : FileSystem) (boost : Boost) (tree : PropertyTree) (sectionName : Bytes)
    (options : ServerOptions) : Prop
    extends ReadsBesidePort files boost tree sectionName options where
  port : getOrDefault tree boost.toUInt16 (sectionName ++ bytes "port") 50000 =
    .ok options.mPort

/-- With any port but zero the options still have everything else. -/
theorem ReadsBesidePort.withPort {files : FileSystem} {boost : Boost} {tree : PropertyTree}
    {sectionName : Bytes} {options : ServerOptions}
    (h : ReadsBesidePort files boost tree sectionName options) {port : UInt16}
    (hport : getOrDefault tree boost.toUInt16 (sectionName ++ bytes "port") 50000 = .ok port)
    (hpositive : port ≠ 0) :
    Reads files boost tree sectionName { options with mPort := port } where
  host := h.host
  serverKey := h.serverKey
  serverCertificate := h.serverCertificate
  reflection := h.reflection
  maximumRequestMessageSize := h.maximumRequestMessageSize
  maximumConnectionAge := h.maximumConnectionAge
  maximumGracePeriod := h.maximumGracePeriod
  accessToken := h.accessToken
  clientCertificate := h.clientCertificate
  reachable := h.reachable.call_eq_ok (i := Setter.port port) trivial
    (call_setPort_eq_ok.mpr ⟨hpositive, rfl⟩)
  valid := h.valid
  port := hport

/-- Options that are loaded have what the file says. -/
theorem reads_of_fromInitializationFile {files : FileSystem} {boost : Boost}
    {iniFile sectionIn : Bytes} {options : ServerOptions}
    (h : fromInitializationFile files boost iniFile sectionIn = .ok options) :
    ∃ tree, boost.readIni iniFile = .ok tree ∧
      Reads files boost tree (sectionPrefix sectionIn) options := by
  unfold fromInitializationFile at h
  obtain ⟨-, h⟩ := throwIf_bind_eq_ok.mp h
  obtain ⟨tree, htree, h⟩ := bind_eq_ok.mp h
  obtain ⟨_, haddress, h⟩ := bind_eq_ok.mp h
  obtain ⟨⟨_, haveServerCerts⟩, hcerts, h⟩ := bind_eq_ok.mp h
  obtain ⟨_, hlimits, h⟩ := bind_eq_ok.mp h
  obtain ⟨_, htoken, h⟩ := bind_eq_ok.mp h
  obtain ⟨_, hclient, h⟩ := bind_eq_ok.mp h
  obtain ⟨⟨⟩, hvalid, h⟩ := bind_eq_ok.mp h
  obtain ⟨host, port, hhost, hport, rfl, hreachable1⟩ := readAddress_eq_ok haddress
  obtain ⟨key, certificate, hkey, hcertificate, rfl, hreachable2⟩ :=
    readServerCerts_eq_ok hcerts rfl rfl
  obtain ⟨reflection, size, age, period, hreflection, hsize, hage, hperiod, rfl, hreachable3⟩ :=
    readLimits_eq_ok hlimits
  obtain ⟨token, htoken', rfl, hreachable4⟩ := readAccessToken_eq_ok rfl htoken
  obtain ⟨client, hclient', rfl, hreachable5⟩ := readClientCertificate_eq_ok rfl hclient
  obtain rfl := Except.ok.inj h
  have hreachable := hreachable5 (hreachable4 (hreachable3 (hreachable2 (hreachable1 (.init rfl)))))
  exact ⟨tree, htree, ⟨hhost, hkey, hcertificate, hreflection, hsize, hage, hperiod, htoken',
    hclient', hreachable, validated_eq_ok.mp hvalid⟩, hport⟩

end ServerOptions

end Grpc
end ULocalMagnitude
