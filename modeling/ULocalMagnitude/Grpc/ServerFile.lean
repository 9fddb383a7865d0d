import ULocalMagnitude.Grpc.ServerOptions

/-!
# Server options from a file

`GRPC::fromInitializationFile` returns the options that have what the file says, and
nothing else can go wrong than that it throws.
-/

namespace ULocalMagnitude
namespace Grpc

open Cxx Configuration

namespace ServerOptions

/-! ## What the file says is read -/

section Reading

variable {files : FileSystem} {boost : Boost} {tree : PropertyTree} {sectionName : Bytes}
  {options after : ServerOptions}

theorem readAddress_of_eq {host : Bytes} {port : UInt16}
    (hhost : tree.getString (sectionName ++ bytes "host") options.mHost = host)
    (hport : getOrDefault tree boost.toUInt16 (sectionName ++ bytes "port") 50000 = .ok port)
    (hnonempty : host ≠ []) (hpositive : port ≠ 0) :
    readAddress boost tree sectionName options =
      .ok { options with mHost := host, mPort := port } := by
  unfold readAddress getHost
  dsimp only
  rw [hhost, throwIf_neg hnonempty, bind_ok, call_setHost_eq_ok.mpr ⟨hnonempty, rfl⟩, bind_ok,
    hport, bind_ok]
  exact call_setPort_eq_ok.mpr ⟨hpositive, rfl⟩

/-- Both of the server's secrets, or none of them. -/
theorem readServerCerts_of_eq {key certificate : Option Bytes}
    (hnoKey : options.mServerKey = none) (hnoCertificate : options.mServerCertificate = none)
    (hkey : resolveSecret files tree (sectionName ++ bytes "serverKey")
      (sectionName ++ bytes "serverKeyFile") = .ok key)
    (hcertificate : resolveSecret files tree (sectionName ++ bytes "serverCertificate")
      (sectionName ++ bytes "serverCertificateFile") = .ok certificate)
    (hboth : certificate.isSome = key.isSome) (hkey' : key ≠ some [])
    (hcertificate' : certificate ≠ some []) :
    readServerCerts files tree sectionName options =
      .ok ({ options with mServerKey := key, mServerCertificate := certificate },
        key.isSome) := by
  unfold readServerCerts
  rw [hkey, bind_ok, hcertificate, bind_ok]
  cases key with
  | none =>
      cases certificate with
      | none =>
          -- Without secrets the setters are not called.
          have hsame : options =
              { options with mServerKey := none, mServerCertificate := none } := by
            cases options
            simp_all
          exact congrArg (fun same => Except.ok (same, false)) hsame
      | some certificate => cases hboth
  | some key =>
      cases certificate with
      | none => cases hboth
      | some certificate =>
          dsimp only
          rw [call_setServerKey_eq_ok.mpr ⟨fun h => hkey' (congrArg _ h), rfl⟩, bind_ok,
            call_setServerCertificate_eq_ok.mpr ⟨fun h => hcertificate' (congrArg _ h), rfl⟩]
          rfl

theorem readLimits_of_eq {reflection : Bool} {size age period : Int}
    (hreflection : getOrDefault tree boost.toBool (sectionName ++ bytes "enableReflection")
      false = .ok reflection)
    (hsize : getOrDefault tree boost.toInt
      (sectionName ++ bytes "maximumRequestMessageSizeInBytes")
      options.mMaximumRequestMessageSizeInBytes = .ok size)
    (hage : getOrDefault tree boost.toInt
      (sectionName ++ bytes "maximumConnectionAgeInMilliSeconds")
      options.mMaximumConnectionAge = .ok age)
    (hperiod : getOrDefault tree boost.toInt
      (sectionName ++ bytes "maximumConnectionAgeGracePeriodInMilliSeconds")
      options.mMaximumGracePeriod = .ok period)
    (hsize' : 1 ≤ size) (hage' : 1 ≤ age) (hperiod' : 0 ≤ period) :
    readLimits boost tree sectionName options =
      .ok { options with
        mReflectionEnabled := reflection
        mMaximumRequestMessageSizeInBytes := size
        mMaximumConnectionAge := age
        mMaximumGracePeriod := period } := by
  unfold readLimits
  have henabled (before : ServerOptions) : (if reflection then enableReflection
      else pure ()).call { before with mReflectionEnabled := false } =
        .ok { before with mReflectionEnabled := reflection } := by
    cases reflection with
    | false => rfl
    | true => rfl
  rw [hreflection, bind_ok, disableReflection, Method.call_modify, bind_ok, henabled, bind_ok]
  refine bind_eq_ok.mpr ⟨size, hsize, ?_⟩
  refine bind_eq_ok.mpr ⟨_,
    call_setMaximumRequestMessageSizeInBytes_eq_ok.mpr ⟨hsize', rfl⟩, ?_⟩
  refine bind_eq_ok.mpr ⟨age, hage, ?_⟩
  refine bind_eq_ok.mpr ⟨_, call_setMaximumConnectionAge_eq_ok.mpr ⟨hage', rfl⟩, ?_⟩
  refine bind_eq_ok.mpr ⟨period, hperiod, ?_⟩
  exact call_setMaximumConnectionAgeGracePeriod_eq_ok.mpr ⟨hperiod', rfl⟩

/-- A secret is set, if the server's key and certificate are there. -/
theorem readSecret_of_eq {inlineKey fileKey : Bytes} {set : Bytes → Method ServerOptions Unit}
    {haveServerCerts : Bool} {what : String} {secret : Option Bytes}
    (hsecret : resolveSecret files tree inlineKey fileKey = .ok secret)
    (hnone : secret = none → options = after)
    (hsome : ∀ given, secret = some given →
      haveServerCerts = true ∧ (set given).call options = .ok after) :
    readSecret files tree inlineKey fileKey set haveServerCerts what options = .ok after := by
  unfold readSecret
  rw [hsecret, bind_ok]
  cases secret with
  | none => exact congrArg _ (hnone rfl)
  | some given =>
      obtain ⟨hcerts, hcall⟩ := hsome given rfl
      exact throwIf_bind_eq_ok.mpr ⟨by simp [hcerts], hcall⟩

end Reading

section Loaded

variable {files : FileSystem} {boost : Boost} {iniFile sectionIn : Bytes} {tree : PropertyTree}
  {options : ServerOptions}

/-- Valid options have the server's secrets together, and what needs them only with them. -/
theorem secrets_of_validate (h : options.validate = .ok ()) :
    options.mServerCertificate.isSome = options.mServerKey.isSome ∧
      (∀ given, options.mAccessToken = some given → options.mServerKey.isSome = true) ∧
      ∀ given, options.mClientCertificate = some given → options.mServerKey.isSome = true := by
  rcases validate_eq_ok.mp h with ⟨hcertificate, hkey⟩ | ⟨hcertificate, hkey, htoken, hclient⟩
  · have hkey := Option.isSome_iff_ne_none.mpr hkey
    refine ⟨?_, fun _ _ => hkey, fun _ _ => hkey⟩
    rw [hkey]
    exact Option.isSome_iff_ne_none.mpr hcertificate
  · refine ⟨by rw [hcertificate, hkey], ?_, ?_⟩
    · intro given hgiven
      cases htoken.symm.trans hgiven
    · intro given hgiven
      cases hclient.symm.trans hgiven

/-- Options that have what the file says are loaded. -/
theorem fromInitializationFile_of_reads
    (hexists : files.doesExist iniFile = true) (hread : boost.readIni iniFile = .ok tree)
    (h : Reads files boost tree (sectionPrefix sectionIn) options) :
    fromInitializationFile files boost iniFile sectionIn = .ok options := by
  have hinv := h.reachable.inv
  obtain ⟨hboth, htoken, hclient⟩ := secrets_of_validate h.valid
  -- The options that the loader has after each of its parts.
  have haddress : readAddress boost tree (sectionPrefix sectionIn) {} =
      .ok { mHost := options.mHost, mPort := options.mPort } :=
    readAddress_of_eq h.host h.port hinv.host hinv.port
  have hservercerts : readServerCerts files tree (sectionPrefix sectionIn)
      { mHost := options.mHost, mPort := options.mPort } =
      .ok ({ mHost := options.mHost
             mPort := options.mPort
             mServerKey := options.mServerKey
             mServerCertificate := options.mServerCertificate }, options.mServerKey.isSome) :=
    readServerCerts_of_eq rfl rfl h.serverKey h.serverCertificate hboth hinv.serverKey
      hinv.serverCertificate
  have hlimits : readLimits boost tree (sectionPrefix sectionIn)
      { mHost := options.mHost
        mPort := options.mPort
        mServerKey := options.mServerKey
        mServerCertificate := options.mServerCertificate } =
      .ok { options with mAccessToken := none, mClientCertificate := none } :=
    readLimits_of_eq h.reflection h.maximumRequestMessageSize h.maximumConnectionAge
      h.maximumGracePeriod hinv.maximumRequestMessageSize hinv.maximumConnectionAge
      hinv.maximumGracePeriod
  unfold fromInitializationFile
  refine throwIf_bind_eq_ok.mpr ⟨by simp [hexists], bind_eq_ok.mpr ⟨tree, hread, ?_⟩⟩
  refine bind_eq_ok.mpr ⟨_, haddress, ?_⟩
  refine bind_eq_ok.mpr ⟨_, hservercerts, ?_⟩
  refine bind_eq_ok.mpr ⟨_, hlimits, ?_⟩
  refine bind_eq_ok.mpr ⟨{ options with mClientCertificate := none },
    readSecret_of_eq h.accessToken ?_ ?_, ?_⟩
  · intro hnone
    rw [← hnone]
  · intro given hgiven
    refine ⟨htoken given hgiven, call_setAccessToken_eq_ok.mpr ⟨?_, ?_⟩⟩
    · rintro rfl
      exact hinv.accessToken hgiven
    · rw [← hgiven]
  refine bind_eq_ok.mpr ⟨options, readSecret_of_eq h.clientCertificate ?_ ?_, ?_⟩
  · intro hnone
    rw [← hnone]
  · intro given hgiven
    refine ⟨hclient given hgiven, call_setClientCertificate_eq_ok.mpr ⟨?_, ?_⟩⟩
    · rintro rfl
      exact hinv.clientCertificate hgiven
    · rw [← hgiven]
  exact bind_eq_ok.mpr ⟨(), validated_eq_ok.mpr h.valid, rfl⟩

/-- A file is loaded when its section says valid options. -/
theorem fromInitializationFile_eq_ok (hexists : files.doesExist iniFile = true)
    (hread : boost.readIni iniFile = .ok tree) :
    fromInitializationFile files boost iniFile sectionIn = .ok options ↔
      Reads files boost tree (sectionPrefix sectionIn) options := by
  constructor
  · intro h
    obtain ⟨_, htree, hreads⟩ := reads_of_fromInitializationFile h
    rw [hread] at htree
    obtain rfl := Except.ok.inj htree
    exact hreads
  · exact fromInitializationFile_of_reads hexists hread

end Loaded

/-! ## What is thrown -/

section Thrown

variable {files : FileSystem} {boost : Boost} {tree : PropertyTree} {sectionName : Bytes}
  {options : ServerOptions}

theorem raises_getOrDefault {α : Type} {translate : Bytes → Option α} {key : Bytes}
    {defaultValue : α} :
    Raises (getOrDefault tree translate key defaultValue) Fault.IsException := by
  unfold getOrDefault
  split
  · exact .ok _
  · exact .require fun _ => trivial

theorem raises_setter (setter : Setter) :
    Raises (setter.method.call options) Fault.IsException := by
  cases setter with
  | reflectionEnabled => exact .ok _
  | reflectionDisabled => exact .ok _
  | _ =>
      exact Method.raises_call_lift_bind (.throwIf fun _ => trivial) fun _ => .ok _

theorem raises_readAddress :
    Raises (readAddress boost tree sectionName options) Fault.IsException := by
  refine .bind (.throwIf fun _ => trivial) fun _ _ => ?_
  refine .bind (raises_setter (.host _)) fun _ _ => ?_
  exact .bind raises_getOrDefault fun port _ => raises_setter (.port port)

theorem raises_readServerCerts :
    Raises (readServerCerts files tree sectionName options) Fault.IsException := by
  refine .bind raises_resolveSecret fun key _ => ?_
  refine .bind raises_resolveSecret fun certificate _ => ?_
  split
  · refine .bind (raises_setter (.serverKey _)) fun _ _ => ?_
    exact .bind (raises_setter (.serverCertificate _)) fun _ _ => .ok _
  · exact .ok _
  · exact .error trivial

theorem raises_readLimits :
    Raises (readLimits boost tree sectionName options) Fault.IsException := by
  refine .bind raises_getOrDefault fun reflection _ => ?_
  refine .bind (raises_setter .reflectionDisabled) fun disabled _ => ?_
  have hreflects : Raises ((if reflection then enableReflection else pure ()).call disabled)
      Fault.IsException := by
    cases reflection with
    | false => exact .ok _
    | true => exact .ok _
  refine .bind hreflects fun _ _ => ?_
  refine .bind raises_getOrDefault fun size _ => ?_
  refine .bind (raises_setter (.maximumRequestMessageSizeInBytes size)) fun _ _ => ?_
  refine .bind raises_getOrDefault fun age _ => ?_
  refine .bind (raises_setter (.maximumConnectionAge age)) fun _ _ => ?_
  refine .bind raises_getOrDefault fun period _ => ?_
  exact raises_setter (.maximumConnectionAgeGracePeriod period)

theorem raises_readSecret {inlineKey fileKey : Bytes} {set : Bytes → Method ServerOptions Unit}
    {haveServerCerts : Bool} {what : String}
    (hset : ∀ secret, Raises ((set secret).call options) Fault.IsException) :
    Raises (readSecret files tree inlineKey fileKey set haveServerCerts what options)
      Fault.IsException := by
  refine .bind raises_resolveSecret fun secret _ => ?_
  cases secret with
  | none => exact .ok _
  | some secret => exact .bind (.throwIf fun _ => trivial) fun _ _ => hset secret

theorem raises_validated : Raises options.validated Fault.IsException := by
  have hvalidate : Raises options.validate Fault.IsException := by
    unfold validate
    split
    · exact .ok _
    · exact .bind (.throwIf fun _ => trivial) fun _ _ =>
        .bind (.throwIf fun _ => trivial) fun _ _ => .throwIf fun _ => trivial
  exact hvalidate.tryCatch (fun _ => .error trivial) fun _ => .error trivial

/-- A file that is there and can be parsed is loaded, or an exception is thrown. -/
theorem raises_fromInitializationFile {iniFile sectionIn : Bytes}
    (hread : boost.readIni iniFile = .ok tree) :
    Raises (fromInitializationFile files boost iniFile sectionIn) Fault.IsException := by
  refine .bind (.throwIf fun _ => trivial) fun _ _ => ?_
  dsimp only
  rw [hread, bind_ok]
  refine .bind raises_readAddress fun _ _ => .bind raises_readServerCerts fun _ _ => ?_
  refine .bind raises_readLimits fun _ _ => ?_
  refine .bind (raises_readSecret fun token => raises_setter (.accessToken token)) fun _ _ => ?_
  refine .bind (raises_readSecret fun certificate =>
    raises_setter (.clientCertificate certificate)) fun _ _ => ?_
  exact .bind raises_validated fun _ _ => .ok _

end Thrown

end ServerOptions

end Grpc
end ULocalMagnitude
