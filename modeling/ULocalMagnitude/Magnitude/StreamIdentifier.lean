import ULocalMagnitude.Api.Messages
import ULocalMagnitude.Cxx.Objects

/-!
# Stream identifiers

`magnitude/streamIdentifier.cpp`: network, station, channel and location code.
The setters remove blanks and capitalize; the first three refuse what is then
empty, while a location code may be blank.
-/

namespace ULocalMagnitude
namespace Magnitude

open Cxx

/-- The file-local `removeBlanksAndCapitalize`. -/
abbrev removeBlanksAndCapitalize (input : Bytes) : Bytes := capitalized input

/-- The separator of names. -/
def dot : UInt8 := 46

/-- `StreamIdentifier::StreamIdentifierImpl` -/
structure StreamIdentifier where
  mNetwork : Bytes := []
  mStation : Bytes := []
  mChannel : Bytes := []
  mLocationCode : Bytes := []
  mHasLocationCode : Bool := false
deriving DecidableEq

namespace StreamIdentifier

def hasNetwork (identifier : StreamIdentifier) : Bool := !identifier.mNetwork.isEmpty

def hasStation (identifier : StreamIdentifier) : Bool := !identifier.mStation.isEmpty

def hasChannel (identifier : StreamIdentifier) : Bool := !identifier.mChannel.isEmpty

def hasLocationCode (identifier : StreamIdentifier) : Bool := identifier.mHasLocationCode

def setNetwork (networkIn : Bytes) : Method StreamIdentifier Unit := do
  let network := removeBlanksAndCapitalize networkIn
  throwIf (network = []) (.invalidArgument "Network is empty")
  modify fun identifier => { identifier with mNetwork := network }

def setStation (stationIn : Bytes) : Method StreamIdentifier Unit := do
  let station := removeBlanksAndCapitalize stationIn
  throwIf (station = []) (.invalidArgument "Station is empty")
  modify fun identifier => { identifier with mStation := station }

def setChannel (channelIn : Bytes) : Method StreamIdentifier Unit := do
  let channel := removeBlanksAndCapitalize channelIn
  throwIf (channel = []) (.invalidArgument "Channel is empty")
  modify fun identifier => { identifier with mChannel := channel }

def setLocationCode (locationCodeIn : Bytes) : Method StreamIdentifier Unit := do
  let locationCode := removeBlanksAndCapitalize locationCodeIn
  modify fun identifier =>
    { identifier with mLocationCode := locationCode, mHasLocationCode := true }

def getNetwork (identifier : StreamIdentifier) : Throws Bytes := do
  throwIf (!identifier.hasNetwork) (.runtimeError "Network not set")
  return identifier.mNetwork

def getStation (identifier : StreamIdentifier) : Throws Bytes := do
  throwIf (!identifier.hasStation) (.runtimeError "Station not set")
  return identifier.mStation

def getChannel (identifier : StreamIdentifier) : Throws Bytes := do
  throwIf (!identifier.hasChannel) (.runtimeError "Channel not set")
  return identifier.mChannel

def getLocationCode (identifier : StreamIdentifier) : Throws Bytes := do
  throwIf (!identifier.hasLocationCode) (.runtimeError "Location code not set")
  return identifier.mLocationCode

/-- `toString`: `UU.CWU.HHE.01`, or `UU.CWU.HHE` for a blank location code. -/
def toString (identifier : StreamIdentifier) : Throws Bytes := do
  let network ← identifier.getNetwork
  let station ← identifier.getStation
  let channel ← identifier.getChannel
  let locationCode ← identifier.getLocationCode
  let result := network ++ dot :: station ++ dot :: channel
  return if locationCode = [] then result else result ++ dot :: locationCode

/-- Build from a protobuf. -/
def ofMessage (identifier : Api.StreamIdentifier) : Throws StreamIdentifier := do
  let network ← require identifier.network (.invalidArgument "Network not set on protobuf")
  let station ← require identifier.station (.invalidArgument "Station not set on protobuf")
  let channel ← require identifier.channel (.invalidArgument "Channel not set on protobuf")
  let thisIdentifier : StreamIdentifier := {}
  let thisIdentifier ← (setNetwork network).call thisIdentifier
  let thisIdentifier ← (setStation station).call thisIdentifier
  let thisIdentifier ← (setChannel channel).call thisIdentifier
  match identifier.locationCode with
  | some locationCode => (setLocationCode locationCode).call thisIdentifier
  | none => (setLocationCode (bytes "")).call thisIdentifier

/-- Protobuf -/
def toMessage (identifier : StreamIdentifier) : Throws Api.StreamIdentifier := do
  let network ← identifier.getNetwork
  let station ← identifier.getStation
  let channel ← identifier.getChannel
  let locationCode ← identifier.getLocationCode
  return { network := some network, station := some station, channel := some channel,
           locationCode := some locationCode }

/-! ## The calls on an identifier -/

/-- A setter with its argument. -/
inductive Setter where
  | network (networkIn : Bytes)
  | station (stationIn : Bytes)
  | channel (channelIn : Bytes)
  | locationCode (locationCodeIn : Bytes)

def Setter.method : Setter → Method StreamIdentifier Unit
  | .network networkIn => setNetwork networkIn
  | .station stationIn => setStation stationIn
  | .channel channelIn => setChannel channelIn
  | .locationCode locationCodeIn => setLocationCode locationCodeIn

/-- Default constructed or built from a message, then used through the setters. -/
def IsReachable (identifier : StreamIdentifier) : Prop :=
  Reachable (fun built => built = {} ∨ ∃ message, ofMessage message = .ok built)
    Setter.method (fun _ => True) identifier

theorem setter_atomic (setter : Setter) : setter.method.Atomic := by
  cases setter with
  | network networkIn => exact .lift_bind fun _ => .modify _
  | station stationIn => exact .lift_bind fun _ => .modify _
  | channel channelIn => exact .lift_bind fun _ => .modify _
  | locationCode locationCodeIn => exact .modify _

theorem call_setNetwork_eq_ok {networkIn : Bytes} {identifier after : StreamIdentifier} :
    (setNetwork networkIn).call identifier = .ok after ↔
      capitalized networkIn ≠ [] ∧
        { identifier with mNetwork := capitalized networkIn } = after := by
  simp [setNetwork]

theorem call_setStation_eq_ok {stationIn : Bytes} {identifier after : StreamIdentifier} :
    (setStation stationIn).call identifier = .ok after ↔
      capitalized stationIn ≠ [] ∧
        { identifier with mStation := capitalized stationIn } = after := by
  simp [setStation]

theorem call_setChannel_eq_ok {channelIn : Bytes} {identifier after : StreamIdentifier} :
    (setChannel channelIn).call identifier = .ok after ↔
      capitalized channelIn ≠ [] ∧
        { identifier with mChannel := capitalized channelIn } = after := by
  simp [setChannel]

@[simp] theorem call_setLocationCode (locationCodeIn : Bytes)
    (identifier : StreamIdentifier) :
    (setLocationCode locationCodeIn).call identifier =
      .ok { identifier with
        mLocationCode := capitalized locationCodeIn, mHasLocationCode := true } := rfl

/-! ## What an identifier in use satisfies -/

/-- All four fields are set. -/
structure Complete (identifier : StreamIdentifier) : Prop where
  network : identifier.mNetwork ≠ []
  station : identifier.mStation ≠ []
  channel : identifier.mChannel ≠ []
  locationCode : identifier.mHasLocationCode = true

/-- No field has blanks or lower-case letters. -/
structure Normal (identifier : StreamIdentifier) : Prop where
  network : capitalized identifier.mNetwork = identifier.mNetwork
  station : capitalized identifier.mStation = identifier.mStation
  channel : capitalized identifier.mChannel = identifier.mChannel
  locationCode : capitalized identifier.mLocationCode = identifier.mLocationCode

/-- The name of a complete identifier. -/
def name (identifier : StreamIdentifier) : Bytes :=
  let result := identifier.mNetwork ++ dot :: identifier.mStation ++
    dot :: identifier.mChannel
  if identifier.mLocationCode = [] then result
  else result ++ dot :: identifier.mLocationCode

theorem getNetwork_eq_ok {identifier : StreamIdentifier} {network : Bytes} :
    identifier.getNetwork = .ok network ↔
      identifier.mNetwork ≠ [] ∧ identifier.mNetwork = network := by
  simp [getNetwork, hasNetwork]

theorem getStation_eq_ok {identifier : StreamIdentifier} {station : Bytes} :
    identifier.getStation = .ok station ↔
      identifier.mStation ≠ [] ∧ identifier.mStation = station := by
  simp [getStation, hasStation]

theorem getChannel_eq_ok {identifier : StreamIdentifier} {channel : Bytes} :
    identifier.getChannel = .ok channel ↔
      identifier.mChannel ≠ [] ∧ identifier.mChannel = channel := by
  simp [getChannel, hasChannel]

theorem getLocationCode_eq_ok {identifier : StreamIdentifier} {locationCode : Bytes} :
    identifier.getLocationCode = .ok locationCode ↔
      identifier.mHasLocationCode = true ∧ identifier.mLocationCode = locationCode := by
  simp [getLocationCode, hasLocationCode]

section Complete

variable {identifier : StreamIdentifier} (h : identifier.Complete)

include h

theorem Complete.getNetwork : identifier.getNetwork = .ok identifier.mNetwork :=
  getNetwork_eq_ok.mpr ⟨h.network, rfl⟩

theorem Complete.getStation : identifier.getStation = .ok identifier.mStation :=
  getStation_eq_ok.mpr ⟨h.station, rfl⟩

theorem Complete.getChannel : identifier.getChannel = .ok identifier.mChannel :=
  getChannel_eq_ok.mpr ⟨h.channel, rfl⟩

theorem Complete.getLocationCode :
    identifier.getLocationCode = .ok identifier.mLocationCode :=
  getLocationCode_eq_ok.mpr ⟨h.locationCode, rfl⟩

theorem Complete.toString : identifier.toString = .ok identifier.name := by
  unfold StreamIdentifier.toString
  rw [h.getNetwork, h.getStation, h.getChannel, h.getLocationCode]
  rfl

theorem Complete.toMessage : identifier.toMessage =
    .ok { network := some identifier.mNetwork, station := some identifier.mStation,
          channel := some identifier.mChannel,
          locationCode := some identifier.mLocationCode } := by
  unfold StreamIdentifier.toMessage
  rw [h.getNetwork, h.getStation, h.getChannel, h.getLocationCode]
  rfl

end Complete

/-- `toString` returns exactly for complete identifiers. -/
theorem toString_eq_ok {identifier : StreamIdentifier} {text : Bytes} :
    identifier.toString = .ok text ↔ identifier.Complete ∧ identifier.name = text := by
  constructor
  · intro h
    have hcomplete : identifier.Complete := by
      unfold StreamIdentifier.toString at h
      simp only [bind_eq_ok, getNetwork_eq_ok, getStation_eq_ok, getChannel_eq_ok,
        getLocationCode_eq_ok] at h
      obtain ⟨_, ⟨hn, -⟩, _, ⟨hs, -⟩, _, ⟨hc, -⟩, _, ⟨hl, -⟩, -⟩ := h
      exact ⟨hn, hs, hc, hl⟩
    rw [hcomplete.toString] at h
    exact ⟨hcomplete, Except.ok.inj h⟩
  · intro hall
    rcases hall with ⟨hcomplete, rfl⟩
    exact hcomplete.toString

/-- What the message constructor returns. -/
theorem ofMessage_eq_ok {message : Api.StreamIdentifier} {identifier : StreamIdentifier} :
    ofMessage message = .ok identifier ↔
      ∃ network station channel, message.network = some network ∧
        message.station = some station ∧ message.channel = some channel ∧
        capitalized network ≠ [] ∧ capitalized station ≠ [] ∧ capitalized channel ≠ [] ∧
        identifier =
          { mNetwork := capitalized network, mStation := capitalized station,
            mChannel := capitalized channel,
            mLocationCode := capitalized (message.locationCode.getD []),
            mHasLocationCode := true } := by
  unfold ofMessage
  simp only [bind_eq_ok, require_eq_ok, call_setNetwork_eq_ok, call_setStation_eq_ok,
    call_setChannel_eq_ok]
  constructor
  · intro h
    rcases h with ⟨network, hnetwork, station, hstation, channel, hchannel, _, ⟨hn, rfl⟩,
      _, ⟨hs, rfl⟩, _, ⟨hc, rfl⟩, hlocation⟩
    refine ⟨network, station, channel, hnetwork, hstation, hchannel, hn, hs, hc, ?_⟩
    cases hcode : message.locationCode with
    | none => simpa [hcode, bytes, eq_comm] using hlocation
    | some locationCode => simpa [hcode, eq_comm] using hlocation
  · intro h
    rcases h with ⟨network, station, channel, hnetwork, hstation, hchannel, hn, hs, hc, rfl⟩
    refine ⟨network, hnetwork, station, hstation, channel, hchannel, _, ⟨hn, rfl⟩,
      _, ⟨hs, rfl⟩, _, ⟨hc, rfl⟩, ?_⟩
    cases hcode : message.locationCode with
    | none => simp [bytes]
    | some locationCode => simp

theorem complete_of_ofMessage {message : Api.StreamIdentifier}
    {identifier : StreamIdentifier} (h : ofMessage message = .ok identifier) :
    identifier.Complete := by
  obtain ⟨network, station, channel, -, -, -, hn, hs, hc, rfl⟩ := ofMessage_eq_ok.mp h
  exact ⟨hn, hs, hc, rfl⟩

/-- Setters throw nothing but `std::invalid_argument`. -/
theorem raises_setter (setter : Setter) (identifier : StreamIdentifier) :
    Raises (setter.method.call identifier) Fault.IsInvalidArgument := by
  cases setter with
  | network networkIn =>
      exact Method.raises_call_lift_bind (.throwIf fun _ => trivial) fun _ => .ok _
  | station stationIn =>
      exact Method.raises_call_lift_bind (.throwIf fun _ => trivial) fun _ => .ok _
  | channel channelIn =>
      exact Method.raises_call_lift_bind (.throwIf fun _ => trivial) fun _ => .ok _
  | locationCode locationCodeIn => exact .ok _

/-- Whatever is wrong with a message, the exception is a `std::invalid_argument`. -/
theorem raises_ofMessage (message : Api.StreamIdentifier) :
    Raises (ofMessage message) Fault.IsInvalidArgument := by
  refine .bind (.require fun _ => trivial) fun network _ => ?_
  refine .bind (.require fun _ => trivial) fun station _ => ?_
  refine .bind (.require fun _ => trivial) fun channel _ => ?_
  refine .bind (raises_setter (.network network) _) fun _ _ => ?_
  refine .bind (raises_setter (.station station) _) fun _ _ => ?_
  refine .bind (raises_setter (.channel channel) _) fun _ _ => ?_
  cases message.locationCode with
  | none => exact raises_setter (.locationCode _) _
  | some locationCode => exact raises_setter (.locationCode _) _

/-- Setters and message constructor store normal forms. -/
theorem IsReachable.normal {identifier : StreamIdentifier} (h : identifier.IsReachable) :
    identifier.Normal := by
  refine h.invariant_of_atomic ?_ setter_atomic ?_
  · intro built hall
    rcases hall with rfl | ⟨message, hmessage⟩
    · exact ⟨rfl, rfl, rfl, rfl⟩
    · obtain ⟨network, station, channel, -, -, -, -, -, -, rfl⟩ :=
        ofMessage_eq_ok.mp hmessage
      exact ⟨capitalized_capitalized _, capitalized_capitalized _,
        capitalized_capitalized _, capitalized_capitalized _⟩
  · intro setter before after _ _ hbefore hexec
    have hcall := Method.call_of_exec hexec
    cases setter with
    | network networkIn =>
        obtain ⟨-, rfl⟩ := call_setNetwork_eq_ok.mp hcall
        exact { hbefore with network := capitalized_capitalized _ }
    | station stationIn =>
        obtain ⟨-, rfl⟩ := call_setStation_eq_ok.mp hcall
        exact { hbefore with station := capitalized_capitalized _ }
    | channel channelIn =>
        obtain ⟨-, rfl⟩ := call_setChannel_eq_ok.mp hcall
        exact { hbefore with channel := capitalized_capitalized _ }
    | locationCode locationCodeIn =>
        obtain rfl : _ = after := Except.ok.inj hcall
        exact { hbefore with locationCode := capitalized_capitalized _ }

end StreamIdentifier

end Magnitude
end ULocalMagnitude
