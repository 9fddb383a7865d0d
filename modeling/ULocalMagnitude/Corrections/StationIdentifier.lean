import ULocalMagnitude.Magnitude.StreamIdentifier

/-!
# Station identifiers

`corrections/stationIdentifier.cpp`: a network and a station code.  The
identifier of the station of a stream is made from the network and the station
of its stream identifier.  Everywhere else in the program a station goes by its
name, the two codes joined by a dot.
-/

namespace ULocalMagnitude
namespace Corrections

open Cxx Magnitude

/-- The file-local `removeBlanksAndCapitalize`, a second copy. -/
abbrev removeBlanksAndCapitalize (input : Bytes) : Bytes := capitalized input

/-- `StationIdentifier::StationIdentifierImpl` -/
structure StationIdentifier where
  mNetwork : Bytes := []
  mStation : Bytes := []
deriving DecidableEq

namespace StationIdentifier

def hasNetwork (identifier : StationIdentifier) : Bool := !identifier.mNetwork.isEmpty

def hasStation (identifier : StationIdentifier) : Bool := !identifier.mStation.isEmpty

def setNetwork (networkIn : Bytes) : Method StationIdentifier Unit := do
  let network := removeBlanksAndCapitalize networkIn
  throwIf (network = []) (.invalidArgument "Network is empty")
  modify fun identifier => { identifier with mNetwork := network }

def setStation (stationIn : Bytes) : Method StationIdentifier Unit := do
  let station := removeBlanksAndCapitalize stationIn
  throwIf (station = []) (.invalidArgument "Station is empty")
  modify fun identifier => { identifier with mStation := station }

def getNetwork (identifier : StationIdentifier) : Throws Bytes := do
  throwIf (!identifier.hasNetwork) (.runtimeError "Network not set")
  return identifier.mNetwork

def getStation (identifier : StationIdentifier) : Throws Bytes := do
  throwIf (!identifier.hasStation) (.runtimeError "Station not set")
  return identifier.mStation

/-- From stream identifier -/
def ofStreamIdentifier (identifier : StreamIdentifier) : Throws StationIdentifier := do
  throwIf (!identifier.hasNetwork) (.invalidArgument "Network not set")
  throwIf (!identifier.hasStation) (.invalidArgument "Station not set")
  let stationIdentifier : StationIdentifier := {}
  let stationIdentifier ← (setNetwork (← identifier.getNetwork)).call stationIdentifier
  (setStation (← identifier.getStation)).call stationIdentifier

/-- From a protobuf -/
def ofMessage (identifier : Api.StationIdentifier) : Throws StationIdentifier := do
  let network ← require identifier.network (.invalidArgument "Network not set on protobuf")
  let station ← require identifier.station (.invalidArgument "Station not set on protobuf")
  let thisIdentifier : StationIdentifier := {}
  let thisIdentifier ← (setNetwork network).call thisIdentifier
  (setStation station).call thisIdentifier

/-- Name -/
def toString (identifier : StationIdentifier) : Throws Bytes := do
  let network ← identifier.getNetwork
  let station ← identifier.getStation
  return joined dot network station

/-- Protobuf -/
def toMessage (identifier : StationIdentifier) : Throws Api.StationIdentifier := do
  let network ← identifier.getNetwork
  let station ← identifier.getStation
  return { network := some network, station := some station }

/-! ## The calls on an identifier -/

/-- A setter with its argument. -/
inductive Setter where
  | network (networkIn : Bytes)
  | station (stationIn : Bytes)

def Setter.method : Setter → Method StationIdentifier Unit
  | .network networkIn => setNetwork networkIn
  | .station stationIn => setStation stationIn

/-- Constructed in one of the three ways, then used through the setters. -/
def IsReachable (identifier : StationIdentifier) : Prop :=
  Reachable (fun built => built = {} ∨
      (∃ stream, StreamIdentifier.IsReachable stream ∧ ofStreamIdentifier stream = .ok built) ∨
      ∃ message, ofMessage message = .ok built)
    Setter.method (fun _ => True) identifier

theorem setter_atomic (setter : Setter) : setter.method.Atomic := by
  cases setter with
  | network networkIn => exact .lift_bind fun _ => .modify _
  | station stationIn => exact .lift_bind fun _ => .modify _

theorem raises_setter (setter : Setter) (identifier : StationIdentifier) :
    Raises (setter.method.call identifier) Fault.IsInvalidArgument := by
  cases setter with
  | network networkIn =>
      exact Method.raises_call_lift_bind (.throwIf fun _ => trivial) fun _ => .ok _
  | station stationIn =>
      exact Method.raises_call_lift_bind (.throwIf fun _ => trivial) fun _ => .ok _

theorem call_setNetwork_eq_ok {networkIn : Bytes} {identifier after : StationIdentifier} :
    (setNetwork networkIn).call identifier = .ok after ↔
      capitalized networkIn ≠ [] ∧
        { identifier with mNetwork := capitalized networkIn } = after := by
  simp [setNetwork]

theorem call_setStation_eq_ok {stationIn : Bytes} {identifier after : StationIdentifier} :
    (setStation stationIn).call identifier = .ok after ↔
      capitalized stationIn ≠ [] ∧
        { identifier with mStation := capitalized stationIn } = after := by
  simp [setStation]

/-! ## What an identifier in use satisfies -/

/-- Both codes are set. -/
structure Complete (identifier : StationIdentifier) : Prop where
  network : identifier.mNetwork ≠ []
  station : identifier.mStation ≠ []

/-- No code has blanks or lower-case letters. -/
structure Normal (identifier : StationIdentifier) : Prop where
  network : capitalized identifier.mNetwork = identifier.mNetwork
  station : capitalized identifier.mStation = identifier.mStation

/-- Network and station code. -/
def codes (identifier : StationIdentifier) : Bytes × Bytes :=
  (identifier.mNetwork, identifier.mStation)

/-- The name of a complete identifier. -/
def name (identifier : StationIdentifier) : Bytes :=
  joined dot identifier.mNetwork identifier.mStation

theorem codes_injective : Function.Injective codes := by
  intro p q h
  cases p
  cases q
  simpa [codes] using h

theorem name_ne_nil (identifier : StationIdentifier) : identifier.name ≠ [] := by
  unfold name joined
  simp

/-- Two identifiers have one name exactly when they are equal or confusable. -/
theorem name_eq_name_iff (p q : StationIdentifier) :
    p.name = q.name ↔ p = q ∨ Confusable dot p.codes q.codes := by
  rw [← codes_injective.eq_iff]
  exact joined_eq_joined_iff dot p.codes q.codes

theorem getNetwork_eq_ok {identifier : StationIdentifier} {network : Bytes} :
    identifier.getNetwork = .ok network ↔
      identifier.mNetwork ≠ [] ∧ identifier.mNetwork = network := by
  simp [getNetwork, hasNetwork]

theorem getStation_eq_ok {identifier : StationIdentifier} {station : Bytes} :
    identifier.getStation = .ok station ↔
      identifier.mStation ≠ [] ∧ identifier.mStation = station := by
  simp [getStation, hasStation]

/-- `toString` returns exactly for complete identifiers. -/
theorem toString_eq_ok {identifier : StationIdentifier} {text : Bytes} :
    identifier.toString = .ok text ↔ identifier.Complete ∧ identifier.name = text := by
  unfold toString
  simp only [bind_eq_ok, getNetwork_eq_ok, getStation_eq_ok]
  constructor
  · intro h
    rcases h with ⟨network, ⟨hn, rfl⟩, station, ⟨hs, rfl⟩, htext⟩
    exact ⟨⟨hn, hs⟩, by simpa [name] using htext⟩
  · intro h
    rcases h with ⟨hcomplete, rfl⟩
    exact ⟨_, ⟨hcomplete.network, rfl⟩, _, ⟨hcomplete.station, rfl⟩, rfl⟩

/-- An identifier without a name throws a `std::runtime_error`. -/
theorem exists_of_toString_error {identifier : StationIdentifier} {reason : Fault}
    (h : identifier.toString = .error reason) : ∃ what, reason = .runtimeError what := by
  unfold toString getNetwork getStation at h
  by_cases hnetwork : (!identifier.hasNetwork) = true
  · rw [throwIf_pos hnetwork] at h
    exact ⟨_, (Except.error.inj h).symm⟩
  · by_cases hstation : (!identifier.hasStation) = true
    · rw [throwIf_neg hnetwork, throwIf_pos hstation] at h
      exact ⟨_, (Except.error.inj h).symm⟩
    · rw [throwIf_neg hnetwork, throwIf_neg hstation] at h
      cases h

theorem Complete.toString {identifier : StationIdentifier} (h : identifier.Complete) :
    identifier.toString = .ok identifier.name := toString_eq_ok.mpr ⟨h, rfl⟩

theorem Complete.toMessage {identifier : StationIdentifier} (h : identifier.Complete) :
    identifier.toMessage = .ok
      { network := some identifier.mNetwork, station := some identifier.mStation } := by
  unfold StationIdentifier.toMessage
  rw [getNetwork_eq_ok.mpr ⟨h.network, rfl⟩, getStation_eq_ok.mpr ⟨h.station, rfl⟩]
  rfl

/-- The station of a stream has the normalized codes of the stream. -/
theorem ofStreamIdentifier_eq_ok {stream : StreamIdentifier}
    {identifier : StationIdentifier} :
    ofStreamIdentifier stream = .ok identifier ↔
      capitalized stream.mNetwork ≠ [] ∧ capitalized stream.mStation ≠ [] ∧
        { mNetwork := capitalized stream.mNetwork,
          mStation := capitalized stream.mStation } = identifier := by
  have hnonempty {s : Bytes} (h : capitalized s ≠ []) : s ≠ [] := by
    rintro rfl
    exact h capitalized_nil
  unfold ofStreamIdentifier
  simp only [throwIf_bind_eq_ok]
  simp only [bind_eq_ok, call_setNetwork_eq_ok, call_setStation_eq_ok,
    StreamIdentifier.getNetwork_eq_ok, StreamIdentifier.getStation_eq_ok]
  constructor
  · intro hall
    rcases hall with ⟨-, -, _, ⟨-, rfl⟩, _, ⟨hn, rfl⟩, _, ⟨-, rfl⟩, hs, rfl⟩
    exact ⟨hn, hs, rfl⟩
  · intro hall
    rcases hall with ⟨hn, hs, rfl⟩
    have hnetwork := hnonempty hn
    have hstation := hnonempty hs
    exact ⟨by simpa [StreamIdentifier.hasNetwork] using hnetwork,
      by simpa [StreamIdentifier.hasStation] using hstation,
      _, ⟨hnetwork, rfl⟩, _, ⟨hn, rfl⟩, _, ⟨hstation, rfl⟩, hs, rfl⟩

theorem complete_of_ofStreamIdentifier {stream : StreamIdentifier}
    {identifier : StationIdentifier} (h : ofStreamIdentifier stream = .ok identifier) :
    identifier.Complete := by
  obtain ⟨hn, hs, rfl⟩ := ofStreamIdentifier_eq_ok.mp h
  exact ⟨hn, hs⟩

/-- A stream without a station is refused with a `std::invalid_argument`. -/
theorem raises_ofStreamIdentifier (stream : StreamIdentifier) :
    Raises (ofStreamIdentifier stream) Fault.IsInvalidArgument := by
  unfold ofStreamIdentifier
  refine .bind (.throwIf fun _ => trivial) fun _ hnetwork => ?_
  refine .bind (.throwIf fun _ => trivial) fun _ hstation => ?_
  -- The getters cannot throw after the two checks.
  have hn : stream.mNetwork ≠ [] := by
    simpa [StreamIdentifier.hasNetwork] using hnetwork
  have hs : stream.mStation ≠ [] := by
    simpa [StreamIdentifier.hasStation] using hstation
  rw [StreamIdentifier.getNetwork_eq_ok.mpr ⟨hn, rfl⟩,
    StreamIdentifier.getStation_eq_ok.mpr ⟨hs, rfl⟩]
  simp only [bind_ok]
  exact .bind (raises_setter (.network _) _) fun _ _ => raises_setter (.station _) _

/-- What the message constructor returns. -/
theorem ofMessage_eq_ok {message : Api.StationIdentifier} {identifier : StationIdentifier} :
    ofMessage message = .ok identifier ↔
      ∃ network station, message.network = some network ∧ message.station = some station ∧
        capitalized network ≠ [] ∧ capitalized station ≠ [] ∧
        { mNetwork := capitalized network,
          mStation := capitalized station } = identifier := by
  unfold ofMessage
  simp only [bind_eq_ok, require_eq_ok, call_setNetwork_eq_ok, call_setStation_eq_ok]
  constructor
  · intro h
    rcases h with ⟨network, hnetwork, station, hstation, _, ⟨hn, rfl⟩, hs, rfl⟩
    exact ⟨network, station, hnetwork, hstation, hn, hs, rfl⟩
  · intro h
    rcases h with ⟨network, station, hnetwork, hstation, hn, hs, rfl⟩
    exact ⟨network, hnetwork, station, hstation, _, ⟨hn, rfl⟩, hs, rfl⟩

theorem raises_ofMessage (message : Api.StationIdentifier) :
    Raises (ofMessage message) Fault.IsInvalidArgument := by
  refine .bind (.require fun _ => trivial) fun network _ => ?_
  refine .bind (.require fun _ => trivial) fun station _ => ?_
  exact .bind (raises_setter (.network network) _) fun _ _ => raises_setter (.station station) _

theorem complete_of_ofMessage {message : Api.StationIdentifier} {identifier : StationIdentifier}
    (h : ofMessage message = .ok identifier) : identifier.Complete := by
  obtain ⟨network, station, -, -, hn, hs, rfl⟩ := ofMessage_eq_ok.mp h
  exact ⟨hn, hs⟩

/-- Every way to make an identifier stores normal forms. -/
theorem IsReachable.normal {identifier : StationIdentifier} (h : identifier.IsReachable) :
    identifier.Normal := by
  refine h.invariant_of_atomic ?_ setter_atomic ?_
  · intro built hall
    rcases hall with rfl | ⟨stream, -, hstream⟩ | ⟨message, hmessage⟩
    · exact ⟨rfl, rfl⟩
    · obtain ⟨-, -, rfl⟩ := ofStreamIdentifier_eq_ok.mp hstream
      exact ⟨capitalized_capitalized _, capitalized_capitalized _⟩
    · obtain ⟨network, station, -, -, -, -, rfl⟩ := ofMessage_eq_ok.mp hmessage
      exact ⟨capitalized_capitalized _, capitalized_capitalized _⟩
  · intro setter before after _ _ hbefore hexec
    have hcall := Method.call_of_exec hexec
    cases setter with
    | network networkIn =>
        obtain ⟨-, rfl⟩ := call_setNetwork_eq_ok.mp hcall
        exact { hbefore with network := capitalized_capitalized _ }
    | station stationIn =>
        obtain ⟨-, rfl⟩ := call_setStation_eq_ok.mp hcall
        exact { hbefore with station := capitalized_capitalized _ }

end StationIdentifier

end Corrections
end ULocalMagnitude
