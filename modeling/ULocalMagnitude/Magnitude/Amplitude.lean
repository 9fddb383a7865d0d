import ULocalMagnitude.Magnitude.StreamIdentifier

/-!
# Amplitudes

`magnitude/amplitude.cpp`: a positive amplitude in millimeters with the stream it
was measured on.  A message gives it in one of three units.
-/

namespace ULocalMagnitude
namespace Magnitude

open Cxx

variable {F : Type} [Arithmetic F]

/-- `Amplitude::AmplitudeImpl` -/
structure Amplitude (F : Type) [Arithmetic F] where
  mIdentifier : StreamIdentifier := {}
  mValue : Double F := .finite (-1)
  mHasIdentifier : Bool := false
deriving DecidableEq

namespace Amplitude

/-- Value -/
def setValue (value : Double F) : Method (Amplitude F) Unit := do
  throwIf (!value.isFinite) (.invalidArgument "Amplitude is not finite")
  throwIf (value ≤ .finite 0) (.invalidArgument "Amplitude value must be positive")
  modify fun amplitude => { amplitude with mValue := value }

def hasValue (amplitude : Amplitude F) : Bool := decide (amplitude.mValue > .finite 0)

def getValue (amplitude : Amplitude F) : Throws (Double F) := do
  throwIf (!amplitude.hasValue) (.runtimeError "Amplitude value not set")
  return amplitude.mValue

/-- Stream identifier -/
def setIdentifier (identifier : StreamIdentifier) : Method (Amplitude F) Unit := do
  throwIf (!identifier.hasNetwork) (.invalidArgument "Network not set")
  throwIf (!identifier.hasStation) (.invalidArgument "Station not set")
  throwIf (!identifier.hasChannel) (.invalidArgument "Channel not set")
  throwIf (!identifier.hasLocationCode) (.invalidArgument "Location code not set")
  modify fun amplitude => { amplitude with mIdentifier := identifier, mHasIdentifier := true }

def hasIdentifier (amplitude : Amplitude F) : Bool := amplitude.mHasIdentifier

def getIdentifier (amplitude : Amplitude F) : Throws StreamIdentifier := do
  throwIf (!amplitude.hasIdentifier) (.runtimeError "Stream identifier not set")
  return amplitude.mIdentifier

/-- The switch over the units: the value in millimeters. -/
def inMillimeters (units : Api.Units) (value : Double F) : Throws (Double F) :=
  match units with
  | .unspecified => .error (.invalidArgument "Units not specified")
  | .millimeters => .ok value
  | .centimeters => .ok (value * .finite 10)
  | .meters => .ok (value * .finite 1000)
  | .unrecognized _ => .error (.invalidArgument "Unhandled units")

/-- Build from a protobuf. -/
def ofMessage (amplitude : Api.Amplitude F) : Throws (Amplitude F) := do
  let identifier ← require amplitude.streamIdentifier
    (.invalidArgument "Stream identifier not set.")
  let value ← require amplitude.value (.invalidArgument "Amplitude value not set.")
  let units ← require amplitude.units (.invalidArgument "Amplitude units not set.")
  let thisAmplitude : Amplitude F := {}
  let thisAmplitude ← (setValue (← inMillimeters units value)).call thisAmplitude
  let streamIdentifier ← StreamIdentifier.ofMessage identifier
  (setIdentifier streamIdentifier).call thisAmplitude

/-- Protobuf -/
def toMessage (amplitude : Amplitude F) : Throws (Api.Amplitude F) := do
  let streamIdentifier ← (← amplitude.getIdentifier).toMessage
  let value ← amplitude.getValue
  return { streamIdentifier := some streamIdentifier, value := some value,
           units := some .millimeters }

/-! ## The calls on an amplitude -/

/-- A setter with its argument. -/
inductive Setter (F : Type) where
  | value (newValue : Double F)
  | identifier (newIdentifier : StreamIdentifier)

def Setter.method : Setter F → Method (Amplitude F) Unit
  | .value newValue => setValue newValue
  | .identifier newIdentifier => setIdentifier newIdentifier

/-- Identifiers are themselves made through their class. -/
def Setter.Admissible : Setter F → Prop
  | .value _ => True
  | .identifier newIdentifier => newIdentifier.IsReachable

/-- Default constructed or built from a message, then used through the setters. -/
def IsReachable (amplitude : Amplitude F) : Prop :=
  Reachable (fun built => built = {} ∨ ∃ message, ofMessage message = .ok built)
    Setter.method Setter.Admissible amplitude

theorem setter_atomic (setter : Setter F) : setter.method.Atomic := by
  cases setter with
  | value value => exact .lift_bind fun _ => .lift_bind fun _ => .modify _
  | identifier identifier =>
      exact .lift_bind fun _ => .lift_bind fun _ => .lift_bind fun _ => .lift_bind fun _ =>
        .modify _

theorem call_setValue_eq_ok {value : Double F} {amplitude after : Amplitude F} :
    (setValue value).call amplitude = .ok after ↔
      (∃ x, value = .finite x ∧ 0 < x) ∧ { amplitude with mValue := value } = after := by
  simp only [setValue, Method.call_lift_bind, Method.call_modify, throwIf_bind_eq_ok,
    Except.ok.injEq, Bool.not_eq_true', Bool.not_eq_false]
  constructor
  · intro h
    rcases h with ⟨hfinite, hpos, hafter⟩
    obtain ⟨x, rfl⟩ := Double.exists_finite hfinite
    exact ⟨⟨x, rfl, not_le.mp hpos⟩, hafter⟩
  · intro h
    rcases h with ⟨⟨x, rfl, hpos⟩, hafter⟩
    exact ⟨rfl, not_le.mpr hpos, hafter⟩

theorem call_setIdentifier_eq_ok {identifier : StreamIdentifier}
    {amplitude after : Amplitude F} :
    (setIdentifier identifier).call amplitude = .ok after ↔
      identifier.Complete ∧
        { amplitude with mIdentifier := identifier, mHasIdentifier := true } = after := by
  simp only [setIdentifier, Method.call_lift_bind, Method.call_modify, throwIf_bind_eq_ok,
    Except.ok.injEq]
  constructor
  · intro h
    rcases h with ⟨hnetwork, hstation, hchannel, hlocation, hafter⟩
    refine ⟨⟨?_, ?_, ?_, ?_⟩, hafter⟩
    · simpa [StreamIdentifier.hasNetwork] using hnetwork
    · simpa [StreamIdentifier.hasStation] using hstation
    · simpa [StreamIdentifier.hasChannel] using hchannel
    · simpa [StreamIdentifier.hasLocationCode] using hlocation
  · intro h
    rcases h with ⟨hcomplete, hafter⟩
    refine ⟨?_, ?_, ?_, ?_, hafter⟩
    · simpa [StreamIdentifier.hasNetwork] using hcomplete.network
    · simpa [StreamIdentifier.hasStation] using hcomplete.station
    · simpa [StreamIdentifier.hasChannel] using hcomplete.channel
    · simpa [StreamIdentifier.hasLocationCode] using hcomplete.locationCode

/-! ## The message constructor -/

/-- Millimeters in a unit, where the unit is one of the three. -/
def millimetersPer : Api.Units → Option F
  | .millimeters => some 1
  | .centimeters => some 10
  | .meters => some 1000
  | .unspecified => none
  | .unrecognized _ => none

theorem raises_inMillimeters (units : Api.Units) (value : Double F) :
    Raises (inMillimeters units value) Fault.IsInvalidArgument := by
  cases units with
  | unspecified => exact .error trivial
  | millimeters => exact .ok _
  | centimeters => exact .ok _
  | meters => exact .ok _
  | unrecognized number => exact .error trivial

/-- What the message constructor returns: the value is the one in millimeters. -/
theorem ofMessage_eq_ok_iff {message : Api.Amplitude F} {amplitude : Amplitude F} :
    ofMessage message = .ok amplitude ↔
      ∃ stream value units x identifier, message.streamIdentifier = some stream ∧
        message.value = some value ∧ message.units = some units ∧
        inMillimeters units value = .ok (.finite x) ∧ 0 < x ∧
        StreamIdentifier.ofMessage stream = .ok identifier ∧
        { mIdentifier := identifier, mValue := .finite x,
          mHasIdentifier := true } = amplitude := by
  unfold ofMessage
  simp only [bind_eq_ok, require_eq_ok, call_setValue_eq_ok, call_setIdentifier_eq_ok]
  constructor
  · intro h
    rcases h with ⟨stream, hstream, value, hvalue, units, hunits, _, hmillimeters, _,
      ⟨⟨x, rfl, hpos⟩, rfl⟩, identifier, hidentifier, -, rfl⟩
    exact ⟨stream, value, units, x, identifier, hstream, hvalue, hunits, hmillimeters, hpos,
      hidentifier, rfl⟩
  · intro h
    rcases h with ⟨stream, value, units, x, identifier, hstream, hvalue, hunits, hmillimeters,
      hpos, hidentifier, rfl⟩
    exact ⟨stream, hstream, _, hvalue, units, hunits, _, hmillimeters, _,
      ⟨⟨_, rfl, hpos⟩, rfl⟩, identifier, hidentifier,
      StreamIdentifier.complete_of_ofMessage hidentifier, rfl⟩

section Exact

variable [IsExact F]

/-- The value of a message in millimeters, where it is a positive number in one of the
three units. -/
theorem inMillimeters_eq_ok {units : Api.Units} {value : Double F} {x : F} :
    inMillimeters units value = .ok (.finite x) ↔
      ∃ scale v, millimetersPer units = some scale ∧ value = .finite v ∧ x = v * scale := by
  cases value with
  | finite v => cases units <;> simp [inMillimeters, millimetersPer, eq_comm]
  | nan => cases units <;> simp [inMillimeters] <;> exact fun h => nomatch h
  | posInf =>
      have hscaled (y : F) : (Double.posInf * .finite y : Double F) ≠ .finite x := by
        intro h
        have hfinite := Double.isFinite_mul (Double.posInf : Double F) (.finite y)
        rw [h] at hfinite
        cases hfinite
      cases units <;> simp [inMillimeters, hscaled]
  | negInf =>
      have hscaled (y : F) : (Double.negInf * .finite y : Double F) ≠ .finite x := by
        intro h
        have hfinite := Double.isFinite_mul (Double.negInf : Double F) (.finite y)
        rw [h] at hfinite
        cases hfinite
      cases units <;> simp [inMillimeters, hscaled]

/-- What it returns in exact arithmetic. -/
theorem ofMessage_eq_ok {message : Api.Amplitude F} {amplitude : Amplitude F} :
    ofMessage message = .ok amplitude ↔
      ∃ stream units v scale identifier, message.streamIdentifier = some stream ∧
        message.value = some (.finite v) ∧ message.units = some units ∧
        millimetersPer units = some scale ∧ 0 < v * scale ∧
        StreamIdentifier.ofMessage stream = .ok identifier ∧
        { mIdentifier := identifier, mValue := .finite (v * scale),
          mHasIdentifier := true } = amplitude := by
  rw [ofMessage_eq_ok_iff]
  constructor
  · intro h
    rcases h with ⟨stream, value, units, x, identifier, hstream, hvalue, hunits, hmillimeters,
      hpos, hidentifier, rfl⟩
    obtain ⟨scale, v, hscale, rfl, rfl⟩ := inMillimeters_eq_ok.mp hmillimeters
    exact ⟨stream, units, v, scale, identifier, hstream, hvalue, hunits, hscale, hpos,
      hidentifier, rfl⟩
  · intro h
    rcases h with ⟨stream, units, v, scale, identifier, hstream, hvalue, hunits, hscale, hpos,
      hidentifier, rfl⟩
    exact ⟨stream, _, units, _, identifier, hstream, hvalue, hunits,
      inMillimeters_eq_ok.mpr ⟨scale, v, hscale, rfl, rfl⟩, hpos, hidentifier, rfl⟩

end Exact

/-- Setters throw nothing but `std::invalid_argument`. -/
theorem raises_setter (setter : Setter F) (amplitude : Amplitude F) :
    Raises (setter.method.call amplitude) Fault.IsInvalidArgument := by
  cases setter with
  | value value =>
      refine Method.raises_call_lift_bind (.throwIf fun _ => trivial) fun _ => ?_
      exact Method.raises_call_lift_bind (.throwIf fun _ => trivial) fun _ => .ok _
  | identifier identifier =>
      refine Method.raises_call_lift_bind (.throwIf fun _ => trivial) fun _ => ?_
      refine Method.raises_call_lift_bind (.throwIf fun _ => trivial) fun _ => ?_
      refine Method.raises_call_lift_bind (.throwIf fun _ => trivial) fun _ => ?_
      exact Method.raises_call_lift_bind (.throwIf fun _ => trivial) fun _ => .ok _

theorem raises_ofMessage (message : Api.Amplitude F) :
    Raises (ofMessage message) Fault.IsInvalidArgument := by
  refine .bind (.require fun _ => trivial) fun stream _ => ?_
  refine .bind (.require fun _ => trivial) fun value _ => ?_
  refine .bind (.require fun _ => trivial) fun units _ => ?_
  refine .bind (raises_inMillimeters units value) fun millimeters _ => ?_
  refine .bind (raises_setter (.value millimeters) _) fun _ _ => ?_
  refine .bind (StreamIdentifier.raises_ofMessage stream) fun identifier _ => ?_
  exact raises_setter (.identifier identifier) _

/-! ## What an amplitude in use satisfies -/

/-- A set value is a number, and a set identifier is complete. -/
structure Inv (amplitude : Amplitude F) : Prop where
  value : amplitude.mValue.isFinite = true
  identifier : amplitude.mHasIdentifier = true →
    amplitude.mIdentifier.Complete ∧ amplitude.mIdentifier.IsReachable

theorem IsReachable.inv {amplitude : Amplitude F} (h : amplitude.IsReachable) :
    amplitude.Inv := by
  refine h.invariant_of_atomic ?_ setter_atomic ?_
  · intro built hall
    rcases hall with rfl | ⟨message, hmessage⟩
    · exact ⟨rfl, fun hset => absurd hset Bool.false_ne_true⟩
    · obtain ⟨stream, value, units, x, identifier, -, -, -, -, -, hidentifier, rfl⟩ :=
        ofMessage_eq_ok_iff.mp hmessage
      exact ⟨rfl, fun _ => ⟨StreamIdentifier.complete_of_ofMessage hidentifier,
        .init (Or.inr ⟨stream, hidentifier⟩)⟩⟩
  · intro setter before after _ hadmissible hbefore hexec
    have hcall := Method.call_of_exec hexec
    cases setter with
    | value value =>
        obtain ⟨⟨x, rfl, -⟩, rfl⟩ := call_setValue_eq_ok.mp hcall
        exact ⟨rfl, hbefore.identifier⟩
    | identifier identifier =>
        obtain ⟨hcomplete, rfl⟩ := call_setIdentifier_eq_ok.mp hcall
        exact ⟨hbefore.value, fun _ => ⟨hcomplete, hadmissible⟩⟩

/-- An amplitude in use that has a value has a positive number. -/
theorem Inv.exists_value {amplitude : Amplitude F} (h : amplitude.Inv)
    (hvalue : amplitude.hasValue = true) : ∃ x, amplitude.mValue = .finite x ∧ 0 < x := by
  obtain ⟨x, hx⟩ := Double.exists_finite h.value
  refine ⟨x, hx, ?_⟩
  have hpos := of_decide_eq_true hvalue
  rw [hx] at hpos
  exact hpos

theorem getValue_eq_ok {amplitude : Amplitude F} (h : amplitude.hasValue = true) :
    amplitude.getValue = .ok amplitude.mValue := by
  unfold getValue
  rw [throwIf_neg (by simp [h])]
  rfl

theorem getIdentifier_eq_ok {amplitude : Amplitude F} {identifier : StreamIdentifier} :
    amplitude.getIdentifier = .ok identifier ↔
      amplitude.mHasIdentifier = true ∧ amplitude.mIdentifier = identifier := by
  simp [getIdentifier, hasIdentifier]

end Amplitude

end Magnitude
end ULocalMagnitude
