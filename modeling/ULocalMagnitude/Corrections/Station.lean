import ULocalMagnitude.Corrections.StationIdentifier

/-!
# Station corrections

`corrections/stationOptions.cpp` and `corrections/station.cpp`: the correction of
one station.  Options are filled in by setters and frozen into a `Station` by its
constructor, which wants both the identifier and the correction.  A correction
may be any double.
-/

namespace ULocalMagnitude
namespace Corrections

open Cxx

variable {F : Type} [Arithmetic F]

/-- `StationOptions::StationOptionsImpl` -/
structure StationOptions (F : Type) [Arithmetic F] where
  mIdentifier : StationIdentifier := {}
  mCorrection : Double F := .finite 0
  mHasIdentifier : Bool := false
  mHasCorrection : Bool := false
deriving DecidableEq

namespace StationOptions

def hasIdentifier (options : StationOptions F) : Bool := options.mHasIdentifier

def hasCorrection (options : StationOptions F) : Bool := options.mHasCorrection

def setIdentifier (identifier : StationIdentifier) : Method (StationOptions F) Unit := do
  throwIf (!identifier.hasNetwork) (.invalidArgument "Network not set on identifier")
  throwIf (!identifier.hasStation) (.invalidArgument "Station not set on identifier")
  modify fun options => { options with mIdentifier := identifier, mHasIdentifier := true }

def setCorrection (correction : Double F) : Method (StationOptions F) Unit :=
  modify fun options => { options with mCorrection := correction, mHasCorrection := true }

def getIdentifier (options : StationOptions F) : Throws StationIdentifier := do
  throwIf (!options.hasIdentifier) (.runtimeError "Identifier not set")
  return options.mIdentifier

def getCorrection (options : StationOptions F) : Throws (Double F) := do
  throwIf (!options.hasCorrection) (.runtimeError "Correction not set")
  return options.mCorrection

/-- A setter with its argument. -/
inductive Setter (F : Type) where
  | identifier (newIdentifier : StationIdentifier)
  | correction (newCorrection : Double F)

def Setter.method : Setter F → Method (StationOptions F) Unit
  | .identifier newIdentifier => setIdentifier newIdentifier
  | .correction newCorrection => setCorrection newCorrection

/-- Identifiers are themselves made through their class. -/
def Setter.Admissible : Setter F → Prop
  | .identifier newIdentifier => newIdentifier.IsReachable
  | .correction _ => True

def IsReachable (options : StationOptions F) : Prop :=
  Reachable (fun built => built = {}) Setter.method Setter.Admissible options

theorem setter_atomic (setter : Setter F) : setter.method.Atomic := by
  cases setter with
  | identifier identifier => exact .lift_bind fun _ => .lift_bind fun _ => .modify _
  | correction correction => exact .modify _

theorem call_setIdentifier_eq_ok {identifier : StationIdentifier}
    {options after : StationOptions F} :
    (setIdentifier identifier).call options = .ok after ↔
      identifier.Complete ∧
        { options with mIdentifier := identifier, mHasIdentifier := true } = after := by
  simp only [setIdentifier, Method.call_lift_bind, throwIf_bind_eq_ok, Method.call_modify]
  constructor
  · intro h
    rcases h with ⟨hnetwork, hstation, hafter⟩
    exact ⟨⟨by simpa [StationIdentifier.hasNetwork] using hnetwork,
      by simpa [StationIdentifier.hasStation] using hstation⟩, Except.ok.inj hafter⟩
  · intro h
    rcases h with ⟨hcomplete, rfl⟩
    exact ⟨by simpa [StationIdentifier.hasNetwork] using hcomplete.network,
      by simpa [StationIdentifier.hasStation] using hcomplete.station, rfl⟩

/-- A set identifier is complete and in normal form. -/
def Inv (options : StationOptions F) : Prop :=
  options.mHasIdentifier = true →
    options.mIdentifier.Complete ∧ options.mIdentifier.IsReachable

theorem IsReachable.inv {options : StationOptions F} (h : options.IsReachable) :
    options.Inv := by
  refine h.invariant_of_atomic ?_ setter_atomic ?_
  · rintro built rfl hset
    cases hset
  · intro setter before after _ hadmissible hbefore hexec
    have hcall := Method.call_of_exec hexec
    cases setter with
    | identifier identifier =>
        obtain ⟨hcomplete, rfl⟩ := call_setIdentifier_eq_ok.mp hcall
        exact fun _ => ⟨hcomplete, hadmissible⟩
    | correction correction =>
        obtain rfl : _ = after := Except.ok.inj hcall
        exact hbefore

end StationOptions

/-- `Station::StationImpl` -/
structure Station (F : Type) [Arithmetic F] where
  mOptions : StationOptions F
  mCorrection : Double F
  mInitialized : Bool
deriving DecidableEq

namespace Station

/-- `Station::ErrorCode` -/
inductive ErrorCode where
  | uninitialized
deriving DecidableEq

def isInitialized (station : Station F) : Bool := station.mInitialized

/-- Constructor -/
def ofOptions (options : StationOptions F) : Throws (Station F) := do
  throwIf (!options.hasIdentifier) (.invalidArgument "Station identifier not set")
  throwIf (!options.hasCorrection) (.invalidArgument "Correction not set")
  return { mOptions := options, mCorrection := ← options.getCorrection,
           mInitialized := true }

/-- `operator()` -/
def apply (station : Station F) : Except ErrorCode (Double F) :=
  if !station.isInitialized then .error .uninitialized
  else .ok station.mCorrection

/-- Name -/
def getName (station : Station F) : Throws Bytes := do
  throwIf (!station.isInitialized) (.runtimeError "Station correction not initialized")
  (← station.mOptions.getIdentifier).toString

/-- Made by the constructor from options that were filled in by their setters. -/
def IsReachable (station : Station F) : Prop :=
  ∃ options, StationOptions.IsReachable options ∧ ofOptions options = .ok station

/-- The identifier of the station. -/
def identifier (station : Station F) : StationIdentifier := station.mOptions.mIdentifier

/-- The name of the station. -/
def name (station : Station F) : Bytes := station.identifier.name

/-- What a constructed station satisfies. -/
structure Inv (station : Station F) : Prop where
  initialized : station.mInitialized = true
  hasIdentifier : station.mOptions.mHasIdentifier = true
  complete : station.identifier.Complete
  reachable : station.identifier.IsReachable

theorem IsReachable.inv {station : Station F} (h : station.IsReachable) : station.Inv := by
  obtain ⟨options, hoptions, hstation⟩ := h
  unfold ofOptions at hstation
  simp only [throwIf_bind_eq_ok] at hstation
  obtain ⟨hidentifier, -, hstation⟩ := hstation
  obtain ⟨correction, -, hstation⟩ := bind_eq_ok.mp hstation
  obtain rfl := Except.ok.inj hstation
  have hset : options.mHasIdentifier = true := by
    simpa [StationOptions.hasIdentifier] using hidentifier
  obtain ⟨hcomplete, hreachable⟩ := hoptions.inv hset
  exact ⟨rfl, hset, hcomplete, hreachable⟩

theorem Inv.getName {station : Station F} (h : station.Inv) :
    station.getName = .ok station.name := by
  unfold Station.getName StationOptions.getIdentifier
  rw [throwIf_neg (by simp [isInitialized, h.initialized]),
    throwIf_neg (by simp [StationOptions.hasIdentifier, h.hasIdentifier])]
  exact h.complete.toString

theorem Inv.apply {station : Station F} (h : station.Inv) :
    station.apply = .ok station.mCorrection := by
  simp [Station.apply, isInitialized, h.initialized]

end Station

end Corrections
end ULocalMagnitude
