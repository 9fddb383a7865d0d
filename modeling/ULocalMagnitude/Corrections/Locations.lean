import ULocalMagnitude.Api.Messages
import ULocalMagnitude.Cxx.Objects
import Mathlib.Tactic.FieldSimp

/-!
# Hypocenters and station locations

`corrections/hypocenter.cpp` and `corrections/stationLocation.cpp`.  Latitudes
are checked; a longitude is reduced to a turn by a truncating remainder and a sign
fix-up.  Both message constructors throw nothing but
`std::invalid_argument`.
-/

namespace ULocalMagnitude
namespace Corrections

open Cxx

variable {F : Type} [Arithmetic F]

/-! ## Longitudes -/

/-- The computation in both `setLongitude`. -/
def reduceLongitude (longitude : Double F) : Double F :=
  let lon := longitude.fmod 360
  if lon < .finite 0 then lon + .finite 360 else lon

/-- The truncating remainder of one turn is less than a turn. -/
theorem abs_remainder_lt (x : F) : |x - 360 * (Double.trunc (x / 360) : F)| < 360 := by
  have hvalue : x - 360 * (Double.trunc (x / 360) : F) =
      360 * (x / 360 - (Double.trunc (x / 360) : F)) := by
    rw [mul_sub, mul_div_cancel₀ x (by norm_num)]
  have hfraction : |x / 360 - (Double.trunc (x / 360) : F)| < 1 := by
    unfold Double.trunc
    split
    · have hle := Int.le_ceil (x / 360)
      have hlt := Int.ceil_lt_add_one (x / 360)
      exact abs_lt.mpr ⟨by linarith, by linarith⟩
    · have hle := Int.floor_le (x / 360)
      have hlt := Int.lt_floor_add_one (x / 360)
      exact abs_lt.mpr ⟨by linarith, by linarith⟩
  rw [hvalue, abs_mul, abs_of_pos (by norm_num : (0 : F) < 360)]
  linarith

/-- The result is a number between zero and a turn.  It can be the turn itself: a remainder
just below zero may be rounded to it by the fix-up. -/
theorem reduceLongitude_range (x : F) : ∃ longitude : F,
    reduceLongitude (.finite x) = .finite longitude ∧ 0 ≤ longitude ∧ longitude ≤ 360 := by
  have hremainder := abs_lt.mp (abs_remainder_lt x)
  unfold reduceLongitude Double.fmod
  dsimp only
  split
  case isTrue hneg =>
    have hneg' : x - 360 * (Double.trunc (x / 360) : F) < 0 := hneg
    -- Before rounding the fix-up gives a number between the two.
    have hturn : Arithmetic.round (360 : F) = .finite 360 := by
      have hround := Arithmetic.round_natCast (F := F) 360 (by norm_num)
      rwa [Nat.cast_ofNat] at hround
    have hlower := Arithmetic.round_mono 0 (x - 360 * (Double.trunc (x / 360) : F) + 360)
      (by linarith)
    have hupper := Arithmetic.round_mono (x - 360 * (Double.trunc (x / 360) : F) + 360) 360
      (by linarith)
    rw [Double.round_zero] at hlower
    rw [hturn] at hupper
    obtain ⟨longitude, hlongitude⟩ := Double.exists_finite_of_bounds hlower hupper
    rw [hlongitude] at hlower hupper
    exact ⟨longitude, hlongitude, hlower, hupper⟩
  case isFalse hnonneg =>
    exact ⟨_, rfl, not_lt.mp hnonneg, hremainder.2.le⟩

/-! In exact arithmetic it is the fraction of a turn. -/

section Exact

variable [IsExact F]

/-- Reduction takes the fraction of a turn. -/
theorem reduceLongitude_finite (x : F) :
    reduceLongitude (.finite x) = .finite (360 * Int.fract (x / 360)) := by
  have hremainder : (Double.finite x).fmod 360 =
      .finite (360 * (x / 360 - (Double.trunc (x / 360) : F))) := by
    have hx : x = 360 * (x / 360) := by field_simp
    show Double.finite (x - 360 * (Double.trunc (x / 360) : F)) = _
    rw [mul_sub, ← hx]
  have hnonneg := Int.fract_nonneg (x / 360)
  have hlt := Int.fract_lt_one (x / 360)
  unfold reduceLongitude
  rw [hremainder]
  unfold Double.trunc
  simp only [Double.finite_lt_finite, Double.finite_add_finite]
  by_cases hneg : x / 360 < 0
  · rw [if_pos hneg]
    by_cases hwhole : Int.fract (x / 360) = 0
    · have hceil : ((⌈x / 360⌉ : ℤ) : F) = x / 360 := by
        obtain ⟨n, hn⟩ := Int.fract_eq_zero_iff.mp hwhole
        rw [← hn, Int.ceil_intCast]
      rw [hceil, hwhole]
      simp
    · -- The ceiling is one above the floor, so the remainder needs the fix-up.
      have hceil := Int.ceil_eq_add_one_sub_fract hwhole
      have hvalue : 360 * (x / 360 - (⌈x / 360⌉ : F)) = 360 * Int.fract (x / 360) - 360 := by
        rw [hceil]
        ring
      rw [hvalue, if_pos (by linarith), sub_add_cancel]
  · rw [if_neg hneg, Int.self_sub_floor, if_neg (by linarith)]

/-- Turning around the earth any number of times leaves the longitude as it is. -/
theorem reduceLongitude_add_turns (x : F) (turns : ℤ) :
    reduceLongitude (.finite (x + 360 * turns)) = reduceLongitude (.finite x) := by
  have hturns : (x + 360 * (turns : F)) / 360 = x / 360 + turns := by field_simp
  rw [reduceLongitude_finite, reduceLongitude_finite, hturns, Int.fract_add_intCast]

/-- The result is the longitude in `[0, 360)`. -/
theorem reduceLongitude_range_of_exact (x : F) : ∃ longitude : F,
    reduceLongitude (.finite x) = .finite longitude ∧ 0 ≤ longitude ∧ longitude < 360 := by
  have hnonneg := Int.fract_nonneg (x / 360)
  have hlt := Int.fract_lt_one (x / 360)
  exact ⟨_, reduceLongitude_finite x, by linarith, by linarith⟩

end Exact

/-- The checks of both `setLatitude`. -/
def checkLatitude (latitude : Double F) : Throws Unit := do
  throwIf (!latitude.isFinite) (.invalidArgument "Latitude is not finite")
  throwIf (latitude < .finite (-90) ∨ latitude > .finite 90)
    (.invalidArgument "Latitude must be in range [-90, 90]")

/-- Both setters of a bounded coordinate accept the numbers between the bounds. -/
theorem number_in_range_iff {d : Double F} {lower upper : F} :
    d.isFinite = true ∧ ¬ (d < .finite lower ∨ d > .finite upper) ↔
      ∃ x, d = .finite x ∧ lower ≤ x ∧ x ≤ upper := by
  constructor
  · intro h
    rcases h with ⟨hfinite, hrange⟩
    obtain ⟨x, rfl⟩ := Double.exists_finite hfinite
    have hlower : ¬ x < lower := fun h => hrange (Or.inl h)
    have hupper : ¬ upper < x := fun h => hrange (Or.inr h)
    exact ⟨x, rfl, not_lt.mp hlower, not_lt.mp hupper⟩
  · intro hall
    rcases hall with ⟨x, rfl, hlower, hupper⟩
    refine ⟨rfl, ?_⟩
    intro hall
    rcases hall with h | h
    · exact absurd (Double.finite_lt_finite.mp h) (not_lt.mpr hlower)
    · exact absurd (Double.finite_lt_finite.mp h) (not_lt.mpr hupper)

theorem checkLatitude_eq_ok {latitude : Double F} :
    checkLatitude latitude = .ok () ↔ ∃ x, latitude = .finite x ∧ -90 ≤ x ∧ x ≤ 90 := by
  rw [← number_in_range_iff]
  unfold checkLatitude
  simp only [throwIf_bind_eq_ok, throwIf_eq_ok, Bool.not_eq_true', Bool.not_eq_false]

theorem raises_checkLatitude (latitude : Double F) :
    Raises (checkLatitude latitude) Fault.IsInvalidArgument :=
  .bind (.throwIf fun _ => trivial) fun _ _ => .throwIf fun _ => trivial

/-! ## Station locations -/

/-- `StationLocation::StationLocationImpl` -/
structure StationLocation (F : Type) [Arithmetic F] where
  mLatitude : Double F := .finite 0
  mLongitude : Double F := .finite 0
  mHasLatitude : Bool := false
  mHasLongitude : Bool := false
deriving DecidableEq

namespace StationLocation

def hasLatitude (location : StationLocation F) : Bool := location.mHasLatitude

def hasLongitude (location : StationLocation F) : Bool := location.mHasLongitude

def setLatitude (latitude : Double F) : Method (StationLocation F) Unit := do
  liftM (checkLatitude latitude)
  modify fun location => { location with mLatitude := latitude, mHasLatitude := true }

def setLongitude (longitude : Double F) : Method (StationLocation F) Unit := do
  throwIf (!longitude.isFinite) (.invalidArgument "Longitude is not finite")
  let lon := reduceLongitude longitude
  modify fun location => { location with mLongitude := lon, mHasLongitude := true }

def getLatitude (location : StationLocation F) : Throws (Double F) := do
  throwIf (!location.hasLatitude) (.runtimeError "Latitude not set")
  return location.mLatitude

def getLongitude (location : StationLocation F) : Throws (Double F) := do
  throwIf (!location.hasLongitude) (.runtimeError "Longitude not set")
  return location.mLongitude

/-- Build from a protobuf. -/
def ofMessage (location : Api.StationLocation F) : Throws (StationLocation F) := do
  let latitude ← require location.latitude (.invalidArgument "Latitude not set")
  let longitude ← require location.longitude (.invalidArgument "Longitude not set")
  let thisLocation : StationLocation F := {}
  let thisLocation ← (setLatitude latitude).call thisLocation
  (setLongitude longitude).call thisLocation

theorem call_setLatitude_eq_ok {latitude : Double F} {location after : StationLocation F} :
    (setLatitude latitude).call location = .ok after ↔
      (∃ x, latitude = .finite x ∧ -90 ≤ x ∧ x ≤ 90) ∧
        { location with mLatitude := latitude, mHasLatitude := true } = after := by
  simp only [setLatitude, Method.call_lift_bind, Method.call_modify, bind_unit_eq_ok,
    checkLatitude_eq_ok, Except.ok.injEq]

theorem call_setLongitude_eq_ok {longitude : Double F} {location after : StationLocation F} :
    (setLongitude longitude).call location = .ok after ↔
      longitude.isFinite = true ∧
        { location with
          mLongitude := reduceLongitude longitude, mHasLongitude := true } = after := by
  simp only [setLongitude, Method.call_lift_bind, Method.call_modify, throwIf_bind_eq_ok,
    Except.ok.injEq, Bool.not_eq_true', Bool.not_eq_false]

/-- What the message constructor returns. -/
theorem ofMessage_eq_ok {message : Api.StationLocation F} {location : StationLocation F} :
    ofMessage message = .ok location ↔
      ∃ latitude longitude : F, message.latitude = some (.finite latitude) ∧
        message.longitude = some (.finite longitude) ∧ -90 ≤ latitude ∧ latitude ≤ 90 ∧
        { mLatitude := .finite latitude, mLongitude := reduceLongitude (.finite longitude),
          mHasLatitude := true, mHasLongitude := true } = location := by
  unfold ofMessage
  simp only [bind_eq_ok, require_eq_ok, call_setLatitude_eq_ok, call_setLongitude_eq_ok]
  constructor
  · intro h
    rcases h with ⟨_, hlatitude, _, hlongitude, _, ⟨⟨x, rfl, hlower, hupper⟩, rfl⟩, hfinite, rfl⟩
    obtain ⟨y, rfl⟩ := Double.exists_finite hfinite
    exact ⟨x, y, hlatitude, hlongitude, hlower, hupper, rfl⟩
  · intro h
    rcases h with ⟨x, y, hlatitude, hlongitude, hlower, hupper, rfl⟩
    exact ⟨_, hlatitude, _, hlongitude, _, ⟨⟨x, rfl, hlower, hupper⟩, rfl⟩, rfl, rfl⟩

theorem raises_ofMessage (message : Api.StationLocation F) :
    Raises (ofMessage message) Fault.IsInvalidArgument := by
  refine .bind (.require fun _ => trivial) fun latitude _ => ?_
  refine .bind (.require fun _ => trivial) fun longitude _ => ?_
  refine .bind ?_ fun thisLocation _ => ?_
  · exact Method.raises_call_lift_bind (raises_checkLatitude latitude) fun _ => .ok _
  · exact Method.raises_call_lift_bind (.throwIf fun _ => trivial) fun _ => .ok _

/-- A setter with its argument. -/
inductive Setter (F : Type) where
  | latitude (newLatitude : Double F)
  | longitude (newLongitude : Double F)

def Setter.method : Setter F → Method (StationLocation F) Unit
  | .latitude newLatitude => setLatitude newLatitude
  | .longitude newLongitude => setLongitude newLongitude

/-- Default constructed or built from a message, then used through the setters. -/
def IsReachable (location : StationLocation F) : Prop :=
  Reachable (fun built => built = {} ∨ ∃ message, ofMessage message = .ok built)
    Setter.method (fun _ => True) location

end StationLocation

/-! ## Hypocenters -/

/-- `Hypocenter::HypocenterImpl` -/
structure Hypocenter (F : Type) [Arithmetic F] where
  mLatitude : Double F := .finite 0
  mLongitude : Double F := .finite 0
  mDepth : Double F := .finite 0
  mHasLatitude : Bool := false
  mHasLongitude : Bool := false
  mHasDepth : Bool := false
deriving DecidableEq

namespace Hypocenter

def hasLatitude (hypocenter : Hypocenter F) : Bool := hypocenter.mHasLatitude

def hasLongitude (hypocenter : Hypocenter F) : Bool := hypocenter.mHasLongitude

def hasDepth (hypocenter : Hypocenter F) : Bool := hypocenter.mHasDepth

def setLatitude (latitude : Double F) : Method (Hypocenter F) Unit := do
  liftM (checkLatitude latitude)
  modify fun hypocenter => { hypocenter with mLatitude := latitude, mHasLatitude := true }

def setLongitude (longitude : Double F) : Method (Hypocenter F) Unit := do
  throwIf (!longitude.isFinite) (.invalidArgument "Longitude is not finite")
  let lon := reduceLongitude longitude
  modify fun hypocenter => { hypocenter with mLongitude := lon, mHasLongitude := true }

def setDepth (depth : Double F) : Method (Hypocenter F) Unit := do
  throwIf (!depth.isFinite) (.invalidArgument "Depth is not finite")
  let minimumDepth : Double F := .finite (-8600)
  let maximumDepth : Double F := .finite 900000
  throwIf (depth < minimumDepth ∨ depth > maximumDepth)
    (.invalidArgument ("Depth must be in range [" ++ minimumDepth.toString ++ "," ++
      maximumDepth.toString ++ "] meters"))
  modify fun hypocenter => { hypocenter with mDepth := depth, mHasDepth := true }

def getLatitude (hypocenter : Hypocenter F) : Throws (Double F) := do
  throwIf (!hypocenter.hasLatitude) (.runtimeError "Latitude not set")
  return hypocenter.mLatitude

def getLongitude (hypocenter : Hypocenter F) : Throws (Double F) := do
  throwIf (!hypocenter.hasLongitude) (.runtimeError "Longitude not set")
  return hypocenter.mLongitude

def getDepth (hypocenter : Hypocenter F) : Throws (Double F) := do
  throwIf (!hypocenter.hasDepth) (.runtimeError "Depth not set")
  return hypocenter.mDepth

/-- Build from a protobuf. -/
def ofMessage (hypocenter : Api.Hypocenter F) : Throws (Hypocenter F) := do
  let depth ← require hypocenter.depth (.invalidArgument "Depth not set")
  let latitude ← require hypocenter.latitude (.invalidArgument "Latitude not set")
  let longitude ← require hypocenter.longitude (.invalidArgument "Longitude not set")
  let thisHypocenter : Hypocenter F := {}
  let thisHypocenter ← (setLatitude latitude).call thisHypocenter
  let thisHypocenter ← (setLongitude longitude).call thisHypocenter
  (setDepth depth).call thisHypocenter

/-- A message with three numbers, the latitude and the depth in range. -/
def IsValid (message : Api.Hypocenter F) : Prop :=
  ∃ latitude longitude depth : F, message.latitude = some (.finite latitude) ∧
    message.longitude = some (.finite longitude) ∧ message.depth = some (.finite depth) ∧
    -90 ≤ latitude ∧ latitude ≤ 90 ∧ -8600 ≤ depth ∧ depth ≤ 900000

theorem call_setLatitude_eq_ok {latitude : Double F} {hypocenter after : Hypocenter F} :
    (setLatitude latitude).call hypocenter = .ok after ↔
      (∃ x, latitude = .finite x ∧ -90 ≤ x ∧ x ≤ 90) ∧
        { hypocenter with mLatitude := latitude, mHasLatitude := true } = after := by
  simp only [setLatitude, Method.call_lift_bind, Method.call_modify, bind_unit_eq_ok,
    checkLatitude_eq_ok, Except.ok.injEq]

theorem call_setLongitude_eq_ok {longitude : Double F} {hypocenter after : Hypocenter F} :
    (setLongitude longitude).call hypocenter = .ok after ↔
      longitude.isFinite = true ∧
        { hypocenter with
          mLongitude := reduceLongitude longitude, mHasLongitude := true } = after := by
  simp only [setLongitude, Method.call_lift_bind, Method.call_modify, throwIf_bind_eq_ok,
    Except.ok.injEq, Bool.not_eq_true', Bool.not_eq_false]

theorem call_setDepth_eq_ok {depth : Double F} {hypocenter after : Hypocenter F} :
    (setDepth depth).call hypocenter = .ok after ↔
      (∃ x, depth = .finite x ∧ -8600 ≤ x ∧ x ≤ 900000) ∧
        { hypocenter with mDepth := depth, mHasDepth := true } = after := by
  rw [← number_in_range_iff]
  simp only [setDepth, Method.call_lift_bind, Method.call_modify, throwIf_bind_eq_ok,
    Except.ok.injEq, Bool.not_eq_true', Bool.not_eq_false, and_assoc]

/-- What the message constructor returns. -/
theorem ofMessage_eq_ok {message : Api.Hypocenter F} {hypocenter : Hypocenter F} :
    ofMessage message = .ok hypocenter ↔
      ∃ latitude longitude depth : F, message.latitude = some (.finite latitude) ∧
        message.longitude = some (.finite longitude) ∧
        message.depth = some (.finite depth) ∧
        -90 ≤ latitude ∧ latitude ≤ 90 ∧ -8600 ≤ depth ∧ depth ≤ 900000 ∧
        { mLatitude := .finite latitude, mLongitude := reduceLongitude (.finite longitude),
          mDepth := .finite depth, mHasLatitude := true, mHasLongitude := true,
          mHasDepth := true } = hypocenter := by
  unfold ofMessage
  simp only [bind_eq_ok, require_eq_ok, call_setLatitude_eq_ok, call_setLongitude_eq_ok,
    call_setDepth_eq_ok]
  constructor
  · intro h
    rcases h with ⟨_, hdepth, _, hlatitude, _, hlongitude, _, ⟨⟨x, rfl, hlower, hupper⟩, rfl⟩,
      _, ⟨hfinite, rfl⟩, ⟨z, rfl, hshallow, hdeep⟩, rfl⟩
    obtain ⟨y, rfl⟩ := Double.exists_finite hfinite
    exact ⟨x, y, z, hlatitude, hlongitude, hdepth, hlower, hupper, hshallow, hdeep, rfl⟩
  · intro h
    rcases h with ⟨x, y, z, hlatitude, hlongitude, hdepth, hlower, hupper, hshallow, hdeep, rfl⟩
    exact ⟨_, hdepth, _, hlatitude, _, hlongitude, _, ⟨⟨x, rfl, hlower, hupper⟩, rfl⟩,
      _, ⟨rfl, rfl⟩, ⟨z, rfl, hshallow, hdeep⟩, rfl⟩

/-- A hypocenter from a message has everything. -/
theorem complete_of_ofMessage {message : Api.Hypocenter F} {hypocenter : Hypocenter F}
    (h : ofMessage message = .ok hypocenter) :
    hypocenter.mHasLatitude = true ∧ hypocenter.mHasLongitude = true ∧
      hypocenter.mHasDepth = true := by
  obtain ⟨_, _, _, -, -, -, -, -, -, -, rfl⟩ := ofMessage_eq_ok.mp h
  exact ⟨rfl, rfl, rfl⟩

theorem exists_ofMessage_eq_ok_iff {message : Api.Hypocenter F} :
    (∃ hypocenter, ofMessage message = .ok hypocenter) ↔ IsValid message := by
  constructor
  · intro h
    rcases h with ⟨hypocenter, h⟩
    obtain ⟨latitude, longitude, depth, h₁, h₂, h₃, h₄, h₅, h₆, h₇, -⟩ :=
      ofMessage_eq_ok.mp h
    exact ⟨latitude, longitude, depth, h₁, h₂, h₃, h₄, h₅, h₆, h₇⟩
  · intro hall
    rcases hall with ⟨latitude, longitude, depth, h₁, h₂, h₃, h₄, h₅, h₆, h₇⟩
    exact ⟨_, ofMessage_eq_ok.mpr
      ⟨latitude, longitude, depth, h₁, h₂, h₃, h₄, h₅, h₆, h₇, rfl⟩⟩

theorem raises_ofMessage (message : Api.Hypocenter F) :
    Raises (ofMessage message) Fault.IsInvalidArgument := by
  refine .bind (.require fun _ => trivial) fun depth _ => ?_
  refine .bind (.require fun _ => trivial) fun latitude _ => ?_
  refine .bind (.require fun _ => trivial) fun longitude _ => ?_
  refine .bind ?_ fun _ _ => .bind ?_ fun _ _ => ?_
  · exact Method.raises_call_lift_bind (raises_checkLatitude latitude) fun _ => .ok _
  · exact Method.raises_call_lift_bind (.throwIf fun _ => trivial) fun _ => .ok _
  · exact Method.raises_call_lift_bind (.throwIf fun _ => trivial) fun _ =>
      Method.raises_call_lift_bind (.throwIf fun _ => trivial) fun _ => .ok _

/-- A setter with its argument. -/
inductive Setter (F : Type) where
  | latitude (newLatitude : Double F)
  | longitude (newLongitude : Double F)
  | depth (newDepth : Double F)

def Setter.method : Setter F → Method (Hypocenter F) Unit
  | .latitude newLatitude => setLatitude newLatitude
  | .longitude newLongitude => setLongitude newLongitude
  | .depth newDepth => setDepth newDepth

/-- Default constructed or built from a message, then used through the setters. -/
def IsReachable (hypocenter : Hypocenter F) : Prop :=
  Reachable (fun built => built = {} ∨ ∃ message, ofMessage message = .ok built)
    Setter.method (fun _ => True) hypocenter

end Hypocenter

end Corrections
end ULocalMagnitude
