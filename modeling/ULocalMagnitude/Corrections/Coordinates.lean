import ULocalMagnitude.Corrections.Distance

/-!
# Coordinates in range

Whatever is called on hypocenters and station locations, the coordinates that their getters
return are in range, and with them those that `computeEpicentralDistance` gives to the
geodesic library.
-/

namespace ULocalMagnitude
namespace Corrections

open Cxx

variable {F : Type} [Arithmetic F]

/-- A latitude in degrees. -/
structure IsLatitude (latitude : F) : Prop where
  lower : -90 ≤ latitude
  upper : latitude ≤ 90

/-- A longitude in degrees from west to east; a full turn is one too. -/
structure IsLongitude (longitude : F) : Prop where
  lower : 0 ≤ longitude
  upper : longitude ≤ 360

/-- A coordinate that is set is a number in range. -/
def IsSetIn (range : F → Prop) (isSet : Bool) (value : Double F) : Prop :=
  isSet = true → ∃ x, value = .finite x ∧ range x

omit [Arithmetic F] in
theorem isSetIn_false (range : F → Prop) (value : Double F) : IsSetIn range false value := nofun

omit [Arithmetic F] in
theorem isSetIn_finite {range : F → Prop} {x : F} (hx : range x) (isSet : Bool) :
    IsSetIn range isSet (.finite x) := fun _ => ⟨x, rfl, hx⟩

theorem isSetIn_reduceLongitude {longitude : Double F} (h : longitude.isFinite = true)
    (isSet : Bool) : IsSetIn IsLongitude isSet (reduceLongitude longitude) := by
  obtain ⟨x, rfl⟩ := Double.exists_finite h
  obtain ⟨reduced, hreduced, hlower, hupper⟩ := reduceLongitude_range x
  rw [hreduced]
  exact fun _ => ⟨reduced, rfl, hlower, hupper⟩

namespace StationLocation

/-- What is set on a location. -/
structure Inv (location : StationLocation F) : Prop where
  latitude : IsSetIn IsLatitude location.mHasLatitude location.mLatitude
  longitude : IsSetIn IsLongitude location.mHasLongitude location.mLongitude

theorem setter_atomic (setter : Setter F) : setter.method.Atomic := by
  cases setter with
  | latitude latitude => exact .lift_bind fun _ => .modify _
  | longitude longitude => exact .lift_bind fun _ => .modify _

theorem inv_of_ofMessage {message : Api.StationLocation F} {location : StationLocation F}
    (h : ofMessage message = .ok location) : location.Inv := by
  obtain ⟨latitude, longitude, -, -, hlower, hupper, rfl⟩ := ofMessage_eq_ok.mp h
  exact ⟨isSetIn_finite ⟨hlower, hupper⟩ _, isSetIn_reduceLongitude rfl _⟩

theorem IsReachable.inv {location : StationLocation F} (h : location.IsReachable) :
    location.Inv := by
  refine h.invariant_of_atomic ?_ setter_atomic ?_
  · rintro built (rfl | ⟨message, hmessage⟩)
    · exact ⟨isSetIn_false _ _, isSetIn_false _ _⟩
    · exact inv_of_ofMessage hmessage
  · intro setter before after _ _ hinv hcall
    have hcall := Method.call_of_exec hcall
    cases setter with
    | latitude latitude =>
        obtain ⟨⟨x, rfl, hlower, hupper⟩, rfl⟩ := call_setLatitude_eq_ok.mp hcall
        exact ⟨isSetIn_finite ⟨hlower, hupper⟩ _, hinv.longitude⟩
    | longitude longitude =>
        obtain ⟨hfinite, rfl⟩ := call_setLongitude_eq_ok.mp hcall
        exact ⟨hinv.latitude, isSetIn_reduceLongitude hfinite _⟩

end StationLocation

namespace Hypocenter

/-- What is set on a hypocenter. -/
structure Inv (hypocenter : Hypocenter F) : Prop where
  latitude : IsSetIn IsLatitude hypocenter.mHasLatitude hypocenter.mLatitude
  longitude : IsSetIn IsLongitude hypocenter.mHasLongitude hypocenter.mLongitude
  depth : IsSetIn (fun depth => -8600 ≤ depth ∧ depth ≤ 900000) hypocenter.mHasDepth
    hypocenter.mDepth

theorem setter_atomic (setter : Setter F) : setter.method.Atomic := by
  cases setter with
  | latitude latitude => exact .lift_bind fun _ => .modify _
  | longitude longitude => exact .lift_bind fun _ => .modify _
  | depth depth => exact .lift_bind fun _ => .lift_bind fun _ => .modify _

theorem inv_of_ofMessage {message : Api.Hypocenter F} {hypocenter : Hypocenter F}
    (h : ofMessage message = .ok hypocenter) : hypocenter.Inv := by
  obtain ⟨latitude, longitude, depth, -, -, -, hlower, hupper, hshallow, hdeep, rfl⟩ :=
    ofMessage_eq_ok.mp h
  exact ⟨isSetIn_finite ⟨hlower, hupper⟩ _, isSetIn_reduceLongitude rfl _,
    isSetIn_finite ⟨hshallow, hdeep⟩ _⟩

theorem IsReachable.inv {hypocenter : Hypocenter F} (h : hypocenter.IsReachable) :
    hypocenter.Inv := by
  refine h.invariant_of_atomic ?_ setter_atomic ?_
  · rintro built (rfl | ⟨message, hmessage⟩)
    · exact ⟨isSetIn_false _ _, isSetIn_false _ _, isSetIn_false _ _⟩
    · exact inv_of_ofMessage hmessage
  · intro setter before after _ _ hinv hcall
    have hcall := Method.call_of_exec hcall
    cases setter with
    | latitude latitude =>
        obtain ⟨⟨x, rfl, hlower, hupper⟩, rfl⟩ := call_setLatitude_eq_ok.mp hcall
        exact ⟨isSetIn_finite ⟨hlower, hupper⟩ _, hinv.longitude, hinv.depth⟩
    | longitude longitude =>
        obtain ⟨hfinite, rfl⟩ := call_setLongitude_eq_ok.mp hcall
        exact ⟨hinv.latitude, isSetIn_reduceLongitude hfinite _, hinv.depth⟩
    | depth depth =>
        obtain ⟨⟨x, rfl, hshallow, hdeep⟩, rfl⟩ := call_setDepth_eq_ok.mp hcall
        exact ⟨hinv.latitude, hinv.longitude, isSetIn_finite ⟨hshallow, hdeep⟩ _⟩

end Hypocenter

namespace Distance

/-- Two distance functions that agree on all coordinates in range. -/
def AgreeOnEarth (inverse inverse' : Inverse F) : Prop :=
  ∀ latitude longitude latitude' longitude' : F, IsLatitude latitude → IsLongitude longitude →
    IsLatitude latitude' → IsLongitude longitude' →
      inverse (.finite latitude) (.finite longitude) (.finite latitude') (.finite longitude') =
        inverse' (.finite latitude) (.finite longitude) (.finite latitude') (.finite longitude')

/-- The four coordinates are set. -/
def AllSet (hypocenter : Hypocenter F) (station : StationLocation F) : Prop :=
  (hypocenter.mHasLatitude = true ∧ hypocenter.mHasLongitude = true) ∧
    station.mHasLatitude = true ∧ station.mHasLongitude = true

/-- Without one of them the distance function is not called. -/
theorem exists_computeEpicentralDistance_eq_error {hypocenter : Hypocenter F}
    {station : StationLocation F} (h : ¬ AllSet hypocenter station) :
    ∃ fault, ∀ inverse, computeEpicentralDistance inverse hypocenter station = .error fault := by
  unfold computeEpicentralDistance Hypocenter.hasLatitude Hypocenter.hasLongitude
    StationLocation.hasLatitude StationLocation.hasLongitude
  cases hlatitude : hypocenter.mHasLatitude with
  | false => exact ⟨_, fun _ => rfl⟩
  | true =>
      cases hlongitude : hypocenter.mHasLongitude with
      | false => exact ⟨_, fun _ => rfl⟩
      | true =>
          cases hlatitude' : station.mHasLatitude with
          | false => exact ⟨_, fun _ => rfl⟩
          | true =>
              cases hlongitude' : station.mHasLongitude with
              | false => exact ⟨_, fun _ => rfl⟩
              | true => exact absurd ⟨⟨hlatitude, hlongitude⟩, hlatitude', hlongitude'⟩ h

/-- The distance function is called on coordinates in range only. -/
theorem computeEpicentralDistance_congr {inverse inverse' : Inverse F}
    (h : AgreeOnEarth inverse inverse') {hypocenter : Hypocenter F} {station : StationLocation F}
    (hhypocenter : hypocenter.Inv) (hstation : station.Inv) :
    computeEpicentralDistance inverse hypocenter station =
      computeEpicentralDistance inverse' hypocenter station := by
  by_cases hset : AllSet hypocenter station
  · obtain ⟨⟨hlatitude, hlongitude⟩, hlatitude', hlongitude'⟩ := hset
    obtain ⟨x, hx, hxrange⟩ := hhypocenter.latitude hlatitude
    obtain ⟨y, hy, hyrange⟩ := hhypocenter.longitude hlongitude
    obtain ⟨x', hx', hxrange'⟩ := hstation.latitude hlatitude'
    obtain ⟨y', hy', hyrange'⟩ := hstation.longitude hlongitude'
    rw [computeEpicentralDistance_eq inverse hlatitude hlongitude hlatitude' hlongitude',
      computeEpicentralDistance_eq inverse' hlatitude hlongitude hlatitude' hlongitude',
      hx, hy, hx', hy', h x y x' y' hxrange hyrange hxrange' hyrange']
  · obtain ⟨fault, hfault⟩ := exists_computeEpicentralDistance_eq_error hset
    rw [hfault inverse, hfault inverse']

end Distance

end Corrections
end ULocalMagnitude
