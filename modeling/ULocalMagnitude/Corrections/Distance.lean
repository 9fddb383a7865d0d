import ULocalMagnitude.Corrections.DistanceOptions
import ULocalMagnitude.Corrections.Locations
import ULocalMagnitude.Cxx.BinarySearch
import Mathlib.Data.List.GetD

/-!
# Distance corrections

`corrections/distance.cpp`: the correction at a distance, looked up in the table
of the options.  Elements are read without a bounds check, so a read outside of
the table is undefined behaviour here, and both call operators are `noexcept`.

* `interpolate_eq_ok_iff` — the lookup gives a number exactly when `correctionAt` is one;
* `isTabulated_of_isFinite` — then the rows that it combines hold numbers;
* `isFinite_correctionAt` — and in exact arithmetic that is enough;
* `Numeric.isTabulated` — and it is always so in a table of numbers.
-/

namespace ULocalMagnitude
namespace Corrections

open Cxx

/-! ## Reading a table -/

section Reading

variable {F : Type}

/-- `v[i]` -/
def readAt (v : List (Double F)) (i : Nat) : Throws (Double F) :=
  match v[i]? with
  | some a => .ok a
  | none => .error .undefinedBehavior

theorem readAt_eq_ok {v : List (Double F)} {i : Nat} {a : Double F} :
    readAt v i = .ok a ↔ v[i]? = some a := by
  unfold readAt
  cases v[i]? with
  | none => simp
  | some b => simp

theorem readAt_getD {v : List (Double F)} {i : Nat} (h : i < v.length) :
    readAt v i = .ok (v.getD i .nan) := by
  rw [readAt_eq_ok, List.getElem?_eq_getElem h, List.getD_eq_getElem _ _ h]

theorem readAt_eq_ok_finite {v : List (Double F)} {i : Nat} {y : F} :
    readAt v i = .ok (.finite y) ↔ v.getD i .nan = .finite y := by
  rw [readAt_eq_ok, List.getD_eq_getElem?_getD]
  cases v[i]? with
  | none => simp
  | some value => simp

end Reading

variable {F : Type} [Arithmetic F]

/-- `std::lower_bound(xv.begin(), xv.end(), x)` as a position. -/
def lowerBound (xv : List (Double F)) (x : Double F) : Nat :=
  partitionPosition (fun i => (xv[i]?).any fun element => element < x) xv.length

/-- `std::upper_bound(xv.begin(), xv.end(), x)` as a position. -/
def upperBound (xv : List (Double F)) (x : Double F) : Nat :=
  partitionPosition (fun i => (xv[i]?).any fun element => ¬ x < element) xv.length

def interpolateNearest (x : Double F) (xv yv : List (Double F)) : Throws (Double F) :=
  -- Safely do nothing
  if xv.length = 0 then .ok (.finite 0)
  -- Kinda stupid
  else if xv.length = 1 then readAt yv 0
  else
    let it := lowerBound xv x
    if it = 0 then readAt yv 0 -- At or below first element
    else if it = xv.length then readAt yv (yv.length - 1) -- At or above last element
    else do
      -- Here, *(it - 1) < x <= *it; pick whichever is closer
      let i := it
      let left ← readAt xv (i - 1)
      let right ← readAt xv i
      let nearestNeighborIndex := if x - left ≤ right - x then i - 1 else i
      readAt yv nearestNeighborIndex

def interpolateLinearly (x : Double F) (xv yv : List (Double F)) : Throws (Double F) :=
  -- Safely do nothing
  if xv.length = 0 then .ok (.finite 0)
  -- Kinda stupid
  else if xv.length = 1 then readAt yv 0
  -- Handle extrema up front by saturating
  else do
    let front ← readAt xv 0
    if x ≤ front then readAt yv 0
    else do
      let back ← readAt xv (xv.length - 1)
      if x ≥ back then readAt yv (yv.length - 1)
      -- Go to work
      else do
        let it := upperBound xv x
        throwIf (it = 0 ∨ it = xv.length)
          (.runtimeError "Algorithmic error in binary search")
        let i := it - 1
        let xi ← readAt xv i
        let xi1 ← readAt xv (i + 1)
        let yi ← readAt yv i
        let yi1 ← readAt yv (i + 1)
        return yi + (x - xi) * (yi1 - yi) / (xi1 - xi)

/-! ## The class -/

/-- `Distance::ErrorCode` -/
inductive Distance.ErrorCode where
  | negativeDistance
  | stationTooClose
  | stationTooFar
  | invalidSourceDepth
  | uninitialized
deriving DecidableEq

/-- `Distance::DistanceImpl` -/
structure Distance (F : Type) [Arithmetic F] where
  mDistanceOptions : DistanceOptions F := {}
  mAbsissas : List (Double F) := []
  mValues : List (Double F) := []
  mMinimumDistance : Double F := .finite 0
  mMaximumDistance : Double F := .finite 0
  mInitialized : Bool := false
deriving DecidableEq

namespace Distance

/-- The loop of `std::ranges::minmax_element`: two elements at a time are compared with each
other, the smaller one with the least so far and the other with the greatest. -/
def minmaxLoop : Double F × Double F → List (Double F) → Double F × Double F
  | result, [] => result
  | (least, greatest), [prev] =>
      if prev < least then (prev, greatest)
      else if ¬ prev < greatest then (least, prev)
      else (least, greatest)
  | (least, greatest), prev :: first :: rest =>
      let smaller := if first < prev then first else prev
      let larger := if first < prev then prev else first
      minmaxLoop (if smaller < least then smaller else least,
        if larger < greatest then greatest else larger) rest

/-- `std::ranges::minmax_element`; both elements of a nonempty vector.  With a NaN among them
the order of the comparisons matters. -/
def minmaxElement : List (Double F) → Throws (Double F × Double F)
  | [] => .error .undefinedBehavior
  | [first] => .ok (first, first)
  | first :: second :: rest =>
      .ok (minmaxLoop (if second < first then (second, first) else (first, second)) rest)

/-- Constructor -/
def ofOptions (options : DistanceOptions F) : Throws (Distance F) := do
  throwIf (!options.hasCorrections) (.runtimeError "No corrections set")
  throwIf (!options.hasInterpolation) (.runtimeError "Interpolation type not set")
  throwIf (!options.hasType) (.runtimeError "Distance type not set")
  let correctionsTable ← options.getCorrections
  let absissas := correctionsTable.map fun correction => correction.1
  let values := correctionsTable.map fun correction => correction.2
  let (minDistance, maxDistance) ← minmaxElement absissas
  return { mDistanceOptions := options, mAbsissas := absissas, mValues := values,
           mMinimumDistance := minDistance, mMaximumDistance := maxDistance,
           mInitialized := true }

/-- Initialized? -/
def isInitialized (distance : Distance F) : Bool := distance.mInitialized

/-- Distance type -/
def getDistanceType (distance : Distance F) : Throws DistanceOptions.DistanceType := do
  throwIf (!distance.isInitialized) (.runtimeError "Distance corrections not initialized")
  distance.mDistanceOptions.getType

/-- `GeographicLib::Geodesic::Inverse` on the WGS84 ellipsoid, at the latitudes and
longitudes of two points: the length of the shortest geodesic between them. -/
abbrev Inverse (F : Type) := Double F → Double F → Double F → Double F → Double F

def computeEpicentralDistance (inverse : Inverse F) (hypocenter : Hypocenter F)
    (station : StationLocation F) : Throws (Double F) := do
  throwIf (!hypocenter.hasLatitude) (.invalidArgument "Hypocenter latitude not set")
  throwIf (!hypocenter.hasLongitude) (.invalidArgument "Hypocenter longitude not set")
  throwIf (!station.hasLatitude) (.invalidArgument "Station latitude not set")
  throwIf (!station.hasLongitude) (.invalidArgument "Station longitude not set")
  let sourceLatitude ← hypocenter.getLatitude
  let sourceLongitude ← hypocenter.getLongitude
  let stationLatitude ← station.getLatitude
  let stationLongitude ← station.getLongitude
  return inverse sourceLatitude sourceLongitude stationLatitude stationLongitude

/-- The last part of `operator()`: the table lookup. -/
def interpolate (distance : Distance F) (x : Double F) : Throws (Double F) := do
  let interpolation ← distance.mDistanceOptions.getInterpolation
  if interpolation = .nearest then
    interpolateNearest x distance.mAbsissas distance.mValues
  else
    interpolateLinearly x distance.mAbsissas distance.mValues

/-- `operator()` at a distance -/
def apply (distance : Distance F) (x : Double F) :
    Throws (Except ErrorCode (Double F)) := noexcept <|
  if !distance.isInitialized then .ok (.error .uninitialized)
  else if x < .finite 0 then .ok (.error .negativeDistance)
  else if x < distance.mMinimumDistance then .ok (.error .stationTooClose)
  else if x > distance.mMaximumDistance then .ok (.error .stationTooFar)
  else Except.ok <$> distance.interpolate x

/-- `operator()` at an epicentral distance and a source depth -/
def applyAtDepth (distance : Distance F) (epicentralDistance sourceDepth : Double F) :
    Throws (Except ErrorCode (Double F)) := noexcept <|
  if !distance.isInitialized then .ok (.error .uninitialized)
  else if epicentralDistance < .finite 0 then .ok (.error .negativeDistance)
  else do
    let type ← distance.getDistanceType
    if type = .hypocentral then
      if sourceDepth < .finite (-8600) ∨ sourceDepth > .finite 900000 then
        return .error .invalidSourceDepth
      else
        -- The datum is measured positive up so reverse it.
        let datum := -distance.mDistanceOptions.getDatum
        let correctedSourceDepth := sourceDepth - datum
        let hypocentralDistance := Double.hypot epicentralDistance correctedSourceDepth
        distance.apply hypocentralDistance
    else
      distance.apply epicentralDistance

/-! ## The invariant -/

/-- Made by the constructor from options that were filled in by their setters. -/
def IsReachable (distance : Distance F) : Prop :=
  ∃ options, DistanceOptions.IsReachable options ∧ ofOptions options = .ok distance

/-- What a constructed object satisfies. -/
structure Inv (distance : Distance F) : Prop where
  initialized : distance.mInitialized = true
  hasInterpolation : distance.mDistanceOptions.mHasInterpolation = true
  hasType : distance.mDistanceOptions.mHasType = true
  datum : distance.mDistanceOptions.mDatum.isFinite = true
  length_eq : distance.mValues.length = distance.mAbsissas.length
  length_pos : 0 < distance.mAbsissas.length

theorem IsReachable.inv {distance : Distance F} (h : distance.IsReachable) :
    distance.Inv := by
  obtain ⟨options, hoptions, hdistance⟩ := h
  unfold ofOptions at hdistance
  simp only [throwIf_bind_eq_ok] at hdistance
  obtain ⟨hcorrections, hinterpolation, htype, hdistance⟩ := hdistance
  obtain ⟨table, htable, hdistance⟩ := bind_eq_ok.mp hdistance
  obtain ⟨minmax, -, hdistance⟩ := bind_eq_ok.mp hdistance
  obtain rfl := Except.ok.inj hdistance
  have hset : options.mHaveCorrections = true := by
    simpa [DistanceOptions.hasCorrections] using hcorrections
  have hsame : options.mCorrections = table := by
    unfold DistanceOptions.getCorrections at htable
    simp only [throwIf_bind_eq_ok] at htable
    exact Except.ok.inj htable.2
  have hnonempty : table ≠ [] := hsame ▸ hoptions.inv.nonempty hset
  exact
    { initialized := rfl
      hasInterpolation := by simpa [DistanceOptions.hasInterpolation] using hinterpolation
      hasType := by simpa [DistanceOptions.hasType] using htype
      datum := hoptions.inv.datum
      length_eq := by simp
      length_pos := by simpa using List.length_pos_of_ne_nil hnonempty }

theorem options_of_ofOptions {options : DistanceOptions F} {distance : Distance F}
    (h : ofOptions options = .ok distance) : distance.mDistanceOptions = options := by
  unfold ofOptions at h
  simp only [throwIf_bind_eq_ok] at h
  obtain ⟨-, -, -, h⟩ := h
  obtain ⟨_, -, h⟩ := bind_eq_ok.mp h
  obtain ⟨_, -, h⟩ := bind_eq_ok.mp h
  obtain rfl := Except.ok.inj h
  rfl

theorem Inv.getDistanceType {distance : Distance F} (h : distance.Inv) :
    distance.getDistanceType = .ok distance.mDistanceOptions.mType := by
  unfold Distance.getDistanceType DistanceOptions.getType
  rw [throwIf_neg (by simp [isInitialized, h.initialized]),
    throwIf_neg (by simp [DistanceOptions.hasType, h.hasType])]
  rfl

/-! ## When the table gives a number -/

/-- The row that the nearest-neighbour lookup reads. -/
def nearestRow (xv : List (Double F)) (x : Double F) : Nat :=
  let it := lowerBound xv x
  if it = 0 then 0
  else if it = xv.length then xv.length - 1
  else if x - xv.getD (it - 1) .nan ≤ xv.getD it .nan - x then it - 1
  else it

/-- Row `i` has a number for its correction. -/
def hasNumber (distance : Distance F) (i : Nat) : Bool :=
  (distance.mValues[i]?).any Double.isFinite

/-- The rows that the lookup combines at distance `x` hold numbers.  Linear
interpolation saturates outside of the table and at its end points; elsewhere it
needs a row behind `x`, both corrections, and the distance of the row before. -/
def isTabulated (distance : Distance F) (x : Double F) : Bool :=
  let xv := distance.mAbsissas
  let n := xv.length
  if distance.mDistanceOptions.mInterpolation = .nearest then
    distance.hasNumber (nearestRow xv x)
  else if n = 1 ∨ x ≤ xv.getD 0 .nan then distance.hasNumber 0
  else if x ≥ xv.getD (n - 1) .nan then distance.hasNumber (n - 1)
  else
    let it := upperBound xv x
    decide (it < n) && (xv.getD (it - 1) .nan).isFinite && distance.hasNumber (it - 1) &&
      distance.hasNumber it

theorem lowerBound_le (xv : List (Double F)) (x : Double F) :
    lowerBound xv x ≤ xv.length := partitionPosition_le _ _

theorem upperBound_le (xv : List (Double F)) (x : Double F) :
    upperBound xv x ≤ xv.length := partitionPosition_le _ _

/-- The search does not stop at a first element that is not behind `x`. -/
theorem upperBound_pos {xv : List (Double F)} {x : Double F} (hxv : 0 < xv.length)
    (h : ¬ x ≤ xv.getD 0 .nan) : 0 < upperBound xv x := by
  by_contra hzero
  have heq : upperBound xv x = 0 := by omega
  have hlt : upperBound xv x < xv.length := by omega
  have hfail := test_at_partitionPosition hlt
  rw [show partitionPosition _ xv.length = 0 from heq] at hfail
  rw [List.getElem?_eq_getElem hxv] at hfail
  rw [List.getD_eq_getElem _ _ hxv] at h
  have hbehind : x < xv[0] := by simpa using hfail
  exact h (Double.le_of_lt hbehind)

/-- The element at the position found is behind `x`. -/
theorem lt_at_upperBound {xv : List (Double F)} {x : Double F}
    (h : upperBound xv x < xv.length) : x < xv.getD (upperBound xv x) .nan := by
  have hfail := test_at_partitionPosition h
  rw [show partitionPosition _ xv.length = upperBound xv x from rfl] at hfail
  rw [List.getElem?_eq_getElem h] at hfail
  rw [List.getD_eq_getElem _ _ h]
  simpa using hfail

theorem nearestRow_lt {xv : List (Double F)} (x : Double F) (h : 0 < xv.length) :
    nearestRow xv x < xv.length := by
  have hle := lowerBound_le xv x
  unfold nearestRow
  dsimp only
  split
  · exact h
  · split
    · omega
    · split <;> omega

/-- Nearest-neighbour lookup reads one row. -/
theorem interpolateNearest_eq {xv yv : List (Double F)} (x : Double F)
    (hlength : yv.length = xv.length) (hpos : 0 < xv.length) :
    interpolateNearest x xv yv = readAt yv (nearestRow xv x) := by
  have hle := lowerBound_le xv x
  unfold interpolateNearest nearestRow
  dsimp only
  rw [if_neg (by omega)]
  by_cases hone : xv.length = 1
  · rw [if_pos hone]
    by_cases hzero : lowerBound xv x = 0
    · rw [if_pos hzero]
    · rw [if_neg hzero, if_pos (by omega), hone]
  · rw [if_neg hone]
    by_cases hzero : lowerBound xv x = 0
    · rw [if_pos hzero, if_pos hzero]
    · rw [if_neg hzero, if_neg hzero]
      by_cases hend : lowerBound xv x = xv.length
      · rw [if_pos hend, if_pos hend, hlength]
      · rw [if_neg hend, if_neg hend, readAt_getD (by omega), bind_ok,
          readAt_getD (by omega), bind_ok]

/-- The line through the rows before and at the position found. -/
def interpolant (x : Double F) (xv yv : List (Double F)) : Double F :=
  let i := upperBound xv x - 1
  yv.getD i .nan + (x - xv.getD i .nan) * (yv.getD (i + 1) .nan - yv.getD i .nan) /
    (xv.getD (i + 1) .nan - xv.getD i .nan)

/-- The correction that the lookup at distance `x` comes to; a NaN where it fails. -/
def correctionAt (distance : Distance F) (x : Double F) : Double F :=
  let xv := distance.mAbsissas
  let yv := distance.mValues
  let n := xv.length
  if distance.mDistanceOptions.mInterpolation = .nearest then yv.getD (nearestRow xv x) .nan
  else if n = 1 ∨ x ≤ xv.getD 0 .nan then yv.getD 0 .nan
  else if x ≥ xv.getD (n - 1) .nan then yv.getD (n - 1) .nan
  else if upperBound xv x < n then interpolant x xv yv
  else .nan

/-- Not behind the first element the lookup reads the first row. -/
theorem interpolateLinearly_front {x : Double F} {xv yv : List (Double F)}
    (hpos : 0 < xv.length) (hfront : x ≤ xv.getD 0 .nan) :
    interpolateLinearly x xv yv = readAt yv 0 := by
  unfold interpolateLinearly
  rw [if_neg (by omega)]
  by_cases hone : xv.length = 1
  · rw [if_pos hone]
  · rw [if_neg hone, readAt_getD hpos, bind_ok, if_pos hfront]

/-- Not before the last element it reads the last row. -/
theorem interpolateLinearly_back {x : Double F} {xv yv : List (Double F)}
    (hone : 1 < xv.length) (hfront : ¬ x ≤ xv.getD 0 .nan)
    (hback : x ≥ xv.getD (xv.length - 1) .nan) :
    interpolateLinearly x xv yv = readAt yv (yv.length - 1) := by
  unfold interpolateLinearly
  rw [if_neg (by omega), if_neg (by omega), readAt_getD (by omega), bind_ok, if_neg hfront,
    readAt_getD (by omega), bind_ok, if_pos hback]

/-- Strictly between the ends the search position decides: it is positive, and at the
end of the table the search has failed. -/
theorem interpolateLinearly_between {x : Double F} {xv yv : List (Double F)}
    (hlength : yv.length = xv.length) (hone : 1 < xv.length)
    (hfront : ¬ x ≤ xv.getD 0 .nan) (hback : ¬ x ≥ xv.getD (xv.length - 1) .nan) :
    interpolateLinearly x xv yv =
      if upperBound xv x < xv.length then .ok (interpolant x xv yv)
      else .error (.runtimeError "Algorithmic error in binary search") := by
  have hfirst := upperBound_pos (by omega) hfront
  have hle := upperBound_le xv x
  unfold interpolateLinearly
  rw [if_neg (by omega), if_neg (by omega), readAt_getD (by omega), bind_ok, if_neg hfront,
    readAt_getD (by omega), bind_ok, if_neg hback]
  dsimp only
  by_cases hlast : upperBound xv x < xv.length
  · rw [throwIf_neg (by omega), bind_ok, readAt_getD (by omega), bind_ok,
      readAt_getD (by omega), bind_ok, readAt_getD (by omega), bind_ok,
      readAt_getD (by omega), bind_ok, if_pos hlast]
    rfl
  · rw [throwIf_pos (by omega), bind_error, if_neg hlast]

theorem hasNumber_eq_isFinite (distance : Distance F) (i : Nat) :
    distance.hasNumber i = (distance.mValues.getD i .nan).isFinite := by
  unfold hasNumber
  rw [List.getD_eq_getElem?_getD]
  cases distance.mValues[i]? <;> rfl

/-- The element before the position found is not behind `x`. -/
theorem not_lt_before_upperBound {xv : List (Double F)} {x : Double F}
    (h : 0 < upperBound xv x) : ¬ x < xv.getD (upperBound xv x - 1) .nan := by
  have hle := upperBound_le xv x
  have hlt : upperBound xv x - 1 < xv.length := by omega
  have hpass := test_before_partitionPosition h
  rw [show partitionPosition _ xv.length = upperBound xv x from rfl,
    List.getElem?_eq_getElem hlt] at hpass
  rw [List.getD_eq_getElem _ _ hlt]
  simpa using hpass

/-- A constructed object has its interpolation set. -/
theorem Inv.interpolate_eq {distance : Distance F} (h : distance.Inv) (x : Double F) :
    distance.interpolate x =
      if distance.mDistanceOptions.mInterpolation = .nearest then
        interpolateNearest x distance.mAbsissas distance.mValues
      else interpolateLinearly x distance.mAbsissas distance.mValues := by
  unfold interpolate DistanceOptions.getInterpolation
  rw [throwIf_neg (by simp [DistanceOptions.hasInterpolation, h.hasInterpolation])]
  rfl

/-- The lookup gives a number exactly when the correction there is one. -/
theorem interpolate_eq_ok_iff {distance : Distance F} (h : distance.Inv) {x : Double F}
    {y : F} : distance.interpolate x = .ok (.finite y) ↔
      distance.correctionAt x = .finite y := by
  have hlength := h.length_eq
  have hpos := h.length_pos
  rw [h.interpolate_eq]
  unfold correctionAt
  dsimp only
  by_cases hnearest : distance.mDistanceOptions.mInterpolation = .nearest
  · rw [if_pos hnearest, if_pos hnearest, interpolateNearest_eq x hlength hpos,
      readAt_eq_ok_finite]
  rw [if_neg hnearest, if_neg hnearest]
  by_cases hone : distance.mAbsissas.length = 1
  · unfold interpolateLinearly
    rw [if_neg (by omega), if_pos hone, if_pos (Or.inl hone), readAt_eq_ok_finite]
  by_cases hfront : x ≤ distance.mAbsissas.getD 0 .nan
  · rw [interpolateLinearly_front hpos hfront, if_pos (Or.inr hfront), readAt_eq_ok_finite]
  rw [if_neg (by tauto)]
  by_cases hback : x ≥ distance.mAbsissas.getD (distance.mAbsissas.length - 1) .nan
  · rw [interpolateLinearly_back (by omega) hfront hback, if_pos hback, readAt_eq_ok_finite,
      hlength]
  rw [if_neg hback, interpolateLinearly_between hlength (by omega) hfront hback]
  by_cases hlast : upperBound distance.mAbsissas x < distance.mAbsissas.length
  · rw [if_pos hlast, if_pos hlast, Except.ok.injEq]
  · rw [if_neg hlast, if_neg hlast]
    exact iff_of_false nofun nofun

/-- An interpolant that is a number combines numbers. -/
theorem isFinite_of_interpolant {x : Double F} {xv yv : List (Double F)}
    (hfirst : 0 < upperBound xv x) (h : (interpolant x xv yv).isFinite = true) :
    (xv.getD (upperBound xv x - 1) .nan).isFinite = true ∧
      (yv.getD (upperBound xv x - 1) .nan).isFinite = true ∧
      (yv.getD (upperBound xv x) .nan).isFinite = true := by
  have hsucc : upperBound xv x - 1 + 1 = upperBound xv x := by omega
  unfold interpolant at h
  dsimp only at h
  rw [hsucc] at h
  obtain ⟨hyi, hquotient⟩ := Double.isFinite_of_add h
  obtain ⟨hleft, hright⟩ := Double.isFinite_of_mul (Double.isFinite_of_div hquotient)
  exact ⟨(Double.isFinite_of_sub hleft).2, hyi, (Double.isFinite_of_sub hright).1⟩

/-- Where the correction is a number, the rows that it is made of hold numbers. -/
theorem isTabulated_of_isFinite {distance : Distance F} (h : distance.Inv) {x : Double F}
    (hfinite : (distance.correctionAt x).isFinite = true) : distance.isTabulated x = true := by
  unfold correctionAt at hfinite
  unfold isTabulated
  dsimp only at hfinite ⊢
  by_cases hnearest : distance.mDistanceOptions.mInterpolation = .nearest
  · rw [if_pos hnearest] at hfinite ⊢
    rwa [hasNumber_eq_isFinite]
  rw [if_neg hnearest] at hfinite ⊢
  by_cases hfront : distance.mAbsissas.length = 1 ∨ x ≤ distance.mAbsissas.getD 0 .nan
  · rw [if_pos hfront] at hfinite ⊢
    rwa [hasNumber_eq_isFinite]
  rw [if_neg hfront] at hfinite ⊢
  by_cases hback : x ≥ distance.mAbsissas.getD (distance.mAbsissas.length - 1) .nan
  · rw [if_pos hback] at hfinite ⊢
    rwa [hasNumber_eq_isFinite]
  rw [if_neg hback] at hfinite ⊢
  by_cases hlast : upperBound distance.mAbsissas x < distance.mAbsissas.length
  · rw [if_pos hlast] at hfinite
    have hfirst := upperBound_pos h.length_pos fun hle => hfront (Or.inr hle)
    obtain ⟨hxi, hyi, hyi1⟩ := isFinite_of_interpolant hfirst hfinite
    rw [decide_eq_true hlast, hxi, hasNumber_eq_isFinite, hasNumber_eq_isFinite, hyi, hyi1]
    rfl
  · rw [if_neg hlast] at hfinite
    exact absurd hfinite Bool.false_ne_true

/-! ## The rows decide in exact arithmetic -/

section Exact

variable [IsExact F]

/-- The interpolant between two rows, with `x` before the second, is a number when the
first row and the second correction are. -/
theorem isFinite_interpolant {x xi xi1 yi yi1 : Double F} (hx : x.isFinite = true)
    (hbehind : x < xi1) (hbefore : ¬ x < xi) (hxi : xi.isFinite = true)
    (hyi : yi.isFinite = true) (hyi1 : yi1.isFinite = true) :
    (yi + (x - xi) * (yi1 - yi) / (xi1 - xi)).isFinite = true := by
  rw [Double.isFinite_add, hyi, Bool.true_and]
  obtain ⟨x, rfl⟩ := Double.exists_finite hx
  obtain ⟨v, rfl⟩ := Double.exists_finite hxi
  obtain ⟨a, rfl⟩ := Double.exists_finite hyi
  obtain ⟨b, rfl⟩ := Double.exists_finite hyi1
  cases xi1 with
  | finite u =>
      have hlt : x < u := hbehind
      have hle : v ≤ x := not_lt.mp hbefore
      have hne : u - v ≠ 0 := by
        intro hzero
        linarith
      simp only [Double.finite_sub_finite, Double.finite_mul_finite]
      rw [Double.finite_div_finite _ hne]
      rfl
  | nan => exact absurd hbehind (Double.not_lt_nan _)
  | posInf =>
      rw [Double.finite_sub_finite, Double.finite_sub_finite, Double.finite_mul_finite]
      rfl
  | negInf => exact hbehind.elim

/-- The correction is a number exactly at the tabulated distances. -/
theorem isFinite_correctionAt {distance : Distance F} (h : distance.Inv) {x : Double F}
    (hx : x.isFinite = true) :
    (distance.correctionAt x).isFinite = true ↔ distance.isTabulated x = true := by
  refine ⟨isTabulated_of_isFinite h, fun htabulated => ?_⟩
  unfold isTabulated at htabulated
  unfold correctionAt
  dsimp only at htabulated ⊢
  by_cases hnearest : distance.mDistanceOptions.mInterpolation = .nearest
  · rw [if_pos hnearest] at htabulated ⊢
    rwa [← hasNumber_eq_isFinite]
  rw [if_neg hnearest] at htabulated ⊢
  by_cases hfront : distance.mAbsissas.length = 1 ∨ x ≤ distance.mAbsissas.getD 0 .nan
  · rw [if_pos hfront] at htabulated ⊢
    rwa [← hasNumber_eq_isFinite]
  rw [if_neg hfront] at htabulated ⊢
  by_cases hback : x ≥ distance.mAbsissas.getD (distance.mAbsissas.length - 1) .nan
  · rw [if_pos hback] at htabulated ⊢
    rwa [← hasNumber_eq_isFinite]
  rw [if_neg hback] at htabulated ⊢
  simp only [Bool.and_eq_true, decide_eq_true_eq, hasNumber_eq_isFinite] at htabulated
  obtain ⟨⟨⟨hlast, hxi⟩, hyi⟩, hyi1⟩ := htabulated
  have hfirst := upperBound_pos h.length_pos fun hle => hfront (Or.inr hle)
  have hsucc : upperBound distance.mAbsissas x - 1 + 1 = upperBound distance.mAbsissas x := by
    omega
  rw [if_pos hlast]
  unfold interpolant
  dsimp only
  rw [hsucc]
  exact isFinite_interpolant hx (lt_at_upperBound hlast) (not_lt_before_upperBound hfirst)
    hxi hyi hyi1

end Exact

/-! ## Tables of numbers -/

/-- All distances and corrections of the table are numbers. -/
structure Numeric (distance : Distance F) : Prop where
  absissas : ∀ x ∈ distance.mAbsissas, x.isFinite = true
  values : ∀ y ∈ distance.mValues, y.isFinite = true

theorem Numeric.hasNumber {distance : Distance F} (h : distance.Numeric) {i : Nat}
    (hi : i < distance.mValues.length) : distance.hasNumber i = true := by
  rw [hasNumber_eq_isFinite, List.getD_eq_getElem _ _ hi]
  exact h.values _ (List.getElem_mem hi)

theorem Numeric.exists_absissa {distance : Distance F} (h : distance.Numeric) {i : Nat}
    (hi : i < distance.mAbsissas.length) :
    ∃ v : F, distance.mAbsissas.getD i .nan = .finite v := by
  rw [List.getD_eq_getElem _ _ hi]
  exact Double.exists_finite (h.absissas _ (List.getElem_mem hi))

/-- In a table of numbers every distance is tabulated. -/
theorem Numeric.isTabulated {distance : Distance F} (h : distance.Numeric)
    (hinv : distance.Inv) {x : Double F} (hx : x.isFinite = true) :
    distance.isTabulated x = true := by
  have hlength := hinv.length_eq
  have hpos := hinv.length_pos
  have hle := upperBound_le distance.mAbsissas x
  unfold Distance.isTabulated
  dsimp only
  split
  · have hrow := nearestRow_lt x hpos
    exact h.hasNumber (by omega)
  · split
    · exact h.hasNumber (by omega)
    · rename_i hfront
      split
      · exact h.hasNumber (by omega)
      · rename_i hback
        have hfirst : 0 < upperBound distance.mAbsissas x :=
          upperBound_pos hpos fun hle => hfront (Or.inr hle)
        -- The last row is behind `x`, so the search has stopped before the end.
        have hlast : upperBound distance.mAbsissas x < distance.mAbsissas.length := by
          by_contra hend
          have heq : upperBound distance.mAbsissas x = distance.mAbsissas.length := by omega
          have hbefore := not_lt_before_upperBound hfirst
          rw [heq] at hbefore
          obtain ⟨a, rfl⟩ := Double.exists_finite hx
          obtain ⟨v, hv⟩ := h.exists_absissa (i := distance.mAbsissas.length - 1) (by omega)
          rw [hv] at hbefore hback
          exact hback (not_lt.mp (fun hlt : a < v => hbefore hlt))
        obtain ⟨v, hv⟩ := h.exists_absissa (i := upperBound distance.mAbsissas x - 1)
          (by omega)
        rw [decide_eq_true hlast, hv, h.hasNumber (by omega), h.hasNumber (by omega)]
        rfl

/-! ## The call operators -/

/-- The distance at which the table is read for an epicentral distance and a depth. -/
def lookupDistance (distance : Distance F) (epicentralDistance sourceDepth : Double F) :
    Double F :=
  if distance.mDistanceOptions.mType = .hypocentral then
    epicentralDistance.hypot (sourceDepth - -distance.mDistanceOptions.getDatum)
  else epicentralDistance

theorem apply_eq {distance : Distance F} (h : distance.Inv) {x : Double F}
    (hx : ¬ x < .finite 0) :
    distance.apply x =
      if x < distance.mMinimumDistance then .ok (.error .stationTooClose)
      else if x > distance.mMaximumDistance then .ok (.error .stationTooFar)
      else noexcept (Except.ok <$> distance.interpolate x) := by
  unfold apply
  rw [if_neg (by simp [isInitialized, h.initialized]), if_neg hx]
  split
  · rfl
  · split
    · rfl
    · rfl

theorem noexcept_apply (distance : Distance F) (x : Double F) :
    noexcept (distance.apply x) = distance.apply x := noexcept_noexcept _

/-- In reach of the table the lookup gives the correction there, if it is a number. -/
theorem apply_of_reach {distance : Distance F} (h : distance.Inv) {x : Double F}
    (hx : ¬ x < .finite 0) (hclose : ¬ x < distance.mMinimumDistance)
    (hfar : ¬ x > distance.mMaximumDistance) {y : F}
    (hy : distance.correctionAt x = .finite y) :
    distance.apply x = .ok (.ok (.finite y)) := by
  rw [apply_eq h hx, if_neg hclose, if_neg hfar, (interpolate_eq_ok_iff h).mpr hy]
  rfl

/-- The depth enters through the distance at which the table is read. -/
theorem applyAtDepth_eq {distance : Distance F} (h : distance.Inv)
    {epicentralDistance sourceDepth : Double F} (hdistance : ¬ epicentralDistance < .finite 0)
    (hdepth : distance.mDistanceOptions.mType = .hypocentral →
      ¬ (sourceDepth < .finite (-8600) ∨ sourceDepth > .finite 900000)) :
    distance.applyAtDepth epicentralDistance sourceDepth =
      distance.apply (distance.lookupDistance epicentralDistance sourceDepth) := by
  unfold applyAtDepth lookupDistance
  rw [if_neg (by simp [isInitialized, h.initialized]), if_neg hdistance,
    h.getDistanceType, bind_ok]
  by_cases htype : distance.mDistanceOptions.mType = .hypocentral
  · rw [if_pos htype, if_pos htype, if_neg (hdepth htype)]
    exact noexcept_noexcept _
  · rw [if_neg htype, if_neg htype]
    exact noexcept_noexcept _

/-- The table is never read at a negative distance. -/
theorem not_lookupDistance_lt_zero (distance : Distance F) {d : Double F}
    (hd : ¬ d < .finite 0) (z : Double F) :
    ¬ distance.lookupDistance d z < .finite 0 := by
  unfold lookupDistance
  split
  · exact Double.not_hypot_lt_zero _ _
  · exact hd

/-- In exact arithmetic it is read at a number. -/
theorem lookupDistance_finite [IsExact F] {distance : Distance F} (h : distance.Inv) {d z : F}
    (hd : 0 ≤ d) : ∃ x : F, distance.lookupDistance (.finite d) (.finite z) = .finite x ∧
      0 ≤ x := by
  obtain ⟨datum, hdatum⟩ := Double.exists_finite h.datum
  unfold lookupDistance DistanceOptions.getDatum
  split
  · rw [hdatum, Double.neg_finite, Double.finite_sub_finite, Double.hypot_finite]
    exact ⟨_, rfl, Arithmetic.hypot_nonneg _ _⟩
  · exact ⟨d, rfl, hd⟩

/-- The geodesic distance between two complete locations. -/
theorem computeEpicentralDistance_eq (inverse : Inverse F) {hypocenter : Hypocenter F}
    {station : StationLocation F} (hlatitude : hypocenter.mHasLatitude = true)
    (hlongitude : hypocenter.mHasLongitude = true) (hlatitude' : station.mHasLatitude = true)
    (hlongitude' : station.mHasLongitude = true) :
    computeEpicentralDistance inverse hypocenter station =
      .ok (inverse hypocenter.mLatitude hypocenter.mLongitude station.mLatitude
        station.mLongitude) := by
  simp [computeEpicentralDistance, Hypocenter.hasLatitude, Hypocenter.hasLongitude,
    StationLocation.hasLatitude, StationLocation.hasLongitude, Hypocenter.getLatitude,
    Hypocenter.getLongitude, StationLocation.getLatitude, StationLocation.getLongitude,
    throwIf, *]

end Distance

end Corrections
end ULocalMagnitude
