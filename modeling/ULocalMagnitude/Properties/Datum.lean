import ULocalMagnitude.Magnitude.EpicentralDepths
import ULocalMagnitude.Reals

/-!
# Distances from the datum

In real arithmetic, what the lookup at an epicentral distance and a depth depends on: the
distance from the point at the datum when the table is one of hypocentral distances, and
the epicentral distance alone when it is one of epicentral distances.
-/

namespace ULocalMagnitude
namespace Properties

open Cxx Corrections Magnitude Reals

/-- The depths that the lookup admits. -/
def admissibleDepths : Set ℝ := Set.Icc (-8600) 900000

/-- The square of the distance between a source and a station at the datum. -/
noncomputable def squaredDistance (datum epicentralDistance sourceDepth : ℝ) : ℝ :=
  epicentralDistance ^ 2 + (sourceDepth + datum) ^ 2

/-- At hypocentral distances the lookup refuses the depths that are not admissible, and
otherwise sees the distance from the datum only. -/
structure LooksUpFromDatum (distance : Distance ℝ) (datum least greatest : ℝ) : Prop where
  invalidDepth : ∀ d z : ℝ, 0 ≤ d →
    (distance.applyAtDepth (.finite d) (.finite z) = .ok (.error .invalidSourceDepth) ↔
      z ∉ admissibleDepths)
  tooClose : ∀ d z : ℝ, 0 ≤ d → z ∈ admissibleDepths →
    (distance.applyAtDepth (.finite d) (.finite z) = .ok (.error .stationTooClose) ↔
      squaredDistance datum d z < least ^ 2)
  tooFar : ∀ d z : ℝ, 0 ≤ d → z ∈ admissibleDepths →
    (distance.applyAtDepth (.finite d) (.finite z) = .ok (.error .stationTooFar) ↔
      greatest ^ 2 < squaredDistance datum d z)
  lookup : ∀ d z : ℝ, 0 ≤ d → z ∈ admissibleDepths →
    least ^ 2 ≤ squaredDistance datum d z → squaredDistance datum d z ≤ greatest ^ 2 →
      distance.applyAtDepth (.finite d) (.finite z) = noexcept
        (Except.ok <$> distance.interpolate (.finite (√(squaredDistance datum d z))))
  same : ∀ d z d' z' : ℝ, 0 ≤ d → z ∈ admissibleDepths → 0 ≤ d' → z' ∈ admissibleDepths →
    squaredDistance datum d z = squaredDistance datum d' z' →
      distance.applyAtDepth (.finite d) (.finite z) =
        distance.applyAtDepth (.finite d') (.finite z')
  mirrored : ∀ d z : ℝ, 0 ≤ d → z ∈ admissibleDepths → -datum - (z + datum) ∈ admissibleDepths →
    distance.applyAtDepth (.finite d) (.finite (-datum - (z + datum))) =
      distance.applyAtDepth (.finite d) (.finite z)

/-- At epicentral distances neither the depth nor the datum is read. -/
structure LooksUpEpicentral (distance : Distance ℝ) : Prop where
  same : ∀ (d : ℝ) (sourceDepth : Double ℝ), 0 ≤ d →
    distance.applyAtDepth (.finite d) sourceDepth = distance.apply (.finite d)
  datum : ∀ (d datum : ℝ) (sourceDepth : Double ℝ), 0 ≤ d →
    { distance with mDistanceOptions :=
        { distance.mDistanceOptions with mDatum := .finite datum } }.applyAtDepth
          (.finite d) sourceDepth = distance.apply (.finite d)
  network : ∀ (calculator : NetworkMagnitudeCalculator ℝ), calculator.IsReachable →
    calculator.mOptions.getDistanceCorrections = .ok distance →
      ∀ observations observations' : List (Observation ℝ),
        observations.map Observation.withoutDepth = observations'.map Observation.withoutDepth →
          calculator.apply observations = calculator.apply observations'

theorem finite_depth_out_of_range_iff {z : ℝ} :
    (Double.finite z < .finite (-8600) ∨ Double.finite z > .finite 900000) ↔
      z ∉ admissibleDepths := by
  unfold admissibleDepths
  rw [Set.mem_Icc, not_and_or, not_le, not_le]
  rfl

variable {distance : Distance ℝ}

/-- With an admissible depth the table is read at the distance from the datum. -/
theorem applyAtDepth_from_datum (h : distance.Inv)
    (htype : distance.mDistanceOptions.mType = .hypocentral) {datum : ℝ}
    (hdatum : distance.mDistanceOptions.getDatum = .finite datum) {d z : ℝ} (hd : 0 ≤ d)
    (hz : z ∈ admissibleDepths) :
    distance.applyAtDepth (.finite d) (.finite z) =
      distance.apply (.finite (√(squaredDistance datum d z))) := by
  have hdepth : ¬ (Double.finite z < .finite (-8600) ∨ Double.finite z > .finite 900000) := by
    rw [finite_depth_out_of_range_iff, not_not]
    exact hz
  rw [Distance.applyAtDepth_eq h (show ¬ Double.finite d < .finite 0 from not_lt.mpr hd)
    fun _ => hdepth]
  unfold Distance.lookupDistance
  rw [if_pos htype, hdatum, Double.neg_finite, Double.finite_sub_finite, sub_neg_eq_add,
    Double.hypot_finite]
  rfl

theorem looksUpFromDatum (h : distance.Inv)
    (htype : distance.mDistanceOptions.mType = .hypocentral) {table : Table ℝ}
    (htable : distance.Holds table) {datum : ℝ}
    (hdatum : distance.mDistanceOptions.getDatum = .finite datum) :
    LooksUpFromDatum distance datum (table.rows.head table.nonempty).1
      (table.rows.getLast table.nonempty).1 := by
  have hleast := Distance.Holds.minimum_nonneg table
  have hends := Distance.Holds.minimum_le_maximum table
  have hroot : ∀ d z, ¬ Double.finite (√(squaredDistance datum d z)) < .finite 0 :=
    fun d z => not_lt.mpr (Real.sqrt_nonneg _)
  refine ⟨?_, ?_, ?_, ?_, ?_, ?_⟩
  · intro d z hd
    rw [← finite_depth_out_of_range_iff]
    exact Distance.applyAtDepth_eq_invalidSourceDepth_iff h
      (show ¬ Double.finite d < .finite 0 from not_lt.mpr hd) htype
  · intro d z hd hz
    rw [applyAtDepth_from_datum h htype hdatum hd hz,
      Distance.apply_eq_tooClose_iff h (hroot d z), htable.minimum]
    exact hypot_lt_iff hleast
  · intro d z hd hz
    rw [applyAtDepth_from_datum h htype hdatum hd hz,
      Distance.apply_eq_tooFar_iff h (hroot d z), htable.minimum, htable.maximum]
    have hfar : Double.finite (√(squaredDistance datum d z)) >
        .finite (table.rows.getLast table.nonempty).1 ↔
          (table.rows.getLast table.nonempty).1 ^ 2 < squaredDistance datum d z :=
      lt_hypot_iff (hleast.trans hends)
    rw [hfar, and_iff_right_of_imp]
    -- What is behind the last row is not before the first one.
    intro hgreatest hclose
    have hroot := (lt_hypot_iff (hleast.trans hends)).mpr hgreatest
    exact absurd (hroot.trans hclose) (not_lt.mpr hends)
  · intro d z hd hz hleast' hgreatest
    have hclose : ¬ Double.finite (√(squaredDistance datum d z)) <
        .finite (table.rows.head table.nonempty).1 := by
      intro hlt
      exact absurd ((hypot_lt_iff hleast).mp hlt) (not_lt.mpr hleast')
    have hfar : ¬ Double.finite (√(squaredDistance datum d z)) >
        .finite (table.rows.getLast table.nonempty).1 := by
      intro hgt
      exact absurd ((lt_hypot_iff (hleast.trans hends)).mp hgt) (not_lt.mpr hgreatest)
    rw [applyAtDepth_from_datum h htype hdatum hd hz, Distance.apply_eq h (hroot d z),
      htable.minimum, htable.maximum, if_neg hclose, if_neg hfar]
  · intro d z d' z' hd hz hd' hz' hsame
    rw [applyAtDepth_from_datum h htype hdatum hd hz,
      applyAtDepth_from_datum h htype hdatum hd' hz', hsame]
  · intro d z hd hz hz'
    have hsame : squaredDistance datum d (-datum - (z + datum)) = squaredDistance datum d z := by
      unfold squaredDistance
      ring
    rw [applyAtDepth_from_datum h htype hdatum hd hz,
      applyAtDepth_from_datum h htype hdatum hd hz', hsame]

theorem looksUpEpicentral (h : distance.Inv)
    (htype : distance.mDistanceOptions.mType = .epicentral) : LooksUpEpicentral distance := by
  have hnot : ¬ distance.mDistanceOptions.mType = .hypocentral := by
    rw [htype]
    decide
  have hsame {other : Distance ℝ} (hinv : other.Inv)
      (hother : ¬ other.mDistanceOptions.mType = .hypocentral) (d : ℝ)
      (sourceDepth : Double ℝ) (hd : 0 ≤ d) :
      other.applyAtDepth (.finite d) sourceDepth = other.apply (.finite d) := by
    rw [Distance.applyAtDepth_eq hinv (show ¬ Double.finite d < .finite 0 from not_lt.mpr hd)
      fun hhypocentral => absurd hhypocentral hother]
    unfold Distance.lookupDistance
    rw [if_neg hother]
  refine ⟨hsame h hnot, ?_, ?_⟩
  · intro d datum sourceDepth hd
    have hmoved : ({ distance with mDistanceOptions :=
        { distance.mDistanceOptions with mDatum := .finite datum } } : Distance ℝ).Inv :=
      ⟨h.initialized, h.hasInterpolation, h.hasType, rfl, h.length_eq, h.length_pos⟩
    exact hsame hmoved hnot d sourceDepth hd
  · intro calculator hcalculator hdistance observations observations' hsame
    obtain ⟨distance', set, hwellFormed⟩ := hcalculator.wellFormed
    obtain rfl : distance' = distance :=
      Except.ok.inj (hwellFormed.distanceCorrections.symm.trans hdistance)
    have hignores := hwellFormed.ignoresDepth htype
    rw [← NetworkMagnitudeCalculator.apply_withoutDepth hignores observations, hsame,
      NetworkMagnitudeCalculator.apply_withoutDepth hignores observations']

/-- The lookup at an epicentral distance and a depth: with a table of hypocentral
distances it depends on the distance from the datum, with a table of epicentral
distances on the epicentral distance alone. -/
theorem lookups_depend_on_distance_from_datum (h : distance.IsReachable)
    (hfinite : ∀ item ∈ distance.mDistanceOptions.mCorrections, item.1.isFinite = true) :
    (∀ (d : ℝ) (sourceDepth : Double ℝ), d < 0 →
        distance.applyAtDepth (.finite d) sourceDepth = .ok (.error .negativeDistance) ∧
          distance.apply (.finite d) = .ok (.error .negativeDistance)) ∧
      (distance.mDistanceOptions.mType = .hypocentral →
        ∃ datum least greatest : ℝ,
          distance.mDistanceOptions.getDatum = .finite datum ∧
            distance.mMinimumDistance = .finite least ∧
            distance.mMaximumDistance = .finite greatest ∧
            LooksUpFromDatum distance datum least greatest) ∧
      (distance.mDistanceOptions.mType = .epicentral → LooksUpEpicentral distance) := by
  refine ⟨?_, ?_, looksUpEpicentral h.inv⟩
  · intro d sourceDepth hd
    exact ⟨Distance.applyAtDepth_of_negative h.inv hd sourceDepth,
      Distance.apply_of_negative h.inv hd⟩
  · intro htype
    obtain ⟨table, htable⟩ := h.exists_holds hfinite
    obtain ⟨datum, hdatum⟩ := Double.exists_finite h.inv.datum
    exact ⟨datum, _, _, hdatum, htable.minimum, htable.maximum,
      looksUpFromDatum h.inv htype htable hdatum⟩

/-- The rows `(0, 1)` and `(1000, 2)`. -/
noncomputable def twoRows : Table ℝ where
  rows := [(0, .finite 1), (1000, .finite 2)]
  nonempty := by simp
  nonneg := by simp
  spaced := by
    simp [Interpolation.Spaced, tol]
    norm_num

/-- A datum of 1600 m. -/
theorem two_rows_are_looked_up_from_the_datum :
    ∃ distance : Distance ℝ, distance.mDistanceOptions.mType = .hypocentral ∧
      distance.mDistanceOptions.getDatum = .finite 1600 ∧
      LooksUpFromDatum distance 1600 0 1000 := by
  have hdatum : ¬ ((.finite 1600 : Double ℝ) < .finite (-10000) ∨
      (.finite 1600 : Double ℝ) > .finite 8600) := by
    refine not_or.mpr ⟨?_, ?_⟩
    · show ¬ (1600 : ℝ) < -10000
      norm_num
    · show ¬ (8600 : ℝ) < 1600
      norm_num
  obtain ⟨distance, hreachable, hholds, htype, -, hset⟩ :=
    twoRows.exists_distance hdatum .linear .hypocentral
  obtain ⟨datum, least, greatest, hsame, hleast, hgreatest, hlooksUp⟩ :=
    (lookups_depend_on_distance_from_datum hreachable hholds.isFinite).2.1 htype
  obtain rfl : datum = 1600 := Double.finite.inj (hsame.symm.trans hset)
  obtain rfl : least = 0 := Double.finite.inj (hleast.symm.trans hholds.minimum)
  obtain rfl : greatest = 1000 := Double.finite.inj (hgreatest.symm.trans hholds.maximum)
  exact ⟨distance, htype, hset, hlooksUp⟩

end Properties
end ULocalMagnitude
