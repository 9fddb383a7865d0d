import ULocalMagnitude.Corrections.Lookup
import ULocalMagnitude.Rationals

/-!
# Tables of distance corrections

The setter of the table accepts the usable tables and no others, and on an accepted
table the two interpolations are what their names say, at every distance between
the ends of the table.
-/

namespace ULocalMagnitude
namespace Properties

open Cxx Corrections Interpolation Rationals

variable {F : Type} [ExactArithmetic F]

/-- Every two entries are at least ten centimeters apart. -/
def FarApart (corrections : List (Double F × Double F)) : Prop :=
  corrections.Pairwise fun a b => Double.finite (1 / 10) ≤ (a.1 - b.1).abs

/-- The distances increase strictly. -/
def Increasing (corrections : List (Double F × Double F)) : Prop :=
  corrections.Pairwise fun a b => a.1 < b.1

theorem farApart_storedRows {rows : List (F × Double F)} :
    FarApart (storedRows rows) ↔ Separated Prod.fst tol rows := by
  unfold FarApart storedRows Separated
  rw [List.pairwise_map]
  simp only [Double.finite_sub_finite]
  rfl

theorem nonneg_storedRows {rows : List (F × Double F)} :
    (∀ item ∈ storedRows rows, Double.finite 0 ≤ item.1) ↔ ∀ row ∈ rows, 0 ≤ row.1 := by
  unfold storedRows
  rw [List.forall_mem_map]
  rfl

/-- `setCorrections` accepts exactly the usable tables, whatever the options held
before.  It then stores the table in increasing order, the same one for every order
of the input; a refused call leaves the options as they were. -/
theorem usable_tables_are_accepted {corrections : List (Double F × Double F)}
    (hfinite : ∀ item ∈ corrections, item.1.isFinite = true) (before : DistanceOptions F) :
    ((∃ after, DistanceOptions.setCorrections corrections before = .ok () after) ↔
        corrections ≠ [] ∧ (∀ item ∈ corrections, Double.finite 0 ≤ item.1) ∧
          FarApart corrections) ∧
      (∀ after, DistanceOptions.setCorrections corrections before = .ok () after →
        after.mHaveCorrections = true ∧ after.mCorrections.Perm corrections ∧
          Increasing after.mCorrections ∧
          ∀ reordered, reordered.Perm corrections →
            DistanceOptions.setCorrections reordered before = .ok () after) ∧
      ∀ fault after, DistanceOptions.setCorrections corrections before = .error fault after →
        after.mCorrections = before.mCorrections ∧
          after.mHaveCorrections = before.mHaveCorrections := by
  obtain ⟨rows, rfl⟩ := exists_storedRows hfinite
  simp only [← Method.call_eq_ok_iff]
  refine ⟨?_, ?_, ?_⟩
  · rw [ne_eq, storedRows_eq_nil, nonneg_storedRows, farApart_storedRows]
    simp only [DistanceOptions.call_setCorrections_storedRows]
    constructor
    · intro h
      rcases h with ⟨after, hnonempty, hnonneg, hseparated, -⟩
      exact ⟨hnonempty, hnonneg, hseparated⟩
    · intro h
      rcases h with ⟨hnonempty, hnonneg, hseparated⟩
      exact ⟨_, hnonempty, hnonneg, hseparated, rfl⟩
  · intro after hcall
    obtain ⟨table, hperm, rfl⟩ := DistanceOptions.setCorrections_eq_ok_iff.mp hcall
    refine ⟨rfl, storedRows_perm.mpr hperm, ?_, ?_⟩
    · refine List.pairwise_map.mpr (List.Pairwise.imp ?_ table.spaced)
      intro a b hab
      exact lt_of_lt_of_le (lt_add_of_pos_right a.1 tol_pos) hab
    · intro reordered hreordered
      obtain ⟨rows', rfl⟩ := exists_storedRows fun item hitem =>
        hfinite item (hreordered.mem_iff.mp hitem)
      exact DistanceOptions.setCorrections_eq_ok_iff.mpr
        ⟨table, hperm.trans (storedRows_perm.mp hreordered).symm, rfl⟩
  · intro fault after hthrown
    obtain rfl := DistanceOptions.setter_atomic (.corrections _) _ _ _ hthrown
    exact ⟨rfl, rfl⟩

/-- Two rows out of order, one of them without a number for its correction. -/
def shuffled : List (Double ℚ × Double ℚ) :=
  [(.finite 1000, .nan), (.finite 0, .finite 1)]

theorem shuffled_table_is_accepted :
    ∃ after, DistanceOptions.setCorrections shuffled {} = .ok () after :=
  (usable_tables_are_accepted (by decide) {}).1.mpr
    ⟨by decide, by decide +kernel, by unfold FarApart; decide +kernel⟩

/-! ## Interpolation -/

/-- With linear interpolation the object returns the piecewise linear interpolant of its
table: between its ends the lookup returns a number, which is the value of every
segment around the distance, lies between the corrections at the ends of that segment,
and is the correction of a row at the distance. -/
theorem linear_interpolation_is_piecewise_linear {distance : Distance F}
    (h : distance.IsReachable)
    (hlinear : distance.mDistanceOptions.mInterpolation = .linear)
    (hfinite : ∀ item ∈ distance.mDistanceOptions.mCorrections,
      item.1.isFinite = true ∧ item.2.isFinite = true) :
    ∃ nodes : List (F × F), distance.mDistanceOptions.mCorrections =
        nodes.map (fun node => (.finite node.1, .finite node.2)) ∧
      (∀ x, (∃ node ∈ nodes, node.1 ≤ x) → (∃ node ∈ nodes, x ≤ node.1) →
        ∃ y, interpolateLinearly (.finite x) distance.mAbsissas distance.mValues =
            .ok (.finite y) ∧
          distance.apply (.finite x) = .ok (.ok (.finite y)) ∧
          (∀ i, ∀ hi : i + 1 < nodes.length,
            let left := nodes.get ⟨i, Nat.lt_of_succ_lt hi⟩
            let right := nodes.get ⟨i + 1, hi⟩
            left.1 ≤ x → x ≤ right.1 →
              left.1 < right.1 ∧ y = segment nodes i hi x ∧
                min left.2 right.2 ≤ y ∧ y ≤ max left.2 right.2) ∧
          ∀ node ∈ nodes, node.1 = x → y = node.2) ∧
      (∀ i, ∀ hi : i + 2 < nodes.length,
        let shared := nodes.get ⟨i + 1, Nat.lt_of_succ_lt hi⟩
        segment nodes i (Nat.lt_of_succ_lt hi) shared.1 = shared.2 ∧
          segment nodes (i + 1) hi shared.1 = shared.2) ∧
      ∀ node, nodes = [node] → ∀ x y, distance.apply (.finite x) = .ok (.ok y) ↔
        x = node.1 ∧ y = .finite node.2 := by
  obtain ⟨table, htable⟩ := h.exists_holds fun item hitem => (hfinite item hitem).1
  obtain ⟨nodes, hrows⟩ := htable.exists_nodes fun item hitem => (hfinite item hitem).2
  have hnodes := htable.holdsNodes hrows
  have happly : ∀ x y, (∃ node ∈ nodes, node.1 ≤ x) → (∃ node ∈ nodes, x ≤ node.1) →
      interpolateLinearly (.finite x) distance.mAbsissas distance.mValues = .ok (.finite y) →
      distance.apply (.finite x) = .ok (.ok (.finite y)) := by
    intro x y hleft hright hlookup
    rw [htable.apply_eq h.inv (by simpa [hrows] using hleft) (by simpa [hrows] using hright),
      h.inv.interpolate_eq, if_neg (by rw [hlinear]; decide), hlookup]
    rfl
  refine ⟨nodes, hnodes.corrections, ?_, ?_, ?_⟩
  · intro x hleft hright
    obtain ⟨y, hlookup, hsegment, hnode⟩ := hnodes.exists_interpolateLinearly hleft hright
    refine ⟨y, hlookup, happly x y hleft hright hlookup, ?_, hnode⟩
    intro i hi left right hxi hxi1
    have hbrackets : Brackets nodes x i := ⟨hi, hxi, hxi1⟩
    obtain rfl := hsegment i hi hbrackets
    exact ⟨hnodes.spaced.lt_of_lt tol_pos (Nat.lt_succ_self i) hi, rfl,
      segment_mem tol_pos hnodes.spaced hi hbrackets⟩
  · exact fun i hi => ⟨segment_right tol_pos hnodes.spaced _, segment_left hi⟩
  · intro node hone x y
    subst hone
    have hself : distance.apply (.finite node.1) = .ok (.ok (.finite node.2)) := by
      have hrow : node ∈ [node] := List.mem_singleton_self node
      obtain ⟨y, hlookup, -, hvalue⟩ :=
        hnodes.exists_interpolateLinearly ⟨node, hrow, le_rfl⟩ ⟨node, hrow, le_rfl⟩
      obtain rfl := hvalue node hrow rfl
      exact happly _ _ ⟨node, hrow, le_rfl⟩ ⟨node, hrow, le_rfl⟩ hlookup
    constructor
    · intro hanswer
      have hbetween := htable.between_of_apply hanswer
      simp only [hrows, List.map_cons, List.map_nil, List.mem_singleton,
        exists_eq_left] at hbetween
      obtain rfl := le_antisymm hbetween.2 hbetween.1
      rw [hself] at hanswer
      exact ⟨rfl, (Except.ok.inj (Except.ok.inj hanswer)).symm⟩
    · intro heq
      rcases heq with ⟨rfl, rfl⟩
      exact hself

/-- The rows of `table`, interpolated linearly. -/
def linearTable : Distance ℚ :=
  returned (Distance.ofOptions (distanceOptions .linear .epicentral
    [(.finite 0, .finite 1), (.finite 1000, .finite 2)])) {}

theorem linearTable_isReachable : linearTable.IsReachable :=
  ⟨_, distanceOptions_isReachable _ _ _, eq_ok_of_isOk (by decide +kernel) _⟩

theorem linear_table_interpolates :
    ∃ nodes : List (ℚ × ℚ), linearTable.mDistanceOptions.mCorrections =
        nodes.map (fun node => (.finite node.1, .finite node.2)) ∧
      ∀ x, (∃ node ∈ nodes, node.1 ≤ x) → (∃ node ∈ nodes, x ≤ node.1) →
        ∃ y, linearTable.apply (.finite x) = .ok (.ok (.finite y)) := by
  obtain ⟨nodes, hnodes, hlookup, -, -⟩ := linear_interpolation_is_piecewise_linear
    linearTable_isReachable (by decide +kernel) (by decide +kernel)
  refine ⟨nodes, hnodes, ?_⟩
  intro x hleft hright
  obtain ⟨y, -, happly, -⟩ := hlookup x hleft hright
  exact ⟨y, happly⟩

end Properties
end ULocalMagnitude
