import ULocalMagnitude.Corrections.Distance
import ULocalMagnitude.Corrections.Table
import Mathlib.Data.List.Induction

/-!
# Lookups in a table of numbers

A constructed object whose distances are numbers holds a usable table:
`IsReachable.exists_holds`.  On it the binary searches find the two rows around a
distance, and each interpolation is the one of the library:

* `Holds.isNearest_nearestRow` — the row that the nearest-neighbour lookup reads is
  the nearest one of the whole table;
* `HoldsNodes.interpolateLinearly_eq` — the linear lookup returns a number on the segment
  around the distance.
-/

namespace ULocalMagnitude
namespace Corrections

open Cxx Interpolation

variable {F : Type} [ExactArithmetic F]

/-! ## Columns of a table -/

section Columns

variable {α : Type} {rows : List α} {f : α → Double F} {column : List (Double F)}

omit [ExactArithmetic F]

theorem getD_of_eq_map (h : column = rows.map f) {i : Nat} (hi : i < rows.length) :
    column.getD i .nan = f rows[i] := by
  rw [h, List.getD_eq_getElem _ _ (by simpa using hi), List.getElem_map]

theorem readAt_of_eq_map (h : column = rows.map f) {i : Nat} (hi : i < rows.length) :
    readAt column i = .ok (f rows[i]) := by
  rw [readAt_getD (by rw [h]; simpa using hi), getD_of_eq_map h hi]

end Columns

/-! ## The smallest and the greatest element -/

namespace Distance

/-- In increasing order the loop keeps the least element and moves on to the last one. -/
theorem minmaxLoop_eq {least greatest : Double F} {rest : List (Double F)}
    (hleast : ∀ a ∈ rest, ¬ a < least)
    (h : (greatest :: rest).Pairwise fun a b => ¬ b < a) :
    minmaxLoop (least, greatest) rest =
      (least, (greatest :: rest).getLast (List.cons_ne_nil _ _)) := by
  induction rest using List.twoStepInduction generalizing greatest with
  | nil => rfl
  | singleton prev =>
      rw [minmaxLoop, if_neg (hleast prev List.mem_cons_self),
        if_pos ((List.pairwise_cons.mp h).1 prev List.mem_cons_self)]
      rfl
  | cons_cons prev first rest ih _ =>
      obtain ⟨hgreatest, hprev⟩ := List.pairwise_cons.mp h
      obtain ⟨hbehind, hfirst⟩ := List.pairwise_cons.mp hprev
      have hmem : first ∈ prev :: first :: rest :=
        List.mem_cons_of_mem prev List.mem_cons_self
      rw [minmaxLoop, if_neg (hbehind first List.mem_cons_self),
        if_neg (hbehind first List.mem_cons_self), if_neg (hleast prev List.mem_cons_self),
        if_neg (hgreatest first hmem),
        ih (fun a ha => hleast a (List.mem_cons_of_mem _ (List.mem_cons_of_mem _ ha))) hfirst]
      rfl

/-- Of a nonempty vector there are both elements. -/
theorem exists_minmaxElement {v : List (Double F)} (hv : v ≠ []) :
    ∃ result, minmaxElement v = .ok result := by
  match v with
  | [] => exact absurd rfl hv
  | [first] => exact ⟨_, rfl⟩
  | first :: second :: rest => exact ⟨_, rfl⟩

/-- In increasing order the ends are the smallest and the greatest element. -/
theorem minmaxElement_eq {v : List (Double F)} (hv : v ≠ [])
    (h : v.Pairwise fun a b => ¬ b < a) :
    minmaxElement v = .ok (v.head hv, v.getLast hv) := by
  match v with
  | [] => exact absurd rfl hv
  | [first] => rfl
  | first :: second :: rest =>
      obtain ⟨hfirst, hrest⟩ := List.pairwise_cons.mp h
      rw [minmaxElement, if_neg (hfirst second List.mem_cons_self),
        minmaxLoop_eq (fun a ha => hfirst a (List.mem_cons_of_mem _ ha)) hrest]
      rfl

/-! ## The position that a search for a lower bound finds -/

/-- The element before the position found is before `x`. -/
theorem lt_before_lowerBound {xv : List (Double F)} {x : Double F}
    (h : 0 < lowerBound xv x) : xv.getD (lowerBound xv x - 1) .nan < x := by
  have hle := lowerBound_le xv x
  have hlt : lowerBound xv x - 1 < xv.length := by omega
  have hpass := test_before_partitionPosition h
  rw [show partitionPosition _ xv.length = lowerBound xv x from rfl,
    List.getElem?_eq_getElem hlt] at hpass
  rw [List.getD_eq_getElem _ _ hlt]
  simpa using hpass

/-- The element at the position found is not before `x`. -/
theorem not_lt_at_lowerBound {xv : List (Double F)} {x : Double F}
    (h : lowerBound xv x < xv.length) : ¬ xv.getD (lowerBound xv x) .nan < x := by
  have hfail := test_at_partitionPosition h
  rw [show partitionPosition _ xv.length = lowerBound xv x from rfl,
    List.getElem?_eq_getElem h] at hfail
  rw [List.getD_eq_getElem _ _ h]
  simpa using hfail

/-! ## The table of an object -/

/-- Options with everything set make an object. -/
theorem exists_ofOptions {options : DistanceOptions F} (hoptions : options.IsReachable)
    (hcorrections : options.mHaveCorrections = true)
    (hinterpolation : options.mHasInterpolation = true) (htype : options.mHasType = true) :
    ∃ distance, ofOptions options = .ok distance ∧ distance.mDistanceOptions = options := by
  have hnonempty := hoptions.inv.nonempty hcorrections
  obtain ⟨first, rest, htable⟩ := List.exists_cons_of_ne_nil hnonempty
  have hget : options.getCorrections = .ok (first :: rest) := by
    unfold DistanceOptions.getCorrections
    rw [throwIf_neg (by simp [DistanceOptions.hasCorrections, hcorrections]), bind_ok, htable]
    rfl
  obtain ⟨minmax, hminmax⟩ := exists_minmaxElement
    (List.map_eq_nil_iff.not.mpr (List.cons_ne_nil first rest) :
      ((first :: rest).map fun correction => correction.1) ≠ [])
  unfold ofOptions
  rw [throwIf_neg (by simp [DistanceOptions.hasCorrections, hcorrections]), bind_ok,
    throwIf_neg (by simp [DistanceOptions.hasInterpolation, hinterpolation]), bind_ok,
    throwIf_neg (by simp [DistanceOptions.hasType, htype]), bind_ok, hget, bind_ok]
  dsimp only
  rw [hminmax]
  exact ⟨_, rfl, rfl⟩

/-- The vectors of the object are the columns of the table. -/
structure Holds (distance : Distance F) (table : Table F) : Prop where
  corrections : distance.mDistanceOptions.mCorrections = table.corrections
  absissas : distance.mAbsissas = table.rows.map fun row => .finite row.1
  values : distance.mValues = table.rows.map Prod.snd
  minimum : distance.mMinimumDistance = .finite (table.rows.head table.nonempty).1
  maximum : distance.mMaximumDistance = .finite (table.rows.getLast table.nonempty).1

theorem IsReachable.exists_holds {distance : Distance F} (h : distance.IsReachable)
    (hfinite : ∀ item ∈ distance.mDistanceOptions.mCorrections, item.1.isFinite = true) :
    ∃ table, distance.Holds table := by
  obtain ⟨options, hoptions, hdistance⟩ := h
  unfold ofOptions at hdistance
  simp only [throwIf_bind_eq_ok] at hdistance
  obtain ⟨hcorrections, -, -, hdistance⟩ := hdistance
  obtain ⟨stored, hstored, hdistance⟩ := bind_eq_ok.mp hdistance
  obtain ⟨minmax, hminmax, hdistance⟩ := bind_eq_ok.mp hdistance
  obtain rfl := Except.ok.inj hdistance
  have hset : options.mHaveCorrections = true := by
    simpa [DistanceOptions.hasCorrections] using hcorrections
  obtain ⟨table, htable⟩ := hoptions.exists_table hset hfinite
  have hsame : stored = table.corrections := by
    unfold DistanceOptions.getCorrections at hstored
    simp only [throwIf_bind_eq_ok] at hstored
    exact (Except.ok.inj hstored.2).symm.trans htable
  have habsissas : (stored.map fun correction => correction.1) =
      table.rows.map fun row => Double.finite row.1 := by
    rw [hsame, Table.corrections, storedRows, List.map_map]
    rfl
  have hvalues : (stored.map fun correction => correction.2) = table.rows.map Prod.snd := by
    rw [hsame, Table.corrections, storedRows, List.map_map]
    rfl
  have hsorted : (table.rows.map fun row => Double.finite row.1).Pairwise
      fun a b => ¬ b < a := by
    rw [List.pairwise_map]
    exact (table.spaced.sorted tol_pos.le).imp fun hle => not_lt.mpr hle
  have hnonempty : (table.rows.map fun row => Double.finite row.1) ≠ [] := by
    simpa using table.nonempty
  rw [habsissas, minmaxElement_eq hnonempty hsorted] at hminmax
  obtain rfl := Except.ok.inj hminmax
  refine ⟨table, htable, habsissas, hvalues, ?_, ?_⟩
  · show (List.map _ table.rows).head _ = _
    rw [List.head_map]
  · show (List.map _ table.rows).getLast _ = _
    rw [List.getLast_map]

variable {distance : Distance F} {table : Table F}

/-! ## What the call operators return -/

/-- A lookup that was made did not return an error code. -/
theorem lookup_ne_error (x : Double F) (code : ErrorCode) :
    noexcept (Except.ok <$> distance.interpolate x) ≠ .ok (.error code) := by
  intro h
  rw [noexcept_eq_ok] at h
  cases hlookup : distance.interpolate x with
  | ok y => rw [hlookup] at h; cases h
  | error fault => rw [hlookup] at h; cases h

theorem apply_of_negative (h : distance.Inv) {x : Double F} (hx : x < .finite 0) :
    distance.apply x = .ok (.error .negativeDistance) := by
  unfold Distance.apply
  rw [if_neg (by simp [isInitialized, h.initialized]), if_pos hx]
  rfl

theorem applyAtDepth_of_negative (h : distance.Inv) {x : Double F} (hx : x < .finite 0)
    (sourceDepth : Double F) :
    distance.applyAtDepth x sourceDepth = .ok (.error .negativeDistance) := by
  unfold Distance.applyAtDepth
  rw [if_neg (by simp [isInitialized, h.initialized]), if_pos hx]
  rfl

theorem apply_eq_tooClose_iff (h : distance.Inv) {x : Double F} (hx : ¬ x < .finite 0) :
    distance.apply x = .ok (.error .stationTooClose) ↔ x < distance.mMinimumDistance := by
  rw [apply_eq h hx]
  split
  · rename_i hclose
    exact iff_of_true rfl hclose
  · rename_i hclose
    refine iff_of_false ?_ hclose
    split
    · simp
    · exact lookup_ne_error x _

theorem apply_eq_tooFar_iff (h : distance.Inv) {x : Double F} (hx : ¬ x < .finite 0) :
    distance.apply x = .ok (.error .stationTooFar) ↔
      ¬ x < distance.mMinimumDistance ∧ x > distance.mMaximumDistance := by
  rw [apply_eq h hx]
  split
  · rename_i hclose
    exact iff_of_false (by simp) fun hall => hall.1 hclose
  · rename_i hclose
    split
    · rename_i hfar
      exact iff_of_true rfl ⟨hclose, hfar⟩
    · rename_i hfar
      exact iff_of_false (lookup_ne_error x _) fun hall => hfar hall.2

/-- The lookup at a distance does not know about depths. -/
theorem apply_ne_invalidSourceDepth (x : Double F) :
    distance.apply x ≠ .ok (.error .invalidSourceDepth) := by
  intro h
  unfold Distance.apply at h
  rw [noexcept_eq_ok] at h
  split at h
  · cases h
  split at h
  · cases h
  split at h
  · cases h
  split at h
  · cases h
  · exact lookup_ne_error x _ (noexcept_eq_ok.mpr h)

/-- At hypocentral distances a depth is refused exactly when it is out of range. -/
theorem applyAtDepth_eq_invalidSourceDepth_iff (h : distance.Inv) {x sourceDepth : Double F}
    (hx : ¬ x < .finite 0) (htype : distance.mDistanceOptions.mType = .hypocentral) :
    distance.applyAtDepth x sourceDepth = .ok (.error .invalidSourceDepth) ↔
      sourceDepth < .finite (-8600) ∨ sourceDepth > .finite 900000 := by
  constructor
  · intro hrefused
    by_contra hdepth
    rw [applyAtDepth_eq h hx fun _ => hdepth] at hrefused
    exact apply_ne_invalidSourceDepth _ hrefused
  · intro hdepth
    unfold Distance.applyAtDepth
    rw [if_neg (by simp [isInitialized, h.initialized]), if_neg hx, h.getDistanceType, bind_ok,
      if_pos htype, if_pos hdepth]
    rfl

namespace Holds

theorem isFinite (h : distance.Holds table) :
    ∀ item ∈ distance.mDistanceOptions.mCorrections, item.1.isFinite = true := by
  rw [h.corrections, Table.corrections, storedRows, List.forall_mem_map]
  exact fun _ _ => rfl

theorem minimum_le_maximum (table : Table F) :
    (table.rows.head table.nonempty).1 ≤ (table.rows.getLast table.nonempty).1 :=
  table.spaced.le_getLast tol_pos table.nonempty (List.head_mem table.nonempty)

theorem minimum_nonneg (table : Table F) : 0 ≤ (table.rows.head table.nonempty).1 :=
  table.nonneg _ (List.head_mem table.nonempty)

theorem length_absissas (h : distance.Holds table) :
    distance.mAbsissas.length = table.rows.length := by
  rw [h.absissas, List.length_map]

theorem absissa_at (h : distance.Holds table) {i : Nat} (hi : i < table.rows.length) :
    distance.mAbsissas.getD i .nan = .finite table.rows[i].1 := getD_of_eq_map h.absissas hi

theorem readAt_values (h : distance.Holds table) {i : Nat} (hi : i < table.rows.length) :
    readAt distance.mValues i = .ok table.rows[i].2 := readAt_of_eq_map h.values hi

/-- Between two rows of the table the object looks the distance up. -/
theorem apply_eq (h : distance.Holds table) (hinv : distance.Inv) {x : F}
    (hleft : ∃ row ∈ table.rows, row.1 ≤ x) (hright : ∃ row ∈ table.rows, x ≤ row.1) :
    distance.apply (.finite x) = noexcept (Except.ok <$> distance.interpolate (.finite x)) := by
  obtain ⟨before, hbefore, hleft⟩ := hleft
  obtain ⟨behind, hbehind, hright⟩ := hright
  have hnegative : ¬ Double.finite x < .finite 0 :=
    not_lt.mpr ((table.nonneg before hbefore).trans hleft)
  have hclose : ¬ Double.finite x < .finite (table.rows.head table.nonempty).1 :=
    not_lt.mpr ((table.spaced.head_le tol_pos table.nonempty hbefore).trans hleft)
  have hfar : ¬ Double.finite x > .finite (table.rows.getLast table.nonempty).1 :=
    not_lt.mpr (hright.trans (table.spaced.le_getLast tol_pos table.nonempty hbehind))
  rw [Distance.apply_eq hinv hnegative, h.minimum, h.maximum, if_neg hclose, if_neg hfar]

/-- And it finds a correction only there. -/
theorem between_of_apply (h : distance.Holds table) {x : F} {y : Double F}
    (happly : distance.apply (.finite x) = .ok (.ok y)) :
    (∃ row ∈ table.rows, row.1 ≤ x) ∧ ∃ row ∈ table.rows, x ≤ row.1 := by
  unfold Distance.apply at happly
  rw [noexcept_eq_ok, h.minimum, h.maximum] at happly
  split at happly
  · cases happly
  split at happly
  · cases happly
  split at happly
  · cases happly
  · rename_i hclose
    split at happly
    · cases happly
    · rename_i hfar
      exact ⟨⟨_, List.head_mem table.nonempty, not_lt.mp hclose⟩,
        ⟨_, List.getLast_mem table.nonempty, not_lt.mp hfar⟩⟩

/-! ## The nearest neighbour -/

/-- The nearest-neighbour lookup reads the nearest row of the whole table. -/
theorem isNearest_nearestRow (h : distance.Holds table) {x : F}
    (hright : ∃ row ∈ table.rows, x ≤ row.1) :
    IsNearest Prod.fst table.rows x (nearestRow distance.mAbsissas (.finite x)) := by
  have hlength := h.length_absissas
  have hpos := List.length_pos_of_ne_nil table.nonempty
  have hle := lowerBound_le distance.mAbsissas (.finite x)
  -- The row at the position found is not before `x`, the one before it is.
  have hbehind : ∀ hi : lowerBound distance.mAbsissas (.finite x) < table.rows.length,
      x ≤ table.rows[lowerBound distance.mAbsissas (.finite x)].1 := by
    intro hi
    have hlt : lowerBound distance.mAbsissas (.finite x) < distance.mAbsissas.length := by omega
    have hfail := not_lt_at_lowerBound hlt
    rw [h.absissa_at hi] at hfail
    exact not_lt.mp hfail
  unfold nearestRow
  dsimp only
  by_cases hzero : lowerBound distance.mAbsissas (.finite x) = 0
  · rw [if_pos hzero]
    simp only [hzero] at hbehind
    exact isNearest_first tol_pos table.spaced hpos (hbehind hpos)
  rw [if_neg hzero]
  obtain ⟨i, hi⟩ := Nat.exists_eq_succ_of_ne_zero hzero
  have hbefore := lt_before_lowerBound (Nat.pos_of_ne_zero hzero)
  rw [hi] at hle hbefore ⊢
  simp only [hi] at hbehind
  rw [Nat.succ_sub_one] at hbefore ⊢
  rw [h.absissa_at (by omega), Double.finite_lt_finite] at hbefore
  by_cases hend : i + 1 = distance.mAbsissas.length
  · -- All rows would be before `x`, the last one too.
    obtain ⟨row, hrow, hright⟩ := hright
    obtain ⟨j, hj, rfl⟩ := List.getElem_of_mem hrow
    have hlast := table.spaced.le_of_le tol_pos (show j ≤ i by omega) (by omega)
    exact absurd (hright.trans hlast) (not_le.mpr hbefore)
  rw [if_neg hend, h.absissa_at (by omega), h.absissa_at (by omega)]
  simp only [Double.finite_sub_finite, Double.finite_le_finite]
  by_cases hcloser : x - table.rows[i].1 ≤ table.rows[i + 1].1 - x
  · rw [if_pos hcloser]
    exact isNearest_before tol_pos table.spaced (by omega) hbefore (hbehind (by omega)) hcloser
  · rw [if_neg hcloser]
    exact isNearest_behind tol_pos table.spaced (by omega) hbefore (hbehind (by omega))
      (not_le.mp hcloser)

end Holds

/-! ## The linear interpolant -/

/-- The object holds a table in which the corrections are numbers, too. -/
structure HoldsNodes (distance : Distance F) (nodes : List (F × F)) : Prop where
  corrections : distance.mDistanceOptions.mCorrections =
    nodes.map fun node => (.finite node.1, .finite node.2)
  spaced : Spaced Prod.fst tol nodes
  absissas : distance.mAbsissas = nodes.map fun node => .finite node.1
  values : distance.mValues = nodes.map fun node => .finite node.2

theorem Holds.holdsNodes {nodes : List (F × F)} (h : distance.Holds table)
    (hnodes : table.rows = nodes.map fun node => (node.1, .finite node.2)) :
    distance.HoldsNodes nodes := by
  refine ⟨?_, ?_, ?_, ?_⟩
  · rw [h.corrections, Table.corrections, storedRows, hnodes, List.map_map]
    rfl
  · have hspaced := table.spaced
    unfold Spaced at hspaced ⊢
    rw [hnodes, List.pairwise_map] at hspaced
    exact hspaced
  · rw [h.absissas, hnodes, List.map_map]
    rfl
  · rw [h.values, hnodes, List.map_map]
    rfl

theorem Holds.exists_nodes (h : distance.Holds table)
    (hfinite : ∀ item ∈ distance.mDistanceOptions.mCorrections, item.2.isFinite = true) :
    ∃ nodes : List (F × F), table.rows = nodes.map fun node => (node.1, .finite node.2) := by
  refine ⟨table.rows.map fun row => (row.1, row.2.val), ?_⟩
  rw [List.map_map]
  refine (List.map_id table.rows).symm.trans (List.map_congr_left ?_)
  intro row hrow
  have hstored : (Double.finite row.1, row.2) ∈ distance.mDistanceOptions.mCorrections := by
    rw [h.corrections]
    exact List.mem_map_of_mem hrow
  obtain ⟨y, hy⟩ := Double.exists_finite (hfinite _ hstored)
  have hvalue : row.2 = .finite y := hy
  simp only [id, Function.comp_apply, hvalue, Double.val_finite]
  exact Prod.ext rfl hvalue

namespace HoldsNodes

variable {nodes : List (F × F)}

theorem length_absissas (h : distance.HoldsNodes nodes) :
    distance.mAbsissas.length = nodes.length := by
  rw [h.absissas, List.length_map]

theorem length_values (h : distance.HoldsNodes nodes) :
    distance.mValues.length = nodes.length := by
  rw [h.values, List.length_map]

theorem absissa_at (h : distance.HoldsNodes nodes) {i : Nat} (hi : i < nodes.length) :
    distance.mAbsissas.getD i .nan = .finite nodes[i].1 := getD_of_eq_map h.absissas hi

theorem value_at (h : distance.HoldsNodes nodes) {i : Nat} (hi : i < nodes.length) :
    distance.mValues.getD i .nan = .finite nodes[i].2 := getD_of_eq_map h.values hi

theorem readAt_values (h : distance.HoldsNodes nodes) {i : Nat} (hi : i < nodes.length) :
    readAt distance.mValues i = .ok (.finite nodes[i].2) := readAt_of_eq_map h.values hi

/-- Strictly inside of the table the search finds the segment around `x`. -/
theorem exists_between (h : distance.HoldsNodes nodes) {x : F} (hone : 1 < nodes.length)
    (hfront : ¬ x ≤ nodes[0].1) (hback : ¬ nodes[nodes.length - 1].1 ≤ x) :
    ∃ i, ∃ hi : i + 1 < nodes.length, Brackets nodes x i ∧
      interpolateLinearly (.finite x) distance.mAbsissas distance.mValues =
        .ok (.finite (segment nodes i hi x)) := by
  have hlength := h.length_absissas
  have hxfront : ¬ Double.finite x ≤ distance.mAbsissas.getD 0 .nan := by
    rw [h.absissa_at (by omega)]
    exact hfront
  have hxback : ¬ Double.finite x ≥
      distance.mAbsissas.getD (distance.mAbsissas.length - 1) .nan := by
    simp only [hlength]
    rw [h.absissa_at (by omega)]
    exact hback
  have hfirst := upperBound_pos (by omega) hxfront
  have hbefore := not_lt_before_upperBound hfirst
  have hle := upperBound_le distance.mAbsissas (.finite x)
  rw [interpolateLinearly_between (by rw [h.length_values, hlength]) (by omega) hxfront hxback]
  obtain ⟨i, hi⟩ := Nat.exists_eq_succ_of_ne_zero hfirst.ne'
  have hbehind (hlt : upperBound distance.mAbsissas (.finite x) < distance.mAbsissas.length) :=
    lt_at_upperBound hlt
  unfold interpolant
  rw [hi] at hbefore hle hbehind ⊢
  dsimp only
  rw [Nat.succ_sub_one] at hbefore ⊢
  rw [h.absissa_at (by omega)] at hbefore
  have hleft : nodes[i].1 ≤ x := not_lt.mp hbefore
  -- The last node is behind `x`, so the search stops before the end.
  have hlast : i + 1 < nodes.length := by
    by_contra hend
    have hlastNode : nodes.length - 1 = i := by omega
    simp only [hlastNode] at hback
    exact hback hleft
  have hright := hbehind (by omega)
  rw [h.absissa_at hlast] at hright
  have hne : nodes[i + 1].1 - nodes[i].1 ≠ 0 :=
    (sub_pos.mpr (h.spaced.lt_of_lt tol_pos (Nat.lt_succ_self i) hlast)).ne'
  refine ⟨i, hlast, ⟨hlast, hleft, le_of_lt hright⟩, ?_⟩
  rw [if_pos (by omega), h.absissa_at hlast, h.absissa_at (by omega), h.value_at hlast,
    h.value_at (by omega)]
  simp only [Double.finite_sub_finite, Double.finite_mul_finite]
  rw [Double.finite_div_finite _ hne, Double.finite_add_finite]
  rfl

/-- The lookup returns the segment around `x`. -/
theorem interpolateLinearly_eq (h : distance.HoldsNodes nodes) {x : F} {i : Nat}
    (hi : i + 1 < nodes.length) (hx : Brackets nodes x i) :
    interpolateLinearly (.finite x) distance.mAbsissas distance.mValues =
      .ok (.finite (segment nodes i hi x)) := by
  have hlength := h.length_absissas
  obtain ⟨_, hleft, hright⟩ := hx
  by_cases hfront : x ≤ nodes[0].1
  · -- At the first node.
    have hhead : Brackets nodes x 0 :=
      ⟨by omega, (h.spaced.le_of_le tol_pos (Nat.zero_le i) (by omega)).trans hleft,
        hfront.trans (h.spaced.le_of_le tol_pos (Nat.zero_le 1) (by omega))⟩
    obtain rfl : x = nodes[0].1 := le_antisymm hfront hhead.2.1
    rw [interpolateLinearly_front (by omega) (by rw [h.absissa_at (by omega)]; exact le_rfl),
      h.readAt_values (by omega),
      segment_eq_segment tol_pos h.spaced hi (by omega) ⟨hi, hleft, hright⟩ hhead, segment_left]
  by_cases hback : nodes[nodes.length - 1].1 ≤ x
  · -- At the last node.
    obtain ⟨m, hm⟩ := Nat.exists_eq_add_of_le' (show 2 ≤ nodes.length by omega)
    have hlast : nodes.length - 1 = m + 1 := by omega
    simp only [hlast] at hback
    have htail : Brackets nodes x m :=
      ⟨by omega, (h.spaced.le_of_le tol_pos (Nat.le_succ m) (by omega)).trans hback,
        hright.trans (h.spaced.le_of_le tol_pos (by omega) (by omega))⟩
    obtain rfl : x = nodes[m + 1].1 := le_antisymm htail.2.2 hback
    have hxfront : ¬ Double.finite nodes[m + 1].1 ≤ distance.mAbsissas.getD 0 .nan := by
      rw [h.absissa_at (by omega)]
      exact hfront
    have hxback : Double.finite nodes[m + 1].1 ≥
        distance.mAbsissas.getD (distance.mAbsissas.length - 1) .nan := by
      simp only [hlength, hlast]
      rw [h.absissa_at (by omega)]
      exact le_refl nodes[m + 1].1
    rw [interpolateLinearly_back (by omega) hxfront hxback, h.length_values, hlast,
      h.readAt_values (by omega),
      segment_eq_segment tol_pos h.spaced hi (by omega) ⟨hi, hleft, hright⟩ htail,
      segment_right tol_pos h.spaced]
  · obtain ⟨j, hj, hbrackets, heq⟩ := h.exists_between (by omega) hfront hback
    rw [heq, segment_eq_segment tol_pos h.spaced hi hj ⟨hi, hleft, hright⟩ hbrackets]

/-- Between the ends of the table the lookup returns a number: the value of every
segment around the distance, and the value of a node at the distance. -/
theorem exists_interpolateLinearly (h : distance.HoldsNodes nodes) {x : F}
    (hleft : ∃ node ∈ nodes, node.1 ≤ x) (hright : ∃ node ∈ nodes, x ≤ node.1) :
    ∃ y, interpolateLinearly (.finite x) distance.mAbsissas distance.mValues =
        .ok (.finite y) ∧
      (∀ i, ∀ hi : i + 1 < nodes.length, Brackets nodes x i → y = segment nodes i hi x) ∧
      ∀ node ∈ nodes, node.1 = x → y = node.2 := by
  by_cases hone : 1 < nodes.length
  · obtain ⟨i, hbrackets⟩ := exists_brackets tol_pos h.spaced hone hleft hright
    obtain ⟨hi, -, -⟩ := id hbrackets
    refine ⟨segment nodes i hi x, h.interpolateLinearly_eq hi hbrackets, ?_, ?_⟩
    · exact fun j hj hx => segment_eq_segment tol_pos h.spaced hi hj hbrackets hx
    · intro node hnode hx
      subst hx
      exact segment_at_node tol_pos h.spaced hi hnode hbrackets
  · -- The table has one row, and `x` is its distance.
    obtain ⟨before, hbefore, hle⟩ := hleft
    obtain ⟨behind, hbehind, hge⟩ := hright
    obtain ⟨node, rfl⟩ : ∃ node, nodes = [node] :=
      List.length_eq_one_iff.mp (by have := List.length_pos_of_mem hbefore; omega)
    obtain rfl := List.mem_singleton.mp hbefore
    obtain rfl := List.mem_singleton.mp hbehind
    -- The saturation test at the front answers before anything is divided.
    have hfront : Double.finite x ≤ distance.mAbsissas.getD 0 .nan := by
      rw [h.absissa_at Nat.one_pos]
      exact hge
    refine ⟨behind.2, ?_, ?_, ?_⟩
    · rw [interpolateLinearly_front (by rw [h.length_absissas]; exact Nat.one_pos) hfront,
        h.readAt_values Nat.one_pos]
      rfl
    · exact fun i hi _ => absurd hi (by simp)
    · intro node hnode _
      rw [List.mem_singleton.mp hnode]

end HoldsNodes

end Distance

/-- Every usable table is that of some object, with any interpolation, of any type and from
any datum that can be set. -/
theorem Table.exists_distance (table : Table F) {datum : F}
    (hdatum : ¬ ((.finite datum : Double F) < .finite (-10000) ∨
      (.finite datum : Double F) > .finite 8600))
    (interpolation : DistanceOptions.Interpolation) (type : DistanceOptions.DistanceType) :
    ∃ distance : Distance F, distance.IsReachable ∧ distance.Holds table ∧
      distance.mDistanceOptions.mType = type ∧
      distance.mDistanceOptions.mInterpolation = interpolation ∧
      distance.mDistanceOptions.getDatum = .finite datum := by
  have hempty : DistanceOptions.IsReachable ({} : DistanceOptions F) := .init rfl
  have hinterpolation := hempty.call_eq_ok (i := .interpolation interpolation) trivial
    (Method.call_modify _ _)
  have htype := hinterpolation.call_eq_ok (i := .type type) trivial (Method.call_modify _ _)
  have hmoved := htype.call_eq_ok (i := .datum (.finite datum)) trivial
    (DistanceOptions.call_setDatum_eq_ok.mpr ⟨rfl, hdatum, rfl⟩)
  have hcorrections := hmoved.call_eq_ok (i := .corrections table.corrections) trivial
    (DistanceOptions.setCorrections_eq_ok_iff.mpr ⟨table, List.Perm.refl _, rfl⟩)
  obtain ⟨distance, hdistance, hoptions⟩ :=
    Distance.exists_ofOptions hcorrections rfl rfl rfl
  have hreachable : distance.IsReachable := ⟨_, hcorrections, hdistance⟩
  refine ⟨distance, hreachable, ?_, ?_, ?_, ?_⟩
  · obtain ⟨held, hheld⟩ := hreachable.exists_holds (by
      rw [hoptions, Table.corrections, storedRows, List.forall_mem_map]
      exact fun _ _ => rfl)
    have hsame := hheld.corrections
    rw [hoptions] at hsame
    obtain rfl := Table.corrections_injective hsame
    exact hheld
  · rw [hoptions]
  · rw [hoptions]
  · rw [hoptions]
    rfl

end Corrections
end ULocalMagnitude
