import ULocalMagnitude.Corrections.DistanceOptions
import ULocalMagnitude.Interpolation

/-!
# Usable tables of distance corrections

What a table is for: rows at distances that are numbers, not negative, and in
increasing order at least ten centimeters apart.  `Table` is this meaning of a table,
a structure that cannot hold an unusable one, and `Table.corrections` is how the
options store it.

The setter of the options sorts its input and compares neighbours only.
`setCorrections_eq_ok_iff` says that this accepts exactly the lists whose rows,
in any order, form a table; by `sorted_accepted_iff` and `sorted_eq` it does not matter
which sorting algorithm `std::sort` is.
-/

namespace ULocalMagnitude
namespace Corrections

open Cxx Interpolation

section Rows

variable {F : Type}

/-- Rows at numbers, as the options store them. -/
def storedRows (rows : List (F × Double F)) : List (Double F × Double F) :=
  rows.map fun row => (.finite row.1, row.2)

@[simp] theorem storedRows_eq_nil {rows : List (F × Double F)} :
    storedRows rows = [] ↔ rows = [] := List.map_eq_nil_iff

theorem storedRow_injective :
    Function.Injective fun row : F × Double F => (Double.finite row.1, row.2) := by
  intro a b hab
  simp only [Prod.mk.injEq, Double.finite.injEq] at hab
  exact Prod.ext hab.1 hab.2

theorem storedRows_perm {rows rows' : List (F × Double F)} :
    (storedRows rows).Perm (storedRows rows') ↔ rows.Perm rows' :=
  List.map_perm_map_iff storedRow_injective

theorem isFinite_storedRows (rows : List (F × Double F)) :
    ∀ item ∈ storedRows rows, item.1.isFinite = true := by
  unfold storedRows
  exact List.forall_mem_map.mpr fun _ _ => rfl

/-- Corrections at distances that are numbers are stored rows. -/
theorem exists_storedRows {corrections : List (Double F × Double F)}
    (hfinite : ∀ item ∈ corrections, item.1.isFinite = true) :
    ∃ rows, storedRows rows = corrections := by
  induction corrections with
  | nil => exact ⟨[], rfl⟩
  | cons item rest ih =>
      obtain ⟨rows, hrows⟩ := ih fun other hother =>
        hfinite other (List.mem_cons_of_mem _ hother)
      obtain ⟨x, hx⟩ := Double.exists_finite (hfinite item List.mem_cons_self)
      refine ⟨(x, item.2) :: rows, ?_⟩
      rw [← hrows, storedRows, List.map_cons, ← hx]
      rfl

end Rows

variable {F : Type} [ExactArithmetic F]

/-- Ten centimeters. -/
def tol : F := 1 / 10

theorem tol_pos : (0 : F) < tol := by
  unfold tol
  norm_num

/-- A usable table of corrections, with the distances in increasing order. -/
@[ext]
structure Table (F : Type) [ExactArithmetic F] where
  rows : List (F × Double F)
  nonempty : rows ≠ []
  nonneg : ∀ row ∈ rows, 0 ≤ row.1
  spaced : Spaced Prod.fst tol rows

/-- The table as the options store it. -/
def Table.corrections (table : Table F) : List (Double F × Double F) :=
  storedRows table.rows

theorem Table.corrections_injective : Function.Injective (Table.corrections : Table F → _) := by
  intro table table' h
  ext1
  exact List.map_injective_iff.mpr storedRow_injective h

/-! ## The setter's checks on numbers -/

namespace DistanceOptions

/-- The rows in the order of their distances. -/
def sortRows (rows : List (F × Double F)) : List (F × Double F) :=
  rows.insertionSort fun a b => a.1 ≤ b.1

theorem sortRows_perm (rows : List (F × Double F)) : (sortRows rows).Perm rows :=
  List.perm_insertionSort _ _

theorem sortRows_sorted (rows : List (F × Double F)) :
    (sortRows rows).Pairwise fun a b => a.1 ≤ b.1 := by
  have htotal : Std.Total fun a b : F × Double F => a.1 ≤ b.1 :=
    ⟨fun a b => le_total a.1 b.1⟩
  have htrans : IsTrans (F × Double F) fun a b => a.1 ≤ b.1 :=
    ⟨fun _ _ _ => le_trans⟩
  exact List.pairwise_insertionSort _ rows

/-- Rows at numbers can be sorted. -/
theorem isOrdered_of_isFinite {corrections : List (Double F × Double F)}
    (hfinite : ∀ item ∈ corrections, item.1.isFinite = true) : Double.IsOrdered corrections := by
  refine Or.inl fun item hitem hnan => ?_
  have hnumber := hfinite item hitem
  rw [hnan] at hnumber
  cases hnumber

/-- `std::sort` puts rows at numbers into increasing order. -/
theorem exists_sorted (rows : List (F × Double F)) :
    ∃ sorted, sortByDistance (storedRows rows) = storedRows sorted ∧ sorted.Perm rows ∧
      sorted.Pairwise fun a b => a.1 ≤ b.1 := by
  have hordered := isOrdered_of_isFinite (isFinite_storedRows rows)
  have hperm := sortByDistance_perm hordered
  have hpairwise := Arithmetic.sort_sorted _ hordered
  obtain ⟨sorted, hsorted⟩ := exists_storedRows fun item hitem =>
    isFinite_storedRows rows item (hperm.mem_iff.mp hitem)
  rw [← hsorted] at hperm
  change (sortByDistance (storedRows rows)).Pairwise _ at hpairwise
  rw [← hsorted, storedRows, List.pairwise_map] at hpairwise
  exact ⟨sorted, hsorted.symm, storedRows_perm.mp hperm, hpairwise.imp not_lt.mp⟩

theorem checkNeighbors_storedRows (rows : List (F × Double F)) :
    checkNeighbors (storedRows rows) = .ok () ↔
      rows.IsChain fun a b => tol ≤ |a.1 - b.1| := by
  induction rows with
  | nil => simp [storedRows, checkNeighbors]
  | cons first rest ih =>
      cases rest with
      | nil => simp [storedRows, checkNeighbors]
      | cons second rest =>
          have hgap : (Double.finite first.1 - .finite second.1).abs < .finite (1 / 10) ↔
              ¬ tol ≤ |first.1 - second.1| := by
            rw [Double.finite_sub_finite]
            exact not_le.symm
          rw [storedRows, List.map_cons, List.map_cons, checkNeighbors, throwIf_bind_eq_ok,
            hgap, not_not, List.isChain_cons_cons]
          exact and_congr_right fun _ => ih

/-- Every sorting algorithm would do: on rows in increasing order the comparison of
neighbours compares all of them. -/
theorem sorted_accepted_iff {rows sorted : List (F × Double F)} (hperm : sorted.Perm rows)
    (hsorted : sorted.Pairwise fun a b => a.1 ≤ b.1) :
    checkNeighbors (storedRows sorted) = .ok () ↔ Separated Prod.fst tol rows := by
  rw [checkNeighbors_storedRows, isChain_iff_spaced tol_pos.le hsorted,
    spaced_iff_separated hsorted, separated_perm hperm]

/-- And where the rows are accepted, every sorting algorithm gives the same table. -/
theorem sorted_eq {rows sorted : List (F × Double F)} (hperm : sorted.Perm rows)
    (hsorted : sorted.Pairwise fun a b => a.1 ≤ b.1)
    (hseparated : Separated Prod.fst tol rows) : sorted = sortRows rows := by
  have hspaced := (spaced_iff_separated hsorted).mpr ((separated_perm hperm).mpr hseparated)
  have hspaced' := (spaced_iff_separated (sortRows_sorted rows)).mpr
    ((separated_perm (sortRows_perm rows)).mpr hseparated)
  exact hspaced.eq_of_perm tol_pos hspaced' (hperm.trans (sortRows_perm rows).symm)

/-- What is accepted, and what is stored then. -/
theorem call_setCorrections_storedRows {rows : List (F × Double F)}
    {options after : DistanceOptions F} :
    (setCorrections (storedRows rows)).call options = .ok after ↔
      rows ≠ [] ∧ (∀ row ∈ rows, 0 ≤ row.1) ∧ Separated Prod.fst tol rows ∧
        { options with mCorrections := storedRows (sortRows rows),
                       mHaveCorrections := true } = after := by
  have hnonneg : (∀ item ∈ storedRows rows, ¬ item.1 < .finite 0) ↔
      ∀ row ∈ rows, 0 ≤ row.1 := by
    unfold storedRows
    rw [List.forall_mem_map]
    exact forall₂_congr fun row _ => not_lt
  have hordered := isOrdered_of_isFinite (isFinite_storedRows rows)
  obtain ⟨sorted, hstored, hperm, hsorted⟩ := exists_sorted rows
  rw [call_setCorrections_eq_ok, hstored, sorted_accepted_iff hperm hsorted, hnonneg, ne_eq,
    ne_eq, storedRows_eq_nil]
  -- The rows are accepted only where there is one order for them.
  constructor
  · rintro ⟨hnonempty, hpositive, -, hseparated, hafter⟩
    rw [sorted_eq hperm hsorted hseparated] at hafter
    exact ⟨hnonempty, hpositive, hseparated, hafter⟩
  · rintro ⟨hnonempty, hpositive, hseparated, hafter⟩
    rw [← sorted_eq hperm hsorted hseparated] at hafter
    exact ⟨hnonempty, hpositive, hordered, hseparated, hafter⟩

/-- The setter accepts a list exactly when some order of it is a table, which is then
what it stores. -/
theorem setCorrections_eq_ok_iff {rows : List (F × Double F)}
    {options after : DistanceOptions F} :
    (setCorrections (storedRows rows)).call options = .ok after ↔
      ∃ table : Table F, table.rows.Perm rows ∧
        { options with mCorrections := table.corrections, mHaveCorrections := true } =
          after := by
  rw [call_setCorrections_storedRows]
  constructor
  · intro h
    rcases h with ⟨hnonempty, hnonneg, hseparated, hafter⟩
    have hperm := sortRows_perm rows
    refine ⟨⟨sortRows rows, ?_, ?_, ?_⟩, hperm, hafter⟩
    · intro hnil
      rw [hnil] at hperm
      exact hnonempty hperm.nil_eq.symm
    · exact fun row hrow => hnonneg row (hperm.mem_iff.mp hrow)
    · exact (spaced_iff_separated (sortRows_sorted rows)).mpr
        ((separated_perm hperm).mpr hseparated)
  · intro h
    rcases h with ⟨table, hperm, hafter⟩
    have hsorted := table.spaced.sorted tol_pos.le
    have hseparated := (separated_perm hperm).mp
      ((spaced_iff_separated hsorted).mp table.spaced)
    refine ⟨?_, fun row hrow => table.nonneg row (hperm.mem_iff.mpr hrow), hseparated, ?_⟩
    · intro hnil
      rw [hnil] at hperm
      exact table.nonempty hperm.eq_nil
    · rw [← sorted_eq hperm hsorted hseparated]
      exact hafter

/-- Rows at numbers can be set in any order. -/
theorem call_setCorrections_of_perm {corrections corrections' : List (Double F × Double F)}
    {options after : DistanceOptions F}
    (hfinite : ∀ item ∈ corrections, item.1.isFinite = true)
    (hperm : corrections'.Perm corrections)
    (h : (setCorrections corrections).call options = .ok after) :
    (setCorrections corrections').call options = .ok after := by
  obtain ⟨rows, rfl⟩ := exists_storedRows hfinite
  obtain ⟨rows', rfl⟩ := exists_storedRows fun item hitem =>
    hfinite item (hperm.mem_iff.mp hitem)
  obtain ⟨table, htable, hafter⟩ := setCorrections_eq_ok_iff.mp h
  exact setCorrections_eq_ok_iff.mpr
    ⟨table, htable.trans (storedRows_perm.mp hperm).symm, hafter⟩

/-! ## The stored table -/

/-- A set table is what the setter stored for some accepted list. -/
def HoldsAccepted (options : DistanceOptions F) : Prop :=
  options.mHaveCorrections = true → ∃ corrections, ∃ before : DistanceOptions F,
    ∃ after, (setCorrections corrections).call before = .ok after ∧
      after.mCorrections = options.mCorrections

theorem IsReachable.holdsAccepted {options : DistanceOptions F} (h : options.IsReachable) :
    options.HoldsAccepted := by
  refine h.invariant_of_atomic ?_ setter_atomic ?_
  · intro built hbuilt
    rw [hbuilt]
    exact fun hset => absurd hset Bool.false_ne_true
  · -- Only the setter of the corrections touches the table.
    intro setter before after _ _ hbefore hexec
    have hcall := Method.call_of_exec hexec
    cases setter with
    | interpolation interpolation =>
        obtain rfl : _ = after := Except.ok.inj hcall
        exact hbefore
    | type type =>
        obtain rfl : _ = after := Except.ok.inj hcall
        exact hbefore
    | datum datum =>
        obtain ⟨-, -, rfl⟩ := call_setDatum_eq_ok.mp hcall
        exact hbefore
    | corrections corrections =>
        exact fun _ => ⟨corrections, before, after, hcall, rfl⟩

/-- Where the distances are numbers, reachable options hold a usable table. -/
theorem IsReachable.exists_table {options : DistanceOptions F} (h : options.IsReachable)
    (hset : options.mHaveCorrections = true)
    (hfinite : ∀ item ∈ options.mCorrections, item.1.isFinite = true) :
    ∃ table : Table F, options.mCorrections = table.corrections := by
  obtain ⟨corrections, before, after, hcall, hsame⟩ := h.holdsAccepted hset
  have hperm : options.mCorrections.Perm corrections := by
    obtain ⟨-, -, hordered, -, rfl⟩ := call_setCorrections_eq_ok.mp hcall
    rw [← hsame]
    exact sortByDistance_perm hordered
  obtain ⟨rows, rfl⟩ := exists_storedRows fun item hitem =>
    hfinite item (hperm.mem_iff.mpr hitem)
  obtain ⟨table, -, rfl⟩ := setCorrections_eq_ok_iff.mp hcall
  exact ⟨table, hsame.symm⟩

end DistanceOptions

end Corrections
end ULocalMagnitude
