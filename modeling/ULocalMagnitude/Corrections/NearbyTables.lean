import ULocalMagnitude.Corrections.Lookup
import ULocalMagnitude.Slopes

/-!
# Tables that are nearly the same

Lookups at one distance in two tables whose rows are at the same distances, and lookups at
two distances in one table.  Either way both lookups fail alike, or both give numbers, and
these are no farther apart than the corrections of the rows, or than the steepest segment
allows.
-/

namespace ULocalMagnitude
namespace Corrections
namespace Distance

open Cxx
open Interpolation (Brackets Near Sloped abs_segment_sub_le brackets_near exists_brackets
  interpolant_sloped segment)

variable {F : Type} [ExactArithmetic F] {distance distance' : Distance F}
  {nodes nodes' : List (F × F)}

/-- The rows of the table are numbers. -/
def HasNodes (distance : Distance F) (nodes : List (F × F)) : Prop :=
  distance.mDistanceOptions.mCorrections =
    nodes.map fun node => (.finite node.1, .finite node.2)

theorem IsReachable.exists_table (h : distance.IsReachable) (hnodes : distance.HasNodes nodes) :
    ∃ table, distance.Holds table ∧
      table.rows = nodes.map fun node => (node.1, .finite node.2) := by
  have hfinite : ∀ item ∈ distance.mDistanceOptions.mCorrections,
      item.1.isFinite = true := by
    rw [hnodes, List.forall_mem_map]
    exact fun _ _ => rfl
  obtain ⟨table, htable⟩ := h.exists_holds hfinite
  refine ⟨table, htable, List.map_injective_iff.mpr storedRow_injective ?_⟩
  rw [List.map_map]
  exact htable.corrections.symm.trans hnodes

/-- The ends of the table are those of the nodes. -/
theorem IsReachable.limits (h : distance.IsReachable) (hnodes : distance.HasNodes nodes) :
    nodes.head?.map (fun node => Double.finite node.1) = some distance.mMinimumDistance ∧
      nodes.getLast?.map (fun node => Double.finite node.1) =
        some distance.mMaximumDistance := by
  obtain ⟨table, htable, hrows⟩ := h.exists_table hnodes
  have hhead : nodes.head?.map (fun node => Double.finite node.1) =
      table.rows.head?.map fun row => Double.finite row.1 := by
    rw [hrows, List.head?_map, Option.map_map]
    rfl
  have hlast : nodes.getLast?.map (fun node => Double.finite node.1) =
      table.rows.getLast?.map fun row => Double.finite row.1 := by
    rw [hrows, List.getLast?_map, Option.map_map]
    rfl
  rw [hhead, hlast, htable.minimum, htable.maximum, List.head?_eq_some_head table.nonempty,
    List.getLast?_eq_some_getLast table.nonempty]
  exact ⟨rfl, rfl⟩

/-! ## Two tables -/

/-- Tables that are read in the same way, with rows at the same distances and corrections
that differ by no more than the error. -/
structure NearbyTables (error : F) (distance distance' : Distance F) : Prop where
  type : distance'.mDistanceOptions.mType = distance.mDistanceOptions.mType
  interpolation : distance'.mDistanceOptions.mInterpolation =
    distance.mDistanceOptions.mInterpolation
  datum : distance'.mDistanceOptions.mDatum = distance.mDistanceOptions.mDatum
  nodes : ∃ nodes nodes', distance.HasNodes nodes ∧ distance'.HasNodes nodes' ∧
    List.Forall₂ (Near error) nodes nodes'

variable {error : F}

theorem NearbyTables.lookupDistance_eq (h : NearbyTables error distance distance')
    (epicentralDistance sourceDepth : Double F) :
    distance'.lookupDistance epicentralDistance sourceDepth =
      distance.lookupDistance epicentralDistance sourceDepth := by
  unfold Distance.lookupDistance DistanceOptions.getDatum
  rw [h.type, h.datum]

theorem keys_near (h : List.Forall₂ (Near error) nodes nodes') :
    nodes'.map (fun node => Double.finite node.1) =
      nodes.map fun node => Double.finite node.1 := by
  induction h with
  | nil => rfl
  | cons hnode _ ih => rw [List.map_cons, List.map_cons, hnode.1, ih]

/-- Two answers at a distance: the same error code, or two numbers that the relation holds
for. -/
inductive AnswersRelated (related : F → F → Prop) :
    Throws (Except ErrorCode (Double F)) → Throws (Except ErrorCode (Double F)) → Prop
  | error (code : ErrorCode) : AnswersRelated related (.ok (.error code)) (.ok (.error code))
  | number {y y' : F} (h : related y y') :
      AnswersRelated related (.ok (.ok (.finite y))) (.ok (.ok (.finite y')))

omit [ExactArithmetic F] in
theorem AnswersRelated.imp {related related' : F → F → Prop}
    {answer answer' : Throws (Except ErrorCode (Double F))}
    (h : AnswersRelated related answer answer') (himp : ∀ y y', related y y' → related' y y') :
    AnswersRelated related' answer answer' := by
  cases h with
  | error code => exact .error code
  | number h => exact .number (himp _ _ h)

/-! ## What a table of numbers answers -/

section Answers

variable (h : distance.IsReachable) (hnodes : distance.HasNodes nodes)

include h hnodes

theorem IsReachable.holdsNodes : distance.HoldsNodes nodes := by
  obtain ⟨table, htable, hrows⟩ := h.exists_table hnodes
  exact htable.holdsNodes hrows

/-- In reach of the table there is a row before the distance and one behind it. -/
theorem IsReachable.between {x : F} (hclose : ¬ Double.finite x < distance.mMinimumDistance)
    (hfar : ¬ Double.finite x > distance.mMaximumDistance) :
    (∃ node ∈ nodes, node.1 ≤ x) ∧ ∃ node ∈ nodes, x ≤ node.1 := by
  obtain ⟨hhead, hlast⟩ := h.limits hnodes
  obtain ⟨first, hfirst, hminimum⟩ := Option.map_eq_some_iff.mp hhead
  obtain ⟨last, hlast, hmaximum⟩ := Option.map_eq_some_iff.mp hlast
  rw [← hminimum, Double.finite_lt_finite, not_lt] at hclose
  rw [gt_iff_lt, ← hmaximum, Double.finite_lt_finite, not_lt] at hfar
  exact ⟨⟨first, List.mem_of_mem_head? hfirst, hclose⟩,
    ⟨last, List.mem_of_getLast? hlast, hfar⟩⟩

/-- The nearest-neighbour lookup gives the correction of one node. -/
theorem IsReachable.interpolate_nearest
    (hnearest : distance.mDistanceOptions.mInterpolation = .nearest) (x : Double F) :
    ∃ hk : nearestRow distance.mAbsissas x < nodes.length,
      distance.interpolate x = .ok (.finite nodes[nearestRow distance.mAbsissas x].2) := by
  have hholds := h.holdsNodes hnodes
  have hk : nearestRow distance.mAbsissas x < nodes.length := by
    rw [← hholds.length_absissas]
    exact nearestRow_lt x h.inv.length_pos
  refine ⟨hk, ?_⟩
  rw [h.inv.interpolate_eq, if_pos hnearest,
    interpolateNearest_eq x h.inv.length_eq h.inv.length_pos, hholds.readAt_values hk]

/-- The linear lookup gives the value of each segment around the distance, and that of a
node at the distance. -/
theorem IsReachable.exists_interpolate_linear
    (hlinear : distance.mDistanceOptions.mInterpolation ≠ .nearest) {x : F}
    (hclose : ¬ Double.finite x < distance.mMinimumDistance)
    (hfar : ¬ Double.finite x > distance.mMaximumDistance) :
    ∃ y, distance.interpolate (.finite x) = .ok (.finite y) ∧
      (∀ i, ∀ hi : i + 1 < nodes.length, Brackets nodes x i → y = segment nodes i hi x) ∧
      ∀ node ∈ nodes, node.1 = x → y = node.2 := by
  obtain ⟨hleft, hright⟩ := h.between hnodes hclose hfar
  rw [h.inv.interpolate_eq, if_neg hlinear]
  exact (h.holdsNodes hnodes).exists_interpolateLinearly hleft hright

/-- In reach of a table with a single row the distance is that of the row. -/
theorem IsReachable.eq_of_single {x : F} (hone : ¬ 1 < nodes.length)
    (hclose : ¬ Double.finite x < distance.mMinimumDistance)
    (hfar : ¬ Double.finite x > distance.mMaximumDistance) :
    ∃ node, nodes = [node] ∧ node.1 = x := by
  obtain ⟨⟨before, hbefore, hleft⟩, ⟨behind, hbehind, hright⟩⟩ := h.between hnodes hclose hfar
  have hlength : nodes.length = 1 := by
    have hpos := List.length_pos_of_mem hbefore
    omega
  obtain ⟨node, rfl⟩ := List.length_eq_one_iff.mp hlength
  obtain rfl := List.mem_singleton.mp hbefore
  obtain rfl := List.mem_singleton.mp hbehind
  exact ⟨behind, rfl, le_antisymm hleft hright⟩

end Answers

/-! ## Lookups in two tables -/

section Two

variable (h : distance.IsReachable) (h' : distance'.IsReachable)
  (hnodes : distance.HasNodes nodes) (hnodes' : distance'.HasNodes nodes')
  (hnear : List.Forall₂ (Near error) nodes nodes')

include h h' hnodes hnodes' hnear

/-- The tables have the same ends, and the searches in them end at the same row. -/
theorem same_distances : distance'.mAbsissas = distance.mAbsissas ∧
    distance'.mMinimumDistance = distance.mMinimumDistance ∧
      distance'.mMaximumDistance = distance.mMaximumDistance := by
  have hkeys := keys_near hnear
  obtain ⟨hhead, hlast⟩ := h.limits hnodes
  obtain ⟨hhead', hlast'⟩ := h'.limits hnodes'
  rw [← List.head?_map] at hhead hhead'
  rw [← List.getLast?_map] at hlast hlast'
  rw [hkeys] at hhead' hlast'
  refine ⟨?_, Option.some.inj (hhead'.symm.trans hhead),
    Option.some.inj (hlast'.symm.trans hlast)⟩
  rw [(h'.holdsNodes hnodes').absissas, (h.holdsNodes hnodes).absissas, hkeys]

/-- In reach of the tables both lookups give numbers, up to the error the same. -/
theorem interpolate_near
    (hmode : distance'.mDistanceOptions.mInterpolation =
      distance.mDistanceOptions.mInterpolation) {x : F}
    (hclose : ¬ Double.finite x < distance.mMinimumDistance)
    (hfar : ¬ Double.finite x > distance.mMaximumDistance) :
    ∃ y y', distance.interpolate (.finite x) = .ok (.finite y) ∧
      distance'.interpolate (.finite x) = .ok (.finite y') ∧ |y' - y| ≤ error := by
  obtain ⟨habsissas, hminimum, hmaximum⟩ := same_distances h h' hnodes hnodes' hnear
  by_cases hnearest : distance.mDistanceOptions.mInterpolation = .nearest
  · obtain ⟨hk, hlookup⟩ := h.interpolate_nearest hnodes hnearest (.finite x)
    obtain ⟨hk', hlookup'⟩ := h'.interpolate_nearest hnodes' (hmode.trans hnearest) (.finite x)
    refine ⟨_, _, hlookup, hlookup', ?_⟩
    simp only [habsissas]
    rw [habsissas] at hk'
    exact (Interpolation.near_getElem hnear hk hk').2
  · have hlinear' : distance'.mDistanceOptions.mInterpolation ≠ .nearest := hmode ▸ hnearest
    obtain ⟨y, hlookup, hsegments, hends⟩ :=
      h.exists_interpolate_linear hnodes hnearest hclose hfar
    obtain ⟨y', hlookup', hsegments', hends'⟩ :=
      h'.exists_interpolate_linear hnodes' hlinear' (hminimum ▸ hclose) (hmaximum ▸ hfar)
    refine ⟨y, y', hlookup, hlookup', ?_⟩
    by_cases hone : 1 < nodes.length
    · obtain ⟨hleft, hright⟩ := h.between hnodes hclose hfar
      obtain ⟨i, hbrackets⟩ :=
        exists_brackets tol_pos (h.holdsNodes hnodes).spaced hone hleft hright
      have hbrackets' := brackets_near hnear hbrackets
      obtain ⟨hi, -⟩ := id hbrackets
      obtain ⟨hi', -⟩ := id hbrackets'
      rw [hsegments i hi hbrackets, hsegments' i hi' hbrackets']
      exact abs_segment_sub_le tol_pos (h.holdsNodes hnodes).spaced hnear hi hi' hbrackets
    · obtain ⟨node, rfl, hx⟩ := h.eq_of_single hnodes hone hclose hfar
      cases hnear with
      | cons hnode hrest =>
          cases hrest
          rw [hends _ List.mem_cons_self hx,
            hends' _ List.mem_cons_self (hnode.1.trans hx)]
          exact hnode.2

end Two

theorem NearbyTables.apply (hnearby : NearbyTables error distance distance')
    (h : distance.IsReachable) (h' : distance'.IsReachable) {x : F} (hx : 0 ≤ x) :
    AnswersRelated (fun y y' => |y' - y| ≤ error) (distance.apply (.finite x))
      (distance'.apply (.finite x)) := by
  obtain ⟨nodes, nodes', hnodes, hnodes', hnear⟩ := hnearby.nodes
  obtain ⟨-, hminimum, hmaximum⟩ := same_distances h h' hnodes hnodes' hnear
  have hnonneg : ¬ Double.finite x < .finite 0 := not_lt.mpr hx
  rw [apply_eq h.inv hnonneg, apply_eq h'.inv hnonneg, hminimum, hmaximum]
  by_cases hclose : Double.finite x < distance.mMinimumDistance
  · rw [if_pos hclose, if_pos hclose]
    exact .error _
  by_cases hfar : Double.finite x > distance.mMaximumDistance
  · rw [if_neg hclose, if_neg hclose, if_pos hfar, if_pos hfar]
    exact .error _
  rw [if_neg hclose, if_neg hclose, if_neg hfar, if_neg hfar]
  obtain ⟨y, y', hlookup, hlookup', hwithin⟩ :=
    interpolate_near h h' hnodes hnodes' hnear hnearby.interpolation hclose hfar
  rw [hlookup, hlookup']
  exact .number hwithin

/-! ## Lookups at two distances -/

/-- Between two distances in reach of a linear table the correction changes by no less and
no more than the slopes of the table allow. -/
theorem IsReachable.apply_sloped (h : distance.IsReachable) (hnodes : distance.HasNodes nodes)
    (hlinear : distance.mDistanceOptions.mInterpolation ≠ .nearest) {least greatest : F}
    (hslopes : nodes.IsChain (Sloped least greatest)) {x x' : F} (hx : 0 ≤ x)
    (hle : x ≤ x') (hclose : ¬ Double.finite x < distance.mMinimumDistance)
    (hfar : ¬ Double.finite x' > distance.mMaximumDistance) :
    ∃ y y', distance.apply (.finite x) = .ok (.ok (.finite y)) ∧
      distance.apply (.finite x') = .ok (.ok (.finite y')) ∧
        Sloped least greatest (x, y) (x', y') := by
  obtain ⟨hhead, hlast⟩ := h.limits hnodes
  obtain ⟨first, -, hminimum⟩ := Option.map_eq_some_iff.mp hhead
  obtain ⟨last, -, hmaximum⟩ := Option.map_eq_some_iff.mp hlast
  have hclose' : ¬ Double.finite x' < distance.mMinimumDistance := by
    rw [← hminimum, Double.finite_lt_finite, not_lt] at hclose ⊢
    exact hclose.trans hle
  have hfar' : ¬ Double.finite x > distance.mMaximumDistance := by
    rw [gt_iff_lt, ← hmaximum, Double.finite_lt_finite, not_lt] at hfar ⊢
    exact hle.trans hfar
  obtain ⟨y, hlookup, hsegments, hends⟩ :=
    h.exists_interpolate_linear hnodes hlinear hclose hfar'
  obtain ⟨y', hlookup', hsegments', hends'⟩ :=
    h.exists_interpolate_linear hnodes hlinear hclose' hfar
  refine ⟨y, y', ?_, ?_, ?_⟩
  · rw [apply_eq h.inv (not_lt.mpr hx), if_neg hclose, if_neg hfar', hlookup]
    rfl
  · rw [apply_eq h.inv (not_lt.mpr (hx.trans hle)), if_neg hclose', if_neg hfar, hlookup']
    rfl
  · by_cases hone : 1 < nodes.length
    · have hspaced := (h.holdsNodes hnodes).spaced
      obtain ⟨hleft, hright⟩ := h.between hnodes hclose hfar'
      obtain ⟨hleft', hright'⟩ := h.between hnodes hclose' hfar
      obtain ⟨i, hbrackets⟩ := exists_brackets tol_pos hspaced hone hleft hright
      obtain ⟨j, hbrackets'⟩ := exists_brackets tol_pos hspaced hone hleft' hright'
      obtain ⟨hi, -⟩ := id hbrackets
      obtain ⟨hj, -⟩ := id hbrackets'
      rw [hsegments i hi hbrackets, hsegments' j hj hbrackets']
      exact interpolant_sloped tol_pos hspaced hslopes hi hj hbrackets hbrackets' hle
    · obtain ⟨node, rfl, rfl⟩ := h.eq_of_single hnodes hone hclose hfar'
      obtain ⟨same, hsame, rfl⟩ := h.eq_of_single hnodes hone hclose' hfar
      obtain rfl := List.singleton_inj.mp hsame
      rw [hends _ List.mem_cons_self rfl, hends' _ List.mem_cons_self rfl]
      exact .refl _

end Distance
end Corrections
end ULocalMagnitude
