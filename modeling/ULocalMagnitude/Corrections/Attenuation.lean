import ULocalMagnitude.Corrections.NearbyTables
import ULocalMagnitude.Richter

/-!
# The table of a network

An object for distance corrections that has the table of a network answers at every
distance what the network has there: `Realizes.apply_eq`.
-/

namespace ULocalMagnitude
namespace Corrections
namespace Distance

open Cxx
open Interpolation (Brackets IsNearest exists_brackets)
open Richter (Attenuation Mode Network interpolated_eq_segment nearestValue_eq)

variable {F : Type} [ExactArithmetic F] {N : Type} {distance : Distance F}
  {network : Network N F}

/-- The interpolation that reads a table in this way. -/
def interpolationOf : Mode → DistanceOptions.Interpolation
  | .nearest => .nearest
  | .linear => .linear

/-- What the object answers for what the table has. -/
def answerOf : Attenuation F → Except ErrorCode (Double F)
  | .tooClose => .error .stationTooClose
  | .tooFar => .error .stationTooFar
  | .value y => .ok (.finite y)

/-- The object has the table of the network and reads it at the distances of the network. -/
structure Realizes (distance : Distance F) (network : Network N F) : Prop where
  nodes : distance.HasNodes network.nodes
  mode : distance.mDistanceOptions.mInterpolation = interpolationOf network.mode
  type : distance.mDistanceOptions.mType = .hypocentral ↔ network.datum.isSome = true
  datum : ∀ datum ∈ network.datum, distance.mDistanceOptions.mDatum = .finite datum

theorem isNearest_map {nodes : List (F × F)} {x : F} {i : Nat}
    (h : IsNearest Prod.fst (nodes.map fun node => (node.1, Double.finite node.2)) x i) :
    IsNearest Prod.fst nodes x i := by
  obtain ⟨hi, hminimal⟩ := h
  rw [List.length_map] at hi
  refine ⟨hi, fun j hj => ?_⟩
  have hnode := hminimal j (by rwa [List.length_map])
  rw [List.getElem_map, List.getElem_map] at hnode
  exact hnode

/-- Between the ends of the table the object has the value of the network. -/
theorem Realizes.interpolate_eq (h : distance.Realizes network) (hreachable : distance.IsReachable)
    {x : F} (hclose : ¬ Double.finite x < distance.mMinimumDistance)
    (hfar : ¬ Double.finite x > distance.mMaximumDistance) :
    distance.interpolate (.finite x) =
      .ok (.finite (network.mode.valueAt network.nodes x)) := by
  obtain ⟨hleft, hright⟩ := hreachable.between h.nodes hclose hfar
  have hspaced := (hreachable.holdsNodes h.nodes).spaced
  have hmode := h.mode
  cases hreads : network.mode with
  | nearest =>
      rw [hreads] at hmode
      obtain ⟨hk, hlookup⟩ := hreachable.interpolate_nearest h.nodes hmode (.finite x)
      obtain ⟨table, htable, hrows⟩ := hreachable.exists_table h.nodes
      have hnearest := htable.isNearest_nearestRow (x := x) (by simpa [hrows] using hright)
      rw [hrows] at hnearest
      rw [hlookup]
      show _ = Except.ok (Double.finite (Richter.nearestValue network.nodes x))
      rw [nearestValue_eq tol_pos hspaced hk (isNearest_map hnearest)]
  | linear =>
      rw [hreads] at hmode
      have hlinear : distance.mDistanceOptions.mInterpolation ≠ .nearest := by
        rw [hmode]
        exact nofun
      obtain ⟨y, hlookup, hsegments, hends⟩ :=
        hreachable.exists_interpolate_linear h.nodes hlinear hclose hfar
      rw [hlookup]
      show _ = Except.ok (Double.finite (Richter.interpolated network.nodes x))
      by_cases hone : 1 < network.nodes.length
      · obtain ⟨i, hbrackets⟩ := exists_brackets tol_pos hspaced hone hleft hright
        obtain ⟨hi, -⟩ := id hbrackets
        rw [hsegments i hi hbrackets, interpolated_eq_segment tol_pos hspaced hi hbrackets]
      · obtain ⟨node, hnodes, hx⟩ := hreachable.eq_of_single h.nodes hone hclose hfar
        rw [hends node (by simp [hnodes]) hx, hnodes]
        rfl

/-- At every distance the object answers what the network has there. -/
theorem Realizes.apply_eq (h : distance.Realizes network) (hreachable : distance.IsReachable)
    {x : F} (hx : 0 ≤ x) :
    distance.apply (.finite x) = .ok (answerOf (network.attenuation x)) := by
  obtain ⟨hhead, hlast⟩ := hreachable.limits h.nodes
  obtain ⟨first, hfirst, hminimum⟩ := Option.map_eq_some_iff.mp hhead
  obtain ⟨last, hlast, hmaximum⟩ := Option.map_eq_some_iff.mp hlast
  rw [Distance.apply_eq hreachable.inv (not_lt.mpr hx)]
  by_cases hclose : Double.finite x < distance.mMinimumDistance
  · have hbefore : ∀ node ∈ network.nodes, x < node.1 := by
      rw [← hminimum, Double.finite_lt_finite] at hclose
      obtain ⟨rest, hrest⟩ := List.head?_eq_some_iff.mp hfirst
      have hincreasing := network.increasing
      rw [hrest] at hincreasing ⊢
      exact List.forall_mem_cons.mpr ⟨hclose, fun node hnode =>
        hclose.trans ((List.pairwise_cons.mp hincreasing).1 node hnode)⟩
    rw [if_pos hclose, network.attenuation_tooClose hbefore]
    rfl
  rw [if_neg hclose]
  by_cases hfar : Double.finite x > distance.mMaximumDistance
  · have hbehind : ∀ node ∈ network.nodes, node.1 < x := by
      rw [gt_iff_lt, ← hmaximum, Double.finite_lt_finite] at hfar
      obtain ⟨before, hbefore⟩ := List.getLast?_eq_some_iff.mp hlast
      have hincreasing := network.increasing
      rw [hbefore] at hincreasing ⊢
      intro node hnode
      rcases List.mem_append.mp hnode with hnode | hnode
      · exact ((List.pairwise_append.mp hincreasing).2.2 node hnode last
          (List.mem_singleton_self last)).trans hfar
      · rwa [List.mem_singleton.mp hnode]
    rw [if_pos hfar, network.attenuation_tooFar hbehind]
    rfl
  · obtain ⟨hleft, hright⟩ := hreachable.between h.nodes hclose hfar
    rw [if_neg hfar, h.interpolate_eq hreachable hclose hfar,
      network.attenuation_value hleft hright]
    rfl

/-- The table is read where the network reads it. -/
theorem Realizes.lookupDistance_eq (h : distance.Realizes network) {epicentralDistance : F}
    (station : N) (amplitude : F) {sourceDepth : Double F}
    (hdepth : distance.mDistanceOptions.mType = .hypocentral →
      sourceDepth = .finite sourceDepth.val) :
    distance.lookupDistance (.finite epicentralDistance) sourceDepth =
      .finite (network.distanceOf Arithmetic.hypot
        { station, amplitude, epicentralDistance, depth := sourceDepth.val }) := by
  unfold lookupDistance DistanceOptions.getDatum Richter.Network.distanceOf
  cases hdatum : network.datum with
  | some datum =>
      have htype := h.type.mpr (by rw [hdatum]; rfl)
      rw [if_pos htype, h.datum datum hdatum, hdepth htype, Double.neg_finite,
        Double.finite_sub_finite, Double.hypot_finite]
      rfl
  | none =>
      have htype : distance.mDistanceOptions.mType ≠ .hypocentral := by
        intro htype
        have hsome := h.type.mp htype
        rw [hdatum] at hsome
        exact absurd hsome Bool.false_ne_true
      rw [if_neg htype]

end Distance
end Corrections
end ULocalMagnitude
