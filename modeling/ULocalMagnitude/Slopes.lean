import ULocalMagnitude.Interpolation

/-!
# Slopes and errors of the interpolant

How the piecewise linear interpolant moves with its argument and with its nodes.  Slopes
add up along the nodes: whatever bounds the slope between every two neighbours bounds it
between any two points of the interpolant.  An error in the values of the nodes is an error
of the same size of the interpolant.
-/

namespace ULocalMagnitude
namespace Interpolation

variable {F : Type} [Field F] [LinearOrder F] [IsStrictOrderedRing F] {gap : F}

/-! ## Slopes -/

/-- The slope from `p` to `q` is between the two bounds. -/
def Sloped (least greatest : F) (p q : F × F) : Prop :=
  least * (q.1 - p.1) ≤ q.2 - p.2 ∧ q.2 - p.2 ≤ greatest * (q.1 - p.1)

variable {least greatest : F}

omit [IsStrictOrderedRing F] in
theorem Sloped.refl (p : F × F) : Sloped least greatest p p := by
  unfold Sloped
  rw [sub_self, sub_self, mul_zero, mul_zero]
  exact ⟨le_rfl, le_rfl⟩

theorem Sloped.trans {p q r : F × F} (h : Sloped least greatest p q)
    (h' : Sloped least greatest q r) : Sloped least greatest p r := by
  have hkey : r.1 - p.1 = (q.1 - p.1) + (r.1 - q.1) := by ring
  have hvalue : r.2 - p.2 = (q.2 - p.2) + (r.2 - q.2) := by ring
  unfold Sloped
  rw [hkey, hvalue, mul_add, mul_add]
  exact ⟨add_le_add h.1 h'.1, add_le_add h.2 h'.2⟩

/-- Bounds for a slope bound how far the value is from where it was. -/
theorem Sloped.abs_sub_le {p q : F × F} {steepness : F}
    (h : Sloped (-steepness) steepness p q) : |q.2 - p.2| ≤ steepness * (q.1 - p.1) := by
  have hlower := h.1
  rw [neg_mul] at hlower
  exact abs_le.mpr ⟨hlower, h.2⟩

/-- A chord has the slope of its ends. -/
theorem chord_sloped {p q : F × F} (hpq : p.1 < q.1) (h : Sloped least greatest p q) {x y : F}
    (hxy : x ≤ y) :
    Sloped least greatest (x, chord p.1 p.2 q.1 q.2 x) (y, chord p.1 p.2 q.1 q.2 y) := by
  have hpos : 0 < q.1 - p.1 := sub_pos.mpr hpq
  have hrise : chord p.1 p.2 q.1 q.2 y - chord p.1 p.2 q.1 q.2 x =
      (q.2 - p.2) / (q.1 - p.1) * (y - x) := by
    unfold chord
    ring
  have hlower : least ≤ (q.2 - p.2) / (q.1 - p.1) := (le_div_iff₀ hpos).mpr h.1
  have hupper : (q.2 - p.2) / (q.1 - p.1) ≤ greatest := (div_le_iff₀ hpos).mpr h.2
  have hnonneg : 0 ≤ y - x := sub_nonneg.mpr hxy
  unfold Sloped
  dsimp only
  rw [hrise]
  exact ⟨mul_le_mul_of_nonneg_right hlower hnonneg, mul_le_mul_of_nonneg_right hupper hnonneg⟩

variable {nodes : List (F × F)}

/-- What bounds the slopes between neighbours bounds those between all nodes. -/
theorem sloped_of_le (h : nodes.IsChain (Sloped least greatest)) {i j : Nat} (hij : i ≤ j)
    (hj : j < nodes.length) : Sloped least greatest nodes[i] nodes[j] := by
  have htrans : IsTrans (F × F) (Sloped least greatest) := ⟨fun _ _ _ => Sloped.trans⟩
  rcases Nat.lt_or_eq_of_le hij with hlt | rfl
  · exact List.pairwise_iff_getElem.mp h.pairwise i j (by omega) hj hlt
  · exact .refl _

theorem segment_sloped (hgap : 0 < gap) (hspaced : Spaced Prod.fst gap nodes)
    (h : nodes.IsChain (Sloped least greatest)) {i : Nat} (hi : i + 1 < nodes.length) {x y : F}
    (hxy : x ≤ y) :
    Sloped least greatest (x, segment nodes i hi x) (y, segment nodes i hi y) :=
  chord_sloped (hspaced.lt_of_lt hgap (Nat.lt_succ_self i) hi)
    (sloped_of_le h (Nat.le_succ i) hi) hxy

/-- The interpolant climbs and falls no faster than its steepest segments. -/
theorem interpolant_sloped (hgap : 0 < gap) (hspaced : Spaced Prod.fst gap nodes)
    (h : nodes.IsChain (Sloped least greatest)) {i j : Nat} (hi : i + 1 < nodes.length)
    (hj : j + 1 < nodes.length) {x y : F} (hx : Brackets nodes x i) (hy : Brackets nodes y j)
    (hxy : x ≤ y) :
    Sloped least greatest (x, segment nodes i hi x) (y, segment nodes j hj y) := by
  obtain ⟨_, _, hright⟩ := id hx
  obtain ⟨_, hleft, _⟩ := id hy
  rcases Nat.lt_or_ge i j with hlt | hge
  · -- Up to the end of the segment of `x`, along the nodes, and into the segment of `y`.
    have hfirst := segment_sloped hgap hspaced h hi hright
    have hlast := segment_sloped hgap hspaced h hj hleft
    rw [segment_right hgap hspaced hi] at hfirst
    rw [segment_left hj] at hlast
    exact (hfirst.trans (sloped_of_le h hlt (by omega))).trans hlast
  · rcases Nat.lt_or_eq_of_le hge with hgt | rfl
    · -- The segment of `y` is the earlier one: then both points are the node in between.
      have hback : y ≤ x := by
        obtain ⟨_, _, hend⟩ := hy
        obtain ⟨_, hstart, _⟩ := hx
        exact (hend.trans (hspaced.le_of_le hgap hgt (by omega))).trans hstart
      obtain rfl := le_antisymm hxy hback
      rw [segment_eq_segment hgap hspaced hi hj hx hy]
      exact .refl _
    · exact segment_sloped hgap hspaced h hi hxy

/-! ## Errors of the nodes -/

/-- The node is at the same place and has the same value, up to an error. -/
def Near (error : F) (node node' : F × F) : Prop :=
  node'.1 = node.1 ∧ |node'.2 - node.2| ≤ error

variable {error : F}

omit [LinearOrder F] [IsStrictOrderedRing F] in
/-- The difference of two chords over the same ends is the chord of the differences. -/
theorem chord_sub_chord (x₀ y₀ y₀' x₁ y₁ y₁' x : F) :
    chord x₀ y₀' x₁ y₁' x - chord x₀ y₀ x₁ y₁ x = chord x₀ (y₀' - y₀) x₁ (y₁' - y₁) x := by
  unfold chord
  ring

theorem abs_chord_sub_le {x₀ y₀ y₀' x₁ y₁ y₁' x : F} (h : x₀ < x₁) (hleft : x₀ ≤ x)
    (hright : x ≤ x₁) (h₀ : |y₀' - y₀| ≤ error) (h₁ : |y₁' - y₁| ≤ error) :
    |chord x₀ y₀' x₁ y₁' x - chord x₀ y₀ x₁ y₁ x| ≤ error := by
  obtain ⟨hlower, hupper⟩ := chord_mem (y₀' - y₀) (y₁' - y₁) h hleft hright
  rw [abs_le] at h₀ h₁
  rw [chord_sub_chord, abs_le]
  exact ⟨(le_min h₀.1 h₁.1).trans hlower, hupper.trans (max_le h₀.2 h₁.2)⟩

variable {nodes' : List (F × F)}

omit [IsStrictOrderedRing F] in
theorem near_getElem (h : List.Forall₂ (Near error) nodes nodes') {i : Nat}
    (hi : i < nodes.length) (hi' : i < nodes'.length) : Near error nodes[i] nodes'[i] :=
  h.get hi hi'

/-- The interpolants of nodes that are near are near everywhere. -/
theorem abs_segment_sub_le (hgap : 0 < gap) (hspaced : Spaced Prod.fst gap nodes)
    (h : List.Forall₂ (Near error) nodes nodes') {i : Nat} (hi : i + 1 < nodes.length)
    (hi' : i + 1 < nodes'.length) {x : F} (hx : Brackets nodes x i) :
    |segment nodes' i hi' x - segment nodes i hi x| ≤ error := by
  obtain ⟨_, hleft, hright⟩ := hx
  obtain ⟨hkey, hvalue⟩ := near_getElem h (i := i) (by omega) (by omega)
  obtain ⟨hkey', hvalue'⟩ := near_getElem h hi hi'
  unfold segment
  rw [hkey, hkey']
  exact abs_chord_sub_le (hspaced.lt_of_lt hgap (Nat.lt_succ_self i) hi) hleft hright hvalue
    hvalue'

omit [IsStrictOrderedRing F] in
/-- They have their segments at the same places. -/
theorem brackets_near (h : List.Forall₂ (Near error) nodes nodes') {x : F} {i : Nat}
    (hx : Brackets nodes x i) : Brackets nodes' x i := by
  obtain ⟨hi, hleft, hright⟩ := hx
  have hi' : i + 1 < nodes'.length := h.length_eq ▸ hi
  refine ⟨hi', ?_, ?_⟩
  · rw [(near_getElem h (i := i) (by omega) (by omega)).1]
    exact hleft
  · rw [(near_getElem h hi hi').1]
    exact hright

end Interpolation
end ULocalMagnitude
