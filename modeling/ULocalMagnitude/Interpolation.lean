import Mathlib.Algebra.Order.Field.Basic
import Mathlib.Algebra.Order.Group.Abs
import Mathlib.Data.List.Sort
import Mathlib.Tactic.Linarith
import Mathlib.Tactic.Ring
import Mathlib.Tactic.FieldSimp

/-!
# Spaced nodes and interpolation

A list of rows with keys in an ordered field.  `Spaced` says that the keys increase
by at least a gap from every row to every later one; it is what remains of a list
whose entries are pairwise far apart once the list is sorted, and comparing
neighbours is enough to find it out.

On spaced nodes two local rules have a global meaning: the closer one of the two
nodes around a point is the closest of all, and the chord through them is the
piecewise linear interpolant.
-/

namespace ULocalMagnitude
namespace Interpolation

variable {α F : Type} [Field F]

/-! ## Chords -/

/-- The line through `(x₀, y₀)` and `(x₁, y₁)` at `x`. -/
def chord (x₀ y₀ x₁ y₁ x : F) : F := y₀ + (x - x₀) * (y₁ - y₀) / (x₁ - x₀)

theorem chord_left (x₀ y₀ x₁ y₁ : F) : chord x₀ y₀ x₁ y₁ x₀ = y₀ := by
  simp [chord]

variable [LinearOrder F] [IsStrictOrderedRing F]

theorem chord_right {x₀ x₁ : F} (y₀ y₁ : F) (h : x₀ < x₁) :
    chord x₀ y₀ x₁ y₁ x₁ = y₁ := by
  have hne : x₁ - x₀ ≠ 0 := (sub_pos.mpr h).ne'
  rw [chord, mul_comm, mul_div_assoc, div_self hne]
  ring

/-- A chord as the mean of its ends with the weights of the two distances. -/
theorem chord_eq_mean {x₀ x₁ : F} (y₀ y₁ x : F) (h : x₀ < x₁) :
    chord x₀ y₀ x₁ y₁ x = (x₁ - x) / (x₁ - x₀) * y₀ + (x - x₀) / (x₁ - x₀) * y₁ := by
  have hne : x₁ - x₀ ≠ 0 := (sub_pos.mpr h).ne'
  rw [chord]
  field_simp
  ring

/-- Between its nodes a chord stays between their values. -/
theorem chord_mem {x₀ x₁ x : F} (y₀ y₁ : F) (h : x₀ < x₁) (hleft : x₀ ≤ x) (hright : x ≤ x₁) :
    min y₀ y₁ ≤ chord x₀ y₀ x₁ y₁ x ∧ chord x₀ y₀ x₁ y₁ x ≤ max y₀ y₁ := by
  have hpos : 0 < x₁ - x₀ := sub_pos.mpr h
  have hweight₀ : 0 ≤ (x₁ - x) / (x₁ - x₀) := div_nonneg (sub_nonneg.mpr hright) hpos.le
  have hweight₁ : 0 ≤ (x - x₀) / (x₁ - x₀) := div_nonneg (sub_nonneg.mpr hleft) hpos.le
  have hsum : (x₁ - x) / (x₁ - x₀) + (x - x₀) / (x₁ - x₀) = 1 := by
    rw [← add_div, sub_add_sub_cancel, div_self hpos.ne']
  rw [chord_eq_mean y₀ y₁ x h]
  constructor
  · calc min y₀ y₁ = ((x₁ - x) / (x₁ - x₀) + (x - x₀) / (x₁ - x₀)) * min y₀ y₁ := by
          rw [hsum, one_mul]
      _ = (x₁ - x) / (x₁ - x₀) * min y₀ y₁ + (x - x₀) / (x₁ - x₀) * min y₀ y₁ :=
          add_mul _ _ _
      _ ≤ _ := add_le_add (mul_le_mul_of_nonneg_left (min_le_left _ _) hweight₀)
          (mul_le_mul_of_nonneg_left (min_le_right _ _) hweight₁)
  · calc (x₁ - x) / (x₁ - x₀) * y₀ + (x - x₀) / (x₁ - x₀) * y₁
          ≤ (x₁ - x) / (x₁ - x₀) * max y₀ y₁ + (x - x₀) / (x₁ - x₀) * max y₀ y₁ :=
          add_le_add (mul_le_mul_of_nonneg_left (le_max_left _ _) hweight₀)
            (mul_le_mul_of_nonneg_left (le_max_right _ _) hweight₁)
      _ = ((x₁ - x) / (x₁ - x₀) + (x - x₀) / (x₁ - x₀)) * max y₀ y₁ := (add_mul _ _ _).symm
      _ = max y₀ y₁ := by rw [hsum, one_mul]

/-! ## Spaced rows -/

/-- Every two rows have keys at least `gap` apart. -/
def Separated (key : α → F) (gap : F) (rows : List α) : Prop :=
  rows.Pairwise fun a b => gap ≤ |key a - key b|

/-- The keys increase by at least `gap`. -/
def Spaced (key : α → F) (gap : F) (rows : List α) : Prop :=
  rows.Pairwise fun a b => key a + gap ≤ key b

variable {key : α → F} {gap : F} {rows rows' : List α}

omit [IsStrictOrderedRing F] in
/-- Being far apart does not depend on the order of the rows. -/
theorem separated_perm (h : rows.Perm rows') :
    Separated key gap rows ↔ Separated key gap rows' := by
  refine h.pairwise_iff ?_
  intro a b hab
  rwa [abs_sub_comm]

theorem gap_le_abs_iff {a b : F} (h : a ≤ b) : gap ≤ |a - b| ↔ a + gap ≤ b := by
  rw [abs_sub_comm, abs_of_nonneg (sub_nonneg.mpr h), le_sub_iff_add_le, add_comm]

theorem Spaced.sorted (hgap : 0 ≤ gap) (h : Spaced key gap rows) :
    rows.Pairwise fun a b => key a ≤ key b :=
  List.Pairwise.imp (fun hab => (le_add_of_nonneg_right hgap).trans hab) h

/-- In a sorted list far apart means spaced. -/
theorem spaced_iff_separated (hsorted : rows.Pairwise fun a b => key a ≤ key b) :
    Spaced key gap rows ↔ Separated key gap rows := by
  constructor
  · intro h
    exact (hsorted.and h).imp fun hab => (gap_le_abs_iff hab.1).mpr hab.2
  · intro h
    exact (hsorted.and h).imp fun hab => (gap_le_abs_iff hab.1).mp hab.2

/-- In a sorted list it is enough to compare neighbours. -/
theorem isChain_iff_spaced (hgap : 0 ≤ gap)
    (hsorted : rows.Pairwise fun a b => key a ≤ key b) :
    rows.IsChain (fun a b => gap ≤ |key a - key b|) ↔ Spaced key gap rows := by
  -- Absolute differences are not transitive; increasing by a gap is.
  have htrans : IsTrans α fun a b => key a + gap ≤ key b :=
    ⟨fun a b c hab hbc => hab.trans ((le_add_of_nonneg_right hgap).trans hbc)⟩
  constructor
  · intro h
    have hneighbours : rows.IsChain fun a b => key a + gap ≤ key b := by
      rw [List.isChain_iff_getElem] at h ⊢
      intro i hi
      have hle := List.pairwise_iff_getElem.mp hsorted i (i + 1) (by omega) hi (by omega)
      exact (gap_le_abs_iff hle).mp (h i hi)
    exact hneighbours.pairwise
  · intro h
    exact ((spaced_iff_separated hsorted).mp h).isChain

/-- There is one spaced order of the rows. -/
theorem Spaced.eq_of_perm (hgap : 0 < gap) (h : Spaced key gap rows)
    (h' : Spaced key gap rows') (hperm : rows.Perm rows') : rows = rows' := by
  refine hperm.eq_of_pairwise ?_ h h'
  -- No two rows can be in front of each other.
  intro a b _ _ hab hba
  exfalso
  linarith

/-- Later rows have greater keys. -/
theorem Spaced.lt_of_lt (hgap : 0 < gap) (h : Spaced key gap rows) {i j : Nat}
    (hij : i < j) (hj : j < rows.length) : key rows[i] < key rows[j] := by
  have hspaced := List.pairwise_iff_getElem.mp h i j (by omega) hj hij
  linarith

theorem Spaced.le_of_le (hgap : 0 < gap) (h : Spaced key gap rows) {i j : Nat}
    (hij : i ≤ j) (hj : j < rows.length) : key rows[i] ≤ key rows[j] := by
  rcases Nat.lt_or_eq_of_le hij with hlt | heq
  · exact (h.lt_of_lt hgap hlt hj).le
  · subst heq
    exact le_rfl

theorem Spaced.head_le (hgap : 0 < gap) (h : Spaced key gap rows) (hrows : rows ≠ [])
    {row : α} (hrow : row ∈ rows) : key (rows.head hrows) ≤ key row := by
  obtain ⟨i, hi, rfl⟩ := List.getElem_of_mem hrow
  rw [List.head_eq_getElem]
  exact h.le_of_le hgap (Nat.zero_le i) hi

theorem Spaced.le_getLast (hgap : 0 < gap) (h : Spaced key gap rows) (hrows : rows ≠ [])
    {row : α} (hrow : row ∈ rows) : key row ≤ key (rows.getLast hrows) := by
  obtain ⟨i, hi, rfl⟩ := List.getElem_of_mem hrow
  rw [List.getLast_eq_getElem]
  exact h.le_of_le hgap (by omega) (by omega)

/-! ## The nearest node -/

/-- Row `i` is the nearest one to `x`, and the first of those. -/
def IsNearest (key : α → F) (rows : List α) (x : F) (i : Nat) : Prop :=
  ∃ hi : i < rows.length, ∀ j, ∀ hj : j < rows.length,
    |x - key rows[i]| ≤ |x - key rows[j]| ∧
      (|x - key rows[i]| = |x - key rows[j]| → key rows[i] ≤ key rows[j])

/-- A node at or behind `x` is nearer than all later nodes. -/
theorem abs_sub_le_of_le {x a b : F} (hx : x ≤ a) (hab : a ≤ b) : |x - a| ≤ |x - b| := by
  rw [abs_sub_comm x a, abs_sub_comm x b, abs_of_nonneg (by linarith),
    abs_of_nonneg (by linarith)]
  linarith

/-- A node at or before `x` is nearer than all earlier nodes. -/
theorem abs_sub_le_of_ge {x a b : F} (hx : a ≤ x) (hab : b ≤ a) : |x - a| ≤ |x - b| := by
  rw [abs_of_nonneg (by linarith), abs_of_nonneg (by linarith)]
  linarith

/-- The first node is the nearest one where no node is before `x`. -/
theorem isNearest_first (hgap : 0 < gap) (h : Spaced key gap rows)
    (hpos : 0 < rows.length) {x : F} (hx : x ≤ key rows[0]) : IsNearest key rows x 0 := by
  refine ⟨hpos, ?_⟩
  intro j hj
  have hle := h.le_of_le hgap (Nat.zero_le j) hj
  exact ⟨abs_sub_le_of_le hx hle, fun _ => hle⟩

/-- Between two neighbours, the node before `x` is nearest when it is not farther than
the node behind. -/
theorem isNearest_before (hgap : 0 < gap) (h : Spaced key gap rows) {x : F} {i : Nat}
    (hi : i + 1 < rows.length) (hbefore : key rows[i] < x) (hbehind : x ≤ key rows[i + 1])
    (hcloser : x - key rows[i] ≤ key rows[i + 1] - x) : IsNearest key rows x i := by
  refine ⟨by omega, ?_⟩
  intro j hj
  rcases Nat.lt_or_ge j i with hlt | hge
  · -- Earlier nodes are strictly farther away.
    have hkey := h.lt_of_lt hgap hlt (by omega)
    have hfarther : |x - key rows[i]| < |x - key rows[j]| := by
      rw [abs_of_pos (by linarith), abs_of_pos (by linarith)]
      linarith
    exact ⟨hfarther.le, fun heq => absurd heq hfarther.ne⟩
  · rcases Nat.lt_or_eq_of_le hge with hgt | heq
    · have hnext := h.le_of_le hgap (show i + 1 ≤ j from hgt) hj
      refine ⟨?_, fun _ => h.le_of_le hgap hge hj⟩
      calc |x - key rows[i]| = x - key rows[i] := abs_of_pos (by linarith)
        _ ≤ key rows[i + 1] - x := hcloser
        _ = |x - key rows[i + 1]| := by
            rw [abs_sub_comm, abs_of_nonneg (by linarith)]
        _ ≤ |x - key rows[j]| := abs_sub_le_of_le hbehind hnext
    · subst heq
      exact ⟨le_rfl, fun _ => le_rfl⟩

/-- Between two neighbours, the node behind `x` is nearest when the node before is
farther away. -/
theorem isNearest_behind (hgap : 0 < gap) (h : Spaced key gap rows) {x : F} {i : Nat}
    (hi : i + 1 < rows.length) (hbefore : key rows[i] < x) (hbehind : x ≤ key rows[i + 1])
    (hcloser : key rows[i + 1] - x < x - key rows[i]) : IsNearest key rows x (i + 1) := by
  refine ⟨hi, ?_⟩
  intro j hj
  rcases Nat.lt_or_ge i j with hlt | hge
  · have hle := h.le_of_le hgap (show i + 1 ≤ j from hlt) hj
    exact ⟨abs_sub_le_of_le hbehind hle, fun _ => hle⟩
  · -- The nodes up to the one before `x` are strictly farther away.
    have hfarther : |x - key rows[i + 1]| < |x - key rows[j]| := by
      calc |x - key rows[i + 1]| = key rows[i + 1] - x := by
            rw [abs_sub_comm, abs_of_nonneg (by linarith)]
        _ < x - key rows[i] := hcloser
        _ = |x - key rows[i]| := (abs_of_pos (by linarith)).symm
        _ ≤ |x - key rows[j]| :=
            abs_sub_le_of_ge hbefore.le (h.le_of_le hgap hge (by omega))
    exact ⟨hfarther.le, fun heq => absurd heq hfarther.ne⟩

/-- At a node the nearest row is that node. -/
theorem IsNearest.eq_of_key_eq (hgap : 0 < gap) (h : Spaced key gap rows) {i j : Nat}
    (hj : j < rows.length) (hnearest : IsNearest key rows (key rows[j]) i) : i = j := by
  obtain ⟨hi, hminimal⟩ := hnearest
  have hzero : |key rows[j] - key rows[i]| ≤ 0 := by
    have hle := (hminimal j hj).1
    rwa [sub_self, abs_zero] at hle
  have heq : key rows[j] = key rows[i] :=
    sub_eq_zero.mp (abs_eq_zero.mp (le_antisymm hzero (abs_nonneg _)))
  rcases Nat.lt_trichotomy i j with hlt | hsame | hgt
  · exact absurd heq (h.lt_of_lt hgap hlt hj).ne'
  · exact hsame
  · exact absurd heq (h.lt_of_lt hgap hgt hi).ne

/-! ## The piecewise linear interpolant -/

/-- The chord through node `i` and the next one. -/
def segment (nodes : List (F × F)) (i : Nat) (hi : i + 1 < nodes.length) (x : F) : F :=
  chord nodes[i].1 nodes[i].2 nodes[i + 1].1 nodes[i + 1].2 x

/-- `x` is between node `i` and the next one, or at one of them. -/
def Brackets (nodes : List (F × F)) (x : F) (i : Nat) : Prop :=
  ∃ hi : i + 1 < nodes.length, nodes[i].1 ≤ x ∧ x ≤ nodes[i + 1].1

variable {nodes : List (F × F)}

omit [LinearOrder F] [IsStrictOrderedRing F] in
theorem segment_left {i : Nat} (hi : i + 1 < nodes.length) :
    segment nodes i hi nodes[i].1 = nodes[i].2 := chord_left _ _ _ _

theorem segment_right (hgap : 0 < gap) (h : Spaced Prod.fst gap nodes) {i : Nat}
    (hi : i + 1 < nodes.length) : segment nodes i hi nodes[i + 1].1 = nodes[i + 1].2 :=
  chord_right _ _ (h.lt_of_lt hgap (Nat.lt_succ_self i) hi)

theorem segment_mem (hgap : 0 < gap) (h : Spaced Prod.fst gap nodes) {x : F} {i : Nat}
    (hi : i + 1 < nodes.length) (hx : Brackets nodes x i) :
    min nodes[i].2 nodes[i + 1].2 ≤ segment nodes i hi x ∧
      segment nodes i hi x ≤ max nodes[i].2 nodes[i + 1].2 := by
  obtain ⟨_, hleft, hright⟩ := hx
  exact chord_mem _ _ (h.lt_of_lt hgap (Nat.lt_succ_self i) hi) hleft hright

/-- Two segments that bracket a point meet there, in the node between them. -/
theorem segment_eq_of_lt (hgap : 0 < gap) (h : Spaced Prod.fst gap nodes) {x : F} {i j : Nat}
    (hij : i < j) (hi : i + 1 < nodes.length) (hj : j + 1 < nodes.length)
    (hxi : Brackets nodes x i) (hxj : Brackets nodes x j) :
    segment nodes i hi x = segment nodes j hj x := by
  obtain ⟨_, _, hright⟩ := hxi
  obtain ⟨_, hleft, _⟩ := hxj
  rcases Nat.lt_or_eq_of_le (show i + 1 ≤ j from hij) with hlt | heq
  · have hkey := h.lt_of_lt hgap hlt (by omega)
    exact absurd (hleft.trans hright) (not_le.mpr hkey)
  · subst heq
    obtain rfl : x = nodes[i + 1].1 := le_antisymm hright hleft
    rw [segment_right hgap h hi, segment_left hj]

/-- Whichever segment brackets the point, the interpolant is the same. -/
theorem segment_eq_segment (hgap : 0 < gap) (h : Spaced Prod.fst gap nodes) {x : F}
    {i j : Nat} (hi : i + 1 < nodes.length) (hj : j + 1 < nodes.length)
    (hxi : Brackets nodes x i) (hxj : Brackets nodes x j) :
    segment nodes i hi x = segment nodes j hj x := by
  rcases Nat.lt_trichotomy i j with hlt | hsame | hgt
  · exact segment_eq_of_lt hgap h hlt hi hj hxi hxj
  · subst hsame
    rfl
  · exact (segment_eq_of_lt hgap h hgt hj hi hxj hxi).symm

/-- At a node the interpolant is the value of the node. -/
theorem segment_at_node (hgap : 0 < gap) (h : Spaced Prod.fst gap nodes) {i : Nat}
    (hi : i + 1 < nodes.length) {node : F × F} (hnode : node ∈ nodes)
    (hx : Brackets nodes node.1 i) : segment nodes i hi node.1 = node.2 := by
  obtain ⟨j, hj, rfl⟩ := List.getElem_of_mem hnode
  obtain ⟨_, hleft, hright⟩ := hx
  have hle : i ≤ j := by
    by_contra hlt
    exact absurd hleft (not_le.mpr (h.lt_of_lt hgap (Nat.lt_of_not_le hlt) (by omega)))
  have hge : j ≤ i + 1 := by
    by_contra hgt
    exact absurd hright (not_le.mpr (h.lt_of_lt hgap (Nat.lt_of_not_le hgt) hj))
  rcases Nat.lt_or_eq_of_le hle with hlt | heq
  · obtain rfl : j = i + 1 := by omega
    exact segment_right hgap h hi
  · subst heq
    exact segment_left hi

/-- Between two nodes of a list with more than one there is a segment. -/
theorem exists_brackets (hgap : 0 < gap) (h : Spaced Prod.fst gap nodes)
    (hone : 1 < nodes.length) {x : F} (hleft : ∃ node ∈ nodes, node.1 ≤ x)
    (hright : ∃ node ∈ nodes, x ≤ node.1) : ∃ i, Brackets nodes x i := by
  classical
  have hbehind : ∃ k, ∃ hk : k < nodes.length, x ≤ nodes[k].1 := by
    obtain ⟨node, hnode, hx⟩ := hright
    obtain ⟨k, hk, rfl⟩ := List.getElem_of_mem hnode
    exact ⟨k, hk, hx⟩
  -- The first node that is not before `x` ends the segment.
  obtain ⟨hk, hx⟩ := Nat.find_spec hbehind
  cases hfirst : Nat.find hbehind with
  | zero =>
      simp only [hfirst] at hk hx
      obtain ⟨node, hnode, hle⟩ := hleft
      obtain ⟨j, hj, rfl⟩ := List.getElem_of_mem hnode
      have hnext := h.le_of_le hgap (Nat.zero_le 1) hone
      exact ⟨0, hone, (h.le_of_le hgap (Nat.zero_le j) hj).trans hle, hx.trans hnext⟩
  | succ i =>
      simp only [hfirst] at hk hx
      have hbefore := Nat.find_min hbehind (m := i) (by omega)
      refine ⟨i, hk, ?_, hx⟩
      by_contra hle
      exact hbefore ⟨by omega, (not_le.mp hle).le⟩

end Interpolation
end ULocalMagnitude
