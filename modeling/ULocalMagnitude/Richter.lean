import ULocalMagnitude.Average
import ULocalMagnitude.Interpolation

/-!
# Networks with local magnitudes

What local magnitudes are, with nothing but numbers.  A network has a table of corrections
at distances from the source and corrections of its stations.  A reading of a station with
a correction, in reach of the table, has for its magnitude the logarithm of the amplitude
and both corrections; readings of different stations are averaged.

* `interpolated_eq_segment`, `nearestValue_eq` — the two ways in which the table is read;
* `Network.terms` — what becomes of a reading;
* `Network.assessment` — how the readings of a source are averaged.
-/

namespace ULocalMagnitude
namespace Richter

open Batch (Assessment)
open Interpolation (Brackets IsNearest Spaced chord segment segment_eq_segment)

variable {N F : Type} [Field F] [LinearOrder F]

/-! ## Tables -/

/-- The value of the piecewise linear function through the nodes. -/
def interpolated : List (F × F) → F → F
  | [], _ => 0
  | [node], _ => node.2
  | node :: next :: rest, x =>
      if x ≤ next.1 then chord node.1 node.2 next.1 next.2 x
      else interpolated (next :: rest) x

/-- The node that is nearest to `x`, the first one where two nodes are. -/
def nearestNode (x : F) : F × F → List (F × F) → F × F
  | node, [] => node
  | node, next :: rest =>
      if |x - node.1| ≤ |x - (nearestNode x next rest).1| then node
      else nearestNode x next rest

/-- The value of the nearest node. -/
def nearestValue : List (F × F) → F → F
  | [], _ => 0
  | node :: rest, x => (nearestNode x node rest).2

/-- How a table is read between its nodes. -/
inductive Mode where
  | nearest
  | linear

def Mode.valueAt : Mode → List (F × F) → F → F
  | .nearest => nearestValue
  | .linear => interpolated

section Tables

variable [IsStrictOrderedRing F] {nodes : List (F × F)} {gap : F}

/-- Between two neighbours the value is that of the segment. -/
theorem interpolated_eq_segment (hgap : 0 < gap) (h : Spaced Prod.fst gap nodes) {x : F}
    {i : Nat} (hi : i + 1 < nodes.length) (hx : Brackets nodes x i) :
    interpolated nodes x = segment nodes i hi x := by
  induction nodes generalizing i with
  | nil => exact absurd hi (by simp)
  | cons node rest ih =>
      cases rest with
      | nil => exact absurd hi (by simp)
      | cons next rest =>
          obtain ⟨_, hleft, hright⟩ := id hx
          unfold interpolated
          by_cases hle : x ≤ next.1
          · -- The first segment ends behind `x`, and it starts before the other one.
            have hfirst : Brackets (node :: next :: rest) x 0 :=
              ⟨by simp, (h.le_of_le hgap (Nat.zero_le i) (by omega)).trans hleft, hle⟩
            rw [if_pos hle]
            exact segment_eq_segment hgap h (by simp) hi hfirst hx
          · rw [if_neg hle]
            cases i with
            | zero => exact absurd hright hle
            | succ i =>
                exact ih h.of_cons (by simpa using hi) ⟨by simpa using hi, hleft, hright⟩

omit [IsStrictOrderedRing F] in
theorem nearestNode_mem (x : F) (node : F × F) (rest : List (F × F)) :
    nearestNode x node rest ∈ node :: rest := by
  induction rest generalizing node with
  | nil => exact List.mem_singleton_self node
  | cons next rest ih =>
      unfold nearestNode
      split
      · exact List.mem_cons_self
      · exact List.mem_cons_of_mem node (ih next)

theorem nearestNode_eq (hgap : 0 < gap) {x : F} {node : F × F} {rest : List (F × F)}
    (h : Spaced Prod.fst gap (node :: rest)) {i : Nat} (hi : i < (node :: rest).length)
    (hnearest : IsNearest Prod.fst (node :: rest) x i) :
    nearestNode x node rest = (node :: rest)[i] := by
  obtain ⟨_, hminimal⟩ := id hnearest
  induction rest generalizing node i with
  | nil =>
      obtain rfl : i = 0 := by simpa using hi
      rfl
  | cons next rest ih =>
      unfold nearestNode
      cases i with
      | zero =>
          obtain ⟨j, hj, hmem⟩ := List.getElem_of_mem (nearestNode_mem x next rest)
          rw [← hmem]
          exact if_pos (hminimal (j + 1) (by simpa using hj)).1
      | succ i =>
          have hi' : i < (next :: rest).length := by simpa using hi
          have hminimal' : ∀ j, ∀ hj : j < (next :: rest).length, _ :=
            fun j hj => hminimal (j + 1) (by simpa using hj)
          rw [ih h.of_cons hi' ⟨hi', hminimal'⟩ hi' hminimal']
          -- The first node is in front, so it would be the nearest one if it were as near.
          have hkey := h.lt_of_lt hgap (Nat.succ_pos i) hi
          refine if_neg fun hle => ?_
          obtain ⟨hnear, hfirst⟩ := hminimal 0 (by simp)
          exact absurd (hfirst (le_antisymm hnear hle)) (not_le.mpr hkey)

/-- The value is that of the nearest node. -/
theorem nearestValue_eq (hgap : 0 < gap) (h : Spaced Prod.fst gap nodes) {x : F} {i : Nat}
    (hi : i < nodes.length) (hnearest : IsNearest Prod.fst nodes x i) :
    nearestValue nodes x = nodes[i].2 := by
  cases nodes with
  | nil => exact absurd hi (by simp)
  | cons node rest => exact congrArg Prod.snd (nearestNode_eq hgap h hi hnearest)

end Tables

/-! ## Networks -/

/-- A network whose stations have names in `N`. -/
structure Network (N F : Type) [LinearOrder F] where
  /-- Distances with their corrections. -/
  nodes : List (F × F)
  nonempty : nodes ≠ []
  increasing : nodes.Pairwise fun node node' => node.1 < node'.1
  mode : Mode
  /-- The datum of hypocentral distances; without one the distances are epicentral. -/
  datum : Option F
  correction : N → Option F
  /-- The least number of magnitudes in an average. -/
  minimum : Int
  /-- Averages are not below this magnitude. -/
  lower : F
  upper : F

/-- What is read off a station. -/
structure Reading (N F : Type) where
  station : N
  amplitude : F
  epicentralDistance : F
  depth : F

/-- Why a reading has no magnitude. -/
inductive Rejection where
  | noCorrection
  | tooClose
  | tooFar
deriving DecidableEq

/-- The terms of a magnitude. -/
structure Terms (F : Type) where
  logarithm : F
  attenuation : F
  correction : F

def Terms.value (terms : Terms F) : F :=
  terms.logarithm + terms.attenuation + terms.correction

/-- What a table has at a distance. -/
inductive Attenuation (F : Type) where
  | tooClose
  | tooFar
  | value (y : F)

namespace Network

variable (network : Network N F) (log10 : F → F) (hypot : F → F → F)

/-- The distance at which the table is read. -/
def distanceOf (reading : Reading N F) : F :=
  match network.datum with
  | some datum => hypot reading.epicentralDistance (reading.depth - -datum)
  | none => reading.epicentralDistance

def attenuation (x : F) : Attenuation F :=
  if ∀ node ∈ network.nodes, x < node.1 then .tooClose
  else if ∀ node ∈ network.nodes, node.1 < x then .tooFar
  else .value (network.mode.valueAt network.nodes x)

/-- The terms of the magnitude of a reading. -/
def terms (reading : Reading N F) : Except Rejection (Terms F) :=
  match network.correction reading.station with
  | none => .error .noCorrection
  | some correction =>
      match network.attenuation (network.distanceOf hypot reading) with
      | .tooClose => .error .tooClose
      | .tooFar => .error .tooFar
      | .value attenuation =>
          .ok { logarithm := log10 reading.amplitude, attenuation, correction }

/-- How readings are averaged. -/
def assessment : Assessment (Reading N F) N Empty Rejection (Terms F) F where
  missing _ := none
  name := Reading.station
  outcome := network.terms log10 hypot
  measure := Terms.value
  minimum := network.minimum
  lower := network.lower
  upper := network.upper

variable {network} {log10} {hypot}

theorem attenuation_tooClose {x : F} (h : ∀ node ∈ network.nodes, x < node.1) :
    network.attenuation x = .tooClose := if_pos h

theorem attenuation_tooFar {x : F} (h : ∀ node ∈ network.nodes, node.1 < x) :
    network.attenuation x = .tooFar := by
  obtain ⟨node, hnode⟩ := List.exists_mem_of_ne_nil _ network.nonempty
  unfold attenuation
  rw [if_neg fun hclose => lt_asymm (h node hnode) (hclose node hnode), if_pos h]

theorem attenuation_value {x : F} (hleft : ∃ node ∈ network.nodes, node.1 ≤ x)
    (hright : ∃ node ∈ network.nodes, x ≤ node.1) :
    network.attenuation x = .value (network.mode.valueAt network.nodes x) := by
  obtain ⟨before, hbefore, hleft⟩ := hleft
  obtain ⟨behind, hbehind, hright⟩ := hright
  unfold attenuation
  rw [if_neg fun hclose => absurd hleft (not_le.mpr (hclose before hbefore)),
    if_neg fun hfar => absurd hright (not_le.mpr (hfar behind hbehind))]

/-- The first term is the logarithm of the amplitude. -/
theorem logarithm_of_terms {reading : Reading N F} {terms : Terms F}
    (h : network.terms log10 hypot reading = .ok terms) :
    terms.logarithm = log10 reading.amplitude := by
  unfold Network.terms at h
  split at h
  · exact absurd h nofun
  split at h
  · exact absurd h nofun
  · exact absurd h nofun
  · obtain rfl := Except.ok.inj h
    rfl

end Network

end Richter
end ULocalMagnitude
