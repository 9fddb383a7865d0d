import ULocalMagnitude.Cxx.Double
import ULocalMagnitude.Cxx.Objects
import Mathlib.Data.List.Sort

/-!
# Tables of distance corrections

`corrections/distanceOptions.cpp`: the table of distance corrections and how to
use it.  The setter of the table sorts it by distance and refuses distances that
are closer than ten centimeters.

The comparisons in the checks are false on a NaN, so infinite distances and corrections
of any kind pass them.  A distance that is a NaN passes the first check, but the rows can not
be sorted then as soon as two others compare.
-/

namespace ULocalMagnitude
namespace Corrections

open Cxx

/-- `DistanceOptions::Interpolation` -/
inductive DistanceOptions.Interpolation where
  | nearest
  | linear
deriving DecidableEq

/-- `DistanceOptions::Type`: the meaning of distance -/
inductive DistanceOptions.DistanceType where
  | epicentral
  | hypocentral
deriving DecidableEq

/-- `DistanceOptions::DistanceOptionsImpl` -/
structure DistanceOptions (F : Type) [Arithmetic F] where
  mCorrections : List (Double F × Double F) := []
  mInterpolation : DistanceOptions.Interpolation := .nearest
  mType : DistanceOptions.DistanceType := .epicentral
  mDatum : Double F := .finite 0
  mHaveCorrections : Bool := false
  mHasInterpolation : Bool := false
  mHasType : Bool := false
deriving DecidableEq

variable {F : Type} [Arithmetic F]

namespace DistanceOptions

/-- Interpolation type -/
def setInterpolation (interpolation : Interpolation) : Method (DistanceOptions F) Unit :=
  modify fun options =>
    { options with mInterpolation := interpolation, mHasInterpolation := true }

def hasInterpolation (options : DistanceOptions F) : Bool := options.mHasInterpolation

def getInterpolation (options : DistanceOptions F) : Throws Interpolation := do
  throwIf (!options.hasInterpolation) (.runtimeError "Interpolation type not set")
  return options.mInterpolation

/-- Meaning of distance -/
def setType (type : DistanceType) : Method (DistanceOptions F) Unit :=
  modify fun options => { options with mType := type, mHasType := true }

def hasType (options : DistanceOptions F) : Bool := options.mHasType

def getType (options : DistanceOptions F) : Throws DistanceType := do
  throwIf (!options.hasType) (.runtimeError "Distance type not set")
  return options.mType

/-- Datum -/
def setDatum (datum : Double F) : Method (DistanceOptions F) Unit := do
  throwIf (!datum.isFinite) (.invalidArgument "Datum is not finite")
  throwIf (datum < .finite (-10000) ∨ datum > .finite 8600)
    (.invalidArgument "Datum must be in range [-10000, 8600]")
  modify fun options => { options with mDatum := datum }

def getDatum (options : DistanceOptions F) : Double F := options.mDatum

/-- The loop over neighbours in the sorted table; `0.1` is ten centimeters. -/
def checkNeighbors : List (Double F × Double F) → Throws Unit
  | first :: second :: rest => do
      throwIf ((first.1 - second.1).abs < .finite (1 / 10))
        (.invalidArgument ("Duplicate correction at distance " ++ first.1.toString))
      checkNeighbors (second :: rest)
  | _ => return ()

/-- `std::sort` by distance; rows at one distance are left in an order of its own. -/
def sortByDistance (corrections : List (Double F × Double F)) :
    List (Double F × Double F) := Arithmetic.sort corrections

/-- Corrections table -/
def setCorrections (corrections : List (Double F × Double F)) :
    Method (DistanceOptions F) Unit := do
  throwIf (corrections = []) (.invalidArgument "Corrections table is empty")
  let hasNegativeDistance := corrections.any fun item => item.1 < .finite 0
  throwIf hasNegativeDistance
    (.invalidArgument "All corrections distances must be non-negative")
  -- Otherwise the comparison is none that `std::sort` may be called with.
  throwIf (¬ Double.IsOrdered corrections) .undefinedBehavior
  let correctionsSorted := sortByDistance corrections
  liftM (checkNeighbors correctionsSorted)
  modify fun options =>
    { options with mCorrections := correctionsSorted, mHaveCorrections := true }

def hasCorrections (options : DistanceOptions F) : Bool := options.mHaveCorrections

def getCorrections (options : DistanceOptions F) :
    Throws (List (Double F × Double F)) := do
  throwIf (!options.hasCorrections) (.runtimeError "Corrections not set")
  return options.mCorrections

/-! ## The calls on options -/

/-- A setter with its argument. -/
inductive Setter (F : Type) where
  | interpolation (newInterpolation : Interpolation)
  | type (newType : DistanceType)
  | datum (newDatum : Double F)
  | corrections (newCorrections : List (Double F × Double F))

def Setter.method : Setter F → Method (DistanceOptions F) Unit
  | .interpolation newInterpolation => setInterpolation newInterpolation
  | .type newType => setType newType
  | .datum newDatum => setDatum newDatum
  | .corrections newCorrections => setCorrections newCorrections

/-- Default constructed, then used through the setters. -/
def IsReachable (options : DistanceOptions F) : Prop :=
  Reachable (fun built => built = {}) Setter.method (fun _ => True) options

theorem setter_atomic (setter : Setter F) : setter.method.Atomic := by
  cases setter with
  | interpolation interpolation => exact .modify _
  | type type => exact .modify _
  | datum datum => exact .lift_bind fun _ => .lift_bind fun _ => .modify _
  | corrections corrections =>
      exact .lift_bind fun _ => .lift_bind fun _ => .lift_bind fun _ => .lift_bind fun _ =>
        .modify _

theorem call_setDatum_eq_ok {datum : Double F} {options after : DistanceOptions F} :
    (setDatum datum).call options = .ok after ↔
      datum.isFinite = true ∧ ¬ (datum < .finite (-10000) ∨ datum > .finite 8600) ∧
        { options with mDatum := datum } = after := by
  simp only [setDatum, Method.call_lift_bind, throwIf_bind_eq_ok, Method.call_modify,
    Except.ok.injEq, Bool.not_eq_true', Bool.not_eq_false]

/-- What is stored when a table is accepted. -/
theorem call_setCorrections_eq_ok {corrections : List (Double F × Double F)}
    {options after : DistanceOptions F} :
    (setCorrections corrections).call options = .ok after ↔
      corrections ≠ [] ∧ (∀ item ∈ corrections, ¬ item.1 < .finite 0) ∧
        Double.IsOrdered corrections ∧
        checkNeighbors (sortByDistance corrections) = .ok () ∧
        { options with mCorrections := sortByDistance corrections,
                       mHaveCorrections := true } = after := by
  simp only [setCorrections, Method.call_lift_bind, throwIf_bind_eq_ok]
  simp only [bind_unit_eq_ok, Method.call_modify, Except.ok.injEq, List.any_eq_true,
    decide_eq_true_eq, not_exists, not_and, ne_eq, not_not]

/-- The setter gets as far as sorting the table, and that is undefined: a distance is a NaN,
and two others compare. -/
structure IsUnsortable (corrections : List (Double F × Double F)) : Prop where
  nonempty : corrections ≠ []
  nonneg : ∀ item ∈ corrections, ¬ item.1 < .finite 0
  unordered : ¬ Double.IsOrdered corrections

theorem IsUnsortable.call_setCorrections {corrections : List (Double F × Double F)}
    (h : IsUnsortable corrections) (options : DistanceOptions F) :
    (setCorrections corrections).call options = .error .undefinedBehavior := by
  have hnonneg : ¬ (corrections.any fun item => item.1 < .finite 0) := by
    simpa using h.nonneg
  simp only [setCorrections, Method.call_lift_bind]
  rw [throwIf_neg h.nonempty, bind_ok, throwIf_neg hnonneg, bind_ok, throwIf_pos h.unordered]
  rfl

theorem sortByDistance_perm {corrections : List (Double F × Double F)}
    (h : Double.IsOrdered corrections) : (sortByDistance corrections).Perm corrections :=
  Arithmetic.sort_perm corrections h

/-! ## The invariant -/

/-- A set table has a row, and the datum is a number. -/
structure Inv (options : DistanceOptions F) : Prop where
  nonempty : options.mHaveCorrections = true → options.mCorrections ≠ []
  datum : options.mDatum.isFinite = true

theorem IsReachable.inv {options : DistanceOptions F} (h : options.IsReachable) :
    options.Inv := by
  refine h.invariant_of_atomic ?_ setter_atomic ?_
  · intro built hbuilt
    rw [hbuilt]
    exact ⟨fun hset => absurd hset Bool.false_ne_true, rfl⟩
  · intro setter before after _ _ hbefore hexec
    have hcall := Method.call_of_exec hexec
    cases setter with
    | interpolation interpolation =>
        obtain rfl : _ = after := Except.ok.inj hcall
        exact ⟨hbefore.nonempty, hbefore.datum⟩
    | type type =>
        obtain rfl : _ = after := Except.ok.inj hcall
        exact ⟨hbefore.nonempty, hbefore.datum⟩
    | datum datum =>
        obtain ⟨hfinite, -, rfl⟩ := call_setDatum_eq_ok.mp hcall
        exact ⟨hbefore.nonempty, hfinite⟩
    | corrections corrections =>
        obtain ⟨hnonempty, -, hordered, -, rfl⟩ := call_setCorrections_eq_ok.mp hcall
        refine ⟨fun _ hnil => hnonempty ?_, hbefore.datum⟩
        have hperm := sortByDistance_perm hordered
        rw [show sortByDistance corrections = [] from hnil] at hperm
        exact hperm.nil_eq.symm

end DistanceOptions

end Corrections
end ULocalMagnitude
