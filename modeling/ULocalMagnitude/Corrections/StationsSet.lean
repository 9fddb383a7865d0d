import ULocalMagnitude.Corrections.Station
import ULocalMagnitude.Cxx.Maps

/-!
# Sets of station corrections

`corrections/stationsSet.cpp`: the corrections of many stations, kept in a map
whose keys are the names of the stations.  The key is taken from the station by
`insert`; that every entry still carries its own name is the invariant.
-/

namespace ULocalMagnitude
namespace Corrections

open Cxx

variable {F : Type} [Arithmetic F]

/-- `StationsSet::StationsSetImpl` -/
structure StationsSet (F : Type) [Arithmetic F] where
  mCorrections : StringMap (Station F) := ∅
deriving DecidableEq

namespace StationsSet

/-- Empty? -/
def empty (set : StationsSet F) : Bool := set.mCorrections.entries.isEmpty

/-- Insert; `true` when the set was changed. -/
def insert (correction : Station F) (overwrite : Bool) : Method (StationsSet F) Bool := do
  throwIf (!correction.isInitialized) (.invalidArgument "Correction not initialized")
  let name ← liftM correction.getName
  let stations ← get
  if name ∈ stations.mCorrections then
    if overwrite then
      set { stations with mCorrections := stations.mCorrections.insert name correction }
      return true
    else
      return false
  else
    set { stations with mCorrections := stations.mCorrections.insert name correction }
    return true

/-- Corrections -/
def getCorrections (set : StationsSet F) : StringMap (Station F) := set.mCorrections

/-- Get the correction -/
def getCorrection (set : StationsSet F) (identifier : Bytes) : Option (Station F) :=
  if identifier = [] then none else set.mCorrections.lookup identifier

/-! ## The calls on a set -/

/-- The arguments of a call of `insert`. -/
structure Insertion (F : Type) [Arithmetic F] where
  correction : Station F
  overwrite : Bool

def Insertion.method (insertion : Insertion F) : Method (StationsSet F) Bool :=
  insert insertion.correction insertion.overwrite

/-- Empty at first, then filled by insertions of constructed stations. -/
def IsReachable (set : StationsSet F) : Prop :=
  Reachable (fun built => built = {}) Insertion.method
    (fun insertion => insertion.correction.IsReachable) set

/-- What `insert` does with a constructed station. -/
theorem exec_insert {station : Station F} (h : station.Inv) (overwrite : Bool)
    (set : StationsSet F) :
    (insert station overwrite).exec set =
      if station.name ∈ set.mCorrections ∧ overwrite = false then .ok (false, set)
      else .ok (true,
        { set with mCorrections := set.mCorrections.insert station.name station }) := by
  unfold insert
  rw [Method.exec_lift_bind, throwIf_neg (by simp [Station.isInitialized, h.initialized]),
    bind_ok, Method.exec_lift_bind, h.getName, bind_ok, Method.exec_get_bind]
  by_cases hname : station.name ∈ set.mCorrections
  · rw [if_pos hname]
    cases overwrite with
    | true =>
        rw [if_pos rfl, if_neg (by simp)]
        rfl
    | false =>
        rw [if_neg Bool.false_ne_true, if_pos ⟨hname, rfl⟩]
        rfl
  · rw [if_neg hname, if_neg (fun hboth => hname hboth.1)]
    rfl

/-- A constructed station is refused exactly when its name is taken and must not be
overwritten; then nothing changes. -/
theorem exec_insert_eq_false_iff {station : Station F} (h : station.Inv)
    {overwrite : Bool} {set after : StationsSet F} :
    (insert station overwrite).exec set = .ok (false, after) ↔
      (station.name ∈ set.mCorrections ∧ overwrite = false) ∧ after = set := by
  rw [exec_insert h]
  by_cases hrefused : station.name ∈ set.mCorrections ∧ overwrite = false
  · rw [if_pos hrefused]
    constructor
    · intro heq
      exact ⟨hrefused, (Prod.mk.inj (Except.ok.inj heq)).2.symm⟩
    · intro hall
      rcases hall with ⟨-, rfl⟩
      rfl
  · rw [if_neg hrefused]
    constructor
    · intro heq
      exact absurd (Prod.mk.inj (Except.ok.inj heq)).1 (by decide)
    · intro hboth
      exact absurd hboth.1 hrefused

/-! ## The invariant -/

/-- Every entry is a constructed station under its own name. -/
def Inv (set : StationsSet F) : Prop :=
  ∀ name station, set.mCorrections.lookup name = some station →
    station.name = name ∧ station.IsReachable

theorem inv_empty : ({} : StationsSet F).Inv := by
  intro name station h
  cases h

/-- One insertion keeps the invariant. -/
theorem Inv.insert {set after : StationsSet F} (hset : set.Inv) {station : Station F}
    (hstation : station.IsReachable) {overwrite inserted : Bool}
    (h : (StationsSet.insert station overwrite).exec set = .ok (inserted, after)) :
    after.Inv := by
  rw [exec_insert hstation.inv] at h
  by_cases hrefused : station.name ∈ set.mCorrections ∧ overwrite = false
  · rw [if_pos hrefused] at h
    have hsame := (Prod.mk.inj (Except.ok.inj h)).2
    rw [← hsame]
    exact hset
  · rw [if_neg hrefused] at h
    have hafter := (Prod.mk.inj (Except.ok.inj h)).2
    rw [← hafter]
    intro name other hlookup
    by_cases hname : name = station.name
    · subst hname
      rw [AList.lookup_insert] at hlookup
      obtain rfl := Option.some.inj hlookup
      exact ⟨rfl, hstation⟩
    · rw [AList.lookup_insert_ne hname] at hlookup
      exact hset name other hlookup

theorem insertion_atomic (insertion : Insertion F) : insertion.method.Atomic := by
  refine .lift_bind fun _ => .lift_bind fun name => .get_bind fun set => ?_
  by_cases hname : name ∈ set.mCorrections
  · rw [if_pos hname]
    cases insertion.overwrite with
    | true => exact .set_pure _ _
    | false => exact .pure _
  · rw [if_neg hname]
    exact .set_pure _ _

/-- Every set in use keeps each station under the name of that station. -/
theorem IsReachable.inv {set : StationsSet F} (h : set.IsReachable) : set.Inv := by
  refine h.invariant_of_atomic ?_ insertion_atomic ?_
  · intro built hbuilt
    rw [hbuilt]
    exact inv_empty
  · intro insertion before after inserted hstation hbefore hexec
    exact hbefore.insert hstation hexec

end StationsSet

end Corrections
end ULocalMagnitude
