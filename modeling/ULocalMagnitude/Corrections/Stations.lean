import ULocalMagnitude.Corrections.StationsSet
import ULocalMagnitude.FirstWins

/-!
# Lookups of station corrections

`corrections/stations.cpp`: a set that is not empty, looked up by identifier or by name.
The second part says what a sequence of insertions makes of a set: it refines the
first-wins table of the names.
-/

namespace ULocalMagnitude
namespace Corrections

open Cxx

variable {F : Type} [Arithmetic F]

/-- `Stations::StationsImpl` -/
structure Stations (F : Type) [Arithmetic F] where
  mCorrections : StationsSet F := {}
  mInitialized : Bool := false
deriving DecidableEq

namespace Stations

/-- `Stations::ErrorCode` -/
inductive ErrorCode where
  | invalidStation
  | stationDoesNotExist
  | uninitializedCorrection
  | uninitialized
deriving DecidableEq

/-- Initialized -/
def isInitialized (stations : Stations F) : Bool := stations.mInitialized

/-- Constructor -/
def ofSet (set : StationsSet F) : Throws (Stations F) := do
  throwIf (set.empty = true) (.invalidArgument "No station corrections")
  return { mCorrections := set, mInitialized := true }

/-- `operator()(const std::string &identifier)` -/
def applyName (stations : Stations F) (identifier : Bytes) : Except ErrorCode (Double F) :=
  if !stations.isInitialized then .error .uninitialized
  else if identifier = [] then .error .invalidStation
  else
    match stations.mCorrections.getCorrection identifier with
    | some correction =>
        match correction.apply with
        | .ok correctionResult => .ok correctionResult
        | .error _ => .error .uninitializedCorrection
    | none => .error .stationDoesNotExist

/-- `operator()(const StationIdentifier &identifier)`; the clause is for all exceptions. -/
def apply (stations : Stations F) (identifier : StationIdentifier) :
    Throws (Except ErrorCode (Double F)) :=
  if !stations.isInitialized then .ok (.error .uninitialized)
  else
    tryCatch (stations.applyName <$> identifier.toString)
      (fun _ => .ok (.error .invalidStation)) (fun _ => .ok (.error .invalidStation))

/-- The loop of `getCorrections`. -/
def collectCorrections : List (Sigma fun _ : Bytes => Station F) → StringMap (Double F) →
    Throws (StringMap (Double F))
  | [], result => return result
  | correction :: rest, result =>
      match correction.2.apply with
      | .ok correctionResult => do
          collectCorrections rest (result.insert (← correction.2.getName) correctionResult)
      | .error _ => do
          .error (.runtimeError
            ("Unitialized correction for " ++ toText (← correction.2.getName)))

/-- Get corrections - for debugging -/
def getCorrections (stations : Stations F) : Throws (StringMap (Double F)) := do
  throwIf (!stations.isInitialized) (.runtimeError "Stations corrections not initialized")
  collectCorrections stations.mCorrections.getCorrections.entries ∅

/-! ## Lookups -/

theorem ofSet_eq_ok {set : StationsSet F} {stations : Stations F} :
    ofSet set = .ok stations ↔
      set.empty = false ∧ { mCorrections := set, mInitialized := true } = stations := by
  unfold ofSet
  rw [throwIf_bind_eq_ok, Bool.not_eq_true]
  exact and_congr_right fun _ => ⟨Except.ok.inj, congrArg _⟩

/-- The value of a lookup that found a correction, or else its error. -/
def answerOf : Option (Double F) → Except ErrorCode (Double F)
  | some correction => .ok correction
  | none => .error .stationDoesNotExist

section Lookups

variable {set : StationsSet F} (hset : set.Inv)

include hset

/-- A name is looked up in the set. -/
theorem applyName_eq {name : Bytes} (hname : name ≠ []) :
    applyName { mCorrections := set, mInitialized := true } name =
      answerOf ((set.mCorrections.lookup name).map Station.mCorrection) := by
  unfold applyName StationsSet.getCorrection
  rw [if_neg (by simp [isInitialized]), if_neg hname, if_neg hname]
  cases hlookup : set.mCorrections.lookup name with
  | none => rfl
  | some station =>
      dsimp only
      rw [(hset name station hlookup).2.inv.apply]
      rfl

/-- An identifier is looked up under its name; without one it is not a station. -/
theorem apply_eq (identifier : StationIdentifier) :
    apply { mCorrections := set, mInitialized := true } identifier =
      .ok (if identifier.mNetwork ≠ [] ∧ identifier.mStation ≠ [] then
        answerOf ((set.mCorrections.lookup identifier.name).map Station.mCorrection)
      else .error .invalidStation) := by
  unfold apply
  rw [if_neg (by simp [isInitialized])]
  by_cases hcomplete : identifier.mNetwork ≠ [] ∧ identifier.mStation ≠ []
  · rw [if_pos hcomplete,
      StationIdentifier.Complete.toString ⟨hcomplete.1, hcomplete.2⟩, map_ok,
      applyName_eq hset identifier.name_ne_nil]
    rfl
  · rw [if_neg hcomplete]
    -- The exception of the name becomes the error code.
    cases hname : identifier.toString with
    | ok name =>
        obtain ⟨hset, -⟩ := StationIdentifier.toString_eq_ok.mp hname
        exact absurd ⟨hset.network, hset.station⟩ hcomplete
    | error reason =>
        obtain ⟨what, rfl⟩ := StationIdentifier.exists_of_toString_error hname
        rfl

end Lookups

/-- The loop stores the corrections of constructed stations under their names; a later
one replaces an earlier one. -/
theorem exists_collectCorrections {entries : List (Sigma fun _ : Bytes => Station F)}
    (hentries : ∀ entry ∈ entries, entry.2.Inv ∧ entry.2.name = entry.1)
    (hnodup : entries.NodupKeys) (before : StringMap (Double F)) :
    ∃ after, collectCorrections entries before = .ok after ∧
      ∀ name, after.lookup name =
        ((entries.dlookup name).map Station.mCorrection).or (before.lookup name) := by
  induction entries generalizing before with
  | nil => exact ⟨before, rfl, fun name => rfl⟩
  | cons entry rest ih =>
      obtain ⟨key, station⟩ := entry
      obtain ⟨hstation, hkey⟩ := hentries ⟨key, station⟩ List.mem_cons_self
      obtain ⟨hfresh, hrest⟩ := List.nodupKeys_cons.mp hnodup
      obtain ⟨after, hafter, hlookup⟩ := ih
        (fun other hother => hentries other (List.mem_cons_of_mem _ hother)) hrest
        (before.insert key station.mCorrection)
      refine ⟨after, ?_, fun name => ?_⟩
      · unfold collectCorrections
        dsimp only
        rw [hstation.apply]
        dsimp only
        rw [hstation.getName, bind_ok, hkey]
        exact hafter
      · rw [hlookup name]
        by_cases hname : name = key
        · -- The keys are different, so no later entry replaces this one.
          subst hname
          rw [List.dlookup_cons_eq, AList.lookup_insert, List.dlookup_eq_none.mpr hfresh]
          rfl
        · rw [List.dlookup_cons_ne _ _ hname, AList.lookup_insert_ne hname]

/-- The map for debugging has the corrections of the set under their names. -/
theorem exists_getCorrections {set : StationsSet F} (hset : set.Inv) :
    ∃ corrections,
      getCorrections { mCorrections := set, mInitialized := true } = .ok corrections ∧
        ∀ name, corrections.lookup name =
          (set.mCorrections.lookup name).map Station.mCorrection := by
  have hentries (entry : Sigma fun _ : Bytes => Station F)
      (hmem : entry ∈ set.mCorrections.entries) : entry.2.Inv ∧ entry.2.name = entry.1 := by
    obtain ⟨hname, hreachable⟩ := hset entry.1 entry.2 (StringMap.lookup_eq_some_iff.mpr hmem)
    exact ⟨hreachable.inv, hname⟩
  obtain ⟨corrections, hcorrections, hlookup⟩ :=
    exists_collectCorrections hentries set.mCorrections.nodupKeys ∅
  refine ⟨corrections, ?_, fun name => ?_⟩
  · unfold getCorrections
    rw [throwIf_neg (by simp [isInitialized]), bind_ok]
    exact hcorrections
  · rw [hlookup name, AList.lookup_empty, Option.or_none]
    rfl

end Stations

/-! ## Sequences of insertions -/

namespace StationsSet

/-- Calls of `insert`, one after another: what they return, and the set at the end. -/
def insertAll (set : StationsSet F) : List (Insertion F) → Throws (List Bool × StationsSet F)
  | [] => return ([], set)
  | insertion :: rest => do
      let (inserted, after) ← insertion.method.exec set
      let (others, last) ← insertAll after rest
      return (inserted :: others, last)

/-- A set as a table of its stations by name. -/
def tableOf (set : StationsSet F) : FirstWins.Table Bytes (Station F) :=
  fun name => set.mCorrections.lookup name

/-- An insertion as a call on such a table. -/
def callOf (insertion : Insertion F) : FirstWins.Call Bytes (Station F) where
  key := insertion.correction.name
  value := insertion.correction
  overwrite := insertion.overwrite

/-- An insertion refines the call, and without changing the table it changes nothing. -/
theorem exists_exec_method {insertion : Insertion F} (h : insertion.correction.Inv)
    (set : StationsSet F) :
    ∃ after, insertion.method.exec set =
        .ok (FirstWins.accepts (tableOf set) (callOf insertion), after) ∧
      tableOf after = FirstWins.put (tableOf set) (callOf insertion) ∧
      (FirstWins.accepts (tableOf set) (callOf insertion) = false → after = set) := by
  have hexec := exec_insert h insertion.overwrite set
  have hrefused : FirstWins.accepts (tableOf set) (callOf insertion) = false ↔
      insertion.correction.name ∈ set.mCorrections ∧ insertion.overwrite = false := by
    rw [FirstWins.accepts_eq_false_iff]
    exact and_congr_left fun _ => AList.lookup_isSome
  cases haccepts : FirstWins.accepts (tableOf set) (callOf insertion) with
  | false =>
      rw [if_pos (hrefused.mp haccepts)] at hexec
      exact ⟨set, hexec, (FirstWins.put_of_refused haccepts).symm, fun _ => rfl⟩
  | true =>
      rw [if_neg (fun hboth => by simp [hrefused.mpr hboth] at haccepts)] at hexec
      refine ⟨_, hexec, ?_, fun hfalse => absurd hfalse.symm Bool.false_ne_true⟩
      funext name
      by_cases hname : name = insertion.correction.name
      · subst hname
        exact (AList.lookup_insert _).trans (FirstWins.put_self_of_accepts haccepts).symm
      · have hother : (callOf insertion).key ≠ name := fun h => hname h.symm
        rw [FirstWins.put_of_ne hother]
        exact AList.lookup_insert_ne hname

/-- Insertions of constructed stations refine the calls on the table. -/
theorem exists_insertAll {insertions : List (Insertion F)}
    (h : ∀ insertion ∈ insertions, insertion.correction.IsReachable) {set : StationsSet F}
    (hset : set.IsReachable) :
    ∃ after, insertAll set insertions =
        .ok (FirstWins.answers (tableOf set) (insertions.map callOf), after) ∧
      tableOf after = FirstWins.run (tableOf set) (insertions.map callOf) ∧
      after.IsReachable := by
  induction insertions generalizing set with
  | nil => exact ⟨set, rfl, rfl, hset⟩
  | cons insertion rest ih =>
      have hfirst := h insertion List.mem_cons_self
      obtain ⟨next, hexec, htable, -⟩ := exists_exec_method hfirst.inv set
      -- The insertion is a step, so the rest starts at a set in use.
      have hnext : next.IsReachable := by
        have hcall := Reachable.call hset (i := insertion) hfirst
        rwa [Method.state_of_exec hexec] at hcall
      obtain ⟨after, hafter, hrun, hreachable⟩ :=
        ih (fun other hother => h other (List.mem_cons_of_mem insertion hother)) hnext
      refine ⟨after, ?_, ?_, hreachable⟩
      · unfold insertAll
        rw [hexec, bind_ok]
        dsimp only
        rw [hafter, htable]
        rfl
      · rw [hrun, htable]
        rfl

end StationsSet

end Corrections
end ULocalMagnitude
