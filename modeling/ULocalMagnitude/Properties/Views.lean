import ULocalMagnitude.Corrections.Stations
import ULocalMagnitude.Rationals

/-!
# Views of a set of station corrections

What insertions make of a set, and that everything that is built from the set reports
the corrections that are in it.
-/

namespace ULocalMagnitude
namespace Properties

open Cxx Magnitude
open Corrections (Station StationIdentifier Stations StationsSet)
open Corrections.StationsSet (Insertion insertAll callOf)

variable {F : Type} [Arithmetic F]

/-- An insertion of a constructed station answers whether the set has it now; if not, it
changes nothing, and otherwise the entry of its name only. -/
structure Inserts (set : StationsSet F) (insertion : Insertion F) (inserted : Bool)
    (after : StationsSet F) : Prop where
  exec : insertion.method.exec set = .ok (inserted, after)
  refused : inserted = false ↔
    insertion.correction.name ∈ set.mCorrections ∧ insertion.overwrite = false
  unchanged : inserted = false → after = set
  entry : inserted = true →
    after.mCorrections.lookup insertion.correction.name = some insertion.correction
  others : ∀ name, name ≠ insertion.correction.name →
    after.mCorrections.lookup name = set.mCorrections.lookup name

/-- For an identifier with a name all views report one correction, or all report none. -/
structure ReportAlike (set : StationsSet F) (stations : Stations F)
    (identifier : StationIdentifier) (name : Bytes) (correction : Option (Double F)) :
    Prop where
  bySet : (set.getCorrection name).map Station.apply = correction.map .ok
  byIdentifier : stations.apply identifier = .ok (Stations.answerOf correction)
  byName : stations.applyName name = Stations.answerOf correction
  map : ∃ corrections, stations.getCorrections = .ok corrections ∧
    corrections.lookup name = correction
  calculator : ∀ calculator : NetworkMagnitudeCalculator F, calculator.IsReachable →
    calculator.mOptions.getStationCorrections = .ok set →
      calculator.getStationCorrection identifier = .ok correction

/-- An identifier without a name cannot be asked for by name, and the views that take the
identifier itself have no correction for it. -/
structure ReportNothing (set : StationsSet F) (stations : Stations F)
    (identifier : StationIdentifier) : Prop where
  unnamed : ∃ what, identifier.toString = .error (.runtimeError what)
  byIdentifier : stations.apply identifier = .ok (.error .invalidStation)
  calculator : ∀ calculator : NetworkMagnitudeCalculator F, calculator.IsReachable →
    calculator.mOptions.getStationCorrections = .ok set →
      ∃ what, calculator.getStationCorrection identifier = .error (.runtimeError what)

/-- What a sequence of insertions leaves: entries under their own names, one for each name
that was inserted, each from the last insertion for its name that was accepted; and all
views of the set agree. -/
structure FirstWinsSet (insertions : List (Insertion F)) (inserted : List Bool)
    (set : StationsSet F) : Prop where
  keys : ∀ name station, set.mCorrections.lookup name = some station →
    station.getName = .ok name
  last : ∀ name, set.getCorrection name =
    FirstWins.lastAccepted name ((insertions.map callOf).zip inserted)
  size : set.mCorrections.entries.length =
    (insertions.map fun insertion => insertion.correction.name).dedup.length
  views : insertions ≠ [] → ∃ stations, Stations.ofSet set = .ok stations ∧
    ∀ identifier : StationIdentifier,
      (∃ name correction, identifier.toString = .ok name ∧
        ReportAlike set stations identifier name correction) ∨
      ReportNothing set stations identifier

/-! ## One insertion -/

theorem exists_inserts {insertion : Insertion F} (h : insertion.correction.IsReachable)
    (set : StationsSet F) : ∃ inserted after, Inserts set insertion inserted after := by
  obtain ⟨after, hexec, htable, hunchanged⟩ := StationsSet.exists_exec_method h.inv set
  refine ⟨_, after, hexec, ?_, hunchanged, fun haccepts => ?_, fun name hname => ?_⟩
  · rw [FirstWins.accepts_eq_false_iff]
    exact and_congr_left fun _ => AList.lookup_isSome
  · exact (congrFun htable _).trans (FirstWins.put_self_of_accepts haccepts)
  · have hother : (callOf insertion).key ≠ name := fun h => hname h.symm
    have hkept := congrFun htable name
    rw [FirstWins.put_of_ne hother] at hkept
    exact hkept

/-! ## The views -/

section Sets

variable {set : StationsSet F} (hset : set.Inv)

include hset

/-- A station name is never empty, so the check for it in the lookup never applies. -/
theorem getCorrection_eq (name : Bytes) :
    set.getCorrection name = set.mCorrections.lookup name := by
  unfold StationsSet.getCorrection
  by_cases hempty : name = []
  · rw [if_pos hempty]
    cases hlookup : set.mCorrections.lookup name with
    | none => rfl
    | some station =>
        obtain ⟨hname, -⟩ := hset name station hlookup
        exact absurd (hname.trans hempty) (StationIdentifier.name_ne_nil _)
  · rw [if_neg hempty]

theorem reportAlike (identifier : StationIdentifier) (hcomplete : identifier.Complete) :
    ReportAlike set { mCorrections := set, mInitialized := true } identifier identifier.name
      ((set.mCorrections.lookup identifier.name).map Station.mCorrection) where
  bySet := by
    rw [getCorrection_eq hset]
    cases hlookup : set.mCorrections.lookup identifier.name with
    | none => rfl
    | some station => exact congrArg some (hset _ station hlookup).2.inv.apply
  byIdentifier := by
    rw [Stations.apply_eq hset, if_pos ⟨hcomplete.network, hcomplete.station⟩]
  byName := Stations.applyName_eq hset identifier.name_ne_nil
  map := by
    obtain ⟨corrections, hcorrections, hlookup⟩ := Stations.exists_getCorrections hset
    exact ⟨corrections, hcorrections, hlookup identifier.name⟩
  calculator := by
    intro calculator hcalculator hholds
    obtain ⟨distance, set', hwellFormed⟩ := hcalculator.wellFormed
    obtain rfl : set' = set :=
      Except.ok.inj (hwellFormed.stationCorrections.symm.trans hholds)
    exact hwellFormed.getStationCorrection_eq hcomplete

theorem reportNothing (identifier : StationIdentifier) (hincomplete : ¬ identifier.Complete) :
    ReportNothing set { mCorrections := set, mInitialized := true } identifier := by
  obtain ⟨what, hwhat⟩ : ∃ what, identifier.toString = .error (.runtimeError what) := by
    -- Without a network or a station there is no name.
    cases hname : identifier.toString with
    | ok name => exact absurd (StationIdentifier.toString_eq_ok.mp hname).1 hincomplete
    | error reason =>
        obtain ⟨what, rfl⟩ := StationIdentifier.exists_of_toString_error hname
        exact ⟨what, rfl⟩
  refine ⟨⟨what, hwhat⟩, ?_, ?_⟩
  · rw [Stations.apply_eq hset, if_neg fun hboth => hincomplete ⟨hboth.1, hboth.2⟩]
  · intro calculator hcalculator _
    refine ⟨what, ?_⟩
    unfold NetworkMagnitudeCalculator.getStationCorrection
    rw [throwIf_neg
      (by simp [NetworkMagnitudeCalculator.isInitialized, hcalculator.initialized]), bind_ok,
      hwhat, bind_error]

end Sets

/-! ## Sequences of insertions -/

theorem firstWinsSet {insertions : List (Insertion F)} {set : StationsSet F}
    (hreachable : set.IsReachable)
    (htable : StationsSet.tableOf set =
      FirstWins.run (fun _ => none) (insertions.map callOf)) :
    FirstWinsSet insertions
      (FirstWins.answers (fun _ => none) (insertions.map callOf)) set := by
  have hset := hreachable.inv
  have hkeys (name : Bytes) : name ∈ set.mCorrections.keys ↔
      (FirstWins.run (fun _ => none) (insertions.map callOf) name).isSome = true := by
    rw [← htable, ← AList.mem_keys]
    exact AList.lookup_isSome.symm
  have hsize : set.mCorrections.entries.length =
      (insertions.map fun insertion => insertion.correction.name).dedup.length := by
    have hlength := FirstWins.length_eq_dedup set.mCorrections.keys_nodup hkeys
    rw [List.map_map] at hlength
    rw [← show set.mCorrections.keys.length = _ from List.length_map ..]
    exact hlength
  refine ⟨?_, ?_, hsize, ?_⟩
  · intro name station hlookup
    obtain ⟨rfl, hstation⟩ := hset name station hlookup
    exact hstation.inv.getName
  · intro name
    rw [getCorrection_eq hset]
    refine (congrFun htable name).trans ?_
    rw [FirstWins.run_eq, Option.or_none]
  · intro hinsertions
    have hnonempty : set.empty = false := by
      obtain ⟨first, rest, rfl⟩ := List.exists_cons_of_ne_nil hinsertions
      -- The name of the first insertion is in the set, whatever comes after it.
      have hfirst : first.correction.name ∈ set.mCorrections.keys := by
        rw [hkeys, FirstWins.isSome_run_iff]
        exact Or.inr List.mem_cons_self
      unfold StationsSet.empty
      rw [List.isEmpty_eq_false_iff]
      rintro hentries
      simp [AList.keys, hentries, List.keys] at hfirst
    refine ⟨_, Stations.ofSet_eq_ok.mpr ⟨hnonempty, rfl⟩, fun identifier => ?_⟩
    -- Complete identifiers have a name, and all views look it up.
    by_cases hcomplete : identifier.Complete
    · exact Or.inl ⟨_, _, hcomplete.toString, reportAlike hset identifier hcomplete⟩
    · exact Or.inr (reportNothing hset identifier hcomplete)

/-- A set is a first-wins map with explicit overwrite: every insertion of a constructed
station into a set in use behaves as one, and so does every sequence of them. -/
theorem stations_set_is_first_wins :
    (∀ (set : StationsSet F) (insertion : Insertion F), set.IsReachable →
      insertion.correction.IsReachable →
        ∃ inserted after, Inserts set insertion inserted after) ∧
    ∀ insertions : List (Insertion F),
      (∀ insertion ∈ insertions, insertion.correction.IsReachable) →
        ∃ inserted set, insertAll {} insertions = .ok (inserted, set) ∧
          FirstWinsSet insertions inserted set := by
  constructor
  · intro set insertion _ hinsertion
    exact exists_inserts hinsertion set
  · intro insertions hinsertions
    have hempty : StationsSet.IsReachable ({} : StationsSet F) := .init rfl
    obtain ⟨set, hset, htable, hreachable⟩ := StationsSet.exists_insertAll hinsertions hempty
    exact ⟨_, set, hset, firstWinsSet hreachable htable⟩

/-! ## Three insertions for one station -/

/-- A first value, a second one that must not replace it, and a third one that may. -/
def repeatedInsertions : List (Insertion ℚ) :=
  [{ correction := Rationals.station Rationals.uu (bytes "ASU7") (.finite 0),
     overwrite := false },
    { correction := Rationals.station Rationals.uu (bytes "asu7") (.finite 1),
      overwrite := false },
    { correction := Rationals.station Rationals.uu (bytes "ASU7") (.finite 2),
      overwrite := true }]

theorem repeatedInsertions_isReachable :
    ∀ insertion ∈ repeatedInsertions, insertion.correction.IsReachable := by
  intro insertion hmem
  simp only [repeatedInsertions, List.mem_cons, List.not_mem_nil, or_false] at hmem
  rcases hmem with rfl | rfl | rfl
  · dsimp only
    exact Rationals.station_isReachable (by decide) (by decide)
  · dsimp only
    exact Rationals.station_isReachable (by decide) (by decide)
  · dsimp only
    exact Rationals.station_isReachable (by decide) (by decide)

/-- The second insertion is refused, and one entry with the third value is left. -/
theorem repeated_insertions_are_first_wins :
    ∃ set, insertAll {} repeatedInsertions = .ok ([true, false, true], set) ∧
      FirstWinsSet repeatedInsertions [true, false, true] set := by
  obtain ⟨inserted, set, hset, hwins⟩ :=
    (stations_set_is_first_wins (F := ℚ)).2 repeatedInsertions repeatedInsertions_isReachable
  have hinserted : (insertAll {} repeatedInsertions).toOption.map Prod.fst =
      some [true, false, true] := by decide +kernel
  rw [hset] at hinserted
  obtain rfl : inserted = [true, false, true] := Option.some.inj hinserted
  exact ⟨set, hset, hwins⟩

end Properties
end ULocalMagnitude
