import ULocalMagnitude.Properties.Specification

/-!
# Rejected observations

Rejected observations have no influence on the network magnitude: it stays the same
when any of them are taken out of the list, and when others are put into it anywhere.
Only the numbers of the observations behind them change.
-/

namespace ULocalMagnitude
namespace Properties

open Cxx Magnitude
open Batch (OnlyDrops kept removed renumbered)
open Magnitude.NetworkMagnitudeCalculator (apply_eq_ok_ok_iff_averages averages_of_apply
  mem_rejections_tabulated_iff)

variable {F : Type} [Arithmetic F]

/-- The residual under the number that its observation has among the kept ones. -/
def renumber (marks : List Bool) (entry : Residual F × Int) : Residual F × Int :=
  (entry.1, Int.ofNat (renumbered marks entry.2.toNat))

section Kept

variable {calculator : NetworkMagnitudeCalculator F} {observations : List (Observation F)}
  {marks : List Bool}
  (h : OnlyDrops (fun o => calculator.assessment.accepted o = none) marks observations)

include h

theorem acceptedValues_kept :
    calculator.acceptedValues (kept marks observations) =
      calculator.acceptedValues observations :=
  congrArg (List.map StationMagnitude.mValue) (Batch.filterMap_kept h)

theorem mResiduals_kept (value : Double F) :
    (calculator.tabulated value (kept marks observations)).mResiduals =
      (calculator.tabulated value observations).mResiduals.map (renumber marks) := by
  unfold NetworkMagnitudeCalculator.tabulated
  dsimp only
  rw [Batch.numbered_kept h, List.map_map, List.map_map]
  rfl

/-- Taking rejected observations out of a list that has a magnitude leaves one that has. -/
theorem averages_kept (haverages : calculator.Averages observations) :
    calculator.Averages (kept marks observations) := by
  have hvalues := acceptedValues_kept h
  have hsublist := Batch.kept_sublist marks observations
  have hadmitted := haverages.admitted
  have hnonempty : kept marks observations ≠ [] := by
    intro hnil
    have hne := haverages.acceptedValues_ne_nil
    rw [← hvalues, hnil] at hne
    exact hne rfl
  exact
    { admitted := ⟨hnonempty, fun o ho => hadmitted.complete o (hsublist.subset ho),
        (hsublist.map Observation.mStationName).nodup hadmitted.distinct⟩
      enough := hvalues ▸ haverages.enough
      inRange := hvalues ▸ haverages.inRange }

/-- Putting rejected observations into a list that has a magnitude leaves one that has, as
long as no field is missing and the names stay distinct. -/
theorem averages_of_kept (haverages : calculator.Averages (kept marks observations))
    (hcomplete : ∀ o ∈ observations, calculator.missing o = none)
    (hdistinct : (observations.map Observation.mStationName).Nodup) :
    calculator.Averages observations := by
  have hvalues := acceptedValues_kept h
  have hnonempty : observations ≠ [] := by
    rintro rfl
    have hnil : kept marks ([] : List (Observation F)) = [] :=
      List.sublist_nil.mp (Batch.kept_sublist marks [])
    exact haverages.admitted.nonempty hnil
  exact
    { admitted := ⟨hnonempty, hcomplete, hdistinct⟩
      enough := hvalues ▸ haverages.enough
      inRange := hvalues ▸ haverages.inRange }

end Kept

section PutIn

variable {calculator : NetworkMagnitudeCalculator F} {observations : List (Observation F)}
  {marks : List Bool} (hlength : marks.length = observations.length)
  (hremoved : ∀ o ∈ removed marks observations, HasAllFields calculator o ∧
    ∃ errorCode, calculator.computeStationMagnitude o = .ok (.error errorCode))

include hlength hremoved

theorem onlyDrops_of_rejected :
    OnlyDrops (fun o => calculator.assessment.accepted o = none) marks observations := by
  refine Batch.onlyDrops_of_removed hlength fun o ho => ?_
  obtain ⟨-, errorCode, hcode⟩ := hremoved o ho
  have houtcome : calculator.outcome o = .error errorCode := by
    unfold NetworkMagnitudeCalculator.outcome
    rw [hcode]
  exact Batch.Assessment.accepted_of_error houtcome

/-- With new names, complete observations that are rejected can be put in. -/
theorem averages_kept_iff (hcalculator : calculator.IsReachable)
    (hnodup : ((removed marks observations).map Observation.getStationName).Nodup)
    (hfresh : ∀ o ∈ removed marks observations, ∀ o' ∈ kept marks observations,
      o.getStationName ≠ o'.getStationName) :
    (calculator.Averages (kept marks observations) ∧
        ∀ o ∈ kept marks observations, calculator.Computes o) ↔
      calculator.Averages observations ∧ ∀ o ∈ observations, calculator.Computes o := by
  have hdrops := onlyDrops_of_rejected hlength hremoved
  have hperm := Batch.kept_append_removed_perm hlength
  -- An observation of the whole list was kept or is one that is put in.
  have hcases {P : Observation F → Prop} (hkept : ∀ o ∈ kept marks observations, P o)
      (hput : ∀ o ∈ removed marks observations, P o) : ∀ o ∈ observations, P o := by
    intro o ho
    rcases List.mem_append.mp (hperm.mem_iff.mpr ho) with hmem | hmem
    · exact hkept o hmem
    · exact hput o hmem
  constructor
  · intro h
    rcases h with ⟨haverages, hcomputes⟩
    have hkept : ∀ o ∈ kept marks observations, HasAllFields calculator o :=
      (forall_hasAllFields_iff hcalculator).mpr haverages.admitted.complete
    have hall : ∀ o ∈ observations, HasAllFields calculator o :=
      hcases hkept fun o ho => (hremoved o ho).1
    have hdistinct : (observations.map Observation.getStationName).Nodup := by
      rw [← (hperm.map Observation.getStationName).nodup_iff, List.map_append,
        List.nodup_append]
      refine ⟨(nodup_getStationName_iff hcalculator hkept).mpr haverages.admitted.distinct,
        hnodup, ?_⟩
      intro name hname name' hname' hsame
      obtain ⟨o', ho', rfl⟩ := List.mem_map.mp hname
      obtain ⟨o, ho, rfl⟩ := List.mem_map.mp hname'
      exact hfresh o ho o' ho' hsame.symm
    refine ⟨averages_of_kept hdrops haverages ((forall_hasAllFields_iff hcalculator).mp hall)
      ((nodup_getStationName_iff hcalculator hall).mp hdistinct), ?_⟩
    refine hcases hcomputes fun o ho => ?_
    obtain ⟨-, errorCode, hcode⟩ := hremoved o ho
    exact ⟨_, hcode⟩
  · intro h
    rcases h with ⟨haverages, hcomputes⟩
    exact ⟨averages_kept hdrops haverages, fun o ho =>
      hcomputes o ((Batch.kept_sublist marks observations).subset ho)⟩

end PutIn

/-- Taking out rejected observations keeps the value and, in order, the residuals; each
kept observation is found under its new number.  Putting in complete observations with
new names that are rejected does so as well. -/
theorem rejected_observations_have_no_influence :
    (∀ (calculator : NetworkMagnitudeCalculator F) (observations : List (Observation F))
        (magnitude : NetworkMagnitude F) (marks : List Bool),
      calculator.apply observations = .ok (.ok magnitude) →
      marks.length = observations.length →
      (∀ k : Nat, marks[k]? = some false →
        ∃ errorCode, (errorCode, Int.ofNat (k + 1)) ∈ magnitude.mRejectedObservations) →
      (∃ magnitude', calculator.apply (kept marks observations) = .ok (.ok magnitude') ∧
        magnitude'.getValue = magnitude.getValue ∧
        magnitude'.mResiduals = magnitude.mResiduals.map (renumber marks)) ∧
      ∀ k : Nat, marks[k]? = some true →
        (kept marks observations)[renumbered marks (k + 1) - 1]? = observations[k]?) ∧
    ∀ (calculator : NetworkMagnitudeCalculator F) (observations : List (Observation F))
        (marks : List Bool),
      calculator.IsReachable → marks.length = observations.length →
      (∀ o ∈ removed marks observations, HasAllFields calculator o ∧
        ∃ errorCode, calculator.computeStationMagnitude o = .ok (.error errorCode)) →
      ((removed marks observations).map Observation.getStationName).Nodup →
      (∀ o ∈ removed marks observations, ∀ o' ∈ kept marks observations,
        o.getStationName ≠ o'.getStationName) →
      ((∃ magnitude, calculator.apply (kept marks observations) = .ok (.ok magnitude)) ↔
        ∃ magnitude', calculator.apply observations = .ok (.ok magnitude')) ∧
      ∀ magnitude magnitude',
        calculator.apply (kept marks observations) = .ok (.ok magnitude) →
        calculator.apply observations = .ok (.ok magnitude') →
        magnitude.getValue = magnitude'.getValue ∧
          magnitude.mResiduals = magnitude'.mResiduals.map (renumber marks) := by
  constructor
  · intro calculator observations magnitude marks happly hlength hrejected
    have hinitialized := NetworkMagnitudeCalculator.initialized_of_apply happly
    obtain ⟨haverages, hcomputes, rfl⟩ := averages_of_apply happly
    have hdrops : OnlyDrops (fun o => calculator.assessment.accepted o = none) marks
        observations := by
      refine Batch.onlyDrops_of_getElem? hlength fun k o hmark ho => ?_
      obtain ⟨errorCode, hmem⟩ := hrejected k hmark
      obtain ⟨o', ho', houtcome⟩ := mem_rejections_tabulated_iff.mp hmem
      obtain rfl : o = o' := Option.some.inj (ho.symm.trans ho')
      exact Batch.Assessment.accepted_of_error houtcome
    have hcomputes' : ∀ o ∈ kept marks observations, calculator.Computes o :=
      fun o ho => hcomputes o ((Batch.kept_sublist marks observations).subset ho)
    refine ⟨⟨_, (apply_eq_ok_ok_iff_averages hinitialized).mpr
      ⟨averages_kept hdrops haverages, hcomputes', rfl⟩, ?_⟩,
      fun k hmark => Batch.getElem?_kept hmark observations⟩
    rw [acceptedValues_kept hdrops]
    exact ⟨rfl, mResiduals_kept hdrops _⟩
  · intro calculator observations marks hcalculator hlength hremoved hnodup hfresh
    have hinitialized := hcalculator.initialized
    have hdrops := onlyDrops_of_rejected hlength hremoved
    have hsucceeds := averages_kept_iff hlength hremoved hcalculator hnodup hfresh
    constructor
    · simp only [apply_eq_ok_ok_iff_averages hinitialized, ← and_assoc, exists_and_left,
        exists_eq', and_true]
      exact hsucceeds
    · intro magnitude magnitude' h h'
      obtain ⟨-, -, rfl⟩ := averages_of_apply h
      obtain ⟨-, -, rfl⟩ := averages_of_apply h'
      rw [acceptedValues_kept hdrops]
      exact ⟨rfl, mResiduals_kept hdrops _⟩

/-- Without the observation in the middle, and with it put back. -/
theorem middle_observation_has_no_influence :
    (∃ magnitude', Rationals.network.apply (kept [true, false, true] Rationals.observations) =
        .ok (.ok magnitude') ∧
      magnitude'.getValue = Rationals.networkMagnitude.getValue ∧
      magnitude'.mResiduals =
        Rationals.networkMagnitude.mResiduals.map (renumber [true, false, true])) ∧
    ((∃ magnitude, Rationals.network.apply (kept [true, false, true] Rationals.observations) =
        .ok (.ok magnitude)) ↔
      ∃ magnitude', Rationals.network.apply Rationals.observations = .ok (.ok magnitude')) := by
  constructor
  · refine ((rejected_observations_have_no_influence (F := ℚ)).1 Rationals.network
      Rationals.observations Rationals.networkMagnitude [true, false, true]
      Rationals.sample.network_apply rfl ?_).1
    intro k hk
    have hmiddle : k = 1 := by
      rcases k with _ | _ | _ | k
      · exact absurd hk (by decide)
      · rfl
      · exact absurd hk (by decide)
      · exact absurd hk (by simp)
    subst hmiddle
    exact ⟨.observationHasNoCorrection, by decide +kernel⟩
  · have hremoved : removed [true, false, true] Rationals.observations =
        [Rationals.observation Rationals.uu (bytes "CVRU") 20 20] := rfl
    refine ((rejected_observations_have_no_influence (F := ℚ)).2 Rationals.network
      Rationals.observations [true, false, true] Rationals.sample.network_isReachable rfl
      ?_ ?_ ?_).1
    · intro o ho
      rw [hremoved] at ho
      obtain rfl := List.mem_singleton.mp ho
      exact ⟨(hasAllFields_iff Rationals.sample.network_isReachable).mpr (by decide +kernel),
        .observationHasNoCorrection, by decide +kernel⟩
    · rw [hremoved]
      exact List.nodup_singleton _
    · decide +kernel

end Properties
end ULocalMagnitude
