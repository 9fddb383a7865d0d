import ULocalMagnitude.Average
import ULocalMagnitude.Magnitude.NetworkWorkItems

/-!
# The network magnitude is an average

The call operator of the network calculator against the abstract average over a
batch: the items are the observations under their station names, each one assessed
by `computeStationMagnitude`.  In exact arithmetic the sum over the work items is the sum of
the measures and the residuals are what is left of the mean; `apply_eq_ok_iff` is the
refinement.  It wants nothing of the calculator but that it is initialized.
-/

namespace ULocalMagnitude
namespace Magnitude
namespace NetworkMagnitudeCalculator

open Cxx
open Batch (Assessment Average Failure mean)

variable {F : Type} [Arithmetic F]

/-- The residual of an accepted observation, under its number. -/
def residualOf (value : F) (accepted : StationMagnitude F × Nat) : Residual F × Int :=
  (Residual.ofMagnitude (.finite (value - accepted.1.mValue.val)) accepted.1, accepted.2)

/-- The network magnitude that an average is. -/
def networkMagnitudeOf (average : Average StationCalculatorErrorCode (StationMagnitude F) F) :
    NetworkMagnitude F where
  mResiduals := average.accepted.map (residualOf average.value)
  mRejectedObservations := average.rejected.map rejectionOf
  mValue := .finite average.value
  mHasValue := true
  mHasResiduals := true
  mHasRejectedObservations := true

/-- The error code for a failure. -/
def errorCodeOf : Failure ErrorCode → ErrorCode
  | .noItems => .noObservations
  | .incomplete lacks => lacks
  | .duplicate => .duplicateObservations
  | .tooFew => .tooFewObservations
  | .outOfRange => .algorithm

/-- What `operator()` returns for an average. -/
def resultOf : Except (Failure ErrorCode)
      (Average StationCalculatorErrorCode (StationMagnitude F) F) →
    Except ErrorCode (NetworkMagnitude F)
  | .ok average => .ok (networkMagnitudeOf average)
  | .error failure => .error (errorCodeOf failure)

section Average

variable {calculator : NetworkMagnitudeCalculator F} {observations : List (Observation F)}

/-- The values that are accepted are the measures. -/
theorem acceptedValues_eq :
    calculator.acceptedValues observations =
      (calculator.assessment.measures observations).map .finite := by
  unfold acceptedValues Assessment.measures
  rw [List.map_map]
  refine List.map_congr_left fun magnitude hmem => ?_
  obtain ⟨o, -, haccepted⟩ := List.mem_filterMap.mp hmem
  exact (complete_of_outcome (Assessment.accepted_eq_some_iff.mp haccepted)).2

theorem length_acceptedValues :
    (calculator.acceptedValues observations).length =
      (calculator.assessment.measures observations).length := by
  rw [acceptedValues_eq, List.length_map]

variable [IsExact F]

theorem foldl_finite (values : List F) (sum : F) :
    (values.map Double.finite).foldl (fun sum value => sum + value) (.finite sum) =
      .finite (sum + values.sum) := by
  induction values generalizing sum with
  | nil => simp
  | cons value rest ih =>
      rw [List.map_cons, List.foldl_cons, Double.finite_add_finite, ih, List.sum_cons,
        ← add_assoc]

/-- The sum over the number is the mean. -/
theorem averageOf_finite {values : List F} (h : values ≠ []) :
    averageOf (values.map .finite) = .finite (mean values) := by
  unfold averageOf
  rw [foldl_finite, List.length_map, zero_add,
    Double.finite_div_finite _ (Batch.length_cast_pos h).ne']
  rfl

/-- What is tabulated at the mean is the average. -/
theorem tabulated_eq :
    calculator.tabulated (.finite (mean (calculator.assessment.measures observations)))
      observations = networkMagnitudeOf (calculator.assessment.result observations) := by
  have hresiduals : ∀ accepted ∈ (calculator.assessment.result observations).accepted,
      residualAt (.finite (mean (calculator.assessment.measures observations))) accepted =
        residualOf (mean (calculator.assessment.measures observations)) accepted := by
    rintro ⟨magnitude, number⟩ hmem
    obtain ⟨-, o, -, houtcome⟩ := Assessment.mem_accepted_iff.mp hmem
    unfold residualAt residualOf
    dsimp only
    rw [(complete_of_outcome houtcome).2, Double.finite_sub_finite]
    rfl
  have hmap := List.map_congr_left hresiduals
  unfold tabulated networkMagnitudeOf
  rw [NetworkMagnitude.mk.injEq]
  exact ⟨hmap, rfl, rfl, rfl, rfl, rfl⟩

/-- With numbers for all corrections the calculator returns for every observation. -/
theorem IsReachable.computes (h : calculator.IsReachable) (hnumeric : calculator.Numeric)
    {observation : Observation F} (hobservation : observation.Inv) :
    calculator.Computes observation := by
  obtain ⟨distance, set, hwellFormed⟩ := h.wellFormed
  exact (hwellFormed.exists_computeStationMagnitude_iff_of_exact hobservation).mpr
    (hwellFormed.isAnswerable hnumeric hobservation)

/-- The residuals are those of the accepted observations, under the number of their
place. -/
theorem mem_residuals_iff {residual : Residual F} {k : Nat} :
    (residual, Int.ofNat (k + 1)) ∈
        (networkMagnitudeOf (calculator.assessment.result observations)).mResiduals ↔
      ∃ o magnitude, observations[k]? = some o ∧ calculator.outcome o = .ok magnitude ∧
        Residual.ofMagnitude (.finite
          (mean (calculator.assessment.measures observations) - magnitude.mValue.val))
            magnitude = residual := by
  rw [← tabulated_eq, mem_residuals_tabulated_iff]
  refine exists_congr fun o => exists_congr fun magnitude => and_congr_right fun _ =>
    and_congr_right fun houtcome => ?_
  rw [(complete_of_outcome houtcome).2, Double.finite_sub_finite]
  rfl

/-- The rejections are those of the other observations, under the number of their place. -/
theorem mem_rejections_iff {errorCode : StationCalculatorErrorCode} {k : Nat} :
    (errorCode, Int.ofNat (k + 1)) ∈ (networkMagnitudeOf
        (calculator.assessment.result observations)).mRejectedObservations ↔
      ∃ o, observations[k]? = some o ∧ calculator.outcome o = .error errorCode := by
  rw [← tabulated_eq, mem_rejections_tabulated_iff]

/-! ## Refinement -/

/-- Behind the work items only the last two checks are left. -/
theorem combineWorkItems_of_exact
    (hamplitudes : ∀ o ∈ observations, o.mHasAmplitudes = true) :
    calculator.combineWorkItems (calculator.workItemsFrom 0 observations) =
      .ok (resultOf
        (if ((calculator.assessment.measures observations).length : Int) <
            max 1 calculator.assessment.minimum then .error .tooFew
        else if
            mean (calculator.assessment.measures observations) < calculator.assessment.lower ∨
            calculator.assessment.upper < mean (calculator.assessment.measures observations)
          then .error .outOfRange
          else .ok (calculator.assessment.result observations))) := by
  have hminimum : calculator.mOptions.getMinimumNumberOfStationMagnitudes =
    calculator.assessment.minimum := rfl
  rw [combineWorkItems_eq hamplitudes, length_acceptedValues, hminimum]
  by_cases hfew : ((calculator.assessment.measures observations).length : Int) <
      max 1 calculator.assessment.minimum
  · rw [if_pos hfew, if_pos hfew]
    rfl
  · have haccepted : calculator.assessment.measures observations ≠ [] := by
      intro hnil
      rw [hnil, List.length_nil] at hfew
      omega
    have hlower : calculator.assessment.lower = -10 := rfl
    have hupper : calculator.assessment.upper = 10 := rfl
    rw [if_neg hfew, if_neg hfew, acceptedValues_eq, averageOf_finite haccepted, tabulated_eq,
      hlower, hupper]
    by_cases hrange : mean (calculator.assessment.measures observations) < -10 ∨
        10 < mean (calculator.assessment.measures observations)
    · rw [if_pos hrange]
      exact congrArg Except.ok (if_pos hrange)
    · rw [if_neg hrange]
      exact congrArg Except.ok (if_neg hrange)

/-- The list is settled by its average. -/
theorem settled_eq (observations : List (Observation F)) :
    calculator.settled observations =
      .ok (resultOf (calculator.assessment.average observations)) := by
  unfold settled
  split
  next hempty =>
    rw [hempty, Assessment.average_nil]
    rfl
  next hnonempty =>
    split
    next lacks hmissing =>
      rw [Assessment.average_of_missing (a := calculator.assessment) hnonempty hmissing]
      rfl
    next hmissing =>
      have hcomplete : ∀ o ∈ observations, calculator.missing o = none := by
        simpa using hmissing
      have hname : calculator.assessment.name = Observation.mStationName := rfl
      rw [Assessment.average_of_complete (a := calculator.assessment) hnonempty hcomplete,
        hname]
      split
      · rw [combineWorkItems_of_exact fun o ho => (missing_eq_none_iff.mp (hcomplete o ho)).1]
      · rfl

/-- `operator()` returns exactly when the magnitudes of an admitted list can be computed,
and then it returns what the average is. -/
theorem apply_eq_ok_iff (hinitialized : calculator.mInitialized = true)
    {returned : Except ErrorCode (NetworkMagnitude F)} :
    calculator.apply observations = .ok returned ↔
      (calculator.Admitted observations → ∀ o ∈ observations, calculator.Computes o) ∧
        resultOf (calculator.assessment.average observations) = returned := by
  rw [apply_eq_ok_iff_settled hinitialized, settled_eq, Except.ok.injEq]

/-- Where all station magnitudes are computed, the call returns the average. -/
theorem apply_of_computes (hinitialized : calculator.mInitialized = true)
    (hcomputes : ∀ o ∈ observations, calculator.Computes o) :
    calculator.apply observations =
      .ok (resultOf (calculator.assessment.average observations)) :=
  (apply_eq_ok_iff hinitialized).mpr ⟨fun _ => hcomputes, rfl⟩

/-- A successful run returns what the average over its list is. -/
theorem exists_result_of_apply {magnitude : NetworkMagnitude F}
    (h : calculator.apply observations = .ok (.ok magnitude)) :
    calculator.assessment.Passes observations ∧
      (∀ o ∈ observations, calculator.Computes o) ∧
      magnitude = networkMagnitudeOf (calculator.assessment.result observations) := by
  have hinitialized := initialized_of_apply h
  obtain ⟨hcomputes, hresult⟩ :=
    (apply_eq_ok_iff hinitialized).mp h
  cases haverage : calculator.assessment.average observations with
  | error failure =>
      rw [haverage] at hresult
      exact absurd hresult nofun
  | ok average =>
      rw [haverage] at hresult
      obtain ⟨hpasses, rfl⟩ := Batch.Assessment.average_eq_ok_iff.mp haverage
      exact ⟨hpasses, hcomputes ⟨hpasses.nonempty, hpasses.complete, hpasses.distinct⟩,
        (Except.ok.inj hresult).symm⟩

/-- A run succeeds exactly for the lists that pass the checks. -/
theorem apply_eq_ok_ok_iff (hinitialized : calculator.mInitialized = true)
    {magnitude : NetworkMagnitude F} :
    calculator.apply observations = .ok (.ok magnitude) ↔
      calculator.assessment.Passes observations ∧
        (∀ o ∈ observations, calculator.Computes o) ∧
        magnitude = networkMagnitudeOf (calculator.assessment.result observations) := by
  constructor
  · exact exists_result_of_apply
  · intro h
    rcases h with ⟨hpasses, hcomputes, rfl⟩
    rw [apply_eq_ok_iff hinitialized, hpasses.average]
    exact ⟨fun _ => hcomputes, rfl⟩

/-- In exact arithmetic `operator()` returns exactly when it can answer the observations of
an admitted list. -/
theorem WellFormed.exists_apply_iff_of_exact {distance : Corrections.Distance F}
    {set : Corrections.StationsSet F} (h : calculator.WellFormed distance set)
    (hobservations : ∀ o ∈ observations, o.Inv) :
    (∃ outcome, calculator.apply observations = .ok outcome) ↔
      (calculator.Admitted observations →
        ∀ o ∈ observations, calculator.IsAnswerable distance set o) := by
  have hall : (∀ o ∈ observations, calculator.Computes o) ↔
      ∀ o ∈ observations, calculator.IsAnswerable distance set o :=
    forall₂_congr fun o ho =>
      h.exists_computeStationMagnitude_iff_of_exact (hobservations o ho)
  rw [NetworkMagnitudeCalculator.exists_apply_iff h.initialized, hall]

end Average

end NetworkMagnitudeCalculator
end Magnitude
end ULocalMagnitude
