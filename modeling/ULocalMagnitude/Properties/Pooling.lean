import ULocalMagnitude.Magnitude.NetworkAverage
import ULocalMagnitude.Pooling
import ULocalMagnitude.Rationals

/-!
# Lists of observations put together and taken apart

The network magnitude of a list of observations from the network magnitudes of its parts,
and of a list without one of its observations from the magnitude and that observation's
residual.

* `lists_are_pooled` — the answer to any number of lists one behind the other;
* `observation_is_left_out` — the answer to a list without an accepted observation.
-/

namespace ULocalMagnitude
namespace Properties

open Cxx Magnitude
open Batch (mean numbered droppedAt)
open Batch.Assessment (accepted_map_fst)
open Magnitude.NetworkMagnitudeCalculator (apply_of_computes errorCodeOf exists_result_of_apply
  initialized_of_apply networkMagnitudeOf rejectionOf residualOf resultOf)

variable {F : Type} [ExactArithmetic F]

/-- The residual at a network magnitude that is higher by `shift`. -/
def moved (shift : F) (entry : Residual F × Int) : Residual F × Int :=
  ({ entry.1 with mValue := entry.1.mValue + .finite shift }, entry.2)

/-! ## Several lists -/

/-- Some observations with a network magnitude of theirs. -/
abbrev Part (F : Type) [Arithmetic F] : Type := List (Observation F) × NetworkMagnitude F

/-- The observations of the parts, one part behind the other. -/
def observationsOf (parts : List (Part F)) : List (Observation F) :=
  (parts.map Prod.fst).flatten

/-- How many residuals the parts have. -/
def residualCount (parts : List (Part F)) : Nat :=
  (parts.map fun part => part.2.mResiduals.length).sum

/-- The values of the parts, each one once for each of its residuals. -/
def weightedSum (parts : List (Part F)) : F :=
  (parts.map fun part => (part.2.mResiduals.length : F) * part.2.mValue.val).sum

/-- The value for all parts together. -/
def pooledValue (parts : List (Part F)) : F := weightedSum parts / residualCount parts

/-- The number that it has behind `count` observations. -/
def behind {β : Type} (count : Nat) (entry : β × Int) : β × Int := (entry.1, entry.2 + count)

/-- The residuals of the parts at a common value, one part behind the other. -/
def pooledResiduals (value : F) : List (Part F) → List (Residual F × Int)
  | [] => []
  | (observations, magnitude) :: rest =>
      magnitude.mResiduals.map (moved (value - magnitude.mValue.val)) ++
        (pooledResiduals value rest).map (behind observations.length)

/-- The rejections of the parts, one part behind the other. -/
def pooledRejections : List (Part F) → List (StationCalculatorErrorCode × Int)
  | [] => []
  | (observations, magnitude) :: rest =>
      magnitude.mRejectedObservations ++
        (pooledRejections rest).map (behind observations.length)

/-- The network magnitude of all parts together. -/
def pooled (parts : List (Part F)) : NetworkMagnitude F where
  mResiduals := pooledResiduals (pooledValue parts) parts
  mRejectedObservations := pooledRejections parts
  mValue := .finite (pooledValue parts)
  mHasValue := true
  mHasResiduals := true
  mHasRejectedObservations := true

/-- No joined name of a station is in both lists. -/
def Apart (first second : List (Observation F)) : Prop :=
  ∀ observation ∈ first, ∀ other ∈ second, observation.mStationName ≠ other.mStationName

instance (first second : List (Observation F)) : Decidable (Apart first second) :=
  inferInstanceAs (Decidable (∀ observation ∈ first, ∀ other ∈ second,
    observation.mStationName ≠ other.mStationName))

section Residuals

variable {calculator : NetworkMagnitudeCalculator F} {observations : List (Observation F)}

/-- One residual for each accepted observation. -/
theorem length_mResiduals : (networkMagnitudeOf
    (calculator.assessment.result observations)).mResiduals.length =
      (calculator.assessment.measures observations).length := by
  have hfst := congrArg List.length
    (accepted_map_fst (a := calculator.assessment) observations)
  rw [List.length_map] at hfst
  unfold networkMagnitudeOf Batch.Assessment.measures
  rw [List.length_map, List.length_map, hfst]

/-- A residual at another value of the network magnitude. -/
theorem moved_residualOf (value value' : F) (accepted : StationMagnitude F × Nat) :
    moved (value' - value) (residualOf value accepted) = residualOf value' accepted := by
  unfold moved residualOf Residual.ofMagnitude
  rw [Double.finite_add_finite]
  refine Prod.ext ?_ rfl
  dsimp only
  congr 2
  ring

theorem map_moved_residualOf (value value' : F) (accepted : List (StationMagnitude F × Nat)) :
    (accepted.map (residualOf value)).map (moved (value' - value)) =
      accepted.map (residualOf value') := by
  rw [List.map_map]
  exact List.map_congr_left fun p _ => moved_residualOf value value' p

end Residuals

section Several

variable {calculator : NetworkMagnitudeCalculator F}

/-- A list with the average over it. -/
def averaged (calculator : NetworkMagnitudeCalculator F) (observations : List (Observation F)) :
    Part F :=
  (observations, networkMagnitudeOf (calculator.assessment.result observations))

/-- The residuals of a part are residuals at the mean over it. -/
theorem moved_averaged (calculator : NetworkMagnitudeCalculator F) (value : F)
    (observations : List (Observation F)) :
    (averaged calculator observations).2.mResiduals.map
        (moved (value - (averaged calculator observations).2.mValue.val)) =
      (numbered calculator.assessment.accepted 1 observations).map (residualOf value) :=
  map_moved_residualOf _ value _

/-- Entries that are numbered behind `count` others, before and after they are translated. -/
theorem map_behind {β γ : Type} {f : β × Nat → γ × Int} {count : Nat}
    (hf : ∀ p, f (p.1, p.2 + count) = behind count (f p)) (entries : List (β × Nat)) :
    (entries.map fun p => (p.1, p.2 + count)).map f = (entries.map f).map (behind count) := by
  rw [List.map_map, List.map_map]
  exact List.map_congr_left fun p _ => hf p

theorem pooledResiduals_averaged (calculator : NetworkMagnitudeCalculator F) (value : F)
    (lists : List (List (Observation F))) :
    pooledResiduals value (lists.map (averaged calculator)) =
      (numbered calculator.assessment.accepted 1 lists.flatten).map (residualOf value) := by
  induction lists with
  | nil => rfl
  | cons observations rest ih =>
      rw [List.flatten_cons, Batch.numbered_append, List.map_append, map_behind fun p => rfl,
        ← ih, ← moved_averaged]
      rfl

theorem pooledRejections_averaged (calculator : NetworkMagnitudeCalculator F)
    (lists : List (List (Observation F))) :
    pooledRejections (lists.map (averaged calculator)) =
      (numbered calculator.assessment.rejected 1 lists.flatten).map rejectionOf := by
  induction lists with
  | nil => rfl
  | cons observations rest ih =>
      rw [List.flatten_cons, Batch.numbered_append, List.map_append, map_behind fun p => rfl,
        ← ih]
      rfl

/-- All residuals of the parts, and what their values sum up to. -/
theorem weightedSum_averaged (calculator : NetworkMagnitudeCalculator F)
    (lists : List (List (Observation F))) :
    residualCount (lists.map (averaged calculator)) =
        (calculator.assessment.measures lists.flatten).length ∧
      weightedSum (lists.map (averaged calculator)) =
        (calculator.assessment.measures lists.flatten).sum := by
  induction lists with
  | nil => exact ⟨rfl, rfl⟩
  | cons observations rest ih =>
      have hlength : (averaged calculator observations).2.mResiduals.length =
          (calculator.assessment.measures observations).length := length_mResiduals
      have hvalue : (averaged calculator observations).2.mValue.val =
          mean (calculator.assessment.measures observations) := rfl
      rw [List.flatten_cons, Batch.Assessment.measures_append, List.length_append,
        List.sum_append, ← ih.1, ← ih.2]
      unfold residualCount weightedSum
      rw [List.map_cons, List.map_cons, List.map_cons, List.sum_cons, List.sum_cons, hlength,
        hvalue, Batch.length_mul_mean]
      exact ⟨rfl, rfl⟩

/-- The average over lists one behind the other is what their averages are pooled to. -/
theorem networkMagnitudeOf_flatten (calculator : NetworkMagnitudeCalculator F)
    (lists : List (List (Observation F))) :
    networkMagnitudeOf (calculator.assessment.result lists.flatten) =
      pooled (lists.map (averaged calculator)) := by
  obtain ⟨hcount, hsum⟩ := weightedSum_averaged calculator lists
  unfold pooled pooledValue
  rw [hcount, hsum, pooledResiduals_averaged, pooledRejections_averaged]
  rfl

end Several

/-- The network of the sample where a single station magnitude is enough. -/
def singleStationNetwork : NetworkMagnitudeCalculator ℚ :=
  Rationals.calculator Rationals.table (Rationals.stationsSet Rationals.corrections) 1

/-- What it returns for observations that it accepts. -/
def magnitudeOf (observations : List (Observation ℚ)) : NetworkMagnitude ℚ :=
  match singleStationNetwork.apply observations with
  | .ok (.ok magnitude) => magnitude
  | _ => {}

/-- The last two observations of the sample, where the first of them is rejected, and behind
them the first one. -/
def sampleParts : List (Part ℚ) :=
  [Rationals.observations.drop 1, Rationals.observations.take 1].map fun observations =>
    (observations, magnitudeOf observations)

/-- The last observation of the sample once more. -/
def repeatedPart : Part ℚ :=
  (Rationals.observations.drop 2, magnitudeOf (Rationals.observations.drop 2))

theorem sampleParts_have_magnitudes : ∀ part ∈ sampleParts ++ [repeatedPart],
    singleStationNetwork.apply part.1 = .ok (.ok part.2) := by
  decide +kernel

/-- What is listed without the entry under the number. -/
def withoutNumber {β : Type} (number : Int) (entries : List (β × Int)) : List (β × Int) :=
  (entries.filter fun entry => entry.2 ≠ number).map fun entry =>
    (entry.1, if entry.2 < number then entry.2 else entry.2 - 1)

/-- How far a network magnitude moves without the observation that has the residual. -/
def shiftWithout (magnitude : NetworkMagnitude F) (residual : Residual F) : F :=
  residual.mValue.val / (magnitude.mResiduals.length - 1)

/-- The network magnitude without the observation that has the residual, under the number. -/
def without (number : Int) (residual : Residual F) (magnitude : NetworkMagnitude F) :
    NetworkMagnitude F where
  mResiduals := (withoutNumber number magnitude.mResiduals).map
    (moved (shiftWithout magnitude residual))
  mRejectedObservations := withoutNumber number magnitude.mRejectedObservations
  mValue := .finite (magnitude.mValue.val + shiftWithout magnitude residual)
  mHasValue := true
  mHasResiduals := true
  mHasRejectedObservations := true

section Without

variable {calculator : NetworkMagnitudeCalculator F} {before after : List (Observation F)}
  {observation : Observation F}

/-- Entries are dropped under their numbers before and after they are translated. -/
theorem withoutNumber_map {β γ : Type} {f : β × Nat → γ × Int} {number : Nat}
    (hpos : 0 < number) (hf : ∀ c n, f (c, n) = ((f (c, 0)).1, (n : Int)))
    (entries : List (β × Nat)) :
    withoutNumber number (entries.map f) = (droppedAt number entries).map f := by
  unfold withoutNumber droppedAt
  rw [List.filter_map, List.map_map, List.map_map]
  have hsame : entries.filter ((fun entry => decide (entry.2 ≠ (number : Int))) ∘ f) =
      entries.filter fun p => decide (p.2 ≠ number) := by
    refine List.filter_congr fun p _ => ?_
    simp [hf p.1 p.2]
  rw [hsame]
  refine List.map_congr_left fun p hp => ?_
  have hne : p.2 ≠ number := by simpa using (List.mem_filter.mp hp).2
  simp only [Function.comp_apply]
  rw [hf p.1 p.2, hf p.1 (if p.2 < number then p.2 else p.2 - 1)]
  refine Prod.ext rfl ?_
  dsimp only
  by_cases hlt : p.2 < number
  · rw [if_pos (by omega), if_pos hlt]
  · rw [if_neg (by omega), if_neg hlt]
    omega

/-- The residual over the number of the other residuals is what the mean moves by. -/
theorem shiftWithout_eq {accepted : StationMagnitude F}
    (haccepted : calculator.outcome observation = .ok accepted)
    (hleft : calculator.assessment.measures (before ++ after) ≠ []) :
    shiftWithout
        (networkMagnitudeOf (calculator.assessment.result (before ++ observation :: after)))
        (Residual.ofMagnitude (.finite
          (mean (calculator.assessment.measures (before ++ observation :: after)) -
            accepted.mValue.val)) accepted) =
      mean (calculator.assessment.measures (before ++ after)) -
        mean (calculator.assessment.measures (before ++ observation :: after)) := by
  have hlength : ((calculator.assessment.measures (before ++ observation :: after)).length : F)
      - 1 = (calculator.assessment.measures (before ++ after)).length := by
    rw [Batch.Assessment.length_measures_without before after haccepted, Nat.cast_add,
      Nat.cast_one, add_sub_cancel_right]
  unfold shiftWithout
  rw [length_mResiduals, hlength, Batch.Assessment.mean_measures_without haccepted hleft,
    add_sub_cancel_left]
  rfl

/-- The average of a list without one that was accepted. -/
theorem networkMagnitudeOf_without {accepted : StationMagnitude F}
    (haccepted : calculator.outcome observation = .ok accepted)
    (hleft : calculator.assessment.measures (before ++ after) ≠ []) :
    networkMagnitudeOf (calculator.assessment.result (before ++ after)) =
      without (before.length + 1 : Nat)
        (Residual.ofMagnitude (.finite
          (mean (calculator.assessment.measures (before ++ observation :: after)) -
            accepted.mValue.val)) accepted)
        (networkMagnitudeOf (calculator.assessment.result (before ++ observation :: after))) := by
  have hvalue : ∀ items, (calculator.assessment.result items).value =
      mean (calculator.assessment.measures items) := fun _ => rfl
  have haccepted' : (calculator.assessment.result (before ++ after)).accepted =
      droppedAt (before.length + 1)
        (calculator.assessment.result (before ++ observation :: after)).accepted :=
    Batch.numbered_without calculator.assessment.accepted before after observation
  have hrejected' : (calculator.assessment.result (before ++ after)).rejected =
      droppedAt (before.length + 1)
        (calculator.assessment.result (before ++ observation :: after)).rejected :=
    Batch.numbered_without calculator.assessment.rejected before after observation
  have hpos := Nat.succ_pos before.length
  unfold without
  rw [shiftWithout_eq haccepted hleft]
  unfold networkMagnitudeOf
  dsimp only
  rw [Double.val_finite, hvalue, hvalue, add_sub_cancel, haccepted', hrejected',
    withoutNumber_map hpos (fun c n => rfl), withoutNumber_map hpos (fun c n => rfl),
    map_moved_residualOf]

end Without

/-- Without an observation that was accepted the network magnitude moves by the residual of
this observation over the number of the other residuals, where enough is left of the list
and the value stays in range; nothing else of the answer changes but the numbers. -/
theorem observation_is_left_out (calculator : NetworkMagnitudeCalculator F)
    (before after : List (Observation F)) (observation : Observation F)
    (magnitude : NetworkMagnitude F) (residual : Residual F)
    (h : calculator.apply (before ++ observation :: after) = .ok (.ok magnitude))
    (hresidual : (residual, Int.ofNat (before.length + 1)) ∈ magnitude.mResiduals) :
    calculator.apply (before ++ after) = .ok (
      if before ++ after = [] then .error .noObservations
      else if (magnitude.mResiduals.length : Int) - 1 <
          max 1 calculator.mOptions.mMinimumNumberOfStationMagnitudes then
        .error .tooFewObservations
      else if magnitude.mValue.val + shiftWithout magnitude residual < -10 ∨
          10 < magnitude.mValue.val + shiftWithout magnitude residual then .error .algorithm
      else .ok (without (before.length + 1 : Nat) residual magnitude)) := by
  have hinitialized := initialized_of_apply h
  obtain ⟨hpasses, hcomputes, rfl⟩ := exists_result_of_apply h
  obtain ⟨o, accepted, ho, haccepted, rfl⟩ :=
    NetworkMagnitudeCalculator.mem_residuals_iff.mp hresidual
  obtain rfl : observation = o := by simpa using ho
  have hall : ∀ o ∈ before ++ after, calculator.Computes o := fun o ho =>
    hcomputes o (((List.Sublist.refl before).append
      (List.sublist_cons_self observation after)).subset ho)
  have hminimum : calculator.assessment.minimum =
    calculator.mOptions.mMinimumNumberOfStationMagnitudes := rfl
  rw [apply_of_computes hinitialized hall,
    Batch.Assessment.average_without hpasses haccepted, length_mResiduals, hminimum]
  by_cases hempty : before ++ after = []
  · rw [if_pos hempty, if_pos hempty]
    rfl
  rw [if_neg hempty, if_neg hempty]
  by_cases hfew : ((calculator.assessment.measures (before ++ observation :: after)).length : Int)
      - 1 < max 1 calculator.mOptions.mMinimumNumberOfStationMagnitudes
  · rw [if_pos hfew, if_pos hfew]
    rfl
  have hleft : calculator.assessment.measures (before ++ after) ≠ [] := by
    intro hnil
    rw [Batch.Assessment.length_measures_without before after haccepted, hnil] at hfew
    simp at hfew
  rw [if_neg hfew, if_neg hfew, shiftWithout_eq haccepted hleft,
    ← networkMagnitudeOf_without haccepted hleft]
  have hvalue : (networkMagnitudeOf
      (calculator.assessment.result (before ++ observation :: after))).mValue.val +
        (mean (calculator.assessment.measures (before ++ after)) -
          mean (calculator.assessment.measures (before ++ observation :: after))) =
      mean (calculator.assessment.measures (before ++ after)) := add_sub_cancel _ _
  rw [hvalue]
  by_cases hrange : mean (calculator.assessment.measures (before ++ after)) < -10 ∨
      10 < mean (calculator.assessment.measures (before ++ after))
  · rw [if_pos hrange]
    exact congrArg (fun average => Except.ok (resultOf average)) (if_pos hrange)
  · rw [if_neg hrange]
    exact congrArg (fun average => Except.ok (resultOf average)) (if_neg hrange)

/-- The residual of the first observation of the sample. -/
def firstResidual : Residual ℚ :=
  match (magnitudeOf Rationals.observations).mResiduals with
  | [] => {}
  | entry :: _ => entry.1

theorem magnitudeOf_sample : singleStationNetwork.apply Rationals.observations =
    .ok (.ok (magnitudeOf Rationals.observations)) := by
  decide +kernel

/-- The sample without its first observation. -/
theorem first_observation_is_left_out :
    singleStationNetwork.apply (Rationals.observations.drop 1) =
      .ok (.ok (without 1 firstResidual (magnitudeOf Rationals.observations))) := by
  have hresidual : (firstResidual, Int.ofNat 1) ∈
      (magnitudeOf Rationals.observations).mResiduals := by decide +kernel
  have h := observation_is_left_out singleStationNetwork [] _ _ _ firstResidual
    magnitudeOf_sample hresidual
  rw [if_neg (by simp), if_neg (by decide +kernel), if_neg (by decide +kernel)] at h
  exact h

end Properties
end ULocalMagnitude
