import ULocalMagnitude.Rationals

/-!
# The network magnitude in full

When `operator()` of the network calculator succeeds, what it returns then, and which
of its checks decides otherwise, for corrections that are numbers.  Everything is said
in terms of the getters and of `computeStationMagnitude`.
-/

namespace ULocalMagnitude
namespace Properties

open Cxx Magnitude
open Batch (mean)

variable {F : Type}

section Terms

variable [Arithmetic F] (calculator : NetworkMagnitudeCalculator F)

/-- The table is read at hypocentral distances. -/
def NeedsDepth : Prop :=
  ∃ distance, calculator.getDistanceCorrections = .ok distance ∧
    distance.getDistanceType = .ok .hypocentral

/-- The observation has all that the calculator needs. -/
structure HasAllFields (observation : Observation F) : Prop where
  amplitudes : observation.hasAmplitudes = true
  epicentralDistance : observation.hasEpicentralDistance = true
  depth : NeedsDepth calculator → observation.hasDepth = true

/-- The first field that the observation lacks has the error code. -/
inductive FirstMissing (observation : Observation F) :
    NetworkMagnitudeCalculator.ErrorCode → Prop
  | amplitudes (h : observation.hasAmplitudes = false) :
      FirstMissing observation .observationMissingAmplitudes
  | epicentralDistance (hamplitudes : observation.hasAmplitudes = true)
      (h : observation.hasEpicentralDistance = false) :
      FirstMissing observation .observationMissingDistance
  | depth (hamplitudes : observation.hasAmplitudes = true)
      (hdistance : observation.hasEpicentralDistance = true)
      (hneeded : NeedsDepth calculator) (h : observation.hasDepth = false) :
      FirstMissing observation .observationMissingDepth

/-- The station magnitudes that are computed for a list, in its order. -/
def stationMagnitudes (observations : List (Observation F)) : List (StationMagnitude F) :=
  observations.filterMap fun observation =>
    match calculator.computeStationMagnitude observation with
    | .ok (.ok magnitude) => some magnitude
    | _ => none

/-- Their values. -/
def stationValues (observations : List (Observation F)) : List F :=
  (stationMagnitudes calculator observations).map fun magnitude => magnitude.mValue.val

/-- The checks that a list has to pass. -/
structure Succeeds (observations : List (Observation F)) : Prop where
  nonempty : observations ≠ []
  complete : ∀ o ∈ observations, HasAllFields calculator o
  distinct : (observations.map Observation.getStationName).Nodup
  enough : max 1 calculator.mOptions.getMinimumNumberOfStationMagnitudes ≤
    ((stationMagnitudes calculator observations).length : Int)
  inRange : -10 ≤ mean (stationValues calculator observations) ∧
    mean (stationValues calculator observations) ≤ 10

/-- The first check that a list fails has the error code. -/
inductive FirstFailure (observations : List (Observation F)) :
    NetworkMagnitudeCalculator.ErrorCode → Prop
  | noObservations (h : observations = []) : FirstFailure observations .noObservations
  | missingField {before after : List (Observation F)} {o : Observation F}
      {errorCode : NetworkMagnitudeCalculator.ErrorCode}
      (hobservations : observations = before ++ o :: after)
      (hbefore : ∀ earlier ∈ before, HasAllFields calculator earlier)
      (h : FirstMissing calculator o errorCode) : FirstFailure observations errorCode
  | duplicateObservations (hnonempty : observations ≠ [])
      (hcomplete : ∀ o ∈ observations, HasAllFields calculator o)
      (h : ¬ (observations.map Observation.getStationName).Nodup) :
      FirstFailure observations .duplicateObservations
  | tooFewObservations (hnonempty : observations ≠ [])
      (hcomplete : ∀ o ∈ observations, HasAllFields calculator o)
      (hdistinct : (observations.map Observation.getStationName).Nodup)
      (h : ((stationMagnitudes calculator observations).length : Int) <
        max 1 calculator.mOptions.getMinimumNumberOfStationMagnitudes) :
      FirstFailure observations .tooFewObservations
  | algorithm (hnonempty : observations ≠ [])
      (hcomplete : ∀ o ∈ observations, HasAllFields calculator o)
      (hdistinct : (observations.map Observation.getStationName).Nodup)
      (henough : max 1 calculator.mOptions.getMinimumNumberOfStationMagnitudes ≤
        ((stationMagnitudes calculator observations).length : Int))
      (h : mean (stationValues calculator observations) < -10 ∨
        10 < mean (stationValues calculator observations)) :
      FirstFailure observations .algorithm

end Terms

/-! ## The terms of the average -/

section Correspondence

variable [Arithmetic F] {calculator : NetworkMagnitudeCalculator F}
  {observations : List (Observation F)}

theorem stationMagnitudes_eq :
    stationMagnitudes calculator observations =
      observations.filterMap calculator.assessment.accepted := by
  refine List.filterMap_congr fun o _ => ?_
  have houtcome : calculator.assessment.outcome o = calculator.outcome o := rfl
  unfold Batch.Assessment.accepted
  rw [houtcome]
  unfold NetworkMagnitudeCalculator.outcome
  cases calculator.computeStationMagnitude o with
  | error fault => rfl
  | ok returned => cases returned <;> rfl

theorem stationValues_eq :
    stationValues calculator observations = calculator.assessment.measures observations := by
  unfold stationValues
  rw [stationMagnitudes_eq]
  rfl

theorem length_stationMagnitudes :
    (stationMagnitudes calculator observations).length =
      (calculator.assessment.measures observations).length := by
  rw [← stationValues_eq, stationValues, List.length_map]

theorem needsDepth_iff (h : calculator.IsReachable) :
    NeedsDepth calculator ↔ calculator.mRequiresDepthCorrection = true := by
  obtain ⟨distance, set, hwellFormed⟩ := h.wellFormed
  have hdistance : calculator.getDistanceCorrections = .ok distance := by
    unfold NetworkMagnitudeCalculator.getDistanceCorrections
    rw [throwIf_neg (by simp [NetworkMagnitudeCalculator.isInitialized,
      hwellFormed.initialized])]
    exact hwellFormed.distanceCorrections
  have htype := hwellFormed.distanceReachable.inv.getDistanceType
  rw [hwellFormed.requiresDepth]
  constructor
  · intro hall
    rcases hall with ⟨other, hother, hhypocentral⟩
    obtain rfl : distance = other := Except.ok.inj (hdistance.symm.trans hother)
    exact Except.ok.inj (htype.symm.trans hhypocentral)
  · intro hhypocentral
    exact ⟨distance, hdistance, htype.trans (congrArg Except.ok hhypocentral)⟩

theorem hasAllFields_iff (h : calculator.IsReachable) {o : Observation F} :
    HasAllFields calculator o ↔ calculator.missing o = none := by
  rw [NetworkMagnitudeCalculator.missing_eq_none_iff, ← needsDepth_iff h]
  constructor
  · intro hall
    exact ⟨hall.amplitudes, hall.epicentralDistance, hall.depth⟩
  · intro hgiven
    rcases hgiven with ⟨hamplitudes, hdistance, hdepth⟩
    exact ⟨hamplitudes, hdistance, hdepth⟩

theorem firstMissing_iff (h : calculator.IsReachable) {o : Observation F}
    {errorCode : NetworkMagnitudeCalculator.ErrorCode} :
    FirstMissing calculator o errorCode ↔ calculator.missing o = some errorCode := by
  have hdepth := needsDepth_iff h
  unfold NetworkMagnitudeCalculator.missing
  constructor
  · intro hmissing
    cases hmissing with
    | amplitudes hmissing => simp [hmissing]
    | epicentralDistance hamplitudes hmissing => simp [hamplitudes, hmissing]
    | depth hamplitudes hdistance hneeded hmissing =>
        simp [hamplitudes, hdistance, hdepth.mp hneeded, hmissing]
  · intro hmissing
    split at hmissing
    · rename_i hamplitudes
      obtain rfl := Option.some.inj hmissing
      exact .amplitudes (by simpa using hamplitudes)
    · rename_i hamplitudes
      have hamplitudes' : o.hasAmplitudes = true := by simpa using hamplitudes
      split at hmissing
      · rename_i hdistance
        obtain rfl := Option.some.inj hmissing
        exact .epicentralDistance hamplitudes' (by simpa using hdistance)
      · rename_i hdistance
        have hdistance' : o.hasEpicentralDistance = true := by simpa using hdistance
        split at hmissing
        · rename_i hneeded
          obtain rfl := Option.some.inj hmissing
          rw [Bool.and_eq_true] at hneeded
          exact .depth hamplitudes' hdistance' (hdepth.mpr hneeded.1)
            (by simpa using hneeded.2)
        · exact absurd hmissing nofun

theorem forall_hasAllFields_iff (h : calculator.IsReachable) :
    (∀ o ∈ observations, HasAllFields calculator o) ↔
      ∀ o ∈ observations, calculator.missing o = none := by
  simp only [hasAllFields_iff h]

/-- With amplitudes everywhere the names are those that the getter returns. -/
theorem nodup_getStationName_iff (h : calculator.IsReachable)
    (hcomplete : ∀ o ∈ observations, HasAllFields calculator o) :
    (observations.map Observation.getStationName).Nodup ↔
      (observations.map Observation.mStationName).Nodup := by
  have hnames : observations.map Observation.getStationName =
      (observations.map Observation.mStationName).map Except.ok := by
    rw [List.map_map]
    refine List.map_congr_left fun o ho => ?_
    have hamplitudes := ((hasAllFields_iff h).mp (hcomplete o ho))
    exact Observation.getStationName_eq_ok
      (NetworkMagnitudeCalculator.missing_eq_none_iff.mp hamplitudes).1
  rw [hnames]
  exact List.nodup_map_iff fun _ _ hsame => Except.ok.inj hsame

theorem succeeds_iff (h : calculator.IsReachable) :
    Succeeds calculator observations ↔ calculator.assessment.Passes observations := by
  constructor
  · intro hsucceeds
    have hinRange := hsucceeds.inRange
    have henough := hsucceeds.enough
    rw [stationValues_eq] at hinRange
    rw [length_stationMagnitudes] at henough
    exact ⟨hsucceeds.nonempty, (forall_hasAllFields_iff h).mp hsucceeds.complete,
      (nodup_getStationName_iff h hsucceeds.complete).mp hsucceeds.distinct, henough, hinRange⟩
  · intro hpasses
    have hcomplete := (forall_hasAllFields_iff h).mpr hpasses.complete
    refine ⟨hpasses.nonempty, hcomplete,
      (nodup_getStationName_iff h hcomplete).mpr hpasses.distinct, ?_, ?_⟩
    · rw [length_stationMagnitudes]
      exact hpasses.enough
    · rw [stationValues_eq]
      exact hpasses.inRange

theorem firstFailure_iff (h : calculator.IsReachable)
    {errorCode : NetworkMagnitudeCalculator.ErrorCode} :
    FirstFailure calculator observations errorCode ↔
      ∃ failure, calculator.assessment.Fails observations failure ∧
        NetworkMagnitudeCalculator.errorCodeOf failure = errorCode := by
  constructor
  · intro hfailure
    cases hfailure with
    | noObservations hempty => exact ⟨_, .noItems hempty, rfl⟩
    | missingField hobservations hbefore hmissing =>
        exact ⟨_, .incomplete hobservations ((forall_hasAllFields_iff h).mp hbefore)
          ((firstMissing_iff h).mp hmissing), rfl⟩
    | duplicateObservations hnonempty hcomplete hduplicate =>
        rw [nodup_getStationName_iff h hcomplete] at hduplicate
        exact ⟨_, .duplicate hnonempty ((forall_hasAllFields_iff h).mp hcomplete) hduplicate,
          rfl⟩
    | tooFewObservations hnonempty hcomplete hdistinct hfew =>
        rw [nodup_getStationName_iff h hcomplete] at hdistinct
        rw [length_stationMagnitudes] at hfew
        exact ⟨_, .tooFew hnonempty ((forall_hasAllFields_iff h).mp hcomplete) hdistinct hfew,
          rfl⟩
    | algorithm hnonempty hcomplete hdistinct henough hrange =>
        rw [nodup_getStationName_iff h hcomplete] at hdistinct
        rw [length_stationMagnitudes] at henough
        rw [stationValues_eq] at hrange
        exact ⟨_, .outOfRange hnonempty ((forall_hasAllFields_iff h).mp hcomplete) hdistinct
          henough hrange, rfl⟩
  · intro hall
    rcases hall with ⟨failure, hfails, rfl⟩
    cases hfails with
    | noItems hempty => exact .noObservations hempty
    | incomplete hobservations hbefore hmissing =>
        exact .missingField hobservations ((forall_hasAllFields_iff h).mpr hbefore)
          ((firstMissing_iff h).mpr hmissing)
    | duplicate hnonempty hcomplete hduplicate =>
        have hcomplete' := (forall_hasAllFields_iff h).mpr hcomplete
        exact .duplicateObservations hnonempty hcomplete'
          fun hnodup => hduplicate ((nodup_getStationName_iff h hcomplete').mp hnodup)
    | tooFew hnonempty hcomplete hdistinct hfew =>
        have hcomplete' := (forall_hasAllFields_iff h).mpr hcomplete
        refine .tooFewObservations hnonempty hcomplete'
          ((nodup_getStationName_iff h hcomplete').mpr hdistinct) ?_
        rw [length_stationMagnitudes]
        exact hfew
    | outOfRange hnonempty hcomplete hdistinct henough hrange =>
        have hcomplete' := (forall_hasAllFields_iff h).mpr hcomplete
        refine .algorithm hnonempty hcomplete'
          ((nodup_getStationName_iff h hcomplete').mpr hdistinct) ?_ ?_
        · rw [length_stationMagnitudes]
          exact henough
        · rw [stationValues_eq]
          exact hrange

end Correspondence

variable [ExactArithmetic F]

/-- `operator()` returns for every list of observations.  It succeeds exactly when the
list passes the checks; then the value is the mean of the station magnitudes, which no
magnitude was trimmed from, and the residuals are what is left of it.  Otherwise the
first check that fails has the error code. -/
theorem network_magnitude_specification (calculator : NetworkMagnitudeCalculator F)
    (observations : List (Observation F)) (hcalculator : calculator.IsReachable)
    (hnumeric : calculator.Numeric) (hobservations : ∀ o ∈ observations, o.IsReachable) :
    ∃ outcome, calculator.apply observations = .ok outcome ∧
      ((∃ magnitude, outcome = .ok magnitude) ↔ Succeeds calculator observations) ∧
      (∀ magnitude, outcome = .ok magnitude →
        magnitude.getValue = .ok (.finite (mean (stationValues calculator observations))) ∧
        (∀ station ∈ stationMagnitudes calculator observations,
          station.getValue = .ok (.finite station.mValue.val)) ∧
        magnitude.mResiduals.map (fun entry => entry.1.mStationMagnitude) =
          stationMagnitudes calculator observations ∧
        (∀ entry ∈ magnitude.mResiduals, entry.1.getValue =
          .ok (.finite (mean (stationValues calculator observations) -
            entry.1.mStationMagnitude.mValue.val))) ∧
        (magnitude.mResiduals.map fun entry => entry.1.mValue.val).sum = 0 ∧
        ∃ smallest ∈ stationValues calculator observations,
          ∃ largest ∈ stationValues calculator observations,
            (∀ v ∈ stationValues calculator observations, smallest ≤ v ∧ v ≤ largest) ∧
            smallest ≤ mean (stationValues calculator observations) ∧
            mean (stationValues calculator observations) ≤ largest) ∧
      ∀ errorCode, outcome = .error errorCode ↔
        FirstFailure calculator observations errorCode := by
  have hcomputes : ∀ o ∈ observations, calculator.Computes o :=
    fun o ho => hcalculator.computes hnumeric (hobservations o ho).inv
  have happly := NetworkMagnitudeCalculator.apply_of_computes hcalculator.initialized hcomputes
  refine ⟨_, happly, ?_, ?_, ?_⟩
  · rw [succeeds_iff hcalculator]
    constructor
    · intro h
      rcases h with ⟨magnitude, hmagnitude⟩
      rw [hmagnitude] at happly
      exact (NetworkMagnitudeCalculator.exists_result_of_apply happly).1
    · intro hpasses
      exact ⟨_, congrArg NetworkMagnitudeCalculator.resultOf hpasses.average⟩
  · intro magnitude hmagnitude
    rw [hmagnitude] at happly
    obtain ⟨hpasses, -, rfl⟩ := NetworkMagnitudeCalculator.exists_result_of_apply happly
    have hne := hpasses.measures_ne_nil
    have haccepted := Batch.Assessment.accepted_map_fst (a := calculator.assessment)
      observations
    rw [stationValues_eq]
    refine ⟨rfl, ?_, ?_, ?_, ?_, Batch.mean_between hne⟩
    · intro station hstation
      rw [stationMagnitudes_eq] at hstation
      obtain ⟨o, -, ho⟩ := List.mem_filterMap.mp hstation
      obtain ⟨hcomplete, hvalue⟩ := NetworkMagnitudeCalculator.complete_of_outcome
        (Batch.Assessment.accepted_eq_some_iff.mp ho)
      rw [hcomplete.getValue, ← hvalue]
    · rw [stationMagnitudes_eq, ← haccepted]
      exact List.map_map ..
    · intro entry hentry
      obtain ⟨⟨station, number⟩, -, rfl⟩ := List.mem_map.mp hentry
      rfl
    · -- The residuals are the deviations of the measures from their mean.
      have hsum := Batch.sum_sub_mean hne
      have hmeasures : calculator.assessment.measures observations =
          (calculator.assessment.result observations).accepted.map
            fun entry => entry.1.mValue.val := by
        unfold Batch.Assessment.measures
        rw [← haccepted, List.map_map]
        rfl
      rw [hmeasures, List.map_map, ← hmeasures] at hsum
      refine Eq.trans (congrArg List.sum ?_) hsum
      exact List.map_map ..
  · intro errorCode
    rw [firstFailure_iff hcalculator]
    simp only [← Batch.Assessment.average_eq_error_iff]
    cases haverage : calculator.assessment.average observations with
    | ok average =>
        constructor
        · intro h
          cases h
        · intro hall
          rcases hall with ⟨failure, hfailure, -⟩
          cases hfailure
    | error failure =>
        constructor
        · intro h
          exact ⟨failure, rfl, Except.error.inj h⟩
        · intro hall
          rcases hall with ⟨other, hother, rfl⟩
          rw [Except.error.inj hother]
          rfl

/-- Two of three station magnitudes, 1 and 5/2, are computed and averaged. -/
theorem seven_quarters_is_specified :
    Succeeds Rationals.network Rationals.observations ∧
      Rationals.networkMagnitude.getValue = .ok (.finite (7 / 4)) := by
  obtain ⟨outcome, happly, hiff, hvalue, -⟩ := network_magnitude_specification
    Rationals.network Rationals.observations Rationals.sample.network_isReachable
    Rationals.sample.network_numeric Rationals.sample.observations_isReachable
  have houtcome : outcome = .ok Rationals.networkMagnitude :=
    Except.ok.inj (happly.symm.trans Rationals.sample.network_apply)
  have hmean : mean (stationValues Rationals.network Rationals.observations) = 7 / 4 := by
    decide +kernel
  refine ⟨hiff.mp ⟨_, houtcome⟩, ?_⟩
  rw [(hvalue _ houtcome).1, hmean]

end Properties
end ULocalMagnitude
