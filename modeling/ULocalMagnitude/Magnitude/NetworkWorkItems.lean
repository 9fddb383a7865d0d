import ULocalMagnitude.Average
import ULocalMagnitude.Magnitude.NetworkMagnitudeCalculator

/-!
# The work items of a list

The call operator of the network calculator takes a list that passes its checks apart into
work items, one for each observation, and combines them.  What it returns then is said here
for every arithmetic: which numbers it adds up and in which order, and what it tabulates
under which number.

* `exists_apply_iff` — behind the checks only `computeStationMagnitude` can fail to return;
* `averages_of_apply` — what a network magnitude that is returned consists of;
* `isReachable_of_apply` — it is made with the calls of its class.
-/

namespace ULocalMagnitude
namespace Magnitude
namespace NetworkMagnitudeCalculator

open Cxx
open Batch (Assessment numbered)

variable {F : Type} [Arithmetic F]

/-- The calculator returns for the observation. -/
def Computes (calculator : NetworkMagnitudeCalculator F) (observation : Observation F) :
    Prop :=
  ∃ outcome, calculator.computeStationMagnitude observation = .ok outcome

/-- What the calculator returns for an observation. -/
def outcome (calculator : NetworkMagnitudeCalculator F) (observation : Observation F) :
    Except StationCalculatorErrorCode (StationMagnitude F) :=
  match calculator.computeStationMagnitude observation with
  | .ok returned => returned
  | .error _ => .error .algorithm

/-- The work items, when the calculator returns for every observation. -/
def workItemsFrom (calculator : NetworkMagnitudeCalculator F) :
    Nat → List (Observation F) → List (WorkItem F)
  | _, [] => []
  | start, observation :: rest =>
      { observation, observationNumber := (start + 1 : Nat),
        stationMagnitude := calculator.outcome observation } ::
        workItemsFrom calculator (start + 1) rest

/-- The list passes the checks that are made before any magnitude is computed. -/
structure Admitted (calculator : NetworkMagnitudeCalculator F)
    (observations : List (Observation F)) : Prop where
  nonempty : observations ≠ []
  complete : ∀ o ∈ observations, calculator.missing o = none
  distinct : (observations.map Observation.mStationName).Nodup

/-- How observations are assessed. -/
def assessment (calculator : NetworkMagnitudeCalculator F) :
    Assessment (Observation F) Bytes ErrorCode StationCalculatorErrorCode
      (StationMagnitude F) F where
  missing := calculator.missing
  name := Observation.mStationName
  outcome := calculator.outcome
  measure magnitude := magnitude.mValue.val
  minimum := calculator.mOptions.mMinimumNumberOfStationMagnitudes
  lower := -10
  upper := 10

/-- The values of the station magnitudes, in order. -/
def acceptedValues (calculator : NetworkMagnitudeCalculator F)
    (observations : List (Observation F)) : List (Double F) :=
  (observations.filterMap calculator.assessment.accepted).map StationMagnitude.mValue

/-- The sum of the values, from the first to the last one, over their number. -/
def averageOf (values : List (Double F)) : Double F :=
  values.foldl (fun sum value => sum + value) (.finite 0) / .finite (values.length : F)

/-- The residual of an accepted observation, under its number. -/
def residualAt (value : Double F) (accepted : StationMagnitude F × Nat) : Residual F × Int :=
  (Residual.ofMagnitude (value - accepted.1.mValue) accepted.1, accepted.2)

/-- The error code of a rejected observation, under its number. -/
def rejectionOf (rejected : StationCalculatorErrorCode × Nat) :
    StationCalculatorErrorCode × Int := (rejected.1, rejected.2)

/-- The network magnitude with a value and what is tabulated for a list. -/
def tabulated (calculator : NetworkMagnitudeCalculator F) (value : Double F)
    (observations : List (Observation F)) : NetworkMagnitude F where
  mResiduals := (numbered calculator.assessment.accepted 1 observations).map (residualAt value)
  mRejectedObservations :=
    (numbered calculator.assessment.rejected 1 observations).map rejectionOf
  mValue := value
  mHasValue := true
  mHasResiduals := true
  mHasRejectedObservations := true

/-- The list passes all checks, those behind the magnitudes too. -/
structure Averages (calculator : NetworkMagnitudeCalculator F)
    (observations : List (Observation F)) : Prop where
  admitted : calculator.Admitted observations
  enough : max 1 calculator.mOptions.getMinimumNumberOfStationMagnitudes ≤
    ((calculator.acceptedValues observations).length : Int)
  inRange : ¬ (averageOf (calculator.acceptedValues observations) < .finite (-10) ∨
    averageOf (calculator.acceptedValues observations) > .finite 10)

/-- What the checks, and behind them the work items, make of a list. -/
def settled (calculator : NetworkMagnitudeCalculator F) (observations : List (Observation F)) :
    Throws (Except ErrorCode (NetworkMagnitude F)) :=
  if observations = [] then .ok (.error .noObservations)
  else
    match observations.findSome? calculator.missing with
    | some errorCode => .ok (.error errorCode)
    | none =>
        if (observations.map Observation.mStationName).Nodup then
          calculator.combineWorkItems (calculator.workItemsFrom 0 observations)
        else .ok (.error .duplicateObservations)

section Loops

variable {calculator : NetworkMagnitudeCalculator F} {observation : Observation F}

theorem Computes.computeStationMagnitude_eq (h : calculator.Computes observation) :
    calculator.computeStationMagnitude observation = .ok (calculator.outcome observation) := by
  obtain ⟨returned, hreturned⟩ := h
  unfold outcome
  rw [hreturned]

theorem outcome_eq_ok_iff {magnitude : StationMagnitude F} :
    calculator.outcome observation = .ok magnitude ↔
      calculator.computeStationMagnitude observation = .ok (.ok magnitude) := by
  unfold outcome
  cases calculator.computeStationMagnitude observation with
  | ok returned => simp
  | error fault => simp

/-- What the calculator returned for an item that was assessed. -/
theorem computeStationMagnitude_of_outcome {o : Observation F}
    (hcomputes : calculator.Computes o)
    {returned : Except StationCalculatorErrorCode (StationMagnitude F)}
    (h : calculator.assessment.outcome o = returned) :
    calculator.computeStationMagnitude o = .ok returned := by
  rw [← h]
  exact hcomputes.computeStationMagnitude_eq

/-- An accepted magnitude is complete, and its value is its measure. -/
theorem complete_of_outcome {magnitude : StationMagnitude F}
    (h : calculator.outcome observation = .ok magnitude) :
    magnitude.Complete ∧ magnitude.mValue = .finite magnitude.mValue.val := by
  have hcomplete := (complete_of_computeStationMagnitude (outcome_eq_ok_iff.mp h)).1
  obtain ⟨x, hx⟩ := Double.exists_finite hcomplete.value
  refine ⟨hcomplete, ?_⟩
  rw [hx]
  rfl

theorem checkObservations_eq (observations : List (Observation F)) :
    calculator.checkObservations observations =
      observations.findSome? calculator.missing := by
  induction observations with
  | nil => rfl
  | cons observation rest ih =>
      unfold checkObservations missing
      rw [List.findSome?_cons]
      split
      · rfl
      · split
        · rfl
        · split
          · rfl
          · exact ih

/-- Names that are seen are remembered: no duplicate is found exactly when all names are
new and distinct. -/
theorem hasDuplicates_eq_false_iff {observations : List (Observation F)}
    (hamplitudes : ∀ o ∈ observations, o.mHasAmplitudes = true) (stationNames : List Bytes) :
    hasDuplicates stationNames observations = .ok false ↔
      (observations.map Observation.mStationName).Nodup ∧
        ∀ o ∈ observations, o.mStationName ∉ stationNames := by
  induction observations generalizing stationNames with
  | nil => simp [hasDuplicates]
  | cons observation rest ih =>
      have hhead := hamplitudes observation (List.mem_cons_self ..)
      have htail := fun o ho => hamplitudes o (List.mem_cons_of_mem observation ho)
      unfold hasDuplicates
      rw [Observation.getStationName_eq_ok hhead, bind_ok]
      by_cases hseen : observation.mStationName ∈ stationNames
      · rw [if_pos hseen]
        constructor
        · intro h
          exact absurd (Except.ok.inj h) (by decide)
        · intro hall
          rcases hall with ⟨-, hnew⟩
          exact absurd hseen (hnew observation (List.mem_cons_self ..))
      · rw [if_neg hseen, ih htail, List.map_cons, List.nodup_cons, List.forall_mem_cons]
        simp only [List.mem_cons, not_or]
        constructor
        · intro hall
          rcases hall with ⟨hnodup, hnew⟩
          refine ⟨⟨?_, hnodup⟩, hseen, fun o ho => (hnew o ho).2⟩
          intro hmem
          obtain ⟨o, ho, hname⟩ := List.mem_map.mp hmem
          exact (hnew o ho).1 hname
        · intro hall
          rcases hall with ⟨⟨hfresh, hnodup⟩, -, hnew⟩
          refine ⟨hnodup, fun o ho => ⟨?_, hnew o ho⟩⟩
          intro hname
          exact hfresh (List.mem_map.mpr ⟨o, ho, hname⟩)

theorem exists_hasDuplicates {observations : List (Observation F)}
    (hamplitudes : ∀ o ∈ observations, o.mHasAmplitudes = true) (stationNames : List Bytes) :
    ∃ found, hasDuplicates stationNames observations = .ok found := by
  induction observations generalizing stationNames with
  | nil => exact ⟨false, rfl⟩
  | cons observation rest ih =>
      have hhead := hamplitudes observation (List.mem_cons_self ..)
      unfold hasDuplicates
      rw [Observation.getStationName_eq_ok hhead, bind_ok]
      split
      · exact ⟨true, rfl⟩
      · exact ih (fun o ho => hamplitudes o (List.mem_cons_of_mem observation ho)) _

/-- The loop over the observations returns when the calculator does for each of them. -/
theorem makeWorkItems_eq_ok {observations : List (Observation F)} {start : Nat}
    {workItems : List (WorkItem F)} :
    calculator.makeWorkItems start observations = .ok workItems ↔
      (∀ o ∈ observations, calculator.Computes o) ∧
        calculator.workItemsFrom start observations = workItems := by
  induction observations generalizing start workItems with
  | nil => simp [makeWorkItems, workItemsFrom]
  | cons observation rest ih =>
      have hnext : ((start : Int) + 1) = ((start + 1 : Nat) : Int) := by omega
      unfold makeWorkItems workItemsFrom
      rw [hnext]
      simp only [bind_eq_ok, ih, List.forall_mem_cons, pure_eq_ok, Except.ok.injEq]
      constructor
      · intro h
        rcases h with ⟨returned, hreturned, _, ⟨hrest, rfl⟩, rfl⟩
        have hcomputes : calculator.Computes observation := ⟨returned, hreturned⟩
        have hsame := hcomputes.computeStationMagnitude_eq.symm.trans hreturned
        rw [Except.ok.inj hsame]
        exact ⟨⟨hcomputes, hrest⟩, rfl⟩
      · intro h
        rcases h with ⟨⟨hcomputes, hrest⟩, rfl⟩
        exact ⟨_, hcomputes.computeStationMagnitude_eq, _, ⟨hrest, rfl⟩, rfl⟩

theorem workItemsFrom_length (start : Nat) (observations : List (Observation F)) :
    (calculator.workItemsFrom start observations).length = observations.length := by
  induction observations generalizing start with
  | nil => rfl
  | cons observation rest ih =>
      rw [workItemsFrom, List.length_cons, ih, List.length_cons]

theorem acceptedValues_cons_ok {magnitude : StationMagnitude F}
    (h : calculator.outcome observation = .ok magnitude) (rest : List (Observation F)) :
    calculator.acceptedValues (observation :: rest) =
      magnitude.mValue :: calculator.acceptedValues rest := by
  unfold acceptedValues
  rw [List.filterMap_cons_some (Assessment.accepted_of_ok h), List.map_cons]

theorem acceptedValues_cons_error {errorCode : StationCalculatorErrorCode}
    (h : calculator.outcome observation = .error errorCode) (rest : List (Observation F)) :
    calculator.acceptedValues (observation :: rest) = calculator.acceptedValues rest := by
  unfold acceptedValues
  rw [List.filterMap_cons_none (Assessment.accepted_of_error h)]

theorem acceptedValues_length_le (calculator : NetworkMagnitudeCalculator F)
    (observations : List (Observation F)) :
    (calculator.acceptedValues observations).length ≤ observations.length := by
  unfold acceptedValues
  rw [List.length_map]
  exact List.length_filterMap_le _ _

/-- The loop over the work items counts the values and adds them up. -/
theorem sumStationMagnitudes_eq {observations : List (Observation F)}
    (hamplitudes : ∀ o ∈ observations, o.mHasAmplitudes = true) (start : Nat) (count : Int)
    (sum : Double F) :
    sumStationMagnitudes count sum (calculator.workItemsFrom start observations) =
      .ok (count + ((calculator.acceptedValues observations).length : Int),
        (calculator.acceptedValues observations).foldl (fun sum value => sum + value) sum) := by
  induction observations generalizing start count sum with
  | nil => simp [workItemsFrom, sumStationMagnitudes, acceptedValues]
  | cons observation rest ih =>
      have hhead := hamplitudes observation List.mem_cons_self
      have htail := fun o ho => hamplitudes o (List.mem_cons_of_mem observation ho)
      unfold workItemsFrom sumStationMagnitudes
      cases houtcome : calculator.outcome observation with
      | ok magnitude =>
          obtain ⟨hcomplete, -⟩ := complete_of_outcome houtcome
          dsimp only
          rw [hcomplete.getValue, bind_ok, ih htail, acceptedValues_cons_ok houtcome,
            List.length_cons, List.foldl_cons]
          congr 2
          rw [Nat.cast_add, Nat.cast_one]
          ring
      | error code =>
          dsimp only
          rw [Observation.getStationName_eq_ok hhead, bind_ok, ih htail,
            acceptedValues_cons_error houtcome]

/-- The loop that tabulates splits the observations under their numbers. -/
theorem tabulate_eq {networkMagnitude : NetworkMagnitude F} {value : Double F}
    (hvalue : networkMagnitude.getValue = .ok value) (start : Nat)
    (observations : List (Observation F)) :
    tabulate networkMagnitude (calculator.workItemsFrom start observations) =
      .ok ((numbered calculator.assessment.accepted (start + 1) observations).map
          (residualAt value),
        (numbered calculator.assessment.rejected (start + 1) observations).map
          rejectionOf) := by
  induction observations generalizing start with
  | nil => rfl
  | cons observation rest ih =>
      unfold workItemsFrom tabulate
      cases houtcome : calculator.outcome observation with
      | ok magnitude =>
          obtain ⟨hcomplete, -⟩ := complete_of_outcome houtcome
          dsimp only
          rw [hvalue, bind_ok, hcomplete.getValue, bind_ok]
          simp only [Residual.setValue, Method.call_modify, bind_ok]
          rw [Residual.call_setStationMagnitude_of_complete hcomplete, bind_ok, ih, bind_ok,
            Batch.numbered_cons_some (Assessment.accepted_of_ok houtcome),
            Batch.numbered_cons_none (Assessment.rejected_of_ok houtcome), List.map_cons]
          rfl
      | error code =>
          dsimp only
          rw [ih, bind_ok,
            Batch.numbered_cons_none (Assessment.accepted_of_error houtcome),
            Batch.numbered_cons_some (Assessment.rejected_of_error houtcome), List.map_cons]
          rfl

end Loops

section Tabulated

variable {calculator : NetworkMagnitudeCalculator F} {observations : List (Observation F)}
  {value : Double F}

/-- The residuals are those of the accepted observations, under the number of their place. -/
theorem mem_residuals_tabulated_iff {residual : Residual F} {k : Nat} :
    (residual, Int.ofNat (k + 1)) ∈ (calculator.tabulated value observations).mResiduals ↔
      ∃ o magnitude, observations[k]? = some o ∧ calculator.outcome o = .ok magnitude ∧
        Residual.ofMagnitude (value - magnitude.mValue) magnitude = residual := by
  constructor
  · intro hmem
    obtain ⟨⟨magnitude, number⟩, haccepted, hsame⟩ := List.mem_map.mp hmem
    obtain ⟨hresidual, hnumber⟩ := Prod.mk.inj hsame
    obtain rfl : number = k + 1 := Int.ofNat.inj hnumber
    obtain ⟨-, o, ho, houtcome⟩ := Batch.mem_numbered.mp haccepted
    exact ⟨o, magnitude, ho, Assessment.accepted_eq_some_iff.mp houtcome, hresidual⟩
  · intro h
    rcases h with ⟨o, magnitude, ho, houtcome, rfl⟩
    exact List.mem_map.mpr ⟨(magnitude, k + 1), Batch.mem_numbered.mpr
      ⟨Nat.le_add_left 1 k, o, ho, Assessment.accepted_of_ok houtcome⟩, rfl⟩

/-- The rejections are those of the other observations, under the number of their place. -/
theorem mem_rejections_tabulated_iff {errorCode : StationCalculatorErrorCode} {k : Nat} :
    (errorCode, Int.ofNat (k + 1)) ∈
        (calculator.tabulated value observations).mRejectedObservations ↔
      ∃ o, observations[k]? = some o ∧ calculator.outcome o = .error errorCode := by
  constructor
  · intro hmem
    obtain ⟨⟨code, number⟩, hrejected, hsame⟩ := List.mem_map.mp hmem
    obtain ⟨rfl, hnumber⟩ := Prod.mk.inj hsame
    obtain rfl : number = k + 1 := Int.ofNat.inj hnumber
    obtain ⟨-, o, ho, houtcome⟩ := Batch.mem_numbered.mp hrejected
    exact ⟨o, ho, Assessment.rejected_eq_some_iff.mp houtcome⟩
  · intro h
    rcases h with ⟨o, ho, houtcome⟩
    exact List.mem_map.mpr ⟨(errorCode, k + 1), Batch.mem_numbered.mpr
      ⟨Nat.le_add_left 1 k, o, ho, Assessment.rejected_of_error houtcome⟩, rfl⟩

/-- Everything that a response is written of is there. -/
structure IsWritable (magnitude : NetworkMagnitude F) : Prop where
  inv : magnitude.Inv
  value : magnitude.mHasValue = true
  residuals : magnitude.mHasResiduals = true
  rejectedObservations : magnitude.mHasRejectedObservations = true

/-- Tabulated residuals are complete, and their numbers are positive. -/
theorem complete_of_mem_tabulated :
    ∀ element ∈ (calculator.tabulated value observations).mResiduals,
      element.1.Complete ∧ 1 ≤ element.2 := by
  intro element helement
  obtain ⟨⟨magnitude, number⟩, hmem, rfl⟩ := List.mem_map.mp helement
  obtain ⟨hle, o, -, haccepted⟩ := Batch.mem_numbered.mp hmem
  have hcomplete := (complete_of_outcome (Assessment.accepted_eq_some_iff.mp haccepted)).1
  refine ⟨⟨rfl, rfl, hcomplete⟩, ?_⟩
  show (1 : Int) ≤ number
  omega

/-- Tabulated residuals pass their setter. -/
theorem residuals_pass :
    ∀ element ∈ (calculator.tabulated value observations).mResiduals,
      element.1.mHasValue = true ∧ element.1.mHasStationMagnitude = true ∧ 1 ≤ element.2 := by
  intro element helement
  obtain ⟨hcomplete, hnumber⟩ := complete_of_mem_tabulated element helement
  exact ⟨hcomplete.hasValue, hcomplete.hasStationMagnitude, hnumber⟩

/-- The numbers of tabulated rejections are positive. -/
theorem one_le_of_mem_tabulated :
    ∀ element ∈ (calculator.tabulated value observations).mRejectedObservations,
      1 ≤ element.2 := by
  intro element helement
  obtain ⟨⟨code, number⟩, hmem, rfl⟩ := List.mem_map.mp helement
  obtain ⟨hle, -⟩ := Batch.mem_numbered.mp hmem
  show (1 : Int) ≤ number
  omega

/-- With a station magnitude there is a residual. -/
theorem residuals_tabulated_ne_nil (h : calculator.acceptedValues observations ≠ []) :
    (calculator.tabulated value observations).mResiduals ≠ [] := by
  intro hnil
  have hfst := Batch.numbered_map_fst calculator.assessment.accepted 1 observations
  rw [List.map_eq_nil_iff.mp hnil, List.map_nil] at hfst
  apply h
  unfold acceptedValues
  rw [← hfst, List.map_nil]

theorem isWritable_tabulated (h : calculator.acceptedValues observations ≠ []) :
    IsWritable (calculator.tabulated value observations) where
  inv :=
    { residuals := complete_of_mem_tabulated
      rejectedObservations := one_le_of_mem_tabulated
      nonempty := fun _ => residuals_tabulated_ne_nil h }
  value := rfl
  residuals := rfl
  rejectedObservations := rfl

/-- Packaging a value of a list in which something was accepted. -/
theorem packageAverage_eq (h : calculator.acceptedValues observations ≠ []) :
    packageAverage value (calculator.workItemsFrom 0 observations) =
      .ok (if value < .finite (-10) ∨ value > .finite 10 then .error .algorithm
        else .ok (calculator.tabulated value observations)) := by
  unfold packageAverage
  dsimp only
  rw [NetworkMagnitude.call_setValue]
  split
  · rfl
  · have hvalue : NetworkMagnitude.getValue (F := F) { mValue := value, mHasValue := true } =
        .ok value := rfl
    have htabulated : tabulate { mValue := value, mHasValue := true }
        (calculator.workItemsFrom 0 observations) =
          .ok ((calculator.tabulated value observations).mResiduals,
            (calculator.tabulated value observations).mRejectedObservations) :=
      tabulate_eq hvalue 0 observations
    rw [map_ok]
    simp only [Cxx.tryCatch, bind_ok]
    rw [htabulated, bind_ok]
    dsimp only
    rw [NetworkMagnitude.call_setResiduals_eq_ok.mpr
        ⟨residuals_tabulated_ne_nil h, residuals_pass, rfl⟩, bind_ok,
      NetworkMagnitude.call_setRejectedObservations_eq_ok.mpr ⟨one_le_of_mem_tabulated, rfl⟩]
    rfl

/-- Behind the work items only the last two checks are left. -/
theorem combineWorkItems_eq
    (hamplitudes : ∀ o ∈ observations, o.mHasAmplitudes = true) :
    calculator.combineWorkItems (calculator.workItemsFrom 0 observations) =
      .ok (if ((calculator.acceptedValues observations).length : Int) <
            max 1 calculator.mOptions.getMinimumNumberOfStationMagnitudes then
          .error .tooFewObservations
        else if averageOf (calculator.acceptedValues observations) < .finite (-10) ∨
            averageOf (calculator.acceptedValues observations) > .finite 10 then
          .error .algorithm
        else .ok (calculator.tabulated
          (averageOf (calculator.acceptedValues observations)) observations)) := by
  have hlength := calculator.acceptedValues_length_le observations
  have hstrategy : ¬ calculator.mOptions.getStrategy ≠ .average := by
    cases calculator.mOptions.getStrategy
    simp
  unfold combineWorkItems
  dsimp only
  rw [workItemsFrom_length, if_neg hstrategy]
  by_cases hfew : ((calculator.acceptedValues observations).length : Int) <
      max 1 calculator.mOptions.getMinimumNumberOfStationMagnitudes
  · rw [if_pos hfew]
    split
    · rfl
    · rw [sumStationMagnitudes_eq hamplitudes, bind_ok]
      dsimp only
      rw [zero_add, if_pos hfew]
      rfl
  · have haccepted : calculator.acceptedValues observations ≠ [] := by
      intro hnil
      rw [hnil, List.length_nil] at hfew
      omega
    -- The first of the two counts is the larger one.
    rw [if_neg hfew, if_neg (by omega), sumStationMagnitudes_eq hamplitudes, bind_ok]
    dsimp only
    rw [zero_add, if_neg hfew, packageAverage_eq haccepted, Int.cast_natCast]
    rfl

end Tabulated

section Runs

variable {calculator : NetworkMagnitudeCalculator F} {observations : List (Observation F)}

/-- An admitted list is settled by its work items. -/
theorem Admitted.settled_eq (h : calculator.Admitted observations) :
    calculator.settled observations =
      calculator.combineWorkItems (calculator.workItemsFrom 0 observations) := by
  have hmissing : observations.findSome? calculator.missing = none := by
    simpa using h.complete
  unfold settled
  rw [if_neg h.nonempty, hmissing]
  exact if_pos h.distinct

theorem Admitted.mHasAmplitudes (h : calculator.Admitted observations) :
    ∀ o ∈ observations, o.mHasAmplitudes = true :=
  fun o ho => (missing_eq_none_iff.mp (h.complete o ho)).1

/-- A list that is not admitted is refused for that. -/
theorem exists_settled_of_not_admitted (h : ¬ calculator.Admitted observations) :
    ∃ errorCode, calculator.settled observations = .ok (.error errorCode) := by
  unfold settled
  split
  · exact ⟨_, rfl⟩
  next hnonempty =>
    split
    · exact ⟨_, rfl⟩
    next hmissing =>
      refine ⟨_, if_neg fun hdistinct => h ⟨hnonempty, ?_, hdistinct⟩⟩
      simpa using hmissing

theorem exists_settled (calculator : NetworkMagnitudeCalculator F)
    (observations : List (Observation F)) :
    ∃ outcome, calculator.settled observations = .ok outcome := by
  by_cases hadmitted : calculator.Admitted observations
  · rw [hadmitted.settled_eq, combineWorkItems_eq hadmitted.mHasAmplitudes]
    exact ⟨_, rfl⟩
  · obtain ⟨errorCode, hsettled⟩ := exists_settled_of_not_admitted hadmitted
    exact ⟨_, hsettled⟩

/-- There is a network magnitude exactly for the lists that pass all checks. -/
theorem settled_eq_ok_ok_iff {magnitude : NetworkMagnitude F} :
    calculator.settled observations = .ok (.ok magnitude) ↔
      calculator.Averages observations ∧ calculator.tabulated
        (averageOf (calculator.acceptedValues observations)) observations = magnitude := by
  by_cases hadmitted : calculator.Admitted observations
  · rw [hadmitted.settled_eq, combineWorkItems_eq hadmitted.mHasAmplitudes, Except.ok.injEq]
    constructor
    · intro h
      split at h
      · cases h
      next henough =>
        split at h
        · cases h
        next hrange => exact ⟨⟨hadmitted, not_lt.mp henough, hrange⟩, Except.ok.inj h⟩
    · rintro ⟨haverages, rfl⟩
      rw [if_neg (not_lt.mpr haverages.enough), if_neg haverages.inRange]
  · obtain ⟨errorCode, hsettled⟩ := exists_settled_of_not_admitted hadmitted
    rw [hsettled]
    exact iff_of_false nofun fun h => hadmitted h.1.admitted

/-- With all fields there, a list is refused for duplicates exactly when two names are
equal. -/
theorem settled_eq_duplicateObservations_iff
    (hcomplete : ∀ o ∈ observations, calculator.missing o = none) :
    calculator.settled observations = .ok (.error .duplicateObservations) ↔
      ¬ (observations.map Observation.mStationName).Nodup := by
  have hmissing : observations.findSome? calculator.missing = none := by
    simpa using hcomplete
  by_cases hnonempty : observations = []
  · subst hnonempty
    exact iff_of_false nofun (not_not.mpr List.nodup_nil)
  by_cases hdistinct : (observations.map Observation.mStationName).Nodup
  · have hadmitted : calculator.Admitted observations := ⟨hnonempty, hcomplete, hdistinct⟩
    rw [hadmitted.settled_eq, combineWorkItems_eq hadmitted.mHasAmplitudes, Except.ok.injEq]
    refine iff_of_false (fun h => ?_) (not_not.mpr hdistinct)
    split at h
    · cases h
    · split at h
      · cases h
      · cases h
  · refine iff_of_true ?_ hdistinct
    unfold settled
    rw [if_neg hnonempty, hmissing]
    exact if_neg hdistinct

/-- `operator()` returns exactly when the magnitudes of an admitted list can be computed,
and then it returns what the list is settled by. -/
theorem apply_eq_ok_iff_settled (hinitialized : calculator.mInitialized = true)
    {returned : Except ErrorCode (NetworkMagnitude F)} :
    calculator.apply observations = .ok returned ↔
      (calculator.Admitted observations → ∀ o ∈ observations, calculator.Computes o) ∧
        calculator.settled observations = .ok returned := by
  unfold apply settled
  rw [if_neg (by simp [isInitialized, hinitialized]), noexcept_eq_ok]
  by_cases hnonempty : observations = []
  · rw [if_pos (by simp [hnonempty]), if_pos hnonempty]
    exact (and_iff_right fun hadmitted => absurd hnonempty hadmitted.nonempty).symm
  rw [if_neg (by simpa using hnonempty), if_neg hnonempty, checkObservations_eq]
  cases hmissing : observations.findSome? calculator.missing with
  | some lacks =>
      refine (and_iff_right fun hadmitted => ?_).symm
      have hnone : observations.findSome? calculator.missing = none := by
        simpa using hadmitted.complete
      rw [hmissing] at hnone
      cases hnone
  | none =>
      have hcomplete : ∀ o ∈ observations, calculator.missing o = none := by
        simpa using hmissing
      have hamplitudes : ∀ o ∈ observations, o.mHasAmplitudes = true :=
        fun o ho => (missing_eq_none_iff.mp (hcomplete o ho)).1
      have hduplicates := hasDuplicates_eq_false_iff hamplitudes []
      obtain ⟨found, hfound⟩ := exists_hasDuplicates hamplitudes []
      dsimp only
      rw [hfound, bind_ok]
      rw [hfound] at hduplicates
      by_cases hdistinct : (observations.map Observation.mStationName).Nodup
      · obtain rfl : found = false :=
          Except.ok.inj (hduplicates.mpr ⟨hdistinct, fun o _ => List.not_mem_nil⟩)
        have hmade {workItems : List (WorkItem F)} :
            calculator.makeWorkItems 0 observations = .ok workItems ↔
              (∀ o ∈ observations, calculator.Computes o) ∧
                calculator.workItemsFrom 0 observations = workItems := makeWorkItems_eq_ok
        rw [if_neg Bool.false_ne_true, if_pos hdistinct, bind_eq_ok]
        constructor
        · intro hall
          rcases hall with ⟨workItems, hworkItems, h⟩
          obtain ⟨hcomputes, rfl⟩ := hmade.mp hworkItems
          exact ⟨fun _ => hcomputes, h⟩
        · intro hall
          rcases hall with ⟨hcomputes, h⟩
          exact ⟨_, hmade.mpr ⟨hcomputes ⟨hnonempty, hcomplete, hdistinct⟩, rfl⟩, h⟩
      · have htrue : found = true := by
          by_contra hfalse
          rw [Bool.not_eq_true] at hfalse
          rw [hfalse] at hduplicates
          exact hdistinct (hduplicates.mp rfl).1
        rw [if_pos htrue, if_neg hdistinct]
        exact (and_iff_right fun hadmitted => absurd hadmitted.distinct hdistinct).symm

/-- Only an initialized calculator returns a network magnitude. -/
theorem initialized_of_apply {magnitude : NetworkMagnitude F}
    (h : calculator.apply observations = .ok (.ok magnitude)) :
    calculator.mInitialized = true := by
  by_contra hnot
  unfold apply at h
  rw [if_pos (by simpa [isInitialized] using hnot)] at h
  cases Except.ok.inj h

/-- A network magnitude is returned exactly for the lists that pass all checks and whose
magnitudes can be computed; it has their average and what is tabulated of them. -/
theorem apply_eq_ok_ok_iff_averages (hinitialized : calculator.mInitialized = true)
    {magnitude : NetworkMagnitude F} :
    calculator.apply observations = .ok (.ok magnitude) ↔
      calculator.Averages observations ∧ (∀ o ∈ observations, calculator.Computes o) ∧
        calculator.tabulated
          (averageOf (calculator.acceptedValues observations)) observations = magnitude := by
  rw [apply_eq_ok_iff_settled hinitialized, settled_eq_ok_ok_iff]
  constructor
  · rintro ⟨hcomputes, haverages, hmagnitude⟩
    exact ⟨haverages, hcomputes haverages.admitted, hmagnitude⟩
  · rintro ⟨haverages, hcomputes, hmagnitude⟩
    exact ⟨fun _ => hcomputes, haverages, hmagnitude⟩

theorem averages_of_apply {magnitude : NetworkMagnitude F}
    (h : calculator.apply observations = .ok (.ok magnitude)) :
    calculator.Averages observations ∧ (∀ o ∈ observations, calculator.Computes o) ∧
      calculator.tabulated
        (averageOf (calculator.acceptedValues observations)) observations = magnitude :=
  (apply_eq_ok_ok_iff_averages (initialized_of_apply h)).mp h

theorem Averages.acceptedValues_ne_nil (h : calculator.Averages observations) :
    calculator.acceptedValues observations ≠ [] := by
  intro hnil
  have henough := h.enough
  rw [hnil, List.length_nil] at henough
  omega

/-- A network magnitude that is returned can be written to a response. -/
theorem isWritable_of_apply {magnitude : NetworkMagnitude F}
    (h : calculator.apply observations = .ok (.ok magnitude)) : IsWritable magnitude := by
  obtain ⟨haverages, -, rfl⟩ := averages_of_apply h
  exact isWritable_tabulated haverages.acceptedValues_ne_nil

/-- With all fields there, duplicates are reported exactly when two names are equal. -/
theorem apply_eq_duplicateObservations_iff (hinitialized : calculator.mInitialized = true)
    (hcomplete : ∀ o ∈ observations, calculator.missing o = none) :
    calculator.apply observations = .ok (.error .duplicateObservations) ↔
      ¬ (observations.map Observation.mStationName).Nodup := by
  rw [apply_eq_ok_iff_settled hinitialized, settled_eq_duplicateObservations_iff hcomplete]
  exact and_iff_right_of_imp fun hduplicate hadmitted =>
    absurd hadmitted.distinct hduplicate

/-- `operator()` returns exactly when the magnitudes of an admitted list can be
computed. -/
theorem exists_apply_iff (hinitialized : calculator.mInitialized = true) :
    (∃ outcome, calculator.apply observations = .ok outcome) ↔
      (calculator.Admitted observations → ∀ o ∈ observations, calculator.Computes o) := by
  obtain ⟨outcome, hsettled⟩ := exists_settled calculator observations
  constructor
  · rintro ⟨returned, hreturned⟩
    exact ((apply_eq_ok_iff_settled hinitialized).mp hreturned).1
  · intro hcomputes
    exact ⟨outcome, (apply_eq_ok_iff_settled hinitialized).mpr ⟨hcomputes, hsettled⟩⟩

/-- From an observation in use the calculator makes a station magnitude with the calls of
its class. -/
theorem isReachable_of_outcome {o : Observation F} (hobservation : o.Inv)
    (hamplitudes : o.mHasAmplitudes = true) {magnitude : StationMagnitude F}
    (h : calculator.outcome o = .ok magnitude) : magnitude.IsReachable := by
  obtain ⟨-, hfirst, hsecond, -⟩ := hobservation.amplitudes hamplitudes
  exact (packagedWith_of_computeStationMagnitude (outcome_eq_ok_iff.mp h)).isReachable
    ⟨hfirst, hsecond⟩

/-- The residual of a magnitude is made with the calls of its class. -/
theorem isReachable_ofMagnitude {magnitude : StationMagnitude F}
    (hreachable : magnitude.IsReachable) (hcomplete : magnitude.Complete)
    (value : Double F) : (Residual.ofMagnitude value magnitude).IsReachable := by
  have hnew : ({} : Residual F).IsReachable := .init rfl
  have hfirst := hnew.call_eq_ok (i := .value value) trivial rfl
  refine hfirst.call_eq_ok (i := .movedStationMagnitude magnitude) hreachable ?_
  rw [Residual.Setter.method, Residual.withLocal_setStationMagnitudeMoving]
  exact Residual.call_setStationMagnitude_of_complete hcomplete _

/-- Tabulated residuals are made with the calls of their class. -/
theorem isReachable_of_mem_tabulated (hobservations : ∀ o ∈ observations, o.Inv)
    (hadmitted : calculator.Admitted observations) (value : Double F) :
    ∀ element ∈ (calculator.tabulated value observations).mResiduals,
      element.1.IsReachable := by
  intro element helement
  obtain ⟨⟨magnitude, number⟩, hmem, rfl⟩ := List.mem_map.mp helement
  obtain ⟨-, o, ho, haccepted⟩ := Batch.mem_numbered.mp hmem
  have hin : o ∈ observations := List.mem_of_getElem? ho
  have houtcome := Assessment.accepted_eq_some_iff.mp haccepted
  exact isReachable_ofMagnitude
    (isReachable_of_outcome (hobservations o hin) (hadmitted.mHasAmplitudes o hin) houtcome)
    (complete_of_outcome houtcome).1 _

/-- A network magnitude that is returned was made with the calls of its class. -/
theorem isReachable_of_apply (hobservations : ∀ o ∈ observations, o.Inv)
    {magnitude : NetworkMagnitude F}
    (h : calculator.apply observations = .ok (.ok magnitude)) : magnitude.IsReachable := by
  obtain ⟨haverages, -, rfl⟩ := averages_of_apply h
  have hreachable := isReachable_of_mem_tabulated hobservations haverages.admitted
    (averageOf (calculator.acceptedValues observations))
  have hnew : ({} : NetworkMagnitude F).IsReachable := .init rfl
  have hvalue := hnew.call_eq_ok
    (i := .value (averageOf (calculator.acceptedValues observations))) trivial
    ((NetworkMagnitude.call_setValue _ _).trans (if_neg haverages.inRange))
  have htabulated := hvalue.call_eq_ok
    (i := .movedResiduals (calculator.tabulated
      (averageOf (calculator.acceptedValues observations)) observations).mResiduals) hreachable
    (by
      rw [NetworkMagnitude.Setter.method, NetworkMagnitude.withLocal_setResidualsMoving]
      exact NetworkMagnitude.call_setResiduals_eq_ok.mpr
        ⟨residuals_tabulated_ne_nil haverages.acceptedValues_ne_nil, residuals_pass, rfl⟩)
  exact htabulated.call_eq_ok
    (i := .rejectedObservations (calculator.tabulated
      (averageOf (calculator.acceptedValues observations)) observations).mRejectedObservations)
    trivial
    (NetworkMagnitude.call_setRejectedObservations_eq_ok.mpr ⟨one_le_of_mem_tabulated, rfl⟩)

end Runs

end NetworkMagnitudeCalculator
end Magnitude
end ULocalMagnitude
