import ULocalMagnitude.Corrections.NearbyTables
import ULocalMagnitude.Magnitude.NetworkAverage
import ULocalMagnitude.Nearby

/-!
# Calculators that answer nearly alike

Two calculators at two observations of the same amplitudes.  When the distance lookups are
answered alike, up to a relation between the corrections, so are the observations, and what
holds of each of the station magnitudes of a list holds of the network magnitudes, up to the
check of its range.
-/

namespace ULocalMagnitude
namespace Magnitude

open Cxx
open Batch (Within mean)
open Batch.Assessment (NearbyAt average_nearby mean_nearby)
open Corrections (Distance Station StationsSet)
open Corrections.Distance (AnswersRelated)

variable {F : Type} [ExactArithmetic F] {related : F → F → Prop}

/-- Two outcomes for an observation: the same error code, or magnitudes with values that
the relation holds for. -/
inductive OutcomesRelated {E : Type} (related : F → F → Prop) :
    Throws (Except E (StationMagnitude F)) → Throws (Except E (StationMagnitude F)) → Prop
  | rejected (errorCode : E) :
      OutcomesRelated related (.ok (.error errorCode)) (.ok (.error errorCode))
  | accepted {magnitude magnitude' : StationMagnitude F} {value value' : F}
      (hvalue : magnitude.mValue = .finite value)
      (hvalue' : magnitude'.mValue = .finite value') (h : related value value') :
      OutcomesRelated related (.ok (.ok magnitude)) (.ok (.ok magnitude'))

theorem OutcomesRelated.mapError {E E' : Type} (f : E → E')
    {outcome outcome' : Throws (Except E (StationMagnitude F))}
    (h : OutcomesRelated related outcome outcome') :
    OutcomesRelated related (Except.mapError f <$> outcome)
      (Except.mapError f <$> outcome') := by
  cases h with
  | rejected errorCode => exact .rejected (f errorCode)
  | accepted hvalue hvalue' h => exact .accepted hvalue hvalue' h

/-- The second observation has the amplitudes of the first one, and the fields it has. -/
structure Observation.Resembles (observation observation' : Observation F) : Prop where
  amplitudes : observation'.mAmplitudes = observation.mAmplitudes
  stationName : observation'.mStationName = observation.mStationName
  hasAmplitudes : observation'.mHasAmplitudes = observation.mHasAmplitudes
  hasEpicentralDistance : observation'.mHasEpicentralDistance =
    observation.mHasEpicentralDistance
  hasDepth : observation'.mHasSourceDepth = observation.mHasSourceDepth

theorem Observation.Resembles.refl (observation : Observation F) :
    observation.Resembles observation := ⟨rfl, rfl, rfl, rfl, rfl⟩

namespace StationMagnitudeCalculator

variable {calculator calculator' : StationMagnitudeCalculator F}
  {observation observation' : Observation F}

/-- For two observations that fit the outcomes are related when the lookups are. -/
theorem apply_related (hcalculator : calculator.Inv) (hcalculator' : calculator'.Inv)
    (hobservation : observation.Inv) (hobservation' : observation'.Inv)
    (hfits : calculator.Fits observation) (hfits' : calculator'.Fits observation')
    (hamplitudes : observation'.mAmplitudes = observation.mAmplitudes)
    {correction correction' : F}
    (hcorrection : calculator.mStationCorrection.mCorrection = .finite correction)
    (hcorrection' : calculator'.mStationCorrection.mCorrection = .finite correction')
    (hlookup : AnswersRelated
      (fun y y' => related (uncorrected observation + y + correction)
        (uncorrected observation + y' + correction'))
      (calculator.mDistanceCorrection.apply
        (lookupAt calculator.mDistanceCorrection observation))
      (calculator'.mDistanceCorrection.apply
        (lookupAt calculator'.mDistanceCorrection observation'))) :
    OutcomesRelated related (calculator.apply observation)
      (calculator'.apply observation') := by
  have huncorrected : uncorrected observation' = uncorrected observation := by
    unfold uncorrected
    rw [hamplitudes]
  rw [apply_eq hcalculator hobservation hfits, apply_eq hcalculator' hobservation' hfits']
  generalize calculator.mDistanceCorrection.apply
    (lookupAt calculator.mDistanceCorrection observation) = answer at hlookup
  generalize calculator'.mDistanceCorrection.apply
    (lookupAt calculator'.mDistanceCorrection observation') = answer' at hlookup
  cases hlookup with
  | error code => exact .rejected (ErrorCode.ofDistance code)
  | number h =>
      rw [bind_ok, bind_ok, noexcept_afterLookup hobservation hfits.amplitudes hcorrection,
        noexcept_afterLookup hobservation' hfits'.amplitudes hcorrection']
      refine .accepted rfl rfl ?_
      rw [huncorrected]
      exact h

end StationMagnitudeCalculator

namespace NetworkMagnitudeCalculator

variable {calculator calculator' : NetworkMagnitudeCalculator F}
  {observation observation' : Observation F}

/-- What an observation lacks depends on the fields that it has. -/
theorem missing_resembles (hresembles : observation.Resembles observation')
    (hrequires : calculator'.mRequiresDepthCorrection = calculator.mRequiresDepthCorrection) :
    calculator'.missing observation' = calculator.missing observation := by
  unfold missing Observation.hasAmplitudes Observation.hasEpicentralDistance Observation.hasDepth
  rw [hresembles.hasAmplitudes, hresembles.hasEpicentralDistance, hresembles.hasDepth, hrequires]

/-- And so does the answer to an incomplete one. -/
theorem computeStationMagnitude_incomplete (hresembles : observation.Resembles observation')
    (hinitialized : calculator'.mInitialized = calculator.mInitialized)
    (hrequires : calculator'.mRequiresDepthCorrection = calculator.mRequiresDepthCorrection)
    (hmissing : calculator.missing observation ≠ none) :
    calculator'.computeStationMagnitude observation' =
      calculator.computeStationMagnitude observation := by
  unfold missing Observation.hasAmplitudes Observation.hasEpicentralDistance
    Observation.hasDepth at hmissing
  unfold computeStationMagnitude isInitialized Observation.hasAmplitudes
    Observation.hasEpicentralDistance Observation.hasDepth
  rw [hinitialized, hrequires, hresembles.hasAmplitudes, hresembles.hasEpicentralDistance,
    hresembles.hasDepth]
  split at hmissing
  · rename_i hlacks
    rw [if_pos hlacks, if_pos hlacks]
  · rename_i hhas
    rw [if_neg hhas, if_neg hhas]
    split at hmissing
    · rename_i hlacks
      rw [if_pos hlacks, if_pos hlacks]
    · rename_i hhas'
      rw [if_neg hhas', if_neg hhas']
      split at hmissing
      · rename_i hlacks
        rw [if_pos hlacks, if_pos hlacks]
      · exact absurd rfl hmissing

variable {distance distance' : Distance F} {set set' : StationsSet F}

/-- For a complete observation the table is read at a number that is not negative. -/
theorem WellFormed.exists_lookupAt (h : calculator.WellFormed distance set)
    (hobservation : observation.Inv) (hmissing : calculator.missing observation = none) :
    ∃ x : F, StationMagnitudeCalculator.lookupAt distance observation = .finite x ∧ 0 ≤ x := by
  obtain ⟨-, hdistance, hdepth⟩ := missing_eq_none_iff.mp hmissing
  obtain ⟨d, hd, hnonneg, -⟩ := hobservation.epicentralDistance hdistance
  unfold StationMagnitudeCalculator.lookupAt
  rw [hd]
  by_cases htype : distance.mDistanceOptions.mType = .hypocentral
  · obtain ⟨z, hz, -, -⟩ := hobservation.depth (hdepth (h.requiresDepth.mpr htype))
    rw [if_pos htype, hz]
    exact Distance.lookupDistance_finite h.distanceReachable.inv hnonneg
  · rw [if_neg htype]
    exact Distance.lookupDistance_finite h.distanceReachable.inv hnonneg

/-- The names of the two sets are the same, and the corrections are numbers that the
relation holds for. -/
def StationsRelated (related : F → F → Prop) (set set' : StationsSet F) : Prop :=
  ∀ name, (set.mCorrections.lookup name = none ∧ set'.mCorrections.lookup name = none) ∨
    ∃ station station' correction correction',
      set.mCorrections.lookup name = some station ∧
        set'.mCorrections.lookup name = some station' ∧
        station.mCorrection = .finite correction ∧
        station'.mCorrection = .finite correction' ∧ related correction correction'

/-- Whatever holds of the magnitudes that related corrections give holds of the two
outcomes. -/
theorem computeStationMagnitude_related (h : calculator.WellFormed distance set)
    (h' : calculator'.WellFormed distance' set')
    (htype : distance'.mDistanceOptions.mType = distance.mDistanceOptions.mType)
    (hobservation : observation.Inv) (hobservation' : observation'.Inv)
    (hresembles : observation.Resembles observation') {stations : F → F → Prop}
    (hstations : StationsRelated stations set set') {lookups : F → F → Prop}
    (hlookup : calculator.missing observation = none →
      AnswersRelated lookups
        (distance.apply (StationMagnitudeCalculator.lookupAt distance observation))
        (distance'.apply (StationMagnitudeCalculator.lookupAt distance' observation')))
    (hrelated : ∀ y y' c c', lookups y y' → stations c c' →
      related (StationMagnitudeCalculator.uncorrected observation + y + c)
        (StationMagnitudeCalculator.uncorrected observation + y' + c')) :
    OutcomesRelated related (calculator.computeStationMagnitude observation)
      (calculator'.computeStationMagnitude observation') := by
  have hrequires : calculator'.mRequiresDepthCorrection =
      calculator.mRequiresDepthCorrection := by
    rw [Bool.eq_iff_iff, h.requiresDepth, h'.requiresDepth, htype]
  have hmissing' := missing_resembles hresembles hrequires
  by_cases hmissing : calculator.missing observation = none
  · rw [h.computeStationMagnitude_eq hmissing,
      h'.computeStationMagnitude_eq (hmissing'.trans hmissing), hresembles.stationName]
    rcases hstations observation.mStationName with
      ⟨hnone, hnone'⟩ | ⟨station, station', c, c', hsome, hsome', hc, hc', hcorrections⟩
    · rw [hnone, hnone']
      exact .rejected _
    · rw [hsome, hsome']
      refine .mapError stationErrorCode (StationMagnitudeCalculator.apply_related
        (h.calculatorOf_inv hsome) (h'.calculatorOf_inv hsome') hobservation hobservation'
        (h.fits hmissing hsome)
        (h'.fits (hmissing'.trans hmissing) (hresembles.stationName.symm ▸ hsome'))
        hresembles.amplitudes hc hc' ?_)
      exact (hlookup hmissing).imp fun y y' hy => hrelated y y' c c' hy hcorrections
  · rw [computeStationMagnitude_incomplete hresembles
      (h'.initialized.trans h.initialized.symm) hrequires hmissing]
    rcases computeStationMagnitude_of_missing h.initialized hmissing with hcode | hcode | hcode
    · rw [hcode]
      exact .rejected _
    · rw [hcode]
      exact .rejected _
    · rw [hcode]
      exact .rejected _

/-! ## Lists of observations -/

variable {error : F}

/-- The numbers of the two residuals are the same, and their magnitudes are no farther
apart than the error, so that the residuals are no farther apart than twice the error. -/
structure ResidualsWithin (error : F) (entry entry' : Residual F × Int) : Prop where
  number : entry'.2 = entry.2
  magnitude : ∃ value value', entry.1.mStationMagnitude.mValue = .finite value ∧
    entry'.1.mStationMagnitude.mValue = .finite value' ∧ Within error value value'
  residual : ∃ value value', entry.1.mValue = .finite value ∧
    entry'.1.mValue = .finite value' ∧ Within (error + error) value value'

/-- The same observations are accepted, and the values are no farther apart than the error. -/
structure MagnitudesWithin (error : F) (magnitude magnitude' : NetworkMagnitude F) : Prop where
  value : ∃ value value', magnitude.mValue = .finite value ∧
    magnitude'.mValue = .finite value' ∧ Within error value value'
  rejected : magnitude'.mRejectedObservations = magnitude.mRejectedObservations
  residuals : List.Forall₂ (ResidualsWithin error) magnitude.mResiduals magnitude'.mResiduals

/-- The observations resemble each other, and the outcomes for them are no farther apart
than the error. -/
structure AnsweredWithin (calculator calculator' : NetworkMagnitudeCalculator F) (error : F)
    (observation observation' : Observation F) : Prop where
  resembles : observation.Resembles observation'
  outcomes : OutcomesRelated (Within error) (calculator.computeStationMagnitude observation)
    (calculator'.computeStationMagnitude observation')

theorem AnsweredWithin.computes
    (h : AnsweredWithin calculator calculator' error observation observation') :
    calculator.Computes observation ∧ calculator'.Computes observation' := by
  have houtcomes := h.outcomes
  unfold Computes
  generalize calculator.computeStationMagnitude observation = outcome at houtcomes
  generalize calculator'.computeStationMagnitude observation' = outcome' at houtcomes
  cases houtcomes with
  | rejected errorCode => exact ⟨⟨_, rfl⟩, ⟨_, rfl⟩⟩
  | accepted hvalue hvalue' hwithin => exact ⟨⟨_, rfl⟩, ⟨_, rfl⟩⟩

theorem AnsweredWithin.nearbyAt
    (h : AnsweredWithin calculator calculator' error observation observation')
    (hrequires : calculator'.mRequiresDepthCorrection = calculator.mRequiresDepthCorrection) :
    NearbyAt calculator.assessment calculator'.assessment error observation observation' := by
  obtain ⟨hcomputes, hcomputes'⟩ := h.computes
  have houtcomes := h.outcomes
  rw [hcomputes.computeStationMagnitude_eq, hcomputes'.computeStationMagnitude_eq] at houtcomes
  refine ⟨missing_resembles h.resembles hrequires, h.resembles.stationName, ?_, ?_⟩
  · intro errorCode herror
    have hsame : calculator.outcome observation = .error errorCode := herror
    show calculator'.outcome observation' = _
    rw [hsame] at houtcomes
    generalize calculator'.outcome observation' = outcome' at houtcomes
    cases houtcomes with
    | rejected => rfl
  · intro magnitude hmagnitude
    have hsame : calculator.outcome observation = .ok magnitude := hmagnitude
    show ∃ magnitude', calculator'.outcome observation' = .ok magnitude' ∧
      Within error magnitude.mValue.val magnitude'.mValue.val
    rw [hsame] at houtcomes
    generalize calculator'.outcome observation' = outcome' at houtcomes
    cases houtcomes with
    | accepted hvalue hvalue' hwithin =>
        refine ⟨_, rfl, ?_⟩
        rw [hvalue, hvalue']
        exact hwithin

/-- What is returned for an average when only its range is left to check. -/
def checkedRange (calculator : NetworkMagnitudeCalculator F)
    (observations : List (Observation F)) : Except ErrorCode (NetworkMagnitude F) :=
  if mean (calculator.assessment.measures observations) < -10 ∨
      10 < mean (calculator.assessment.measures observations) then .error .algorithm
  else .ok (networkMagnitudeOf (calculator.assessment.result observations))

theorem resultOf_inRange (observations : List (Observation F)) :
    resultOf (calculator.assessment.inRange observations) =
      calculator.checkedRange observations := by
  unfold checkedRange
  by_cases hrange : mean (calculator.assessment.measures observations) < -10 ∨
      10 < mean (calculator.assessment.measures observations)
  · rw [if_pos hrange]
    exact congrArg resultOf (if_pos hrange)
  · rw [if_neg hrange]
    exact congrArg resultOf (if_neg hrange)

/-- What was accepted of a list has a number for its value. -/
theorem exists_value_of_mem_accepted {observations : List (Observation F)}
    {accepted : StationMagnitude F × Nat}
    (h : accepted ∈ (calculator.assessment.result observations).accepted) :
    accepted.1.mValue = .finite accepted.1.mValue.val := by
  obtain ⟨-, o, -, houtcome⟩ := Batch.Assessment.mem_accepted_iff.mp h
  exact (complete_of_outcome houtcome).2

theorem residualsWithin_residualOf {value value' : F} (hvalue : Within error value value')
    {accepted accepted' : StationMagnitude F × Nat}
    (haccepted : accepted.1.mValue = .finite accepted.1.mValue.val)
    (haccepted' : accepted'.1.mValue = .finite accepted'.1.mValue.val)
    (hnumber : accepted'.2 = accepted.2)
    (hwithin : Within error accepted.1.mValue.val accepted'.1.mValue.val) :
    ResidualsWithin error (residualOf value accepted) (residualOf value' accepted') where
  number := congrArg Nat.cast hnumber
  magnitude := ⟨_, _, haccepted, haccepted', hwithin⟩
  residual := by
    refine ⟨_, _, rfl, rfl, ?_⟩
    have hsplit : value' - accepted'.1.mValue.val - (value - accepted.1.mValue.val) =
        (value' - value) + (accepted.1.mValue.val - accepted'.1.mValue.val) := by ring
    unfold Within at hvalue hwithin ⊢
    rw [abs_sub_comm] at hwithin
    rw [hsplit]
    exact (abs_add_le _ _).trans (add_le_add hvalue hwithin)

section Lists

variable {observations observations' : List (Observation F)}
  (hanswered : List.Forall₂ (AnsweredWithin calculator calculator' error) observations
    observations')
  (hrequires : calculator'.mRequiresDepthCorrection = calculator.mRequiresDepthCorrection)

include hanswered

theorem computes_of_answered : (∀ o ∈ observations, calculator.Computes o) ∧
    ∀ o ∈ observations', calculator'.Computes o := by
  induction hanswered with
  | nil => exact ⟨List.forall_mem_nil _, List.forall_mem_nil _⟩
  | cons hhead _ ih =>
      exact ⟨List.forall_mem_cons.mpr ⟨hhead.computes.1, ih.1⟩,
        List.forall_mem_cons.mpr ⟨hhead.computes.2, ih.2⟩⟩

include hrequires

theorem nearby_of_answered : List.Forall₂ (NearbyAt calculator.assessment calculator'.assessment
    error) observations observations' := hanswered.imp fun _ _ h => h.nearbyAt hrequires

/-- The averages of two lists that are answered nearly alike. -/
theorem magnitudesWithin (hsome : calculator.assessment.measures observations ≠ []) :
    MagnitudesWithin error (networkMagnitudeOf (calculator.assessment.result observations))
      (networkMagnitudeOf (calculator'.assessment.result observations')) := by
  have hnearby := nearby_of_answered hanswered hrequires
  have hmean := mean_nearby hnearby hsome
  refine ⟨⟨_, _, rfl, rfl, hmean⟩,
    congrArg (List.map rejectionOf) (Batch.Assessment.numbered_rejected_nearby hnearby 1), ?_⟩
  have haccepted := Batch.Assessment.numbered_accepted_nearby hnearby 1
  unfold networkMagnitudeOf
  rw [List.forall₂_map_left_iff, List.forall₂_map_right_iff]
  obtain ⟨hlength, hpairs⟩ := List.forall₂_iff_get.mp haccepted
  refine List.forall₂_iff_get.mpr ⟨hlength, fun i hi hi' => ?_⟩
  obtain ⟨hnumber, hwithin⟩ := hpairs i hi hi'
  exact residualsWithin_residualOf hmean (exists_value_of_mem_accepted (List.get_mem _ _))
    (exists_value_of_mem_accepted (List.get_mem _ _)) hnumber hwithin

/-- Lists that are answered nearly alike get the same error code, or magnitudes that are
nearly alike; only whether the value is in range may differ. -/
theorem apply_within (hinitialized : calculator.mInitialized = true)
    (hinitialized' : calculator'.mInitialized = true)
    (hminimum : calculator'.mOptions.mMinimumNumberOfStationMagnitudes =
      calculator.mOptions.mMinimumNumberOfStationMagnitudes) :
    (∀ errorCode, errorCode ≠ .algorithm →
        (calculator.apply observations = .ok (.error errorCode) ↔
          calculator'.apply observations' = .ok (.error errorCode))) ∧
      ∀ magnitude, calculator.apply observations = .ok (.ok magnitude) →
        ∃ magnitude' value', MagnitudesWithin error magnitude magnitude' ∧
          magnitude'.mValue = .finite value' ∧
          calculator'.apply observations' =
            .ok (if value' < -10 ∨ 10 < value' then .error .algorithm else .ok magnitude') := by
  have hnearby := nearby_of_answered hanswered hrequires
  obtain ⟨hcomputes, hcomputes'⟩ := computes_of_answered hanswered
  rw [apply_of_computes hinitialized hcomputes, apply_of_computes hinitialized' hcomputes']
  rcases average_nearby hnearby hminimum with
    ⟨failure, hfailure, haverage, haverage'⟩ | ⟨hsome, haverage, haverage'⟩
  · rw [haverage, haverage']
    exact ⟨fun _ _ => Iff.rfl, fun _ h => absurd (Except.ok.inj h) nofun⟩
  · rw [haverage, haverage', resultOf_inRange, resultOf_inRange]
    constructor
    · intro errorCode hcode
      have hne (c : NetworkMagnitudeCalculator F) (list : List (Observation F)) :
          Except.ok (c.checkedRange list) ≠
            (Except.ok (.error errorCode) : Throws (Except ErrorCode (NetworkMagnitude F))) := by
        intro heq
        unfold checkedRange at heq
        split at heq
        · exact hcode (Except.error.inj (Except.ok.inj heq)).symm
        · exact absurd (Except.ok.inj heq) nofun
      exact ⟨fun h => absurd h (hne _ _), fun h => absurd h (hne _ _)⟩
    · intro magnitude hmagnitude
      have hwithin := magnitudesWithin hanswered hrequires hsome
      have hmagnitude := Except.ok.inj hmagnitude
      unfold checkedRange at hmagnitude
      split at hmagnitude
      · exact absurd hmagnitude nofun
      · obtain rfl := Except.ok.inj hmagnitude
        exact ⟨_, _, hwithin, rfl, rfl⟩

end Lists

end NetworkMagnitudeCalculator

end Magnitude
end ULocalMagnitude
