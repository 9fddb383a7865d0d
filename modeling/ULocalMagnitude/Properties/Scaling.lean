import ULocalMagnitude.Magnitude.ScaledAmplitudes
import ULocalMagnitude.Reals
import Mathlib.Data.List.FinRange

/-!
# The amplitude scaling law

With the real logarithm: multiplying both amplitudes of each observation by a positive
factor adds the logarithm of the factor to its station magnitude and the mean of the
logarithms over the accepted observations to the network magnitude.  Which observations
are accepted, and why the others are not, does not depend on the factors, and under a
common factor no residual changes.
-/

namespace ULocalMagnitude
namespace Properties

open Cxx Magnitude Reals
open Batch (mean numbered)

variable {n : Nat}

/-- The calculator has a magnitude for the observation. -/
noncomputable def accepts (calculator : NetworkMagnitudeCalculator ℝ)
    (observation : Observation ℝ) : Bool :=
  match calculator.computeStationMagnitude observation with
  | .ok (.ok _) => true
  | _ => false

/-- The places of the accepted observations. -/
noncomputable def acceptedPlaces (calculator : NetworkMagnitudeCalculator ℝ)
    (observations : Fin n → Observation ℝ) : List (Fin n) :=
  (List.finRange n).filter fun i => accepts calculator (observations i)

/-- What the calculator makes of an observation and of the scaled one. -/
structure ScalesAlike (calculator : NetworkMagnitudeCalculator ℝ)
    (observation : Observation ℝ) (factor : ℝ) : Prop where
  reachable : (observation.scaled factor).IsReachable
  rejected : ∀ errorCode,
    calculator.computeStationMagnitude (observation.scaled factor) = .ok (.error errorCode) ↔
      calculator.computeStationMagnitude observation = .ok (.error errorCode)
  accepted : ∀ magnitude, calculator.computeStationMagnitude observation = .ok (.ok magnitude) →
    ∃ value magnitude', magnitude.mValue = .finite value ∧
      calculator.computeStationMagnitude (observation.scaled factor) = .ok (.ok magnitude') ∧
      magnitude'.mValue = .finite (value + Real.logb 10 factor)

/-- The magnitude of the scaled observations beside that of the observations, where the
mean logarithm of the factors is `shift`. -/
structure ScaledMagnitude (magnitude magnitude' : NetworkMagnitude ℝ) (value shift : ℝ) :
    Prop where
  value : magnitude'.mValue = .finite (value + shift)
  rejected : magnitude'.mRejectedObservations = magnitude.mRejectedObservations
  accepted : magnitude'.mResiduals.map Prod.snd = magnitude.mResiduals.map Prod.snd

variable {calculator : NetworkMagnitudeCalculator ℝ} {observations : Fin n → Observation ℝ}
  {factor : Fin n → ℝ}

theorem scalesAlike (hcalculator : calculator.IsReachable) {observation : Observation ℝ}
    (hobservation : observation.IsReachable) (hamplitudes : observation.mHasAmplitudes = true)
    {factor : ℝ} (hfactor : 0 < factor) : ScalesAlike calculator observation factor := by
  have hscaled := NetworkMagnitudeCalculator.computeStationMagnitude_scaled log10_mul hfactor
    hcalculator hobservation.inv
  refine ⟨hobservation.scaled hfactor hamplitudes, ?_, ?_⟩
  · intro errorCode
    rw [hscaled]
    cases calculator.computeStationMagnitude observation with
    | error fault => simp
    | ok outcome => cases outcome <;> simp [Except.map]
  · intro magnitude hmagnitude
    have houtcome := NetworkMagnitudeCalculator.outcome_eq_ok_iff.mpr hmagnitude
    obtain ⟨-, hvalue⟩ := NetworkMagnitudeCalculator.complete_of_outcome houtcome
    refine ⟨magnitude.mValue.val, magnitude.scaled factor, hvalue, ?_, ?_⟩
    · rw [hscaled, hmagnitude]
      rfl
    · show magnitude.mValue + .finite (Real.logb 10 factor) = _
      rw [hvalue, Double.finite_add_finite]
      rfl

theorem acceptedPlaces_eq (hcomputes : ∀ i, calculator.Computes (observations i)) :
    acceptedPlaces calculator observations =
      calculator.assessment.acceptedPlaces observations (List.finRange n) := by
  unfold acceptedPlaces Batch.Assessment.acceptedPlaces accepts Batch.Assessment.accepted
  refine List.filter_congr fun i _ => ?_
  have houtcome : calculator.assessment.outcome (observations i) =
      calculator.outcome (observations i) := rfl
  rw [(hcomputes i).computeStationMagnitude_eq, houtcome]
  cases calculator.outcome (observations i) <;> rfl

section Scaled

variable (hcalculator : calculator.IsReachable)
  (hobservations : ∀ i, (observations i).IsReachable) (hfactor : ∀ i, 0 < factor i)

include hcalculator hobservations hfactor

theorem shiftedAt (i : Fin n) : calculator.assessment.ShiftedAt (observations i)
    ((observations i).scaled (factor i)) (Real.logb 10 (factor i)) :=
  NetworkMagnitudeCalculator.shiftedAt_scaled log10_mul (hfactor i) hcalculator
    (hobservations i).inv

theorem mean_scaled (hcomputes : ∀ i, calculator.Computes (observations i)) :
    mean (calculator.assessment.measures
        ((List.finRange n).map fun i => (observations i).scaled (factor i))) =
      mean (calculator.assessment.measures ((List.finRange n).map observations)) +
        mean ((acceptedPlaces calculator observations).map fun i => Real.logb 10 (factor i)) := by
  rw [acceptedPlaces_eq hcomputes]
  exact Batch.Assessment.mean_shifted (shiftedAt hcalculator hobservations hfactor)

/-- What is read off the residuals is the same if it is at every place. -/
theorem residuals_scaled {β : Type} {read : Residual ℝ × Int → β} {value value' : ℝ}
    (hread : ∀ i magnitude number, calculator.outcome (observations i) = .ok magnitude →
      read (NetworkMagnitudeCalculator.residualOf value'
        (magnitude.scaled (factor i), number)) =
          read (NetworkMagnitudeCalculator.residualOf value (magnitude, number))) :
    ((numbered calculator.assessment.accepted 1
        ((List.finRange n).map fun i => (observations i).scaled (factor i))).map
          (NetworkMagnitudeCalculator.residualOf value')).map read =
      ((numbered calculator.assessment.accepted 1 ((List.finRange n).map observations)).map
        (NetworkMagnitudeCalculator.residualOf value)).map read := by
  rw [List.map_map, List.map_map]
  refine Batch.Assessment.numbered_accepted_shifted
    (shiftedAt hcalculator hobservations hfactor) ?_ 1
  intro i magnitude magnitude' houtcome houtcome' number
  have hscaled := NetworkMagnitudeCalculator.outcome_scaled log10_mul (hfactor i) hcalculator
    (hobservations i).inv
  have haccepted : calculator.outcome (observations i) = .ok magnitude := houtcome
  rw [haccepted] at hscaled
  obtain rfl : magnitude.scaled (factor i) = magnitude' :=
    Except.ok.inj (hscaled.symm.trans houtcome')
  exact hread i magnitude number haccepted

end Scaled

/-- The amplitude scaling law. -/
theorem amplitudes_scale_magnitudes (hcalculator : calculator.IsReachable)
    (hobservations : ∀ i, (observations i).IsReachable) (hfactor : ∀ i, 0 < factor i)
    {magnitude : NetworkMagnitude ℝ}
    (h : calculator.apply (List.ofFn observations) = .ok (.ok magnitude)) :
    (∀ i, ScalesAlike calculator (observations i) (factor i)) ∧
      ∃ value shift, magnitude.mValue = .finite value ∧
        shift = mean ((acceptedPlaces calculator observations).map fun i =>
          Real.logb 10 (factor i)) ∧
        (-10 ≤ value + shift → value + shift ≤ 10 →
          ∃ magnitude', calculator.apply
              (List.ofFn fun i => (observations i).scaled (factor i)) = .ok (.ok magnitude') ∧
            ScaledMagnitude magnitude magnitude' value shift ∧
            ∀ common, (∀ i, factor i = common) → shift = Real.logb 10 common ∧
              magnitude'.mResiduals.map (fun residual => (residual.1.mValue, residual.2)) =
                magnitude.mResiduals.map fun residual => (residual.1.mValue, residual.2)) := by
  simp only [List.ofFn_eq_map] at h ⊢
  obtain ⟨hpasses, hcomputes, rfl⟩ := NetworkMagnitudeCalculator.exists_result_of_apply h
  have hcomputes' : ∀ i, calculator.Computes (observations i) :=
    fun i => hcomputes _ (List.mem_map_of_mem (List.mem_finRange i))
  have hamplitudes : ∀ i, (observations i).mHasAmplitudes = true := fun i =>
    (NetworkMagnitudeCalculator.missing_eq_none_iff.mp
      (hpasses.complete _ (List.mem_map_of_mem (List.mem_finRange i)))).1
  have hshifted := shiftedAt hcalculator hobservations hfactor
  have hmean := mean_scaled hcalculator hobservations hfactor hcomputes'
  refine ⟨fun i => scalesAlike hcalculator (hobservations i) (hamplitudes i) (hfactor i),
    _, _, rfl, rfl, ?_⟩
  intro hlower hupper
  have hrange := And.intro hlower hupper
  rw [show (calculator.assessment.result ((List.finRange n).map observations)).value =
    mean (calculator.assessment.measures ((List.finRange n).map observations)) from rfl,
    ← hmean] at hrange
  have hscaledComputes : ∀ o ∈ (List.finRange n).map fun i => (observations i).scaled (factor i),
      calculator.Computes o := by
    intro o ho
    obtain ⟨i, -, rfl⟩ := List.mem_map.mp ho
    exact (hcomputes' i).scaled log10_mul (hfactor i) hcalculator (hobservations i).inv
  refine ⟨_, (NetworkMagnitudeCalculator.apply_eq_ok_ok_iff hcalculator.initialized).mpr
    ⟨hpasses.shifted hshifted hrange, hscaledComputes, rfl⟩,
    ⟨congrArg Double.finite hmean,
      congrArg (List.map NetworkMagnitudeCalculator.rejectionOf)
        (Batch.Assessment.numbered_rejected_shifted hshifted 1),
      residuals_scaled hcalculator hobservations hfactor fun _ _ _ _ => rfl⟩, ?_⟩
  intro common hcommon
  have hshift : mean ((acceptedPlaces calculator observations).map fun i =>
      Real.logb 10 (factor i)) = Real.logb 10 common := by
    refine Batch.mean_of_forall_eq ?_ fun v hv => ?_
    · rw [acceptedPlaces_eq hcomputes', ne_eq, List.map_eq_nil_iff, ← List.length_eq_zero_iff,
        Batch.Assessment.length_acceptedPlaces, List.length_eq_zero_iff]
      exact hpasses.measures_ne_nil
    · obtain ⟨i, -, rfl⟩ := List.mem_map.mp hv
      rw [hcommon i]
  refine ⟨hshift, residuals_scaled hcalculator hobservations hfactor ?_⟩
  intro i accepted number haccepted
  -- The magnitude and the average have moved by the same amount.
  have hvalue : (accepted.scaled (factor i)).mValue.val =
      accepted.mValue.val + Real.logb 10 common := by
    rw [← hcommon i]
    exact NetworkMagnitudeCalculator.val_scaled haccepted
  refine Prod.ext (congrArg Double.finite ?_) rfl
  show mean _ - (accepted.scaled (factor i)).mValue.val = mean _ - accepted.mValue.val
  rw [hmean, hshift, hvalue]
  ring

/-- Two stations with a correction, and between them one without. -/
def sites : Fin 3 → Site := ![.asu7, .cvru, .bsut]

noncomputable def siteFactors : Fin 3 → ℝ := ![10, 100, 1000]

theorem siteFactors_pos (i : Fin 3) : 0 < siteFactors i := by
  fin_cases i <;> norm_num [siteFactors]

/-- The calculator has a magnitude of zero for the first and the last observation. -/
structure AcceptsOuterSites (calculator : NetworkMagnitudeCalculator ℝ) : Prop where
  missing : ∀ site, calculator.missing (observation site) = none
  accepted : ∀ site, site ≠ .cvru → ∃ magnitude,
    calculator.computeStationMagnitude (observation site) = .ok (.ok magnitude) ∧
      magnitude.mValue = .finite 0
  rejected : calculator.computeStationMagnitude (observation .cvru) =
    .ok (.error .observationHasNoCorrection)
  minimum : calculator.mOptions.mMinimumNumberOfStationMagnitudes = 1

section Outer

variable {calculator : NetworkMagnitudeCalculator ℝ}

theorem acceptedPlaces_sites (h : AcceptsOuterSites calculator) :
    acceptedPlaces calculator (fun i => observation (sites i)) = [0, 2] := by
  have haccepts (site : Site) : accepts calculator (observation site) = decide (site ≠ .cvru) := by
    unfold accepts
    by_cases hsite : site = .cvru
    · rw [hsite, h.rejected]
      rfl
    · obtain ⟨magnitude, hmagnitude, -⟩ := h.accepted site hsite
      rw [hmagnitude, decide_eq_true hsite]
  unfold acceptedPlaces
  simp only [haccepts]
  decide

/-- What the assessment makes of each of the three. -/
theorem exists_outcomes (h : AcceptsOuterSites calculator) : ∃ first last,
    calculator.assessment.outcome (observation .asu7) = .ok first ∧
      calculator.assessment.outcome (observation .cvru) = .error .observationHasNoCorrection ∧
      calculator.assessment.outcome (observation .bsut) = .ok last ∧
      calculator.assessment.measure first = 0 ∧ calculator.assessment.measure last = 0 := by
  obtain ⟨first, hfirst, hfirstValue⟩ := h.accepted .asu7 nofun
  obtain ⟨last, hlast, hlastValue⟩ := h.accepted .bsut nofun
  refine ⟨first, last, NetworkMagnitudeCalculator.outcome_eq_ok_iff.mpr hfirst, ?_,
    NetworkMagnitudeCalculator.outcome_eq_ok_iff.mpr hlast, congrArg Double.val hfirstValue,
    congrArg Double.val hlastValue⟩
  show calculator.outcome (observation .cvru) = _
  unfold NetworkMagnitudeCalculator.outcome
  rw [h.rejected]

/-- The sample passes, with two magnitudes of zero. -/
theorem passes_sites (h : AcceptsOuterSites calculator) :
    calculator.assessment.Passes (List.ofFn fun i => observation (sites i)) ∧
      mean (calculator.assessment.measures (List.ofFn fun i => observation (sites i))) = 0 := by
  have hsites : (List.ofFn fun i => observation (sites i)) =
      [observation .asu7, observation .cvru, observation .bsut] := rfl
  have hmeasures : calculator.assessment.measures
      [observation .asu7, observation .cvru, observation .bsut] = [0, 0] := by
    obtain ⟨first, last, hfirst, hrejected, hlast, hfirstValue, hlastValue⟩ := exists_outcomes h
    rw [Batch.Assessment.measures_cons_ok hfirst, Batch.Assessment.measures_cons_error hrejected,
      Batch.Assessment.measures_cons_ok hlast, hfirstValue, hlastValue]
    rfl
  have hmean : mean ([0, 0] : List ℝ) = 0 := Batch.mean_of_forall_eq (by simp) (by simp)
  rw [hsites]
  refine ⟨⟨by simp, ?_, ?_, ?_, ?_⟩, by rw [hmeasures, hmean]⟩
  · simp only [List.forall_mem_cons]
    exact ⟨h.missing _, h.missing _, h.missing _, List.forall_mem_nil _⟩
  · have hne {site other : Site} (hsites : site ≠ other) :
        (station site).name ≠ (station other).name := fun hsame => hsites (name_injective hsame)
    show [(station .asu7).name, (station .cvru).name, (station .bsut).name].Nodup
    simp [hne]
  · rw [hmeasures]
    show max 1 calculator.mOptions.mMinimumNumberOfStationMagnitudes ≤ 2
    rw [h.minimum]
    decide
  · rw [hmeasures, hmean]
    show (-10 : ℝ) ≤ 0 ∧ (0 : ℝ) ≤ 10
    norm_num

/-- The one in between is rejected. -/
theorem rejections_sites (h : AcceptsOuterSites calculator) :
    (NetworkMagnitudeCalculator.networkMagnitudeOf (calculator.assessment.result
      (List.ofFn fun i => observation (sites i)))).mRejectedObservations =
        [(.observationHasNoCorrection, 2)] := by
  obtain ⟨first, last, hfirst, hrejected, hlast, -, -⟩ := exists_outcomes h
  show (numbered calculator.assessment.rejected 1
    [observation .asu7, observation .cvru, observation .bsut]).map
      NetworkMagnitudeCalculator.rejectionOf = _
  rw [Batch.numbered_cons_none (Batch.Assessment.rejected_of_ok hfirst),
    Batch.numbered_cons_some (Batch.Assessment.rejected_of_error hrejected),
    Batch.numbered_cons_none (Batch.Assessment.rejected_of_ok hlast)]
  rfl

end Outer

/-- The outer stations have magnitude zero.  With factors of 10 and 1000 for them the mean
logarithm is two, and the factor for the one in between has no part in it. -/
theorem differently_scaled_amplitudes_move_magnitude :
    ∃ (calculator : NetworkMagnitudeCalculator ℝ) (magnitude magnitude' : NetworkMagnitude ℝ),
      calculator.apply (List.ofFn fun i => observation (sites i)) = .ok (.ok magnitude) ∧
        magnitude.mValue = .finite 0 ∧
        magnitude.mRejectedObservations = [(.observationHasNoCorrection, 2)] ∧
        (∀ i, ScalesAlike calculator (observation (sites i)) (siteFactors i)) ∧
        calculator.apply (List.ofFn fun i => (observation (sites i)).scaled (siteFactors i)) =
          .ok (.ok magnitude') ∧
        ScaledMagnitude magnitude magnitude' 0 2 := by
  obtain ⟨distance, calculator, hholds, htype, hinterpolation, hcalculator, hwellFormed,
    hminimum⟩ := exists_calculator
  have houter : AcceptsOuterSites calculator :=
    ⟨missing_observation htype hwellFormed,
      fun site => exists_computeStationMagnitude hholds htype hinterpolation hwellFormed,
      computeStationMagnitude_cvru htype hwellFormed, hminimum⟩
  obtain ⟨hpasses, hmean⟩ := passes_sites houter
  have hcomputes : ∀ o ∈ List.ofFn fun i => observation (sites i), calculator.Computes o := by
    intro o ho
    obtain ⟨i, rfl⟩ := List.mem_ofFn.mp ho
    by_cases hsite : sites i = .cvru
    · rw [hsite]
      exact ⟨_, houter.rejected⟩
    · obtain ⟨magnitude, hmagnitude, -⟩ := houter.accepted _ hsite
      exact ⟨_, hmagnitude⟩
  have happly := (NetworkMagnitudeCalculator.apply_eq_ok_ok_iff hcalculator.initialized).mpr
    ⟨hpasses, hcomputes, rfl⟩
  obtain ⟨hscales, value, shift, hvalue, hshift, hscaled⟩ := amplitudes_scale_magnitudes
    hcalculator (fun i => observation_isReachable (sites i)) siteFactors_pos happly
  obtain rfl : 0 = value := by
    rw [← hmean]
    exact Double.finite.inj hvalue
  have hlog : ∀ k : ℕ, Real.logb 10 ((10 : ℝ) ^ k) = k := by
    intro k
    rw [Real.logb_pow, Real.logb_self_eq_one (by norm_num), mul_one]
  obtain rfl : shift = 2 := by
    have hone : Real.logb 10 10 = 1 := Real.logb_self_eq_one (by norm_num)
    have hthree : Real.logb 10 1000 = 3 := by
      rw [show (1000 : ℝ) = 10 ^ 3 by norm_num]
      exact_mod_cast hlog 3
    rw [hshift, acceptedPlaces_sites houter]
    show mean [Real.logb 10 10, Real.logb 10 1000] = 2
    rw [hone, hthree]
    norm_num [mean]
  obtain ⟨magnitude', happly', hmagnitude', -⟩ := hscaled (by norm_num) (by norm_num)
  exact ⟨calculator, _, magnitude', happly, hvalue, rejections_sites houter, hscales, happly',
    hmagnitude'⟩

end Properties
end ULocalMagnitude
