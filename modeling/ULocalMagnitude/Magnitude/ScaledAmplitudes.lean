import ULocalMagnitude.Magnitude.NetworkAverage
import ULocalMagnitude.Shift

/-!
# Scaled amplitudes

An observation with both amplitudes multiplied by a positive factor.  The amplitudes
enter a magnitude through the logarithm of their sum alone, so step by step through the
calculators the scaled observation gets the same error code, or a magnitude that is
greater by the logarithm of the factor.
-/

namespace ULocalMagnitude
namespace Magnitude

open Cxx
open Corrections (Station)

variable {F : Type} [ExactArithmetic F]

/-- The law of the logarithm, which arbitrary arithmetic does not promise. -/
def TurnsProductsIntoSums (F : Type) [ExactArithmetic F] : Prop :=
  ∀ x y : F, 0 < x → 0 < y →
    Arithmetic.log10 (x * y) = Arithmetic.log10 x + Arithmetic.log10 y

/-- The amplitude with its value multiplied by a factor. -/
def Amplitude.scaled (factor : F) (amplitude : Amplitude F) : Amplitude F :=
  { amplitude with mValue := amplitude.mValue * .finite factor }

/-- Both amplitudes multiplied by a factor. -/
def scaledPair (factor : F) (amplitudes : Amplitude F × Amplitude F) :
    Amplitude F × Amplitude F :=
  (amplitudes.1.scaled factor, amplitudes.2.scaled factor)

/-- The observation with both amplitudes multiplied by a factor. -/
def Observation.scaled (factor : F) (observation : Observation F) : Observation F :=
  { observation with mAmplitudes := scaledPair factor observation.mAmplitudes }

/-- The station magnitude of the scaled amplitudes: greater by the logarithm of the
factor. -/
def StationMagnitude.scaled (factor : F) (magnitude : StationMagnitude F) :
    StationMagnitude F :=
  { magnitude with
    mAmplitudes := scaledPair factor magnitude.mAmplitudes
    mValue := magnitude.mValue + .finite (Arithmetic.log10 factor) }

/-! ## The setters -/

namespace Amplitude

variable {factor : F} {amplitude : Amplitude F}

/-- Setting the multiplied value scales the amplitude. -/
theorem call_setValue_scaled (hfactor : 0 < factor) (h : amplitude.Inv)
    (hvalue : amplitude.hasValue = true) :
    (setValue (amplitude.mValue * .finite factor)).call amplitude =
      .ok (amplitude.scaled factor) := by
  obtain ⟨x, hx, hpos⟩ := h.exists_value hvalue
  refine call_setValue_eq_ok.mpr ⟨⟨x * factor, ?_, mul_pos hpos hfactor⟩, rfl⟩
  rw [hx, Double.finite_mul_finite]

theorem IsReachable.scaled (h : amplitude.IsReachable) (hfactor : 0 < factor)
    (hvalue : amplitude.hasValue = true) : (amplitude.scaled factor).IsReachable := by
  have hcall : (Setter.value (amplitude.mValue * .finite factor)).method.call amplitude =
      .ok (amplitude.scaled factor) := call_setValue_scaled hfactor h.inv hvalue
  have hadmissible : (Setter.value (amplitude.mValue * .finite factor)).Admissible := trivial
  exact h.call_eq_ok hadmissible hcall

theorem hasValue_scaled (hfactor : 0 < factor) (h : amplitude.Inv)
    (hvalue : amplitude.hasValue = true) : (amplitude.scaled factor).hasValue = true := by
  obtain ⟨x, hx, hpos⟩ := h.exists_value hvalue
  refine decide_eq_true ?_
  show amplitude.mValue * .finite factor > .finite 0
  rw [hx, Double.finite_mul_finite]
  exact mul_pos hpos hfactor

end Amplitude

namespace Observation

variable {factor : F} {observation : Observation F}

theorem Usable.scaled {amplitude : Amplitude F} (h : Usable amplitude) (hfactor : 0 < factor)
    (hinv : amplitude.Inv) : Usable (amplitude.scaled factor) :=
  ⟨Amplitude.hasValue_scaled hfactor hinv h.value, h.identifier, h.complete, h.network, h.station⟩

/-- Scaling does not touch the streams. -/
theorem Paired.scaled {amplitudes : Amplitude F × Amplitude F} (h : Paired amplitudes)
    (hfactor : 0 < factor) (hfirst : amplitudes.1.Inv) (hsecond : amplitudes.2.Inv) :
    Paired (scaledPair factor amplitudes) :=
  ⟨h.first.scaled hfactor hfirst, h.second.scaled hfactor hsecond, h.name, h.station,
    h.locationCode, h.channel⟩

theorem Inv.scaled (h : observation.Inv) (hfactor : 0 < factor) :
    (observation.scaled factor).Inv where
  amplitudes := by
    intro hamplitudes
    obtain ⟨hpaired, hfirst, hsecond, hname⟩ := h.amplitudes hamplitudes
    exact ⟨hpaired.scaled hfactor hfirst.inv hsecond.inv,
      hfirst.scaled hfactor hpaired.first.value, hsecond.scaled hfactor hpaired.second.value,
      hname⟩
  epicentralDistance := h.epicentralDistance
  depth := h.depth

/-- A client makes the scaled observation by setting the scaled amplitudes. -/
theorem IsReachable.scaled (h : observation.IsReachable) (hfactor : 0 < factor)
    (hamplitudes : observation.mHasAmplitudes = true) :
    (observation.scaled factor).IsReachable := by
  obtain ⟨hpaired, hfirst, hsecond, hname⟩ := h.inv.amplitudes hamplitudes
  have hadmissible : (Setter.amplitudes (scaledPair factor observation.mAmplitudes)).Admissible :=
    ⟨hfirst.scaled hfactor hpaired.first.value, hsecond.scaled hfactor hpaired.second.value⟩
  refine h.call_eq_ok hadmissible
    (call_setAmplitudes_eq_ok.mpr ⟨hpaired.scaled hfactor hfirst.inv hsecond.inv, ?_⟩)
  have hsame : (stationOf (scaledPair factor observation.mAmplitudes).1).name =
      observation.mStationName := hname.symm
  unfold Observation.scaled
  rw [hsame, hamplitudes]

end Observation

/-! ## The station calculator -/

namespace StationMagnitudeCalculator

variable {factor : F}

theorem packaged_scaled (amplitudes : Amplitude F × Amplitude F)
    (stationMagnitude stationCorrection distanceCorrection : Double F) :
    packaged (scaledPair factor amplitudes)
        (stationMagnitude + .finite (Arithmetic.log10 factor)) stationCorrection
        distanceCorrection =
      (packaged amplitudes stationMagnitude stationCorrection distanceCorrection).scaled
        factor := rfl

theorem packageResult_scaled {amplitudes : Amplitude F × Amplitude F}
    (h : Observation.Paired amplitudes)
    (h' : Observation.Paired (scaledPair factor amplitudes))
    (stationMagnitude stationCorrection distanceCorrection : Double F) :
    packageResult (scaledPair factor amplitudes)
        (stationMagnitude + .finite (Arithmetic.log10 factor)) stationCorrection
        distanceCorrection =
      Except.map (StationMagnitude.scaled factor) <$>
        packageResult amplitudes stationMagnitude stationCorrection distanceCorrection := by
  have hfinite : (stationMagnitude + .finite (Arithmetic.log10 factor)).isFinite =
      stationMagnitude.isFinite := by
    rw [Double.isFinite_add, Double.isFinite_finite, Bool.and_true]
  rw [packageResult_of_paired h', packageResult_of_paired h, packaged_scaled, hfinite]
  simp only [map_bind, pure_eq_ok, map_ok]
  rfl

/-- The logarithm of the scaled sum. -/
theorem uncorrected_scaled (hlog : TurnsProductsIntoSums F) (hfactor : 0 < factor)
    {observation : Observation F} (h : observation.Inv)
    (hamplitudes : observation.mHasAmplitudes = true) :
    uncorrected (observation.scaled factor) =
      uncorrected observation + Arithmetic.log10 factor := by
  obtain ⟨hpaired, hfirst, hsecond, -⟩ := h.amplitudes hamplitudes
  obtain ⟨x, hx, hxpos⟩ := hfirst.inv.exists_value hpaired.first.value
  obtain ⟨y, hy, hypos⟩ := hsecond.inv.exists_value hpaired.second.value
  unfold uncorrected
  show Arithmetic.log10 (1 / 2 * (1 / 2 *
    ((observation.mAmplitudes.1.mValue * .finite factor).val +
      (observation.mAmplitudes.2.mValue * .finite factor).val))) = _
  rw [hx, hy, Double.finite_mul_finite, Double.finite_mul_finite]
  simp only [Double.val_finite]
  rw [← hlog _ _ (by positivity) hfactor]
  congr 1
  ring

theorem apply_scaled (hlog : TurnsProductsIntoSums F) (hfactor : 0 < factor)
    {calculator : StationMagnitudeCalculator F} {observation : Observation F}
    (hcalculator : calculator.Inv) (hobservation : observation.Inv)
    (hfits : calculator.Fits observation) :
    calculator.apply (observation.scaled factor) =
      Except.map (StationMagnitude.scaled factor) <$> calculator.apply observation := by
  have hfits' : calculator.Fits (observation.scaled factor) :=
    { amplitudes := hfits.amplitudes, epicentralDistance := hfits.epicentralDistance
      depth := hfits.depth, name := hfits.name }
  have hpaired := (hobservation.amplitudes hfits.amplitudes).1
  have hpaired' := ((hobservation.scaled hfactor).amplitudes hfits.amplitudes).1
  have hafter (looked : Except Corrections.Distance.ErrorCode (Double F)) :
      afterLookup calculator.mStationCorrection (observation.scaled factor) looked =
        Except.map (StationMagnitude.scaled factor) <$>
          afterLookup calculator.mStationCorrection observation looked := by
    cases looked with
    | error code => rfl
    | ok distanceCorrection =>
        -- The corrections are added behind the logarithm, in the order of the source.
        have hsum : (.finite (uncorrected observation + Arithmetic.log10 factor) +
            distanceCorrection + calculator.mStationCorrection.mCorrection : Double F) =
              .finite (uncorrected observation) + distanceCorrection +
                calculator.mStationCorrection.mCorrection +
                  .finite (Arithmetic.log10 factor) := by
          rw [← Double.finite_add_finite,
            Double.add_right_comm _ (.finite (Arithmetic.log10 factor)),
            Double.add_right_comm _ (.finite (Arithmetic.log10 factor))]
        rw [afterLookup_ok (hobservation.scaled hfactor) hfits'.amplitudes,
          afterLookup_ok hobservation hfits.amplitudes,
          uncorrected_scaled hlog hfactor hobservation hfits.amplitudes, hsum]
        exact packageResult_scaled hpaired hpaired' _ _ _
  -- Neither the distance nor the depth has been scaled.
  have hlookup : lookupAt calculator.mDistanceCorrection (observation.scaled factor) =
    lookupAt calculator.mDistanceCorrection observation := rfl
  rw [apply_eq hcalculator (hobservation.scaled hfactor) hfits',
    apply_eq hcalculator hobservation hfits, hlookup, ← noexcept_map, map_bind, funext hafter]

end StationMagnitudeCalculator

/-! ## The network calculator -/

namespace NetworkMagnitudeCalculator

variable {calculator : NetworkMagnitudeCalculator F} {observation : Observation F} {factor : F}

theorem missing_scaled : calculator.missing (observation.scaled factor) =
    calculator.missing observation := rfl

theorem computeStationMagnitude_scaled (hlog : TurnsProductsIntoSums F) (hfactor : 0 < factor)
    (hcalculator : calculator.IsReachable) (hobservation : observation.Inv) :
    calculator.computeStationMagnitude (observation.scaled factor) =
      Except.map (StationMagnitude.scaled factor) <$>
        calculator.computeStationMagnitude observation := by
  obtain ⟨distance, set, hwellFormed⟩ := hcalculator.wellFormed
  by_cases hmissing : calculator.missing observation = none
  · have hname : (observation.scaled factor).mStationName = observation.mStationName := rfl
    rw [hwellFormed.computeStationMagnitude_eq hmissing,
      hwellFormed.computeStationMagnitude_eq (missing_scaled.trans hmissing), hname]
    cases hlookup : set.mCorrections.lookup observation.mStationName with
    | none => rfl
    | some station =>
        dsimp only
        rw [StationMagnitudeCalculator.apply_scaled hlog hfactor
          (hwellFormed.calculatorOf_inv hlookup) hobservation (hwellFormed.fits hmissing hlookup)]
        cases (calculatorOf station distance).apply observation with
        | error fault => rfl
        | ok outcome => cases outcome <;> rfl
  · -- The checks for missing fields do not look at the amplitudes.
    have hsame : calculator.computeStationMagnitude (observation.scaled factor) =
        calculator.computeStationMagnitude observation :=
      computeStationMagnitude_congr_of_missing hmissing rfl rfl rfl
    rw [hsame]
    rcases computeStationMagnitude_of_missing hwellFormed.initialized hmissing with
      hcode | hcode | hcode
    · rw [hcode]
      rfl
    · rw [hcode]
      rfl
    · rw [hcode]
      rfl

theorem outcome_scaled (hlog : TurnsProductsIntoSums F) (hfactor : 0 < factor)
    (hcalculator : calculator.IsReachable) (hobservation : observation.Inv) :
    calculator.outcome (observation.scaled factor) =
      (calculator.outcome observation).map (StationMagnitude.scaled factor) := by
  unfold outcome
  rw [computeStationMagnitude_scaled hlog hfactor hcalculator hobservation]
  cases calculator.computeStationMagnitude observation with
  | error fault => rfl
  | ok returned => rfl

theorem Computes.scaled (hlog : TurnsProductsIntoSums F) (hfactor : 0 < factor)
    (hcalculator : calculator.IsReachable) (hobservation : observation.Inv)
    (h : calculator.Computes observation) : calculator.Computes (observation.scaled factor) := by
  obtain ⟨returned, hreturned⟩ := h
  refine ⟨returned.map (StationMagnitude.scaled factor), ?_⟩
  rw [computeStationMagnitude_scaled hlog hfactor hcalculator hobservation, hreturned]
  rfl

/-- The value of a scaled magnitude is greater by the logarithm. -/
theorem val_scaled {magnitude : StationMagnitude F}
    (h : calculator.outcome observation = .ok magnitude) :
    (magnitude.scaled factor).mValue.val =
      magnitude.mValue.val + Arithmetic.log10 factor := by
  obtain ⟨-, hvalue⟩ := complete_of_outcome h
  show (magnitude.mValue + .finite (Arithmetic.log10 factor)).val = _
  rw [hvalue, Double.finite_add_finite]
  rfl

/-- To the average a scaled observation is the observation with a shifted measure. -/
theorem shiftedAt_scaled (hlog : TurnsProductsIntoSums F) (hfactor : 0 < factor)
    (hcalculator : calculator.IsReachable) (hobservation : observation.Inv) :
    calculator.assessment.ShiftedAt observation (observation.scaled factor)
      (Arithmetic.log10 factor) := by
  have hscaled := outcome_scaled hlog hfactor hcalculator hobservation
  refine ⟨missing_scaled, rfl, ?_, ?_⟩
  · intro errorCode hrejected
    show calculator.outcome _ = _
    rw [hscaled, show calculator.outcome observation = .error errorCode from hrejected]
    rfl
  · intro magnitude haccepted
    refine ⟨magnitude.scaled factor, ?_, val_scaled haccepted⟩
    show calculator.outcome _ = _
    rw [hscaled, show calculator.outcome observation = .ok magnitude from haccepted]
    rfl

end NetworkMagnitudeCalculator

end Magnitude
end ULocalMagnitude
