import ULocalMagnitude.Magnitude.NetworkAverage

/-!
# The order of the two amplitudes

`setAmplitudes` takes the name of the station from the first amplitude, and the first
channel is compared with the second one; nevertheless the two amplitudes of an
observation can be swapped.  Step by step through the calculators, the swapped
observation gets the same magnitude with swapped amplitudes, or the same error code.
-/

namespace ULocalMagnitude
namespace Magnitude

open Cxx
open Corrections (Station)

variable {F : Type} [ExactArithmetic F]

/-- The observation with its two amplitudes in the other order. -/
def Observation.swapped (observation : Observation F) : Observation F :=
  { observation with mAmplitudes := observation.mAmplitudes.swap }

/-- The station magnitude with its two amplitudes in the other order. -/
def StationMagnitude.swapped (magnitude : StationMagnitude F) : StationMagnitude F :=
  { magnitude with mAmplitudes := magnitude.mAmplitudes.swap }

/-! ## `setAmplitudes` -/

namespace Observation

/-- Calling `setAmplitudes` with the amplitudes in the other order swaps them. -/
theorem call_setAmplitudes_swap {observation after : Observation F}
    (hinv : observation.Inv) (hamplitudes : observation.mHasAmplitudes = true)
    (h : (setAmplitudes observation.mAmplitudes.swap).call observation = .ok after) :
    after = observation.swapped := by
  obtain ⟨hpaired, -, -, hname⟩ := hinv.amplitudes hamplitudes
  obtain ⟨-, rfl⟩ := call_setAmplitudes_eq_ok.mp h
  have hsame : (stationOf observation.mAmplitudes.swap.1).name = observation.mStationName := by
    rw [hname]
    exact hpaired.station.symm
  rw [hsame, ← hamplitudes]
  rfl

theorem Inv.swapped {observation : Observation F} (h : observation.Inv) :
    observation.swapped.Inv where
  amplitudes := by
    intro hamplitudes
    obtain ⟨hpaired, hfirst, hsecond, hname⟩ := h.amplitudes hamplitudes
    exact ⟨hpaired.swap, hsecond, hfirst, hname.trans hpaired.station⟩
  epicentralDistance := h.epicentralDistance
  depth := h.depth

end Observation

/-! ## The station calculator -/

namespace StationMagnitudeCalculator

theorem packaged_swap {amplitudes : Amplitude F × Amplitude F}
    (h : Observation.Paired amplitudes)
    (stationMagnitude stationCorrection distanceCorrection : Double F) :
    packaged amplitudes.swap stationMagnitude stationCorrection distanceCorrection =
      (packaged amplitudes stationMagnitude stationCorrection distanceCorrection).swapped := by
  have hname : (Observation.stationOf amplitudes.swap.1).name =
      (Observation.stationOf amplitudes.1).name := h.station.symm
  unfold packaged StationMagnitude.swapped
  rw [hname]

theorem packageResult_swap {amplitudes : Amplitude F × Amplitude F}
    (h : Observation.Paired amplitudes)
    (stationMagnitude stationCorrection distanceCorrection : Double F) :
    packageResult amplitudes.swap stationMagnitude stationCorrection distanceCorrection =
      Except.map StationMagnitude.swapped <$>
        packageResult amplitudes stationMagnitude stationCorrection distanceCorrection := by
  rw [packageResult_of_paired h.swap, packageResult_of_paired h, packaged_swap h]
  simp only [map_bind, pure_eq_ok, map_ok]
  rfl

/-- The sum of the amplitudes does not depend on their order. -/
theorem uncorrected_swapped (observation : Observation F) :
    uncorrected observation.swapped = uncorrected observation := by
  unfold uncorrected
  show Arithmetic.log10 (1 / 2 * (1 / 2 *
    (observation.mAmplitudes.2.mValue.val + observation.mAmplitudes.1.mValue.val))) = _
  rw [add_comm]

theorem apply_swapped {calculator : StationMagnitudeCalculator F}
    {observation : Observation F} (hcalculator : calculator.Inv)
    (hobservation : observation.Inv) (hfits : calculator.Fits observation) :
    calculator.apply observation.swapped =
      Except.map StationMagnitude.swapped <$> calculator.apply observation := by
  have hfits' : calculator.Fits observation.swapped :=
    { amplitudes := hfits.amplitudes, epicentralDistance := hfits.epicentralDistance
      depth := hfits.depth, name := hfits.name }
  have hpaired := (hobservation.amplitudes hfits.amplitudes).1
  have hafter (looked : Except Corrections.Distance.ErrorCode (Double F)) :
      afterLookup calculator.mStationCorrection observation.swapped looked =
        Except.map StationMagnitude.swapped <$>
          afterLookup calculator.mStationCorrection observation looked := by
    cases looked with
    | error code => rfl
    | ok distanceCorrection =>
        rw [afterLookup_ok hobservation.swapped hfits'.amplitudes,
          afterLookup_ok hobservation hfits.amplitudes, uncorrected_swapped]
        exact packageResult_swap hpaired _ _ _
  have hlookup : lookupAt calculator.mDistanceCorrection observation.swapped =
    lookupAt calculator.mDistanceCorrection observation := rfl
  rw [apply_eq hcalculator hobservation.swapped hfits', apply_eq hcalculator hobservation hfits,
    hlookup, ← noexcept_map, map_bind, funext hafter]

end StationMagnitudeCalculator

/-! ## The network calculator -/

namespace NetworkMagnitudeCalculator

variable {calculator : NetworkMagnitudeCalculator F} {observation : Observation F}

theorem missing_swapped : calculator.missing observation.swapped =
    calculator.missing observation := rfl

theorem computeStationMagnitude_swapped (hcalculator : calculator.IsReachable)
    (hobservation : observation.Inv) :
    calculator.computeStationMagnitude observation.swapped =
      Except.map StationMagnitude.swapped <$>
        calculator.computeStationMagnitude observation := by
  obtain ⟨distance, set, hwellFormed⟩ := hcalculator.wellFormed
  by_cases hmissing : calculator.missing observation = none
  · have hname : observation.swapped.mStationName = observation.mStationName := rfl
    rw [hwellFormed.computeStationMagnitude_eq hmissing,
      hwellFormed.computeStationMagnitude_eq (missing_swapped.trans hmissing), hname]
    cases hlookup : set.mCorrections.lookup observation.mStationName with
    | none => rfl
    | some station =>
        dsimp only
        rw [StationMagnitudeCalculator.apply_swapped (hwellFormed.calculatorOf_inv hlookup)
          hobservation (hwellFormed.fits hmissing hlookup)]
        cases (calculatorOf station distance).apply observation with
        | error fault => rfl
        | ok outcome => cases outcome <;> rfl
  · -- The checks for missing fields do not look at the amplitudes.
    have hsame : calculator.computeStationMagnitude observation.swapped =
        calculator.computeStationMagnitude observation :=
      computeStationMagnitude_congr_of_missing hmissing rfl rfl rfl
    rw [hsame]
    rcases computeStationMagnitude_of_missing hwellFormed.initialized hmissing with
      hcode | hcode | hcode
    · rw [hcode]
      rfl
    · rw [hcode]
      rfl
    · rw [hcode]
      rfl

/-- The calculator returns for both orders or for none. -/
theorem computes_swapped_iff (hcalculator : calculator.IsReachable)
    (hobservation : observation.Inv) :
    calculator.Computes observation.swapped ↔ calculator.Computes observation := by
  unfold Computes
  rw [computeStationMagnitude_swapped hcalculator hobservation]
  cases calculator.computeStationMagnitude observation with
  | error fault => simp
  | ok outcome => simp

theorem outcome_swapped (hcalculator : calculator.IsReachable)
    (hobservation : observation.Inv) :
    calculator.outcome observation.swapped =
      (calculator.outcome observation).map StationMagnitude.swapped := by
  unfold outcome
  rw [computeStationMagnitude_swapped hcalculator hobservation]
  cases calculator.computeStationMagnitude observation with
  | error fault => rfl
  | ok returned => rfl

/-- Of a swapped observation the average sees nothing new. -/
theorem profile_swapped (hcalculator : calculator.IsReachable)
    (hobservation : observation.Inv) :
    calculator.assessment.profile observation.swapped =
      calculator.assessment.profile observation := by
  have hmeasure : (calculator.assessment.accepted observation.swapped).map
      calculator.assessment.measure =
        (calculator.assessment.accepted observation).map calculator.assessment.measure := by
    have hswapped : calculator.assessment.outcome observation.swapped =
        (calculator.assessment.outcome observation).map StationMagnitude.swapped :=
      outcome_swapped hcalculator hobservation
    unfold Batch.Assessment.accepted
    rw [hswapped]
    cases calculator.assessment.outcome observation with
    | error errorCode => rfl
    | ok magnitude => rfl
  unfold Batch.Assessment.profile
  rw [hmeasure]
  rfl

end NetworkMagnitudeCalculator

end Magnitude
end ULocalMagnitude
