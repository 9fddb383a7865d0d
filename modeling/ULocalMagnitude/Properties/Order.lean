import ULocalMagnitude.Magnitude.SwappedAmplitudes
import ULocalMagnitude.Properties.Specification
import Mathlib.Data.Fin.VecNotation
import Mathlib.Data.List.FinRange

/-!
# The order of observations and amplitudes

The network magnitude of observations in another order, some of them with their two
amplitudes in the other order: the same value, and the same residuals and rejections
under the numbers of the observations they belong to.  Only the report about
observations that lack something depends on the order.
-/

namespace ULocalMagnitude
namespace Properties

open Cxx Magnitude
open Magnitude.NetworkMagnitudeCalculator (mem_residuals_iff mem_rejections_iff)

variable {F : Type} [ExactArithmetic F]

/-- The second observation is the first one, or was made from it by setting its two
amplitudes in the other order. -/
def SameUpToOrder (o o' : Observation F) : Prop :=
  o' = o ∨ ∃ amplitudes, o.getAmplitudes = .ok amplitudes ∧
    (Observation.setAmplitudes amplitudes.swap).call o = .ok o'

/-- Two residuals with the same values and corrections. -/
structure SameNumbers (residual residual' : Residual F) : Prop where
  value : residual'.mValue = residual.mValue
  stationMagnitude : residual'.mStationMagnitude.mValue = residual.mStationMagnitude.mValue
  stationCorrection : residual'.mStationMagnitude.mStationCorrection =
    residual.mStationMagnitude.mStationCorrection
  distanceCorrection : residual'.mStationMagnitude.mDistanceCorrection =
    residual.mStationMagnitude.mDistanceCorrection
  stationName : residual'.mStationMagnitude.mStationName =
    residual.mStationMagnitude.mStationName

section Swaps

variable {calculator : NetworkMagnitudeCalculator F} {o o' : Observation F}

theorem SameUpToOrder.eq_or_swapped (h : SameUpToOrder o o') (ho : o.Inv) :
    o' = o ∨ o' = o.swapped := by
  rcases h with hsame | ⟨amplitudes, hget, hset⟩
  · exact Or.inl hsame
  · unfold Observation.getAmplitudes at hget
    simp only [throwIf_bind_eq_ok] at hget
    obtain ⟨hhas, hsame⟩ := hget
    obtain rfl := Except.ok.inj hsame
    have hamplitudes : o.mHasAmplitudes = true := by
      simpa [Observation.hasAmplitudes] using hhas
    exact Or.inr (Observation.call_setAmplitudes_swap ho hamplitudes hset)

/-- What the calculator makes of two such observations: the station magnitudes differ by
`turn`, which leaves the numbers as they are. -/
structure SameOutcome (calculator : NetworkMagnitudeCalculator F) (o o' : Observation F)
    (turn : StationMagnitude F → StationMagnitude F) : Prop where
  computes : calculator.Computes o' ↔ calculator.Computes o
  outcome : calculator.outcome o' = (calculator.outcome o).map turn
  profile : calculator.assessment.profile o' = calculator.assessment.profile o
  numbers : ∀ (value : Double F) (magnitude : StationMagnitude F),
    SameNumbers (Residual.ofMagnitude value magnitude)
      (Residual.ofMagnitude value (turn magnitude))
  measure : ∀ magnitude, (turn magnitude).mValue = magnitude.mValue

theorem SameUpToOrder.exists_sameOutcome (h : SameUpToOrder o o') (ho : o.Inv)
    (hcalculator : calculator.IsReachable) : ∃ turn, SameOutcome calculator o o' turn := by
  rcases h.eq_or_swapped ho with rfl | rfl
  · refine ⟨id, Iff.rfl, ?_, rfl, fun _ _ => ⟨rfl, rfl, rfl, rfl, rfl⟩, fun _ => rfl⟩
    cases calculator.outcome o' <;> rfl
  · exact ⟨StationMagnitude.swapped,
      NetworkMagnitudeCalculator.computes_swapped_iff hcalculator ho,
      NetworkMagnitudeCalculator.outcome_swapped hcalculator ho,
      NetworkMagnitudeCalculator.profile_swapped hcalculator ho,
      fun _ _ => ⟨rfl, rfl, rfl, rfl, rfl⟩, fun _ => rfl⟩

end Swaps

section Lists

variable {calculator : NetworkMagnitudeCalculator F} {n : Nat}
  {first second : Fin n → Observation F} {σ : Equiv.Perm (Fin n)}

theorem getElem?_ofFn_val (observations : Fin n → Observation F) (i : Fin n) :
    (List.ofFn observations)[(i : Nat)]? = some (observations i) := by
  rw [List.getElem?_ofFn, dif_pos i.isLt]

theorem forall_mem_ofFn_iff {P : Observation F → Prop} (observations : Fin n → Observation F) :
    (∀ o ∈ List.ofFn observations, P o) ↔ ∀ i, P (observations i) := by
  simp [List.mem_ofFn]

variable (h : ∀ i, ∃ turn, SameOutcome calculator (first (σ i)) (second i) turn)

include h

theorem profiles_perm :
    ((List.ofFn first).map calculator.assessment.profile).Perm
      ((List.ofFn second).map calculator.assessment.profile) := by
  have hsecond : calculator.assessment.profile ∘ second =
      (calculator.assessment.profile ∘ first) ∘ σ := by
    funext i
    obtain ⟨turn, hturn⟩ := h i
    exact hturn.profile
  rw [List.map_ofFn, List.map_ofFn, hsecond]
  exact (Equiv.Perm.ofFn_comp_perm σ _).symm

theorem computes_iff : (∀ o ∈ List.ofFn first, calculator.Computes o) ↔
    ∀ o ∈ List.ofFn second, calculator.Computes o := by
  rw [forall_mem_ofFn_iff, forall_mem_ofFn_iff, ← σ.forall_congr_right]
  refine forall_congr' fun i => ?_
  obtain ⟨turn, hturn⟩ := h i
  exact hturn.computes.symm

/-- The accepted observations are the same ones. -/
theorem accepted_corresponds (i : Fin n) :
    ∃ turn, SameOutcome calculator (first (σ i)) (second i) turn ∧
      ∀ magnitude', calculator.outcome (second i) = .ok magnitude' ↔
        ∃ magnitude, calculator.outcome (first (σ i)) = .ok magnitude ∧
          turn magnitude = magnitude' := by
  obtain ⟨turn, hturn⟩ := h i
  refine ⟨turn, hturn, fun magnitude' => ?_⟩
  rw [hturn.outcome]
  cases calculator.outcome (first (σ i)) with
  | error errorCode => simp [Except.map]
  | ok magnitude => simp [Except.map]

/-- A residual of the first list has its counterpart in the second one. -/
theorem residual_of_first {i : Fin n} {residual : Residual F}
    (hresidual : (residual, Int.ofNat (σ i + 1)) ∈
      (NetworkMagnitudeCalculator.networkMagnitudeOf
        (calculator.assessment.result (List.ofFn first))).mResiduals) :
    ∃ residual', (residual', Int.ofNat (i + 1)) ∈
        (NetworkMagnitudeCalculator.networkMagnitudeOf
          (calculator.assessment.result (List.ofFn second))).mResiduals ∧
      SameNumbers residual residual' := by
  obtain ⟨turn, hturn, haccepted⟩ := accepted_corresponds h i
  obtain ⟨o, magnitude, ho, hmagnitude, rfl⟩ := mem_residuals_iff.mp hresidual
  rw [getElem?_ofFn_val] at ho
  obtain rfl := Option.some.inj ho
  have hmagnitude' := (haccepted _).mpr ⟨magnitude, hmagnitude, rfl⟩
  refine ⟨_, mem_residuals_iff.mpr ⟨second i, turn magnitude, getElem?_ofFn_val second i,
    hmagnitude', rfl⟩, ?_⟩
  rw [← Batch.Assessment.mean_measures_eq (profiles_perm h), hturn.measure]
  exact hturn.numbers _ magnitude

/-- A residual of the second list is the counterpart of one in the first list. -/
theorem residual_of_second {i : Fin n} {residual' : Residual F}
    (hresidual' : (residual', Int.ofNat (i + 1)) ∈
      (NetworkMagnitudeCalculator.networkMagnitudeOf
        (calculator.assessment.result (List.ofFn second))).mResiduals) :
    ∃ residual, (residual, Int.ofNat (σ i + 1)) ∈
        (NetworkMagnitudeCalculator.networkMagnitudeOf
          (calculator.assessment.result (List.ofFn first))).mResiduals ∧
      SameNumbers residual residual' := by
  obtain ⟨turn, hturn, haccepted⟩ := accepted_corresponds h i
  obtain ⟨o, magnitude', ho, hmagnitude', rfl⟩ := mem_residuals_iff.mp hresidual'
  rw [getElem?_ofFn_val] at ho
  obtain rfl := Option.some.inj ho
  obtain ⟨magnitude, hmagnitude, rfl⟩ := (haccepted magnitude').mp hmagnitude'
  refine ⟨_, mem_residuals_iff.mpr ⟨first (σ i), magnitude, getElem?_ofFn_val first (σ i),
    hmagnitude, rfl⟩, ?_⟩
  rw [← Batch.Assessment.mean_measures_eq (profiles_perm h), hturn.measure]
  exact hturn.numbers _ magnitude

theorem rejections_iff {i : Fin n} {errorCode : StationCalculatorErrorCode} :
    (errorCode, Int.ofNat (i + 1)) ∈ (NetworkMagnitudeCalculator.networkMagnitudeOf
        (calculator.assessment.result (List.ofFn second))).mRejectedObservations ↔
      (errorCode, Int.ofNat (σ i + 1)) ∈ (NetworkMagnitudeCalculator.networkMagnitudeOf
        (calculator.assessment.result (List.ofFn first))).mRejectedObservations := by
  obtain ⟨turn, hturn⟩ := h i
  rw [mem_rejections_iff, mem_rejections_iff, getElem?_ofFn_val, getElem?_ofFn_val]
  simp only [Option.some.injEq, exists_eq_left']
  rw [hturn.outcome]
  cases calculator.outcome (first (σ i)) with
  | error errorCode => simp [Except.map]
  | ok magnitude => simp [Except.map]

/-- Unless an observation lacks something, both lists fail with one error code. -/
theorem errorCode_eq (hinitialized : calculator.mInitialized = true)
    (hmissing : ∀ o ∈ List.ofFn first, calculator.missing o = none)
    {errorCode errorCode' : NetworkMagnitudeCalculator.ErrorCode}
    (hfirst : calculator.apply (List.ofFn first) = .ok (.error errorCode))
    (hsecond : calculator.apply (List.ofFn second) = .ok (.error errorCode')) :
    errorCode' = errorCode := by
  have hresult := ((NetworkMagnitudeCalculator.apply_eq_ok_iff hinitialized).mp hfirst).2
  have hresult' := ((NetworkMagnitudeCalculator.apply_eq_ok_iff hinitialized).mp hsecond).2
  cases haverage : calculator.assessment.average (List.ofFn first) with
  | ok average =>
      rw [haverage] at hresult
      exact absurd hresult nofun
  | error failure =>
      cases haverage' : calculator.assessment.average (List.ofFn second) with
      | ok average =>
          rw [haverage'] at hresult'
          exact absurd hresult' nofun
      | error failure' =>
          rw [haverage] at hresult
          rw [haverage'] at hresult'
          have hfailure := Batch.Assessment.failure_eq (profiles_perm h) hmissing haverage
            haverage'
          rw [← Except.error.inj hresult, ← Except.error.inj hresult', hfailure]

end Lists

/-- Observations in another order, in some of which the amplitudes are in the other
order: `operator()` succeeds for both lists or for none, and what it returns differs only
in the order; `setAmplitudes` accepts both orders or none, with one station name. -/
theorem order_does_not_matter :
    (∀ (calculator : NetworkMagnitudeCalculator F) (n : Nat)
        (first second : Fin n → Observation F) (σ : Equiv.Perm (Fin n)),
      calculator.IsReachable → (∀ i, (first i).IsReachable) →
      (∀ i, SameUpToOrder (first (σ i)) (second i)) →
      ((∃ magnitude, calculator.apply (List.ofFn first) = .ok (.ok magnitude)) ↔
        ∃ magnitude, calculator.apply (List.ofFn second) = .ok (.ok magnitude)) ∧
      (∀ magnitude magnitude',
        calculator.apply (List.ofFn first) = .ok (.ok magnitude) →
        calculator.apply (List.ofFn second) = .ok (.ok magnitude') →
        magnitude'.getValue = magnitude.getValue ∧
        ∀ i : Fin n,
          (∀ residual, (residual, Int.ofNat (σ i + 1)) ∈ magnitude.mResiduals →
            ∃ residual', (residual', Int.ofNat (i + 1)) ∈ magnitude'.mResiduals ∧
              SameNumbers residual residual') ∧
          (∀ residual', (residual', Int.ofNat (i + 1)) ∈ magnitude'.mResiduals →
            ∃ residual, (residual, Int.ofNat (σ i + 1)) ∈ magnitude.mResiduals ∧
              SameNumbers residual residual') ∧
          ∀ errorCode,
            (errorCode, Int.ofNat (i + 1)) ∈ magnitude'.mRejectedObservations ↔
              (errorCode, Int.ofNat (σ i + 1)) ∈ magnitude.mRejectedObservations) ∧
      ∀ errorCode errorCode',
        calculator.apply (List.ofFn first) = .ok (.error errorCode) →
        calculator.apply (List.ofFn second) = .ok (.error errorCode') →
        (∀ i, HasAllFields calculator (first i)) → errorCode' = errorCode) ∧
    ∀ (amplitudes : Amplitude F × Amplitude F) (o : Observation F),
      ((∃ after, (Observation.setAmplitudes amplitudes).call o = .ok after) ↔
        ∃ after, (Observation.setAmplitudes amplitudes.swap).call o = .ok after) ∧
      ∀ after after', (Observation.setAmplitudes amplitudes).call o = .ok after →
        (Observation.setAmplitudes amplitudes.swap).call o = .ok after' →
        after'.getStationName = after.getStationName := by
  constructor
  · intro calculator n first second σ hcalculator hreachable hsame
    have hinitialized := hcalculator.initialized
    have h (i : Fin n) : ∃ turn, SameOutcome calculator (first (σ i)) (second i) turn :=
      (hsame i).exists_sameOutcome (hreachable (σ i)).inv hcalculator
    refine ⟨?_, ?_, ?_⟩
    · simp only [NetworkMagnitudeCalculator.apply_eq_ok_ok_iff hinitialized,
        Batch.Assessment.passes_iff (profiles_perm h), computes_iff h, exists_and_left,
        exists_eq]
    · intro magnitude magnitude' hfirst hsecond
      obtain ⟨-, -, rfl⟩ := NetworkMagnitudeCalculator.exists_result_of_apply hfirst
      obtain ⟨-, -, rfl⟩ := NetworkMagnitudeCalculator.exists_result_of_apply hsecond
      have hmean := Batch.Assessment.mean_measures_eq (profiles_perm h)
      exact ⟨congrArg (fun value => Except.ok (Double.finite value)) hmean.symm, fun i =>
        ⟨fun _ hresidual => residual_of_first h hresidual,
          fun _ hresidual' => residual_of_second h hresidual', fun _ => rejections_iff h⟩⟩
    · intro errorCode errorCode' hfirst hsecond hcomplete
      exact errorCode_eq h hinitialized ((forall_mem_ofFn_iff first).mpr
        fun i => (hasAllFields_iff hcalculator).mp (hcomplete i)) hfirst hsecond
  · intro amplitudes o
    simp only [Observation.call_setAmplitudes_eq_ok]
    constructor
    · constructor
      · intro hall
        rcases hall with ⟨after, hpaired, -⟩
        exact ⟨_, hpaired.swap, rfl⟩
      · intro hall
        rcases hall with ⟨after, hpaired, -⟩
        exact ⟨_, hpaired.swap, rfl⟩
    · rintro after after' ⟨hpaired, rfl⟩ ⟨-, rfl⟩
      exact congrArg Except.ok hpaired.station.symm

/-! ## Two orders of two observations -/

def firstOrder : Fin 2 → Observation ℚ :=
  ![Rationals.observation Rationals.uu (bytes "ASU7") 2 2,
    Rationals.observation Rationals.uu (bytes "BSUT") 20 20]

/-- The other order, with the channels of `ASU7` in the other order as well. -/
def secondOrder : Fin 2 → Observation ℚ :=
  ![Rationals.observation Rationals.uu (bytes "BSUT") 20 20,
    (Rationals.observation Rationals.uu (bytes "ASU7") 2 2).swapped]

theorem firstOrder_isReachable (i : Fin 2) : (firstOrder i).IsReachable := by
  revert i
  rw [Fin.forall_fin_two]
  exact ⟨Rationals.observation_isReachable (by decide +kernel),
    Rationals.observation_isReachable (by decide +kernel)⟩

theorem orders_sameUpToOrder (i : Fin 2) :
    SameUpToOrder (firstOrder (Equiv.swap 0 1 i)) (secondOrder i) := by
  revert i
  rw [Fin.forall_fin_two]
  constructor
  · exact Or.inl rfl
  · exact Or.inr ⟨(Rationals.observation Rationals.uu (bytes "ASU7") 2 2).mAmplitudes,
      by decide +kernel, by decide +kernel⟩

/-- Both orders have a network magnitude. -/
theorem second_order_succeeds :
    (∃ magnitude, Rationals.network.apply (List.ofFn secondOrder) = .ok (.ok magnitude)) ∧
      ∃ after, (Observation.setAmplitudes (firstOrder 0).mAmplitudes.swap).call {} =
        .ok after := by
  have hfirst : (Rationals.network.apply (List.ofFn firstOrder)).toOption.any Except.isOk =
      true := by decide +kernel
  constructor
  · refine (((order_does_not_matter (F := ℚ)).1 Rationals.network 2 firstOrder secondOrder
      (Equiv.swap 0 1) Rationals.sample.network_isReachable firstOrder_isReachable
      orders_sameUpToOrder).1).mp ?_
    cases happly : Rationals.network.apply (List.ofFn firstOrder) with
    | error fault =>
        rw [happly] at hfirst
        exact absurd hfirst Bool.false_ne_true
    | ok outcome =>
        rw [happly] at hfirst
        cases outcome with
        | error errorCode => exact absurd hfirst Bool.false_ne_true
        | ok magnitude => exact ⟨magnitude, rfl⟩
  · exact (((order_does_not_matter (F := ℚ)).2 (firstOrder 0).mAmplitudes {}).1).mp
      ⟨_, Rationals.eq_ok_of_isOk (by decide +kernel) {}⟩

end Properties
end ULocalMagnitude
