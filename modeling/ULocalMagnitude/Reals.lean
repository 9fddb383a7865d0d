import ULocalMagnitude.Corrections.Lookup
import ULocalMagnitude.Magnitude.NetworkAverage
import Mathlib.Analysis.SpecialFunctions.Log.Base

/-!
# The service in real arithmetic

The logarithm is the real one to base ten, and `std::hypot` the Euclidean norm.  What
the development proves over every `ExactArithmetic` holds here; the laws of these two
functions are what holds here in addition.
-/

namespace ULocalMagnitude
namespace Reals

open Cxx Corrections Magnitude

noncomputable instance : ExactArithmetic ℝ :=
  { (inferInstance : Field ℝ), (inferInstance : LinearOrder ℝ),
    (inferInstance : IsStrictOrderedRing ℝ), (inferInstance : FloorRing ℝ) with
    round := .finite
    round_mono := fun _ _ h => h
    round_natCast := fun _ _ => rfl
    round_eq := fun _ => rfl
    log10 := Real.logb 10
    hypot := fun x y => Real.sqrt (x ^ 2 + y ^ 2)
    hypot_nonneg := fun _ _ => Real.sqrt_nonneg _
    sort := Double.stableSort
    sort_perm := fun rows _ => Double.stableSort_perm rows
    sort_sorted := fun _ => Double.stableSort_sorted }

theorem log10_mul (x y : ℝ) (hx : 0 < x) (hy : 0 < y) :
    Arithmetic.log10 (x * y) = Arithmetic.log10 x + Arithmetic.log10 y :=
  Real.logb_mul hx.ne' hy.ne'

theorem lt_hypot_iff {x y z : ℝ} (hz : 0 ≤ z) :
    z < Arithmetic.hypot x y ↔ z ^ 2 < x ^ 2 + y ^ 2 := Real.lt_sqrt hz

theorem hypot_lt_iff {x y z : ℝ} (hz : 0 ≤ z) :
    Arithmetic.hypot x y < z ↔ x ^ 2 + y ^ 2 < z ^ 2 := by
  have hle : z ≤ Arithmetic.hypot x y ↔ z ^ 2 ≤ x ^ 2 + y ^ 2 :=
    Real.le_sqrt hz (by positivity)
  rw [← not_le, hle, not_le]

/-! ## A network with two stations

Nothing evaluates at `ℝ`, so this network is built by the lemmas about the setters and
constructors: two stations with the correction zero, a table with the one row `(0, 0)`, and
observations of two amplitudes of 2 mm at distance zero. -/

/-- The stations of the network, and one without a correction. -/
inductive Site where
  | asu7
  | bsut
  | cvru
deriving DecidableEq

def Site.code : Site → Bytes
  | asu7 => bytes "ASU7"
  | bsut => bytes "BSUT"
  | cvru => bytes "CVRU"

def identifier (site : Site) : StationIdentifier :=
  { mNetwork := bytes "UU", mStation := site.code }

theorem identifier_isReachable (site : Site) : (identifier site).IsReachable := by
  have hbuilt : StationIdentifier.ofMessage
      { network := some (bytes "UU"), station := some site.code } = .ok (identifier site) := by
    cases site <;> decide
  exact .init (Or.inr (Or.inr ⟨_, hbuilt⟩))

theorem identifier_complete (site : Site) : (identifier site).Complete := by
  cases site <;> exact ⟨by decide, by decide⟩

noncomputable def station (site : Site) : Station ℝ where
  mOptions := { mIdentifier := identifier site, mCorrection := .finite 0,
                mHasIdentifier := true, mHasCorrection := true }
  mCorrection := .finite 0
  mInitialized := true

theorem name_station (site : Site) : (station site).name = (identifier site).name := rfl

theorem name_injective {site other : Site} (h : (station site).name = (station other).name) :
    site = other := by
  rw [name_station, name_station] at h
  revert h
  cases site <;> cases other <;> decide

theorem station_isReachable (site : Site) : (station site).IsReachable := by
  have hempty : StationOptions.IsReachable ({} : StationOptions ℝ) := .init rfl
  have hidentifier := hempty.call_eq_ok
    (i := StationOptions.Setter.identifier (identifier site)) (identifier_isReachable site)
    (StationOptions.call_setIdentifier_eq_ok.mpr ⟨identifier_complete site, rfl⟩)
  have hcorrection := hidentifier.call_eq_ok
    (i := StationOptions.Setter.correction (.finite (0 : ℝ))) trivial (Method.call_modify _ _)
  exact ⟨_, hcorrection, rfl⟩

/-- A set with one more station. -/
noncomputable def withStation (site : Site) (set : StationsSet ℝ) : StationsSet ℝ where
  mCorrections := set.mCorrections.insert (station site).name (station site)

noncomputable def stationsSet : StationsSet ℝ := withStation .bsut (withStation .asu7 {})

theorem withStation_isReachable {set : StationsSet ℝ} (hset : set.IsReachable) {site : Site}
    (hnew : (station site).name ∉ set.mCorrections) : (withStation site set).IsReachable := by
  have hexec : (StationsSet.Insertion.method
      { correction := station site, overwrite := false }).exec set =
        .ok (true, withStation site set) := by
    refine (StationsSet.exec_insert (station_isReachable site).inv false set).trans ?_
    rw [if_neg fun hmem => hnew hmem.1]
    rfl
  rw [← Method.state_of_exec hexec]
  exact hset.call (station_isReachable site)

theorem stationsSet_isReachable : stationsSet.IsReachable := by
  have hempty : StationsSet.IsReachable ({} : StationsSet ℝ) := .init rfl
  refine withStation_isReachable (withStation_isReachable hempty (AList.notMem_empty _)) ?_
  refine fun hmem => (AList.mem_insert _).mp hmem |>.elim (fun hsame => ?_) (AList.notMem_empty _)
  exact nomatch name_injective hsame

theorem lookup_stationsSet {site : Site} (h : site ≠ .cvru) :
    stationsSet.mCorrections.lookup (station site).name = some (station site) := by
  cases site with
  | asu7 =>
      have hne : (station .asu7).name ≠ (station .bsut).name :=
        fun hsame => nomatch name_injective hsame
      exact (AList.lookup_insert_ne hne).trans (AList.lookup_insert _)
  | bsut => exact AList.lookup_insert _
  | cvru => exact absurd rfl h

theorem lookup_cvru : stationsSet.mCorrections.lookup (station .cvru).name = none := by
  have hfirst : (station .cvru).name ≠ (station .asu7).name :=
    fun hsame => nomatch name_injective hsame
  have hsecond : (station .cvru).name ≠ (station .bsut).name :=
    fun hsame => nomatch name_injective hsame
  exact (AList.lookup_insert_ne hsecond).trans (AList.lookup_insert_ne hfirst)

/-- The row `(0, 0)`. -/
noncomputable def table : Table ℝ where
  rows := [(0, .finite 0)]
  nonempty := by simp
  nonneg := by simp
  spaced := List.pairwise_singleton _ _

theorem zero_datum : ¬ (Double.finite 0 : Double ℝ) < .finite (-10000) ∧
    ¬ (Double.finite 0 : Double ℝ) > .finite 8600 := by
  constructor
  · show ¬ (0 : ℝ) < -10000
    norm_num
  · show ¬ (8600 : ℝ) < 0
    norm_num

/-- A calculator with these corrections that is content with one station. -/
theorem exists_calculator :
    ∃ (distance : Distance ℝ) (calculator : NetworkMagnitudeCalculator ℝ),
      distance.Holds table ∧ distance.mDistanceOptions.mType = .epicentral ∧
        distance.mDistanceOptions.mInterpolation = .linear ∧
        calculator.IsReachable ∧ calculator.WellFormed distance stationsSet ∧
        calculator.mOptions.mMinimumNumberOfStationMagnitudes = 1 := by
  obtain ⟨distance, hdistance, hholds, htype, hinterpolation, -⟩ :=
    table.exists_distance (not_or.mpr zero_datum) .linear .epicentral
  have hempty : NetworkMagnitudeCalculatorOptions.IsReachable
      ({} : NetworkMagnitudeCalculatorOptions ℝ) := .init rfl
  have hwithDistance := hempty.call_eq_ok
    (i := NetworkMagnitudeCalculatorOptions.Setter.distanceCorrections distance) hdistance
    (show (NetworkMagnitudeCalculatorOptions.setDistanceCorrections distance).call {} = .ok _ by
      rw [NetworkMagnitudeCalculatorOptions.setDistanceCorrections, Method.call_lift_bind,
        throwIf_neg (by simp [Distance.isInitialized, hdistance.inv.initialized]), bind_ok,
        Method.call_modify])
  have hwithStations := hwithDistance.call_eq_ok
    (i := NetworkMagnitudeCalculatorOptions.Setter.stationCorrections stationsSet)
    stationsSet_isReachable
    (show (NetworkMagnitudeCalculatorOptions.setStationCorrections stationsSet).call _ = .ok _ by
      rw [NetworkMagnitudeCalculatorOptions.setStationCorrections, Method.call_lift_bind,
        throwIf_neg (by simp [StationsSet.empty, stationsSet, withStation, AList.insert]),
        bind_ok,
        Method.call_modify])
  have hwithMinimum := hwithStations.call_eq_ok
    (i := NetworkMagnitudeCalculatorOptions.Setter.minimumNumberOfStationMagnitudes 1) trivial
    (show (NetworkMagnitudeCalculatorOptions.setMinimumNumberOfStationMagnitudes 1).call _ =
        .ok _ by
      rw [NetworkMagnitudeCalculatorOptions.setMinimumNumberOfStationMagnitudes,
        Method.call_lift_bind, throwIf_neg (by decide), bind_ok, Method.call_modify])
  obtain ⟨calculator, hcalculator, hoptions⟩ :=
    NetworkMagnitudeCalculator.exists_ofOptions hwithMinimum rfl rfl
  have hreachable : calculator.IsReachable := ⟨_, hwithMinimum, hcalculator⟩
  obtain ⟨distance', set, hwellFormed⟩ := hreachable.wellFormed
  have hgetDistance := hwellFormed.distanceCorrections
  have hgetStations := hwellFormed.stationCorrections
  rw [hoptions] at hgetDistance hgetStations
  obtain rfl : distance = distance' := Except.ok.inj hgetDistance
  obtain rfl : stationsSet = set := Except.ok.inj hgetStations
  exact ⟨distance, calculator, hholds, htype, hinterpolation, hreachable, hwellFormed,
    by rw [hoptions]⟩

def stream (site : Site) (channel : Bytes) : StreamIdentifier where
  mNetwork := bytes "UU"
  mStation := site.code
  mChannel := channel
  mLocationCode := bytes "01"
  mHasLocationCode := true

noncomputable def amplitude (site : Site) (channel : Bytes) : Amplitude ℝ where
  mIdentifier := stream site channel
  mValue := .finite 2
  mHasIdentifier := true

noncomputable def observation (site : Site) : Observation ℝ where
  mAmplitudes := (amplitude site (bytes "EHE"), amplitude site (bytes "EHN"))
  mStationName := (station site).name
  mHasAmplitudes := true
  mHasEpicentralDistance := true

theorem hasValue_amplitude (site : Site) (channel : Bytes) :
    (amplitude site channel).hasValue = true := by
  refine decide_eq_true ?_
  show (0 : ℝ) < 2
  norm_num

/-- The stream is one of the two channels of the site. -/
theorem ofMessage_stream {channel : Bytes} (h : channel ∈ [bytes "EHE", bytes "EHN"])
    (site : Site) :
    StreamIdentifier.ofMessage
      { network := some (bytes "UU"), station := some site.code, channel := some channel,
        locationCode := some (bytes "01") } = .ok (stream site channel) := by
  simp only [List.mem_cons, List.not_mem_nil, or_false] at h
  rcases h with rfl | rfl
  · cases site <;> decide
  · cases site <;> decide

theorem amplitude_isReachable {channel : Bytes} (h : channel ∈ [bytes "EHE", bytes "EHN"])
    (site : Site) : (amplitude site channel).IsReachable := by
  have hstream := ofMessage_stream h site
  have hempty : Amplitude.IsReachable ({} : Amplitude ℝ) := .init (Or.inl rfl)
  have hadmissible : (Amplitude.Setter.value (.finite 2) : Amplitude.Setter ℝ).Admissible :=
    trivial
  have hvalue := hempty.call_eq_ok hadmissible
    (Amplitude.call_setValue_eq_ok.mpr ⟨⟨2, rfl, by norm_num⟩, rfl⟩)
  have hidentifier : (Amplitude.Setter.identifier (stream site channel) :
      Amplitude.Setter ℝ).Admissible := .init (Or.inr ⟨_, hstream⟩)
  exact hvalue.call_eq_ok hidentifier (Amplitude.call_setIdentifier_eq_ok.mpr
    ⟨StreamIdentifier.complete_of_ofMessage hstream, rfl⟩)

theorem usable_amplitude {site : Site} {channel : Bytes} (h : (stream site channel).Complete) :
    Observation.Usable (amplitude site channel) := by
  have hnetwork : capitalized (bytes "UU") ≠ [] := by decide
  have hstation : capitalized site.code ≠ [] := by cases site <;> decide
  exact ⟨hasValue_amplitude site channel, rfl, h, hnetwork, hstation⟩

theorem paired (site : Site) : Observation.Paired (observation site).mAmplitudes := by
  have hcode : site.code ≠ [] := by cases site <;> decide
  have hnames : (stream site (bytes "EHE")).name ≠ (stream site (bytes "EHN")).name := by
    cases site <;> decide
  have hnetwork : bytes "UU" ≠ [] := by decide
  have heast : bytes "EHE" ≠ [] := by decide
  have hnorth : bytes "EHN" ≠ [] := by decide
  exact ⟨usable_amplitude ⟨hnetwork, hcode, heast, rfl⟩,
    usable_amplitude ⟨hnetwork, hcode, hnorth, rfl⟩, hnames, rfl, rfl, rfl⟩

theorem observation_isReachable (site : Site) : (observation site).IsReachable := by
  have hempty : Observation.IsReachable ({} : Observation ℝ) := .init (Or.inl rfl)
  have hadmissible : (Observation.Setter.amplitudes (observation site).mAmplitudes).Admissible :=
    ⟨amplitude_isReachable (by decide) site, amplitude_isReachable (by decide) site⟩
  have hname : (Observation.stationOf (observation site).mAmplitudes.1).name =
      (station site).name := by
    rw [name_station]
    cases site <;> decide
  have hamplitudes := hempty.call_eq_ok hadmissible
    (Observation.call_setAmplitudes_eq_ok.mpr ⟨paired site, by rw [hname]⟩)
  have hdistance : (Observation.Setter.epicentralDistance (.finite (0 : ℝ))).Admissible :=
    trivial
  exact hamplitudes.call_eq_ok hdistance
    (Observation.call_setEpicentralDistance_eq_ok.mpr
      ⟨⟨0, rfl, le_rfl, by norm_num⟩, rfl⟩)

variable {distance : Distance ℝ} {calculator : NetworkMagnitudeCalculator ℝ}

theorem missing_observation (htype : distance.mDistanceOptions.mType = .epicentral)
    (hwellFormed : calculator.WellFormed distance stationsSet) (site : Site) :
    calculator.missing (observation site) = none := by
  refine NetworkMagnitudeCalculator.missing_eq_none_iff.mpr ⟨rfl, rfl, fun hdepth => ?_⟩
  rw [hwellFormed.requiresDepth, htype] at hdepth
  cases hdepth

/-- The magnitude of an observation of a station with a correction is zero. -/
theorem exists_computeStationMagnitude (hholds : distance.Holds table)
    (htype : distance.mDistanceOptions.mType = .epicentral)
    (hinterpolation : distance.mDistanceOptions.mInterpolation = .linear)
    (hwellFormed : calculator.WellFormed distance stationsSet) {site : Site}
    (hsite : site ≠ .cvru) :
    ∃ magnitude, calculator.computeStationMagnitude (observation site) = .ok (.ok magnitude) ∧
      magnitude.mValue = .finite 0 := by
  have hinv := hwellFormed.distanceReachable.inv
  have hmissing := missing_observation htype hwellFormed site
  have hstation : stationsSet.mCorrections.lookup (observation site).mStationName =
      some (station site) := lookup_stationsSet hsite
  have hlookup : distance.apply (.finite 0) = .ok (.ok (.finite 0)) := by
    have hnodes : distance.HoldsNodes [(0, 0)] := hholds.holdsNodes rfl
    obtain ⟨y, hy, -, hrow⟩ := hnodes.exists_interpolateLinearly (x := 0)
      ⟨_, List.mem_singleton_self _, le_rfl⟩ ⟨_, List.mem_singleton_self _, le_rfl⟩
    obtain rfl : y = 0 := hrow _ (List.mem_singleton_self _) rfl
    have hzero : ¬ (Double.finite 0 : Double ℝ) < .finite 0 := lt_irrefl (0 : ℝ)
    have hnotNearest : ¬ distance.mDistanceOptions.mInterpolation = .nearest := by
      rw [hinterpolation]
      decide
    have hminimum : distance.mMinimumDistance = .finite 0 := hholds.minimum
    have hmaximum : distance.mMaximumDistance = .finite 0 := hholds.maximum
    rw [Distance.apply_eq hinv hzero, hminimum, hmaximum, if_neg hzero, if_neg hzero,
      hinv.interpolate_eq, if_neg hnotNearest, hy]
    rfl
  have hlog : StationMagnitudeCalculator.uncorrected (observation site) = 0 := by
    show Real.logb 10 (1 / 2 * (1 / 2 * (2 + 2))) = 0
    norm_num
  have hat : StationMagnitudeCalculator.lookupAt distance (observation site) = .finite 0 := by
    unfold StationMagnitudeCalculator.lookupAt Distance.lookupDistance
    rw [htype, if_neg (by decide)]
    rfl
  have hobservation := (observation_isReachable site).inv
  have happly : (NetworkMagnitudeCalculator.calculatorOf (station site) distance).apply
      (observation site) =
        .ok (.ok (StationMagnitudeCalculator.magnitudeOf (observation site) 0 0)) := by
    rw [StationMagnitudeCalculator.apply_eq (hwellFormed.calculatorOf_inv hstation)
      hobservation (hwellFormed.fits hmissing hstation)]
    show noexcept (distance.apply (StationMagnitudeCalculator.lookupAt distance
      (observation site)) >>=
        StationMagnitudeCalculator.afterLookup (station site) (observation site)) = _
    rw [hat, hlookup, bind_ok]
    exact StationMagnitudeCalculator.noexcept_afterLookup hobservation rfl rfl
  refine ⟨StationMagnitudeCalculator.magnitudeOf (observation site) 0 0, ?_, ?_⟩
  · rw [hwellFormed.computeStationMagnitude_eq hmissing, hstation]
    dsimp only
    rw [happly]
    rfl
  · show Double.finite (StationMagnitudeCalculator.uncorrected (observation site) + 0 + 0) = _
    rw [hlog, add_zero, add_zero]

/-- The other station is rejected. -/
theorem computeStationMagnitude_cvru (htype : distance.mDistanceOptions.mType = .epicentral)
    (hwellFormed : calculator.WellFormed distance stationsSet) :
    calculator.computeStationMagnitude (observation .cvru) =
      .ok (.error .observationHasNoCorrection) := by
  have hstation : stationsSet.mCorrections.lookup (observation .cvru).mStationName = none :=
    lookup_cvru
  rw [hwellFormed.computeStationMagnitude_eq (missing_observation htype hwellFormed .cvru),
    hstation]

end Reals
end ULocalMagnitude
