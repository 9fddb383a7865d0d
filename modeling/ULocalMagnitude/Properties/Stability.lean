import ULocalMagnitude.Magnitude.NearbyMagnitudes
import ULocalMagnitude.Rationals

/-!
# How far magnitudes move

What errors of the configuration and of the locations come to in the magnitudes, with
corrections that are numbers.  No magnitude moves farther than its corrections do, however
many observations there are and whichever of them are rejected.

* `recalibration_moves_magnitudes_little` — other corrections at the same distances and for
  the same stations;
* `distance_errors_move_magnitudes_little` — other distances, in a linear table.
-/

namespace ULocalMagnitude
namespace Properties

open Cxx Magnitude
open Batch (Within)
open Corrections (Distance StationsSet)
open Corrections.Distance (AnswersRelated HasNodes NearbyTables)
open Interpolation (Near Sloped)
open Magnitude.NetworkMagnitudeCalculator (AnsweredWithin MagnitudesWithin StationsRelated
  WellFormed apply_within computeStationMagnitude_related)
open Magnitude.StationMagnitudeCalculator (lookupAt uncorrected)

variable {F : Type} [ExactArithmetic F]

/-- Both lists of observations are answered alike, up to the error: with the same error code,
or with magnitudes that are no farther apart, unless the second value is out of range. -/
structure ListsWithin (error : F) (calculator calculator' : NetworkMagnitudeCalculator F)
    (observations observations' : List (Observation F)) : Prop where
  stations : List.Forall₂ (fun observation observation' =>
    OutcomesRelated (Within error) (calculator.computeStationMagnitude observation)
      (calculator'.computeStationMagnitude observation')) observations observations'
  failures : ∀ errorCode, errorCode ≠ .algorithm →
    (calculator.apply observations = .ok (.error errorCode) ↔
      calculator'.apply observations' = .ok (.error errorCode))
  magnitudes : ∀ magnitude, calculator.apply observations = .ok (.ok magnitude) →
    ∃ magnitude' value', MagnitudesWithin error magnitude magnitude' ∧
      magnitude'.mValue = .finite value' ∧
      calculator'.apply observations' =
        .ok (if value' < -10 ∨ 10 < value' then .error .algorithm else .ok magnitude')

variable {calculator calculator' : NetworkMagnitudeCalculator F} {error : F}
  {observations observations' : List (Observation F)} {distance distance' : Distance F}
  {set set' : StationsSet F}

theorem listsWithin (h : calculator.WellFormed distance set)
    (h' : calculator'.WellFormed distance' set')
    (htype : distance'.mDistanceOptions.mType = distance.mDistanceOptions.mType)
    (hminimum : calculator'.mOptions.mMinimumNumberOfStationMagnitudes =
      calculator.mOptions.mMinimumNumberOfStationMagnitudes)
    (hanswered : List.Forall₂ (AnsweredWithin calculator calculator' error) observations
      observations') : ListsWithin error calculator calculator' observations observations' := by
  have hrequires : calculator'.mRequiresDepthCorrection =
      calculator.mRequiresDepthCorrection := by
    rw [Bool.eq_iff_iff, h.requiresDepth, h'.requiresDepth, htype]
  obtain ⟨hfailures, hmagnitudes⟩ :=
    apply_within hanswered hrequires h.initialized h'.initialized hminimum
  exact ⟨hanswered.imp fun _ _ h => h.outcomes, hfailures, hmagnitudes⟩

/-! ## Other corrections -/

/-- Two calculators that differ in their corrections: those of the table by no more than one
error, those of the stations by no more than another. -/
structure NearbyCorrections (distanceError stationError : F)
    (calculator calculator' : NetworkMagnitudeCalculator F) : Prop where
  minimum : calculator'.mOptions.mMinimumNumberOfStationMagnitudes =
    calculator.mOptions.mMinimumNumberOfStationMagnitudes
  tables : ∃ distance distance', calculator.mOptions.getDistanceCorrections = .ok distance ∧
    calculator'.mOptions.getDistanceCorrections = .ok distance' ∧
    NearbyTables distanceError distance distance'
  stations : ∃ set set', calculator.mOptions.getStationCorrections = .ok set ∧
    calculator'.mOptions.getStationCorrections = .ok set' ∧
    StationsRelated (Within stationError) set set'

/-- With other corrections no magnitude moves farther than its two corrections together. -/
theorem recalibration_moves_magnitudes_little {distanceError stationError : F}
    (hcalculator : calculator.IsReachable) (hcalculator' : calculator'.IsReachable)
    (hnearby : NearbyCorrections distanceError stationError calculator calculator')
    (hobservations : ∀ o ∈ observations, o.IsReachable) :
    ListsWithin (distanceError + stationError) calculator calculator' observations
      observations := by
  obtain ⟨distance, set, h⟩ := hcalculator.wellFormed
  obtain ⟨distance', set', h'⟩ := hcalculator'.wellFormed
  have htables : NearbyTables distanceError distance distance' := by
    obtain ⟨table, table', htable, htable', hnear⟩ := hnearby.tables
    obtain rfl := Except.ok.inj (htable.symm.trans h.distanceCorrections)
    obtain rfl := Except.ok.inj (htable'.symm.trans h'.distanceCorrections)
    exact hnear
  have hstations : StationsRelated (Within stationError) set set' := by
    obtain ⟨stored, stored', hstored, hstored', hnear⟩ := hnearby.stations
    obtain rfl := Except.ok.inj (hstored.symm.trans h.stationCorrections)
    obtain rfl := Except.ok.inj (hstored'.symm.trans h'.stationCorrections)
    exact hnear
  refine listsWithin h h' htables.type hnearby.minimum (List.forall₂_same.mpr fun o ho => ?_)
  have hinv := (hobservations o ho).inv
  have hlookups : calculator.missing o = none →
      AnswersRelated (Within distanceError) (distance.apply (lookupAt distance o))
        (distance'.apply (lookupAt distance' o)) := by
    intro hmissing
    obtain ⟨x, hx, hnonneg⟩ := h.exists_lookupAt hinv hmissing
    have hsame : lookupAt distance' o = lookupAt distance o := by
      unfold lookupAt
      rw [htables.lookupDistance_eq, htables.type]
    rw [hsame, hx]
    exact htables.apply h.distanceReachable h'.distanceReachable hnonneg
  refine ⟨.refl o, computeStationMagnitude_related h h' htables.type hinv hinv (.refl o)
    hstations hlookups fun y y' c c' hy hc => ?_⟩
  have hsplit : uncorrected o + y' + c' - (uncorrected o + y + c) = (y' - y) + (c' - c) := by
    ring
  unfold Within at hy hc ⊢
  rw [hsplit]
  exact (abs_add_le _ _).trans (add_le_add hy hc)

/-! ### The sample after a recalibration -/

/-- Related corrections under the same names, one station after the other. -/
theorem stationsRelated_of_entries {related : F → F → Prop}
    (h : List.Forall₂ (fun entry entry' => entry'.1 = entry.1 ∧
      ∃ correction correction', entry.2.mCorrection = .finite correction ∧
        entry'.2.mCorrection = .finite correction' ∧ related correction correction')
      set.mCorrections.entries set'.mCorrections.entries) :
    StationsRelated related set set' := by
  intro name
  unfold AList.lookup
  generalize set.mCorrections.entries = entries at h
  generalize set'.mCorrections.entries = entries' at h
  induction h with
  | nil => exact Or.inl ⟨rfl, rfl⟩
  | @cons entry entry' rest rest' hentry _ ih =>
      obtain ⟨key, station⟩ := entry
      obtain ⟨key', station'⟩ := entry'
      obtain ⟨hkey, c, c', hc, hc', hrelated⟩ := hentry
      obtain rfl : key' = key := hkey
      by_cases hname : name = key'
      · subst hname
        exact Or.inr ⟨station, station', c, c', List.dlookup_cons_eq _ _ _,
          List.dlookup_cons_eq _ _ _, hc, hc', hrelated⟩
      · have hskip (station : Corrections.Station F)
            (rest : List (Sigma fun _ : Bytes => Corrections.Station F)) :
            List.dlookup name (⟨key', station⟩ :: rest) = List.dlookup name rest :=
          List.dlookup_cons_ne _ _ hname
        rw [hskip, hskip]
        exact ih

def recalibratedTable : Distance ℚ :=
  Rationals.distance [(.finite 0, .finite (11 / 10)), (.finite 1000, .finite (19 / 10))]

def recalibratedCorrections : List (Corrections.Station ℚ) :=
  [Rationals.station Rationals.uu (bytes "ASU7") (.finite (1 / 20)),
    Rationals.station Rationals.uu (bytes "BSUT") (.finite (9 / 20))]

def recalibratedNetwork : NetworkMagnitudeCalculator ℚ :=
  Rationals.calculator recalibratedTable (Rationals.stationsSet recalibratedCorrections) 2

theorem recalibrated_isReachable : recalibratedNetwork.IsReachable := by
  have hcorrections : (Rationals.stationsSet recalibratedCorrections).IsReachable := by
    refine Rationals.stationsSet_isReachable fun correction hmem => ?_
    rcases List.mem_cons.mp hmem with rfl | hmem
    · exact Rationals.station_isReachable (by decide) (by decide)
    · obtain rfl := List.mem_singleton.mp hmem
      exact Rationals.station_isReachable (by decide) (by decide)
  exact Rationals.calculator_isReachable (Rationals.distance_isReachable (by decide +kernel))
    hcorrections rfl

/-- A tenth in the table and a twentieth at the stations. -/
theorem recalibrated_nearby :
    NearbyCorrections (1 / 10) (1 / 20) Rationals.network recalibratedNetwork where
  minimum := by decide +kernel
  tables := ⟨Rationals.table, recalibratedTable, by decide +kernel, by decide +kernel,
    { type := by decide +kernel
      interpolation := by decide +kernel
      datum := by decide +kernel
      nodes := by
        unfold HasNodes
        refine ⟨[(0, 1), (1000, 2)], [(0, 11 / 10), (1000, 19 / 10)], by decide +kernel,
          by decide +kernel, ?_⟩
        refine .cons ⟨rfl, ?_⟩ (.cons ⟨rfl, ?_⟩ .nil)
        · norm_num [abs_le]
        · norm_num [abs_le] }⟩
  stations := by
    have hset := Rationals.eq_ok_of_isOk
      (by decide +kernel : Rationals.network.mOptions.getStationCorrections.isOk = true) {}
    have hset' := Rationals.eq_ok_of_isOk
      (by decide +kernel : recalibratedNetwork.mOptions.getStationCorrections.isOk = true) {}
    refine ⟨_, _, hset, hset', stationsRelated_of_entries ?_⟩
    have hentries : (Rationals.returned Rationals.network.mOptions.getStationCorrections
        {}).mCorrections.entries = [⟨bytes "UU.BSUT", Rationals.station Rationals.uu
          (bytes "BSUT") (.finite (1 / 2))⟩, ⟨bytes "UU.ASU7", Rationals.station Rationals.uu
          (bytes "ASU7") (.finite 0)⟩] := by decide +kernel
    have hentries' : (Rationals.returned recalibratedNetwork.mOptions.getStationCorrections
        {}).mCorrections.entries = [⟨bytes "UU.BSUT", Rationals.station Rationals.uu
          (bytes "BSUT") (.finite (9 / 20))⟩, ⟨bytes "UU.ASU7", Rationals.station Rationals.uu
          (bytes "ASU7") (.finite (1 / 20))⟩] := by decide +kernel
    rw [hentries, hentries']
    refine .cons ⟨rfl, 1 / 2, 9 / 20, by decide +kernel, by decide +kernel, ?_⟩
      (.cons ⟨rfl, 0, 1 / 20, by decide +kernel, by decide +kernel, ?_⟩ .nil)
    · norm_num [Within, abs_le]
    · norm_num [Within, abs_le]

theorem recalibration_moves_sample_little :
    ListsWithin (1 / 10 + 1 / 20) Rationals.network recalibratedNetwork Rationals.observations
      Rationals.observations :=
  recalibration_moves_magnitudes_little Rationals.sample.network_isReachable
    recalibrated_isReachable recalibrated_nearby Rationals.sample.observations_isReachable

/-! ## Other distances -/

/-- The distances at which the table is read are in reach of it, and no farther apart than
`shift`. -/
structure NearbyLookups (distance : Distance F) (shift : F) (lookup lookup' : Double F) :
    Prop where
  near : ∃ x x', lookup = .finite x ∧ lookup' = .finite x' ∧ |x' - x| ≤ shift
  inReach : ∀ x, x = lookup ∨ x = lookup' →
    ¬ x < distance.mMinimumDistance ∧ ¬ x > distance.mMaximumDistance

/-- The same amplitudes were observed at another distance. -/
structure MovedBy (calculator : NetworkMagnitudeCalculator F) (distance : Distance F) (shift : F)
    (observation observation' : Observation F) : Prop where
  resembles : observation.Resembles observation'
  lookups : calculator.missing observation = none →
    NearbyLookups distance shift (lookupAt distance observation) (lookupAt distance observation')

/-- The corrections of all stations are numbers. -/
def NumericStations (set : StationsSet F) : Prop :=
  ∀ name station, set.mCorrections.lookup name = some station →
    station.mCorrection.isFinite = true

theorem stationsRelated_refl (h : NumericStations set) :
    StationsRelated (fun c c' => c' = c) set set := by
  intro name
  cases hlookup : set.mCorrections.lookup name with
  | none => exact Or.inl ⟨rfl, rfl⟩
  | some station =>
      obtain ⟨c, hc⟩ := Double.exists_finite (h name station hlookup)
      exact Or.inr ⟨station, station, c, c, rfl, rfl, hc, hc, rfl⟩

/-- In a linear table a lookup moves no farther than its steepest segment allows. -/
theorem apply_nearbyLookups {nodes : List (F × F)} {steepness shift x x' : F}
    (hdistance : distance.IsReachable) (hnodes : distance.HasNodes nodes)
    (hlinear : distance.mDistanceOptions.mInterpolation = .linear)
    (hslopes : nodes.IsChain (Sloped (-steepness) steepness)) (hsteepness : 0 ≤ steepness)
    (hx : 0 ≤ x) (hx' : 0 ≤ x')
    (h : NearbyLookups distance shift (.finite x) (.finite x')) :
    AnswersRelated (Within (steepness * shift)) (distance.apply (.finite x))
      (distance.apply (.finite x')) := by
  have hmode : distance.mDistanceOptions.mInterpolation ≠ .nearest := by
    rw [hlinear]
    decide
  have hbound : steepness * |x' - x| ≤ steepness * shift := by
    obtain ⟨_, _, hsame, hsame', hshift⟩ := h.near
    obtain rfl := Double.finite.inj hsame
    obtain rfl := Double.finite.inj hsame'
    exact mul_le_mul_of_nonneg_left hshift hsteepness
  obtain ⟨hclose, hfar⟩ := h.inReach _ (Or.inl rfl)
  obtain ⟨hclose', hfar'⟩ := h.inReach _ (Or.inr rfl)
  rcases le_total x x' with hle | hge
  · obtain ⟨y, y', happly, happly', hsloped⟩ := hdistance.apply_sloped hnodes hmode hslopes
      hx hle hclose hfar'
    rw [happly, happly']
    rw [abs_of_nonneg (sub_nonneg.mpr hle)] at hbound
    exact .number (hsloped.abs_sub_le.trans hbound)
  · obtain ⟨y', y, happly', happly, hsloped⟩ := hdistance.apply_sloped hnodes hmode hslopes
      hx' hge hclose' hfar
    rw [happly, happly']
    rw [abs_sub_comm, abs_of_nonneg (sub_nonneg.mpr hge)] at hbound
    refine .number ?_
    unfold Within
    rw [abs_sub_comm]
    exact hsloped.abs_sub_le.trans hbound

/-- With other distances no magnitude moves farther than the steepest segment of a linear
table allows. -/
theorem distance_errors_move_magnitudes_little {nodes : List (F × F)} {steepness shift : F}
    (hcalculator : calculator.IsReachable)
    (hdistance : calculator.mOptions.getDistanceCorrections = .ok distance)
    (hset : calculator.mOptions.getStationCorrections = .ok set)
    (hnodes : distance.HasNodes nodes)
    (hlinear : distance.mDistanceOptions.mInterpolation = .linear)
    (hslopes : nodes.IsChain (Sloped (-steepness) steepness)) (hsteepness : 0 ≤ steepness)
    (hnumeric : NumericStations set)
    (hobservations : ∀ o ∈ observations, o.IsReachable)
    (hobservations' : ∀ o ∈ observations', o.IsReachable)
    (hmoved : List.Forall₂ (MovedBy calculator distance shift) observations observations') :
    ListsWithin (steepness * shift) calculator calculator observations observations' := by
  obtain ⟨table, stored, h⟩ := hcalculator.wellFormed
  obtain rfl := Except.ok.inj (hdistance.symm.trans h.distanceCorrections)
  obtain rfl := Except.ok.inj (hset.symm.trans h.stationCorrections)
  obtain ⟨hlength, hpairs⟩ := List.forall₂_iff_get.mp hmoved
  refine listsWithin h h rfl rfl (List.forall₂_iff_get.mpr ⟨hlength, fun i hi hi' => ?_⟩)
  have hpair := hpairs i hi hi'
  have hinv := (hobservations _ (List.get_mem observations ⟨i, hi⟩)).inv
  have hinv' := (hobservations' _ (List.get_mem observations' ⟨i, hi'⟩)).inv
  have hanswers : calculator.missing (observations.get ⟨i, hi⟩) = none →
      AnswersRelated (Within (steepness * shift))
        (distance.apply (lookupAt distance (observations.get ⟨i, hi⟩)))
        (distance.apply (lookupAt distance (observations'.get ⟨i, hi'⟩))) := by
    intro hmissing
    have hmissing' : calculator.missing (observations'.get ⟨i, hi'⟩) = none :=
      (NetworkMagnitudeCalculator.missing_resembles hpair.resembles rfl).trans hmissing
    obtain ⟨x, hx, hnonneg⟩ := h.exists_lookupAt hinv hmissing
    obtain ⟨x', hx', hnonneg'⟩ := h.exists_lookupAt hinv' hmissing'
    have hlookups := hpair.lookups hmissing
    rw [hx, hx'] at hlookups ⊢
    exact apply_nearbyLookups h.distanceReachable hnodes hlinear hslopes hsteepness hnonneg
      hnonneg' hlookups
  refine ⟨hpair.resembles, computeStationMagnitude_related h h rfl hinv hinv' hpair.resembles
    (stationsRelated_refl hnumeric) hanswers fun y y' c c' hy hc => ?_⟩
  -- The station correction is the same.
  subst hc
  unfold Within at hy ⊢
  rwa [add_sub_add_right_eq_sub, add_sub_add_left_eq_sub]

/-! ### The sample at another distance -/

/-- The table of the sample, read linearly. -/
def slopingTable : Distance ℚ :=
  Rationals.returned (Distance.ofOptions (Rationals.distanceOptions .linear .epicentral
    [(.finite 0, .finite 1), (.finite 1000, .finite 2)])) {}

def slopingNetwork : NetworkMagnitudeCalculator ℚ :=
  Rationals.calculator slopingTable (Rationals.stationsSet Rationals.corrections) 2

theorem slopingNetwork_isReachable : slopingNetwork.IsReachable :=
  Rationals.calculator_isReachable
    ⟨_, Rationals.distanceOptions_isReachable _ _ _,
      Rationals.eq_ok_of_isOk (by decide +kernel) _⟩
    Rationals.sample.corrections_isReachable rfl

/-- The observations of the sample from fifty meters farther away. -/
def movedObservations : List (Observation ℚ) :=
  Rationals.observations.map
    (Observation.Setter.epicentralDistance (.finite 50)).method.state

theorem movedObservations_isReachable : ∀ o ∈ movedObservations, o.IsReachable := by
  intro o ho
  obtain ⟨observation, hobservation, rfl⟩ := List.mem_map.mp ho
  exact (Rationals.sample.observations_isReachable observation hobservation).call
    (i := Observation.Setter.epicentralDistance (.finite 50)) trivial

theorem sample_movedBy :
    List.Forall₂ (MovedBy slopingNetwork slopingTable 50) Rationals.observations
      movedObservations := by
  have hlookups : ∀ o ∈ Rationals.observations, o.mHasEpicentralDistance = true ∧
      lookupAt slopingTable o = .finite 0 ∧
      lookupAt slopingTable
        ((Observation.Setter.epicentralDistance (.finite 50)).method.state o) =
          .finite 50 := by decide +kernel
  unfold movedObservations
  rw [List.forall₂_map_right_iff, List.forall₂_same]
  intro o ho
  obtain ⟨hhas, hlookup, hlookup'⟩ := hlookups o ho
  have hmoved : (Observation.Setter.epicentralDistance (.finite 50)).method.state o =
      { o with mEpicentralDistance := .finite 50, mHasEpicentralDistance := true } :=
    Method.state_of_call (Observation.call_setEpicentralDistance_eq_ok.mpr
      ⟨⟨50, rfl, by norm_num, by norm_num⟩, rfl⟩)
  refine ⟨?_, fun _ => ?_⟩
  · rw [hmoved]
    exact ⟨rfl, rfl, rfl, hhas.symm, rfl⟩
  · rw [hlookup, hlookup']
    refine ⟨⟨0, 50, rfl, rfl, by norm_num⟩, ?_⟩
    rintro x (rfl | rfl)
    · decide +kernel
    · decide +kernel

theorem sample_moves_little :
    ListsWithin (1 / 1000 * 50) slopingNetwork slopingNetwork Rationals.observations
      movedObservations := by
  have hdistance : slopingNetwork.mOptions.getDistanceCorrections = .ok slopingTable := by
    decide +kernel
  have hset := Rationals.eq_ok_of_isOk
    (by decide +kernel : slopingNetwork.mOptions.getStationCorrections.isOk = true) {}
  have hnodes : slopingTable.HasNodes [(0, 1), (1000, 2)] := by
    unfold HasNodes
    decide +kernel
  have hslopes : [((0 : ℚ), (1 : ℚ)), (1000, 2)].IsChain (Sloped (-(1 / 1000)) (1 / 1000)) := by
    norm_num [Sloped]
  have hnumeric : ((Rationals.returned slopingNetwork.mOptions.getStationCorrections
      {}).mCorrections.entries.all fun entry => entry.2.mCorrection.isFinite) = true := by
    decide +kernel
  exact distance_errors_move_magnitudes_little slopingNetwork_isReachable hdistance hset hnodes
    (by decide +kernel) hslopes (by norm_num)
    (fun _ _ hlookup => List.all_eq_true.mp hnumeric _ (StringMap.lookup_eq_some_iff.mp hlookup))
    Rationals.sample.observations_isReachable movedObservations_isReachable sample_movedBy

end Properties
end ULocalMagnitude
