import ULocalMagnitude.Rationals

/-!
# Stations and their names

A station is a network and a station code, but corrections, insertions and duplicates
go by the joined name of the two.  The codes may have dots themselves, so two different
stations can have one name; each of the three then takes them for one station.  Here is
that this is the only way in which they err.
-/

namespace ULocalMagnitude
namespace Properties

open Cxx Magnitude
open Corrections (Station StationIdentifier StationsSet)

variable {F : Type} [Arithmetic F]

/-- The set has the station. -/
def Holds (set : StationsSet F) (station : Station F) : Prop :=
  ∃ key, set.mCorrections.lookup key = some station

/-- Two stations that are different but have one name. -/
abbrev OneName (p q : StationIdentifier) : Prop := Confusable dot p.codes q.codes

section Sets

variable {set : StationsSet F}

/-- A station of a set in use is found under its name. -/
theorem Holds.lookup {station : Station F} (h : Holds set station) (hset : set.Inv) :
    set.mCorrections.lookup station.name = some station := by
  obtain ⟨key, hkey⟩ := h
  obtain ⟨rfl, -⟩ := hset key station hkey
  exact hkey

/-- A station with the name of another one is found in its place, and keeps the set from
holding the other one. -/
theorem Holds.lookup_of_oneName {station : Station F} (h : Holds set station)
    (hset : set.Inv) {identifier : StationIdentifier}
    (hname : OneName station.identifier identifier) :
    set.mCorrections.lookup identifier.name = some station ∧
      ∀ other, Holds set other → other.identifier.codes ≠ identifier.codes := by
  have hsame : station.name = identifier.name :=
    (StationIdentifier.name_eq_name_iff _ _).mpr (Or.inr hname)
  have hlookup := h.lookup hset
  rw [hsame] at hlookup
  refine ⟨hlookup, fun other hother hcodes => ?_⟩
  have hsame' : other.name = identifier.name :=
    congrArg StationIdentifier.name (StationIdentifier.codes_injective hcodes)
  have hlookup' := hother.lookup hset
  rw [hsame'] at hlookup'
  obtain rfl : station = other := Option.some.inj (hlookup.symm.trans hlookup')
  exact hname.ne hcodes

/-- Where no station of the set has the name of another one, looking up a name finds the
station with the codes. -/
theorem lookup_name_iff (hset : set.Inv) {identifier : StationIdentifier}
    (hclear : ∀ station, Holds set station → ¬ OneName station.identifier identifier)
    {station : Station F} :
    set.mCorrections.lookup identifier.name = some station ↔
      Holds set station ∧ station.identifier.codes = identifier.codes := by
  constructor
  · intro hlookup
    have hholds : Holds set station := ⟨_, hlookup⟩
    obtain ⟨hname, -⟩ := hset _ station hlookup
    rcases (StationIdentifier.name_eq_name_iff _ _).mp hname with hsame | hconfusable
    · exact ⟨hholds, congrArg StationIdentifier.codes hsame⟩
    · exact absurd hconfusable (hclear station hholds)
  · intro h
    rcases h with ⟨hholds, hcodes⟩
    have hname : station.name = identifier.name :=
      congrArg StationIdentifier.name (StationIdentifier.codes_injective hcodes)
    rw [← hname]
    exact hholds.lookup hset

end Sets

/-- A correction belongs to the station with the codes that are asked for, only such a
station keeps another one out of a set, and different stations are never reported as
duplicates: each of the three exactly as long as no two of the stations involved have
one name. -/
theorem stations_are_told_apart_iff :
    (∀ (calculator : NetworkMagnitudeCalculator F) (set : StationsSet F),
      calculator.IsReachable → calculator.mOptions.getStationCorrections = .ok set →
      ∀ identifier : StationIdentifier, identifier.Complete →
        ((∀ c, calculator.getStationCorrection identifier = .ok (some c) ↔
            ∃ station, Holds set station ∧ station.identifier.codes = identifier.codes ∧
              station.mCorrection = c) ↔
          ∀ station, Holds set station → ¬ OneName station.identifier identifier)) ∧
    (∀ (set : StationsSet F) (station : Station F), set.IsReachable → station.IsReachable →
      (((∃ after, (StationsSet.insert station false).exec set = .ok (false, after)) →
          ∃ other, Holds set other ∧ other.identifier.codes = station.identifier.codes) ↔
        ∀ other, Holds set other → ¬ OneName other.identifier station.identifier)) ∧
    ∀ (calculator : NetworkMagnitudeCalculator F) (observations : List (Observation F)),
      calculator.IsReachable → (∀ o ∈ observations, o.IsReachable) →
      (∀ o ∈ observations, calculator.missing o = none) →
      (observations.map fun o => o.station.codes).Nodup →
        (calculator.apply observations ≠ .ok (.error .duplicateObservations) ↔
          ∀ o ∈ observations, ∀ o' ∈ observations, ¬ OneName o.station o'.station) := by
  refine ⟨?_, ?_, ?_⟩
  · intro calculator set hcalculator hcorrections identifier hcomplete
    obtain ⟨distance, set', hwellFormed⟩ := hcalculator.wellFormed
    obtain rfl : set' = set :=
      Except.ok.inj (hwellFormed.stationCorrections.symm.trans hcorrections)
    have hset := hwellFormed.setInv
    rw [hwellFormed.getStationCorrection_eq hcomplete]
    simp only [Except.ok.injEq, Option.map_eq_some_iff]
    constructor
    · intro hcorrect station hholds hconfusable
      obtain ⟨hlookup, hnone⟩ := hholds.lookup_of_oneName hset hconfusable
      obtain ⟨other, hother, hcodes, -⟩ := (hcorrect _).mp ⟨station, hlookup, rfl⟩
      exact hnone other hother hcodes
    · intro hclear c
      simp only [lookup_name_iff hset hclear, and_assoc]
  · intro set station hreachable hstation
    have hset := hreachable.inv
    have hrefused : (∃ after, (StationsSet.insert station false).exec set =
        .ok (false, after)) ↔ ∃ other, set.mCorrections.lookup station.name = some other := by
      simp only [StationsSet.exec_insert_eq_false_iff hstation.inv, and_true,
        ← Option.isSome_iff_exists, AList.lookup_isSome, exists_eq_right]
    rw [hrefused]
    constructor
    · rintro hcorrect other hholds hconfusable
      obtain ⟨hlookup, hnone⟩ := hholds.lookup_of_oneName hset hconfusable
      obtain ⟨third, hthird, hcodes⟩ := hcorrect ⟨other, hlookup⟩
      exact hnone third hthird hcodes
    · intro hclear h
      rcases h with ⟨other, hlookup⟩
      exact ⟨other, (lookup_name_iff hset hclear).mp hlookup⟩
  · intro calculator observations hcalculator hobservations hcomplete hdistinct
    have hset (o : Observation F) (ho : o ∈ observations) : o.Inv ∧ o.mHasAmplitudes = true :=
      ⟨(hobservations o ho).inv,
        (NetworkMagnitudeCalculator.missing_eq_none_iff.mp (hcomplete o ho)).1⟩
    have hstations : (observations.map Observation.station).Nodup := by
      refine List.Nodup.of_map StationIdentifier.codes ?_
      rwa [List.map_map]
    rw [ne_eq, NetworkMagnitudeCalculator.apply_eq_duplicateObservations_iff
      hcalculator.initialized hcomplete, not_not]
    exact Observation.nodup_stationNames_iff hset hstations

/-! ## Two stations with one name -/

/-- Network `A.B` with station `C`, which has the name of station `B.C` of network `A`. -/
def dottedCorrections : List (Station ℚ) :=
  [Rationals.station (bytes "A.B") (bytes "C") (.finite 0)]

def dottedNetwork : NetworkMagnitudeCalculator ℚ :=
  Rationals.calculator Rationals.table (Rationals.stationsSet dottedCorrections) 1

/-- The station that is not in the set. -/
def dottedStation : Station ℚ := Rationals.station (bytes "A") (bytes "B.C") (.finite 1)

def dottedObservations : List (Observation ℚ) :=
  [Rationals.observation (bytes "A.B") (bytes "C") 2 2,
    Rationals.observation (bytes "A") (bytes "B.C") 2 2]

theorem dottedCorrections_isReachable :
    (Rationals.stationsSet dottedCorrections).IsReachable := by
  refine Rationals.stationsSet_isReachable fun correction hmem => ?_
  obtain rfl := List.mem_singleton.mp hmem
  exact Rationals.station_isReachable (by decide) (by decide)

theorem dottedNetwork_isReachable : dottedNetwork.IsReachable :=
  Rationals.calculator_isReachable Rationals.sample.table_isReachable dottedCorrections_isReachable
    rfl

theorem dottedStation_isReachable : dottedStation.IsReachable :=
  Rationals.station_isReachable (by decide) (by decide)

theorem dottedObservations_isReachable : ∀ o ∈ dottedObservations, o.IsReachable := by
  intro o ho
  simp only [dottedObservations, List.mem_cons, List.not_mem_nil, or_false] at ho
  rcases ho with rfl | rfl
  · exact Rationals.observation_isReachable (by decide +kernel)
  · exact Rationals.observation_isReachable (by decide +kernel)

/-- A station that the set does not have gets the correction of the one that it has, is
kept out of the set, and is reported as its duplicate. -/
theorem dotted_stations_are_confused :
    dottedNetwork.IsReachable ∧ dottedStation.IsReachable ∧
      (∀ o ∈ dottedObservations, o.IsReachable) ∧
      (∀ station, Holds (Rationals.stationsSet dottedCorrections) station →
        station.identifier.codes ≠ dottedStation.identifier.codes) ∧
      dottedNetwork.getStationCorrection dottedStation.identifier =
        .ok (some (.finite 0)) ∧
      (StationsSet.insert dottedStation false).exec
          (Rationals.stationsSet dottedCorrections) =
        .ok (false, Rationals.stationsSet dottedCorrections) ∧
      (dottedObservations.map fun o => o.station.codes).Nodup ∧
      dottedNetwork.apply dottedObservations = .ok (.error .duplicateObservations) := by
  refine ⟨dottedNetwork_isReachable, dottedStation_isReachable,
    dottedObservations_isReachable, ?_, by decide +kernel, ?_, by decide +kernel,
    by decide +kernel⟩
  · intro station h
    rcases h with ⟨key, hkey⟩
    have hall : ∀ entry ∈ (Rationals.stationsSet dottedCorrections).mCorrections.entries,
        entry.2.identifier.codes ≠ dottedStation.identifier.codes := by decide +kernel
    exact hall _ (StringMap.lookup_eq_some_iff.mp hkey)
  · rw [StationsSet.exec_insert_eq_false_iff dottedStation_isReachable.inv]
    exact ⟨⟨by decide +kernel, rfl⟩, rfl⟩

/-- Without dots in the network codes the stations are told apart. -/
theorem plain_stations_are_told_apart :
    (∃ set, Rationals.network.mOptions.getStationCorrections = .ok set ∧
      ∀ c, Rationals.network.getStationCorrection dottedStation.identifier = .ok (some c) ↔
        ∃ station, Holds set station ∧
          station.identifier.codes = dottedStation.identifier.codes ∧
          station.mCorrection = c) ∧
    ((∃ after, (StationsSet.insert dottedStation false).exec
          (Rationals.stationsSet Rationals.corrections) = .ok (false, after)) →
      ∃ other, Holds (Rationals.stationsSet Rationals.corrections) other ∧
        other.identifier.codes = dottedStation.identifier.codes) ∧
    Rationals.network.apply Rationals.observations ≠
      .ok (.error .duplicateObservations) := by
  have hdotted : dot ∉ dottedStation.identifier.codes.1 := by decide +kernel
  refine ⟨?_, ?_, ?_⟩
  · obtain ⟨distance, set, hwellFormed⟩ := Rationals.sample.network_isReachable.wellFormed
    have hplain : (Rationals.network.mOptions.getStationCorrections.toOption.all fun set =>
        set.mCorrections.entries.all fun entry =>
          decide (dot ∉ entry.2.identifier.codes.1)) = true := by decide +kernel
    rw [hwellFormed.stationCorrections] at hplain
    refine ⟨set, hwellFormed.stationCorrections,
      ((stations_are_told_apart_iff (F := ℚ)).1 Rationals.network set
        Rationals.sample.network_isReachable hwellFormed.stationCorrections _
        dottedStation_isReachable.inv.complete).mpr ?_⟩
    intro station h
    rcases h with ⟨key, hkey⟩
    have hentry := List.all_eq_true.mp hplain _ (StringMap.lookup_eq_some_iff.mp hkey)
    exact not_confusable_of_not_mem (of_decide_eq_true hentry) hdotted
  · refine ((stations_are_told_apart_iff (F := ℚ)).2.1 _ _ Rationals.sample.corrections_isReachable
      dottedStation_isReachable).mpr ?_
    intro station h
    rcases h with ⟨key, hkey⟩
    have hall : ∀ entry ∈ (Rationals.stationsSet Rationals.corrections).mCorrections.entries,
        dot ∉ entry.2.identifier.codes.1 := by decide +kernel
    exact not_confusable_of_not_mem (hall _ (StringMap.lookup_eq_some_iff.mp hkey)) hdotted
  · have hcodes : ∀ o ∈ Rationals.observations, dot ∉ o.station.codes.1 := by
      decide +kernel
    exact ((stations_are_told_apart_iff (F := ℚ)).2.2 Rationals.network
      Rationals.observations Rationals.sample.network_isReachable
      Rationals.sample.observations_isReachable (by decide +kernel) (by decide +kernel)).mpr
        fun o ho o' ho' => not_confusable_of_not_mem (hcodes o ho) (hcodes o' ho')

end Properties
end ULocalMagnitude
