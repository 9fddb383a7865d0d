import ULocalMagnitude.Corrections.Attenuation
import ULocalMagnitude.Magnitude.NetworkAverage
import ULocalMagnitude.Simulation

/-!
# The calculator of a network

A calculator that has the table and the stations of a network finds for every observation
what the network makes of its reading, and averages observations the way the network
averages their readings: `Realizes.average_shown`.  The stations of the network have their two
codes for names, while the calculator joins these, so no two of the stations may have one name.
-/

namespace ULocalMagnitude
namespace Magnitude

open Cxx
open Batch (AveragesShown Showing)
open Batch.Assessment (ShownAt)
open Corrections (Distance StationIdentifier StationsSet)
open Richter (Network Reading Rejection Terms)

variable {F : Type} [ExactArithmetic F]

/-- What is read off the station of an observation: the amplitude is that of the mean of the
two channels, from zero to peak. -/
def readingOf (observation : Observation F) : Reading (Bytes × Bytes) F where
  station := observation.station.codes
  amplitude := 1 / 2 *
    (1 / 2 * (observation.mAmplitudes.1.mValue.val + observation.mAmplitudes.2.mValue.val))
  epicentralDistance := observation.mEpicentralDistance.val
  depth := observation.mSourceDepth.val

/-- The error code for a rejection. -/
def codeOf : Rejection → StationCalculatorErrorCode
  | .noCorrection => .observationHasNoCorrection
  | .tooClose => .stationTooClose
  | .tooFar => .stationTooFar

/-- The magnitude of the observation has these terms. -/
structure StationMagnitude.HasTerms (magnitude : StationMagnitude F) (terms : Terms F) :
    Prop where
  value : magnitude.mValue = .finite terms.value
  distanceCorrection : magnitude.mDistanceCorrection = .finite terms.attenuation
  stationCorrection : magnitude.mStationCorrection = .finite terms.correction

/-- What stands for what is made of readings. -/
def showing : Showing StationCalculatorErrorCode (StationMagnitude F) Rejection (Terms F) where
  reason := codeOf
  shows := StationMagnitude.HasTerms

namespace NetworkMagnitudeCalculator

open StationMagnitudeCalculator (lookupAt magnitudeOf)

variable {calculator : NetworkMagnitudeCalculator F} {network : Network (Bytes × Bytes) F}
  {distance : Distance F} {set : StationsSet F} {observation : Observation F}

/-- Under the name of the station the set has the correction that the network has for its
codes. -/
def Knows (network : Network (Bytes × Bytes) F) (set : StationsSet F)
    (identifier : StationIdentifier) : Prop :=
  (set.mCorrections.lookup identifier.name).map Corrections.Station.mCorrection =
    (network.correction identifier.codes).map Double.finite

/-- The calculator has the table and the limits of the network. -/
structure Realizes (calculator : NetworkMagnitudeCalculator F)
    (network : Network (Bytes × Bytes) F) (distance : Distance F) (set : StationsSet F) :
    Prop where
  wellFormed : calculator.WellFormed distance set
  distance : distance.Realizes network
  minimum : calculator.mOptions.mMinimumNumberOfStationMagnitudes = network.minimum
  lower : network.lower = -10
  upper : network.upper = 10

/-- The table is read where the network reads it. -/
theorem Realizes.lookupAt_eq (h : calculator.Realizes network distance set)
    (hobservation : observation.Inv) (hmissing : calculator.missing observation = none) :
    lookupAt distance observation =
      .finite (network.distanceOf Arithmetic.hypot (readingOf observation)) := by
  obtain ⟨-, hdistance, hdepth⟩ := missing_eq_none_iff.mp hmissing
  obtain ⟨d, hd, -⟩ := hobservation.epicentralDistance hdistance
  unfold lookupAt
  by_cases htype : distance.mDistanceOptions.mType = .hypocentral
  · obtain ⟨z, hz, -⟩ := hobservation.depth (hdepth (h.wellFormed.requiresDepth.mpr htype))
    rw [if_pos htype, hd, h.distance.lookupDistance_eq observation.station.codes
      (readingOf observation).amplitude fun _ => by rw [hz]; rfl]
    unfold readingOf
    rw [hd]
    rfl
  · have hnone : network.datum = none := by
      rw [← Option.not_isSome_iff_eq_none, ← h.distance.type]
      exact htype
    unfold Distance.lookupDistance Richter.Network.distanceOf readingOf
    rw [if_neg htype, hnone, hd]
    rfl

/-- For a complete observation the calculator finds what the network makes of the reading. -/
theorem Realizes.computeStationMagnitude_eq (h : calculator.Realizes network distance set)
    (hobservation : observation.Inv) (hmissing : calculator.missing observation = none)
    (hknows : Knows network set observation.station) :
    calculator.computeStationMagnitude observation =
      match network.terms Arithmetic.log10 Arithmetic.hypot
          (readingOf observation) with
      | .error rejection => .ok (.error (codeOf rejection))
      | .ok terms => .ok (.ok (magnitudeOf observation terms.attenuation terms.correction)) := by
  have hname : observation.mStationName = observation.station.name :=
    (hobservation.amplitudes (missing_eq_none_iff.mp hmissing).1).2.2.2
  have hstation := hknows
  unfold Knows at hstation
  rw [← hname] at hstation
  have hreading : (readingOf observation).station = observation.station.codes := rfl
  rw [h.wellFormed.computeStationMagnitude_eq hmissing]
  unfold Richter.Network.terms
  rw [hreading]
  cases hlookup : set.mCorrections.lookup observation.mStationName with
  | none =>
      rw [hlookup, Option.map_none] at hstation
      rw [Option.map_eq_none_iff.mp hstation.symm]
      rfl
  | some station =>
      rw [hlookup, Option.map_some] at hstation
      obtain ⟨correction, hcorrection, hvalue⟩ := Option.map_eq_some_iff.mp hstation.symm
      obtain ⟨x, hx, hnonneg⟩ := StationMagnitudeCalculator.exists_lookupAt
        (h.wellFormed.calculatorOf_inv hlookup) hobservation (h.wellFormed.fits hmissing hlookup)
      have hat := h.lookupAt_eq hobservation hmissing
      obtain rfl : x = network.distanceOf Arithmetic.hypot (readingOf observation) :=
        Double.finite.inj (hx.symm.trans hat)
      have happly := h.distance.apply_eq h.wellFormed.distanceReachable hnonneg
      have hamplitudes := (missing_eq_none_iff.mp hmissing).1
      dsimp only
      rw [StationMagnitudeCalculator.apply_eq (h.wellFormed.calculatorOf_inv hlookup)
        hobservation (h.wellFormed.fits hmissing hlookup), hcorrection]
      have hbind : (calculatorOf station distance).mDistanceCorrection.apply
          (lookupAt (calculatorOf station distance).mDistanceCorrection observation) =
            .ok (Corrections.Distance.answerOf (network.attenuation
              (network.distanceOf Arithmetic.hypot (readingOf observation)))) := by
        rw [← happly, ← hat]
        rfl
      rw [hbind, bind_ok]
      dsimp only
      cases network.attenuation
          (network.distanceOf Arithmetic.hypot (readingOf observation)) with
      | tooClose => rfl
      | tooFar => rfl
      | value y =>
          have hpackaged : noexcept (StationMagnitudeCalculator.afterLookup station observation
              (.ok (.finite y))) = .ok (.ok _) :=
            StationMagnitudeCalculator.noexcept_afterLookup hobservation hamplitudes hvalue.symm
          show Except.mapError stationErrorCode <$> noexcept
            (StationMagnitudeCalculator.afterLookup station observation (.ok (.finite y))) = _
          rw [hpackaged]
          rfl

theorem Realizes.computes (h : calculator.Realizes network distance set)
    (hobservation : observation.Inv) (hmissing : calculator.missing observation = none)
    (hknows : Knows network set observation.station) : calculator.Computes observation := by
  unfold Computes
  rw [h.computeStationMagnitude_eq hobservation hmissing hknows]
  split
  · exact ⟨_, rfl⟩
  · exact ⟨_, rfl⟩

/-- The observation is assessed like its reading. -/
theorem Realizes.shownAt (h : calculator.Realizes network distance set)
    (hobservation : observation.Inv) (hmissing : calculator.missing observation = none)
    (hknows : Knows network set observation.station) :
    ShownAt calculator.assessment
      (network.assessment Arithmetic.log10 Arithmetic.hypot) showing observation
      (readingOf observation) := by
  have hcompute := h.computeStationMagnitude_eq hobservation hmissing hknows
  have houtcome := (h.computes hobservation hmissing hknows).computeStationMagnitude_eq
  rw [hcompute] at houtcome
  refine ⟨⟨hmissing, rfl⟩, fun rejection hterms => ?_, fun terms hterms => ?_⟩
  · replace hterms : network.terms _ _ (readingOf observation) = _ := hterms
    rw [hterms] at houtcome
    exact (Except.ok.inj houtcome).symm
  · replace hterms : network.terms _ _ (readingOf observation) = _ := hterms
    rw [hterms] at houtcome
    have hvalue : terms.value = StationMagnitudeCalculator.uncorrected observation +
        terms.attenuation + terms.correction := by
      rw [Terms.value, network.logarithm_of_terms hterms]
      rfl
    exact ⟨_, (Except.ok.inj houtcome).symm, ⟨congrArg Double.finite hvalue.symm, rfl, rfl⟩,
      hvalue.symm⟩

section Lists

variable {observations : List (Observation F)} (h : calculator.Realizes network distance set)
  (hobservations : ∀ o ∈ observations, o.Inv)
  (hcomplete : ∀ o ∈ observations, calculator.missing o = none)
  (hknows : ∀ o ∈ observations, Knows network set o.station)

include h hobservations hcomplete hknows

theorem Realizes.shown : List.Forall₂ (ShownAt calculator.assessment
    (network.assessment Arithmetic.log10 Arithmetic.hypot) showing) observations
      (observations.map readingOf) := by
  rw [List.forall₂_map_right_iff, List.forall₂_same]
  exact fun o ho => h.shownAt (hobservations o ho) (hcomplete o ho) (hknows o ho)

/-- The average of observations is that of their readings, when no two stations have one
name. -/
theorem Realizes.average_shown
    (hclear : ∀ o ∈ observations, ∀ o' ∈ observations,
      ¬ Confusable dot o.station.codes o'.station.codes) :
    AveragesShown showing (calculator.assessment.average observations)
      ((network.assessment Arithmetic.log10 Arithmetic.hypot).average
        (observations.map readingOf)) := by
  have hset (o : Observation F) (ho : o ∈ observations) : o.Inv ∧ o.mHasAmplitudes = true :=
    ⟨hobservations o ho, (missing_eq_none_iff.mp (hcomplete o ho)).1⟩
  have hname (o : Observation F) (ho : o ∈ observations) : o.mStationName = o.station.name :=
    ((hset o ho).1.amplitudes (hset o ho).2).2.2.2
  have hcodes : (observations.map readingOf).map Reading.station =
      observations.map fun o => o.station.codes := by
    rw [List.map_map]
    rfl
  have hnames : (observations.map Observation.mStationName).Nodup ↔
      ((observations.map readingOf).map Reading.station).Nodup := by
    rw [hcodes]
    constructor
    · intro hnodup
      refine (List.Nodup.of_map _ hnodup).map_on fun o ho o' ho' hsame => ?_
      refine List.inj_on_of_nodup_map hnodup ho ho' ?_
      rw [hname o ho, hname o' ho', StationIdentifier.codes_injective hsame]
    · intro hnodup
      have hstations : (observations.map Observation.station).Nodup := by
        refine List.Nodup.of_map StationIdentifier.codes ?_
        rwa [List.map_map]
      exact (Observation.nodup_stationNames_iff hset hstations).mpr hclear
  exact Batch.Assessment.average_shown (h.shown hobservations hcomplete hknows) hnames h.minimum
    h.lower.symm h.upper.symm

end Lists

end NetworkMagnitudeCalculator

end Magnitude
end ULocalMagnitude
