import ULocalMagnitude.Rationals
import Std.Data.String.ToNat

/-!
# The number of the malformed measurement

Both endpoints refuse a request with a malformed measurement and put a number in their
message.  Neither counts the measurements: the network endpoint takes the number of
observations before it, which is one less than its position, and the station endpoint
takes one more than the number of magnitudes before it, which is its position only if a
magnitude was computed for each measurement before.
-/

namespace ULocalMagnitude
namespace Properties

open Cxx Magnitude Grpc
open Corrections (Distance Hypocenter)
open Grpc.MagnitudeService (networkReactor stationReactor Decodes)

variable {F : Type} [Arithmetic F]

/-- The measurement with number `k`, counted from one, is the first malformed one. -/
def FirstMalformed (inverse : Distance.Inverse F) (hypocenter : Hypocenter F)
    (measurements : List (Api.StationAmplitudeMeasurement F)) (k : Nat) : Prop :=
  ∃ before malformed rest, measurements = before ++ malformed :: rest ∧
    k = before.length + 1 ∧
    (∀ measurement ∈ before, ∃ observation,
      Observation.ofMeasurement inverse measurement hypocenter = .ok observation) ∧
    ∃ reason, Observation.ofMeasurement inverse malformed hypocenter = .error reason

/-- A magnitude is computed for the measurement. -/
def HasMagnitude (inverse : Distance.Inverse F) (hypocenter : Hypocenter F)
    (service : MagnitudeService F) (measurement : Api.StationAmplitudeMeasurement F) : Prop :=
  ∃ observation magnitude,
    Observation.ofMeasurement inverse measurement hypocenter = .ok observation ∧
      service.mCalculator.computeStationMagnitude observation = .ok (.ok magnitude)

/-- The call is finished once, with `INVALID_ARGUMENT` and the message. -/
def RefusedWith {R : Type} (message : String) (result : Throws (Reactor R)) : Prop :=
  ∃ reactor, result = .ok reactor ∧
    reactor.finished = [{ code := .invalidArgument, message }]

/-- The message of the network endpoint with a number in it. -/
def networkText (number : Nat) : String :=
  "Check hypocenter and " ++ Nat.repr number ++ " measurement"

/-- The message of the station endpoint with a number in it. -/
def stationText (number : Nat) : String :=
  "Measurement " ++ Nat.repr number ++ " is malformed"

theorem networkText_injective : Function.Injective networkText := by
  intro m n h
  unfold networkText at h
  rw [String.append_left_inj, String.append_right_inj] at h
  exact Nat.repr_injective h

theorem stationText_injective : Function.Injective stationText := by
  intro m n h
  unfold stationText at h
  rw [String.append_left_inj, String.append_right_inj] at h
  exact Nat.repr_injective h

theorem RefusedWith.message_eq {R : Type} {message message' : String}
    {result : Throws (Reactor R)} (h : RefusedWith message result)
    (h' : RefusedWith message' result) : message = message' := by
  obtain ⟨reactor, rfl, hfinished⟩ := h
  obtain ⟨reactor', hsame, hfinished'⟩ := h'
  obtain rfl := Except.ok.inj hsame
  rw [hfinished] at hfinished'
  simp only [List.cons.injEq, Status.mk.injEq] at hfinished'
  exact hfinished'.1.2

/-! ## The network endpoint -/

section Network

variable {inverse : Distance.Inverse F} {given : Api.Hypocenter F} {hypocenter : Hypocenter F}
  {measurements : List (Api.StationAmplitudeMeasurement F)} {k : Nat}

theorem decodeMeasurements_of_firstMalformed
    {before rest : List (Api.StationAmplitudeMeasurement F)}
    {malformed : Api.StationAmplitudeMeasurement F}
    (hbefore : ∀ measurement ∈ before, ∃ observation,
      Observation.ofMeasurement inverse measurement hypocenter = .ok observation)
    {reason : Fault}
    (hmalformed : Observation.ofMeasurement inverse malformed hypocenter = .error reason)
    (number : Nat) :
    MagnitudeService.decodeMeasurements inverse hypocenter number (before ++ malformed :: rest) =
      .error (.badMeasurement (number + before.length)) := by
  induction before generalizing number with
  | nil => exact MagnitudeService.decodeMeasurements_cons_error hmalformed number rest
  | cons measurement before ih =>
      obtain ⟨observation, hdecoded⟩ := hbefore measurement List.mem_cons_self
      have hrest := ih (fun m hm => hbefore m (List.mem_cons_of_mem measurement hm))
        (number + 1)
      have hnumber : number + (measurement :: before).length = number + 1 + before.length := by
        rw [List.length_cons]
        omega
      rw [List.cons_append, MagnitudeService.decodeMeasurements_cons_ok hdecoded, hrest,
        hnumber]
      rfl

theorem FirstMalformed.decode (h : FirstMalformed inverse hypocenter measurements k)
    (hhypocenter : Hypocenter.ofMessage given = .ok hypocenter) :
    MagnitudeService.decode inverse (some given) measurements = .error (.badMeasurement k) := by
  obtain ⟨before, malformed, rest, rfl, rfl, hbefore, reason, hmalformed⟩ := h
  unfold MagnitudeService.decode
  dsimp only
  rw [hhypocenter, Nat.add_comm]
  exact decodeMeasurements_of_firstMalformed hbefore hmalformed 1

theorem FirstMalformed.one_le (h : FirstMalformed inverse hypocenter measurements k) :
    1 ≤ k := by
  obtain ⟨before, malformed, rest, -, rfl, -⟩ := h
  exact Nat.le_add_left 1 before.length

variable {service : MagnitudeService F} {clientMetadata : ClientMetadata}
  {request : Api.NetworkMagnitudeFromAmplitudesRequest F}

/-- The network endpoint names the number of measurements before. -/
theorem networkReactor_refusedWith (hauthorized : service.Authorizes clientMetadata)
    (hgiven : request.hypocenter = some given)
    (hhypocenter : Hypocenter.ofMessage given = .ok hypocenter)
    (h : FirstMalformed inverse hypocenter request.stationAmplitudeMeasurements k)
    (version : Version) :
    RefusedWith (networkText (k - 1))
      (networkReactor inverse version service clientMetadata request) := by
  have hrefusal : MagnitudeService.decode inverse request.hypocenter
      request.stationAmplitudeMeasurements = .error (.badMeasurement k) := by
    rw [hgiven]
    exact h.decode hhypocenter
  exact ⟨_, MagnitudeService.networkReactor_of_refusal hauthorized hrefusal, rfl⟩

/-- It never names the position, not even to a client without the access token. -/
theorem not_networkReactor_refusedWith (hgiven : request.hypocenter = some given)
    (hhypocenter : Hypocenter.ofMessage given = .ok hypocenter)
    (h : FirstMalformed inverse hypocenter request.stationAmplitudeMeasurements k)
    (version : Version) :
    ¬ RefusedWith (networkText k)
      (networkReactor inverse version service clientMetadata request) := by
  intro hrefused
  by_cases hauthorized : service.Authorizes clientMetadata
  · -- The message has the number before, and `k` is at least one.
    have hsame := networkText_injective (hrefused.message_eq
      (networkReactor_refusedWith hauthorized hgiven hhypocenter h version))
    have hpositive := h.one_le
    omega
  · obtain ⟨reactor, hreactor, hanswers⟩ :=
      MagnitudeService.networkReactor_of_not_authorized inverse hauthorized version request
    obtain ⟨reactor', hreactor', hfinished⟩ := hrefused
    obtain rfl := Except.ok.inj (hreactor.symm.trans hreactor')
    exact absurd (hanswers.unique ⟨_, hfinished⟩) nofun

end Network

/-! ## The station endpoint -/

section Station

variable {inverse : Distance.Inverse F} {given : Api.Hypocenter F} {hypocenter : Hypocenter F}
  {service : MagnitudeService F}

/-- The observations of measurements that are not malformed. -/
theorem exists_decodes {before : List (Api.StationAmplitudeMeasurement F)}
    (h : ∀ measurement ∈ before, ∃ observation,
      Observation.ofMeasurement inverse measurement hypocenter = .ok observation) :
    ∃ observations, Decodes inverse hypocenter before observations := by
  induction before with
  | nil => exact ⟨[], .nil⟩
  | cons measurement before ih =>
      obtain ⟨observation, hdecoded⟩ := h measurement List.mem_cons_self
      obtain ⟨observations, hdecodes⟩ :=
        ih fun m hm => h m (List.mem_cons_of_mem measurement hm)
      exact ⟨observation :: observations, .cons hdecoded hdecodes⟩

/-- As many magnitudes as measurements: there is one for each of them. -/
theorem length_accepted_eq_iff {before : List (Api.StationAmplitudeMeasurement F)}
    {observations : List (Observation F)} (h : Decodes inverse hypocenter before observations)
    (hcomputes : ∀ o ∈ observations, service.mCalculator.Computes o) :
    (observations.filterMap service.mCalculator.assessment.accepted).length = before.length ↔
      ∀ measurement ∈ before, HasMagnitude inverse hypocenter service measurement := by
  induction h with
  | nil => simp
  | @cons measurement o before observations hdecoded hdecodes ih =>
      have hrest := ih fun o' ho' => hcomputes o' (List.mem_cons_of_mem o ho')
      have hcompute := (hcomputes o List.mem_cons_self).computeStationMagnitude_eq
      have hle := List.length_filterMap_le service.mCalculator.assessment.accepted observations
      have hlength := List.Forall₂.length_eq hdecodes
      rw [List.forall_mem_cons, ← hrest, List.length_cons]
      -- A magnitude makes both sides longer by one; without one the response stays behind.
      cases houtcome : service.mCalculator.outcome o with
      | ok magnitude =>
          have hhas : HasMagnitude inverse hypocenter service measurement :=
            ⟨o, magnitude, hdecoded, hcompute.trans (congrArg Except.ok houtcome)⟩
          rw [List.filterMap_cons_some (Batch.Assessment.accepted_of_ok houtcome),
            List.length_cons, Nat.add_right_cancel_iff]
          exact (and_iff_right hhas).symm
      | error code =>
          have hhas : ¬ HasMagnitude inverse hypocenter service measurement := by
            rintro ⟨o', magnitude, hdecoded', hmagnitude⟩
            obtain rfl : o = o' := Except.ok.inj (hdecoded.symm.trans hdecoded')
            rw [hcompute, houtcome] at hmagnitude
            cases Except.ok.inj hmagnitude
          rw [List.filterMap_cons_none (Batch.Assessment.accepted_of_error houtcome)]
          -- There are at most as many magnitudes as measurements behind this one.
          refine iff_of_false ?_ fun h => hhas h.1
          omega

variable {clientMetadata : ClientMetadata}
  {request : Api.StationMagnitudesFromAmplitudesRequest F} {k : Nat}

/-- The station endpoint names the position exactly when every measurement before has a
magnitude. -/
theorem stationReactor_refusedWith_iff (hauthorized : service.Authorizes clientMetadata)
    (hgiven : request.hypocenter = some given)
    (hhypocenter : Hypocenter.ofMessage given = .ok hypocenter)
    (h : FirstMalformed inverse hypocenter request.stationAmplitudeMeasurements k)
    (version : Version) :
    RefusedWith (stationText k)
        (stationReactor inverse version service clientMetadata request) ↔
      ∀ measurement ∈ request.stationAmplitudeMeasurements.take (k - 1),
        HasMagnitude inverse hypocenter service measurement := by
  obtain ⟨before, malformed, rest, hsplit, rfl, hbefore, reason, hmalformed⟩ := h
  obtain ⟨observations, hdecodes⟩ := exists_decodes hbefore
  rw [hsplit, Nat.add_sub_cancel, List.take_left]
  rcases MagnitudeService.stationReactor_of_malformed hauthorized version hgiven hhypocenter
      hsplit hdecodes hmalformed with ⟨hall, hreactor⟩ | ⟨⟨o, ho, hnot⟩, fatal, hreactor⟩
  · rw [← length_accepted_eq_iff hdecodes hall, hreactor]
    -- The number in the message is counted from the magnitudes in the response.
    have hnamed : RefusedWith (stationText
        ((observations.filterMap service.mCalculator.assessment.accepted).length + 1))
        (.ok (MagnitudeService.malformedAnswer (service.withObservations observations
          (MagnitudeService.stationStarted version request.identifier)))) := by
      refine ⟨_, rfl, ?_⟩
      have hlength : ((service.withObservations observations (MagnitudeService.stationStarted
          version request.identifier)).response.stationMagnitudes).length =
            (observations.filterMap service.mCalculator.assessment.accepted).length := by
        show ([] ++ List.map _ _).length = _
        rw [List.nil_append, List.length_map]
      rw [← hlength]
      rfl
    constructor
    · intro hrefused
      exact Nat.succ.inj (stationText_injective (hnamed.message_eq hrefused))
    · intro hsame
      rw [hsame] at hnamed
      exact hnamed
  · rw [hreactor]
    refine iff_of_false ?_ ?_
    · rintro ⟨reactor, hok, -⟩
      cases hok
    · -- An observation whose calculation does not return is one of the measurements before.
      intro hall
      obtain ⟨i, hi⟩ := List.mem_iff_getElem?.mp ho
      obtain ⟨measurement, hat, hdecoded⟩ := hdecodes.measurement_at hi
      obtain ⟨o', magnitude, hdecoded', hmagnitude⟩ :=
        hall measurement (List.mem_of_getElem? hat)
      obtain rfl : o = o' := Except.ok.inj (hdecoded.symm.trans hdecoded')
      exact hnot ⟨_, hmagnitude⟩

end Station

/-! ## Both endpoints -/

/-- A request with a malformed measurement is never told its number by both endpoints: the
network endpoint names the number of measurements before it, and the station endpoint is
right exactly when each of these has a magnitude. -/
theorem malformed_measurement_is_misnumbered (inverse : Distance.Inverse F)
    (version : Version) (service : MagnitudeService F) (clientMetadata : ClientMetadata)
    (stationRequest : Api.StationMagnitudesFromAmplitudesRequest F)
    (networkRequest : Api.NetworkMagnitudeFromAmplitudesRequest F)
    (given : Api.Hypocenter F) (hypocenter : Hypocenter F) (k : Nat)
    (hhypocenter : Hypocenter.ofMessage given = .ok hypocenter)
    (hstation : stationRequest.hypocenter = some given)
    (hnetwork : networkRequest.hypocenter = some given)
    (hsame : stationRequest.stationAmplitudeMeasurements =
      networkRequest.stationAmplitudeMeasurements)
    (hfirst : FirstMalformed inverse hypocenter networkRequest.stationAmplitudeMeasurements k) :
    ¬ (RefusedWith (stationText k)
          (stationReactor inverse version service clientMetadata stationRequest) ∧
        RefusedWith (networkText k)
          (networkReactor inverse version service clientMetadata networkRequest)) ∧
      (service.Authorizes clientMetadata →
        RefusedWith (networkText (k - 1))
            (networkReactor inverse version service clientMetadata networkRequest) ∧
          (RefusedWith (stationText k)
              (stationReactor inverse version service clientMetadata stationRequest) ↔
            ∀ measurement ∈ stationRequest.stationAmplitudeMeasurements.take (k - 1),
              HasMagnitude inverse hypocenter service measurement)) := by
  refine ⟨?_, fun hauthorized => ⟨?_, ?_⟩⟩
  · rintro ⟨-, hrefused⟩
    exact not_networkReactor_refusedWith hnetwork hhypocenter hfirst version hrefused
  · exact networkReactor_refusedWith hauthorized hnetwork hhypocenter hfirst version
  · rw [← hsame] at hfirst
    exact stationReactor_refusedWith_iff hauthorized hstation hhypocenter hfirst version

/-! ## A measurement without a correction in front -/

/-- A measurement without amplitudes. -/
def emptyMeasurement : Api.StationAmplitudeMeasurement ℚ where
  amplitudeStream1 := none
  amplitudeStream2 := none
  stationLocation := none

/-- The first measurement has no station correction, the second one no amplitudes. -/
def misnumberedMeasurements : List (Api.StationAmplitudeMeasurement ℚ) :=
  [Rationals.measurement Rationals.uu (bytes "CVRU") 20 20, emptyMeasurement]

def misnumberedStationRequest : Api.StationMagnitudesFromAmplitudesRequest ℚ where
  identifier := none
  stationAmplitudeMeasurements := misnumberedMeasurements
  hypocenter := some Rationals.event

def misnumberedNetworkRequest : Api.NetworkMagnitudeFromAmplitudesRequest ℚ where
  identifier := none
  stationAmplitudeMeasurements := misnumberedMeasurements
  hypocenter := some Rationals.event

theorem firstMalformed_misnumberedMeasurements :
    FirstMalformed Rationals.inverse Rationals.hypocenter misnumberedMeasurements 2 := by
  refine ⟨[Rationals.measurement Rationals.uu (bytes "CVRU") 20 20], emptyMeasurement, [], rfl,
    rfl, ?_, .invalidArgument "First amplitude not set", by decide +kernel⟩
  intro measurement hmem
  obtain rfl := List.mem_singleton.mp hmem
  exact ⟨_, Rationals.eq_ok_of_isOk (by decide +kernel) {}⟩

/-- Both endpoints say that the first measurement is malformed, while it is the second. -/
theorem second_measurement_is_called_first :
    FirstMalformed Rationals.inverse Rationals.hypocenter misnumberedMeasurements 2 ∧
      RefusedWith "Measurement 1 is malformed" (stationReactor Rationals.inverse
        Rationals.version Rationals.magnitudeService [] misnumberedStationRequest) ∧
      RefusedWith "Check hypocenter and 1 measurement" (networkReactor Rationals.inverse
        Rationals.version Rationals.magnitudeService [] misnumberedNetworkRequest) ∧
      ¬ (RefusedWith (stationText 2) (stationReactor Rationals.inverse
          Rationals.version Rationals.magnitudeService [] misnumberedStationRequest) ∧
        RefusedWith (networkText 2) (networkReactor Rationals.inverse
          Rationals.version Rationals.magnitudeService [] misnumberedNetworkRequest)) := by
  have hstation : RefusedWith "Measurement 1 is malformed" (stationReactor Rationals.inverse
      Rationals.version Rationals.magnitudeService [] misnumberedStationRequest) :=
    ⟨_, Rationals.eq_ok_of_isOk (by decide +kernel) { mRouteName := "", response := {} },
      by decide +kernel⟩
  have hnetwork : RefusedWith "Check hypocenter and 1 measurement"
      (networkReactor Rationals.inverse Rationals.version Rationals.magnitudeService []
        misnumberedNetworkRequest) :=
    ⟨_, Rationals.eq_ok_of_isOk (by decide +kernel) { mRouteName := "", response := {} },
      by decide +kernel⟩
  refine ⟨firstMalformed_misnumberedMeasurements, hstation, hnetwork, ?_⟩
  rintro ⟨hrefused, -⟩
  exact absurd (hrefused.message_eq hstation) (by decide)

/-- The network endpoint names the one measurement in front. -/
theorem malformed_measurement_is_misnumbered_two :
    ¬ (RefusedWith (stationText 2) (stationReactor Rationals.inverse
          Rationals.version Rationals.magnitudeService [] misnumberedStationRequest) ∧
        RefusedWith (networkText 2) (networkReactor Rationals.inverse
          Rationals.version Rationals.magnitudeService [] misnumberedNetworkRequest)) ∧
      RefusedWith (networkText 1) (networkReactor Rationals.inverse
        Rationals.version Rationals.magnitudeService [] misnumberedNetworkRequest) := by
  have hboth := malformed_measurement_is_misnumbered Rationals.inverse Rationals.version
    Rationals.magnitudeService [] misnumberedStationRequest misnumberedNetworkRequest
    Rationals.event Rationals.hypocenter 2 (Rationals.eq_ok_of_isOk (by decide +kernel) _)
    rfl rfl rfl
    firstMalformed_misnumberedMeasurements
  exact ⟨hboth.1, (hboth.2 (Rationals.service_authorizes _ _ _ _)).1⟩

end Properties
end ULocalMagnitude
