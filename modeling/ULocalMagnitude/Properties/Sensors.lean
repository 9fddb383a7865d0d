import ULocalMagnitude.Properties.StationNames

/-!
# The sensor of a pair of amplitudes

Two amplitudes are meant to come from two components of one sensor.  The channels and
the location codes are compared as they are, the network and station codes by their
joined name; a pair from two stations with one name is accepted, and nothing else is
that should not be.
-/

namespace ULocalMagnitude
namespace Properties

open Cxx Magnitude
open Observation (setAmplitudes stationOf withoutComponent)

variable {F : Type} [Arithmetic F]

/-- The texts have equal length and differ in the last character and nowhere else. -/
def DifferInLast (s t : Bytes) : Prop :=
  ∃ stem c d, s = stem ++ [c] ∧ t = stem ++ [d] ∧ c ≠ d

/-- Everything that is asked of a pair besides the station. -/
structure ComponentsMatch (amplitudes : Amplitude F × Amplitude F) : Prop where
  firstValue : amplitudes.1.hasValue = true
  secondValue : amplitudes.2.hasValue = true
  firstIdentifier : amplitudes.1.hasIdentifier = true
  secondIdentifier : amplitudes.2.hasIdentifier = true
  firstComplete : amplitudes.1.mIdentifier.Complete
  secondComplete : amplitudes.2.mIdentifier.Complete
  locationCode : amplitudes.1.mIdentifier.mLocationCode =
    amplitudes.2.mIdentifier.mLocationCode
  channel : DifferInLast amplitudes.1.mIdentifier.mChannel amplitudes.2.mIdentifier.mChannel

/-- The amplitudes come from one sensor. -/
structure FromOneSensor (amplitudes : Amplitude F × Amplitude F) : Prop
    extends ComponentsMatch amplitudes where
  network : amplitudes.1.mIdentifier.mNetwork = amplitudes.2.mIdentifier.mNetwork
  station : amplitudes.1.mIdentifier.mStation = amplitudes.2.mIdentifier.mStation

/-- The call accepts the pair exactly when it comes from one sensor, whose station it then
names; when it throws, the observation is unchanged. -/
structure AcceptsOneSensor (observation : Observation F)
    (amplitudes : Amplitude F × Amplitude F) : Prop where
  accepts : (∃ after, (setAmplitudes amplitudes).call observation = .ok after) ↔
    FromOneSensor amplitudes
  named : ∀ after, (setAmplitudes amplitudes).call observation = .ok after →
    after.getStationName = .ok (joined dot amplitudes.1.mIdentifier.mNetwork
      amplitudes.1.mIdentifier.mStation)
  unchanged : (∀ after, (setAmplitudes amplitudes).call observation ≠ .ok after) →
    (setAmplitudes amplitudes).state observation = observation

/-! ## Channels and names -/

theorem withoutComponent_eq_dropLast (channel : Bytes) :
    withoutComponent channel = channel.dropLast :=
  List.dropLast_eq_take.symm

/-- Different channels that agree without the component differ in it. -/
theorem differInLast_iff {s t : Bytes} (hs : s ≠ []) (ht : t ≠ []) :
    DifferInLast s t ↔ withoutComponent s = withoutComponent t ∧ s ≠ t := by
  rw [withoutComponent_eq_dropLast, withoutComponent_eq_dropLast]
  constructor
  · rintro ⟨stem, c, d, rfl, rfl, hdiffer⟩
    rw [List.dropLast_concat, List.dropLast_concat]
    refine ⟨rfl, fun h => hdiffer ?_⟩
    exact List.singleton_injective (List.append_cancel_left h)
  · rintro ⟨hstem, hdiffer⟩
    have hs' := List.dropLast_append_getLast hs
    have ht' := List.dropLast_append_getLast ht
    refine ⟨s.dropLast, s.getLast hs, t.getLast ht, hs'.symm, ?_, fun hlast => hdiffer ?_⟩
    · rw [hstem, ht']
    · rw [← hs', ← ht', hstem, hlast]

/-- For streams of one station name and location code the names tell the channels
apart. -/
theorem name_eq_name_iff_channel {p q : StreamIdentifier}
    (hstation : joined dot p.mNetwork p.mStation = joined dot q.mNetwork q.mStation)
    (hlocation : p.mLocationCode = q.mLocationCode) :
    p.name = q.name ↔ p.mChannel = q.mChannel := by
  unfold joined at hstation
  unfold StreamIdentifier.name
  rw [hstation, hlocation]
  by_cases hempty : q.mLocationCode = []
  · simp [hempty]
  · simp [hempty]

/-! ## Accepted pairs -/

section Amplitudes

variable {amplitude : Amplitude F} (h : amplitude.IsReachable)

include h

/-- The codes of the station are those of the stream, which are in normal form. -/
theorem stationOf_eq (hset : amplitude.hasIdentifier = true) :
    stationOf amplitude =
      { mNetwork := amplitude.mIdentifier.mNetwork,
        mStation := amplitude.mIdentifier.mStation } := by
  obtain ⟨-, hreachable⟩ := h.inv.identifier hset
  unfold stationOf
  rw [hreachable.normal.network, hreachable.normal.station]

theorem usable_iff : Observation.Usable amplitude ↔
    amplitude.hasValue = true ∧ amplitude.hasIdentifier = true ∧
      amplitude.mIdentifier.Complete := by
  constructor
  · intro husable
    exact ⟨husable.value, husable.identifier, husable.complete⟩
  · rintro ⟨hvalue, hset, hcomplete⟩
    have hstation := stationOf_eq h hset
    exact
      { value := hvalue
        identifier := hset
        complete := hcomplete
        network := by rw [hstation]; exact hcomplete.network
        station := by rw [hstation]; exact hcomplete.station }

end Amplitudes

section Pairs

variable {amplitudes : Amplitude F × Amplitude F} (h1 : amplitudes.1.IsReachable)
  (h2 : amplitudes.2.IsReachable)

include h1 h2

/-- The check accepts what matches at stations with one joined name. -/
theorem paired_iff :
    Observation.Paired amplitudes ↔
      ComponentsMatch amplitudes ∧
        (stationOf amplitudes.1).name = (stationOf amplitudes.2).name := by
  constructor
  · intro hpaired
    obtain ⟨hvalue1, hset1, hcomplete1⟩ := (usable_iff h1).mp hpaired.first
    obtain ⟨hvalue2, hset2, hcomplete2⟩ := (usable_iff h2).mp hpaired.second
    have hstation := hpaired.station
    rw [stationOf_eq h1 hset1, stationOf_eq h2 hset2] at hstation
    have hchannel : amplitudes.1.mIdentifier.mChannel ≠ amplitudes.2.mIdentifier.mChannel :=
      fun hsame => hpaired.name
        ((name_eq_name_iff_channel hstation hpaired.locationCode).mpr hsame)
    -- The names of the streams differ in the channel only, and the prefixes agree.
    exact ⟨⟨hvalue1, hvalue2, hset1, hset2, hcomplete1, hcomplete2, hpaired.locationCode,
      (differInLast_iff hcomplete1.channel hcomplete2.channel).mpr
        ⟨hpaired.channel, hchannel⟩⟩, hpaired.station⟩
  · rintro ⟨hmatch, hname⟩
    have hset1 := hmatch.firstIdentifier
    have hset2 := hmatch.secondIdentifier
    obtain ⟨hchannel, hdiffer⟩ := (differInLast_iff hmatch.firstComplete.channel
      hmatch.secondComplete.channel).mp hmatch.channel
    have hstation := hname
    rw [stationOf_eq h1 hset1, stationOf_eq h2 hset2] at hstation
    exact
      { first := (usable_iff h1).mpr ⟨hmatch.firstValue, hset1, hmatch.firstComplete⟩
        second := (usable_iff h2).mpr ⟨hmatch.secondValue, hset2, hmatch.secondComplete⟩
        name := fun hsame => hdiffer
          ((name_eq_name_iff_channel hstation hmatch.locationCode).mp hsame)
        station := hname
        locationCode := hmatch.locationCode
        channel := hchannel }

/-- One sensor: what matches, with the codes of one station. -/
theorem fromOneSensor_iff :
    FromOneSensor amplitudes ↔
      ComponentsMatch amplitudes ∧ stationOf amplitudes.1 = stationOf amplitudes.2 := by
  constructor
  · intro hsensor
    refine ⟨hsensor.toComponentsMatch, ?_⟩
    rw [stationOf_eq h1 hsensor.firstIdentifier, stationOf_eq h2 hsensor.secondIdentifier,
      hsensor.network, hsensor.station]
  · rintro ⟨hmatch, hstation⟩
    rw [stationOf_eq h1 hmatch.firstIdentifier, stationOf_eq h2 hmatch.secondIdentifier,
      Corrections.StationIdentifier.mk.injEq] at hstation
    exact { hmatch with network := hstation.1, station := hstation.2 }

/-- A pair is accepted exactly when it comes from one sensor, as long as it is not a
matching pair from two stations with one name. -/
theorem amplitudes_come_from_one_sensor_iff (observation : Observation F) :
    AcceptsOneSensor observation amplitudes ↔
      ¬ (ComponentsMatch amplitudes ∧
        OneName (stationOf amplitudes.1) (stationOf amplitudes.2)) := by
  have haccepted : (∃ after, (setAmplitudes amplitudes).call observation = .ok after) ↔
      Observation.Paired amplitudes := by
    simp only [Observation.call_setAmplitudes_eq_ok, exists_and_left, exists_eq', and_true]
  constructor
  · rintro hcorrect ⟨hmatch, hconfusable⟩
    have hname := (Corrections.StationIdentifier.name_eq_name_iff _ _).mpr (Or.inr hconfusable)
    -- The check would accept the pair for its name, but the codes differ.
    have hsensor := hcorrect.accepts.mp (haccepted.mpr ((paired_iff h1 h2).mpr ⟨hmatch, hname⟩))
    obtain ⟨-, hstation⟩ := (fromOneSensor_iff h1 h2).mp hsensor
    exact hconfusable.ne (congrArg Corrections.StationIdentifier.codes hstation)
  · intro hclear
    refine ⟨?_, ?_, ?_⟩
    · rw [haccepted, paired_iff h1 h2, fromOneSensor_iff h1 h2,
        Corrections.StationIdentifier.name_eq_name_iff]
      constructor
      · rintro ⟨hmatch, hsame | hconfusable⟩
        · exact ⟨hmatch, hsame⟩
        · exact absurd ⟨hmatch, hconfusable⟩ hclear
      · rintro ⟨hmatch, hsame⟩
        exact ⟨hmatch, Or.inl hsame⟩
    · intro after hafter
      obtain ⟨hpaired, rfl⟩ := Observation.call_setAmplitudes_eq_ok.mp hafter
      have hstation := stationOf_eq h1 hpaired.first.identifier
      show Except.ok (stationOf amplitudes.1).name = _
      rw [hstation]
      rfl
    · intro hrefused
      -- A call that is refused leaves the observation as it was.
      rcases (Observation.setter_atomic (.amplitudes amplitudes)).state_cases observation with
        hsame | ⟨u, hreturned⟩
      · exact hsame
      · exact absurd (Method.call_of_exec hreturned) (hrefused _)

end Pairs

/-! ## Two sensors with one station name -/

/-- The amplitude of a message. -/
def amplitudeOf (network station channel : Bytes) (value : ℚ) : Amplitude ℚ :=
  Rationals.returned
    (Amplitude.ofMessage (Rationals.amplitude network station channel value)) {}

theorem amplitudeOf_isReachable (network station channel : Bytes) (value : ℚ)
    (h : (Amplitude.ofMessage (Rationals.amplitude network station channel value)).isOk =
      true) : (amplitudeOf network station channel value).IsReachable :=
  .init (Or.inr ⟨_, Rationals.eq_ok_of_isOk h _⟩)

/-- One component of station `C` of network `A.B` and one of station `B.C` of network
`A`. -/
def dottedAmplitudes : Amplitude ℚ × Amplitude ℚ :=
  (amplitudeOf (bytes "A.B") (bytes "C") (bytes "HHN") 2,
    amplitudeOf (bytes "A") (bytes "B.C") (bytes "HHE") 2)

/-- The two components of one sensor. -/
def plainAmplitudes : Amplitude ℚ × Amplitude ℚ :=
  (amplitudeOf (bytes "UU") (bytes "ASU7") (bytes "HHN") 2,
    amplitudeOf (bytes "UU") (bytes "ASU7") (bytes "HHE") 2)

theorem dottedAmplitudes_isReachable :
    dottedAmplitudes.1.IsReachable ∧ dottedAmplitudes.2.IsReachable :=
  ⟨amplitudeOf_isReachable (bytes "A.B") (bytes "C") (bytes "HHN") 2 (by decide +kernel),
    amplitudeOf_isReachable (bytes "A") (bytes "B.C") (bytes "HHE") 2 (by decide +kernel)⟩

theorem plainAmplitudes_isReachable :
    plainAmplitudes.1.IsReachable ∧ plainAmplitudes.2.IsReachable :=
  ⟨amplitudeOf_isReachable (bytes "UU") (bytes "ASU7") (bytes "HHN") 2 (by decide +kernel),
    amplitudeOf_isReachable (bytes "UU") (bytes "ASU7") (bytes "HHE") 2 (by decide +kernel)⟩

/-- The components of two sensors are accepted as a pair. -/
theorem dotted_sensors_are_confused :
    dottedAmplitudes.1.IsReachable ∧ dottedAmplitudes.2.IsReachable ∧
      (∃ after, (setAmplitudes dottedAmplitudes).call ({} : Observation ℚ) = .ok after) ∧
      ¬ FromOneSensor dottedAmplitudes ∧
      ¬ AcceptsOneSensor ({} : Observation ℚ) dottedAmplitudes := by
  have haccepted : ∃ after,
      (setAmplitudes dottedAmplitudes).call ({} : Observation ℚ) = .ok after :=
    ⟨_, Rationals.eq_ok_of_isOk (by decide +kernel) {}⟩
  have hdifferent : ¬ FromOneSensor dottedAmplitudes := by
    intro hsensor
    exact absurd hsensor.network (by decide +kernel)
  exact ⟨dottedAmplitudes_isReachable.1, dottedAmplitudes_isReachable.2, haccepted, hdifferent,
    fun hcorrect => hdifferent (hcorrect.accepts.mp haccepted)⟩

/-- Without dots in the codes the check is right. -/
theorem plain_amplitudes_come_from_one_sensor :
    AcceptsOneSensor ({} : Observation ℚ) plainAmplitudes := by
  obtain ⟨hfirst, hsecond⟩ := plainAmplitudes_isReachable
  have hplain : dot ∉ (stationOf plainAmplitudes.1).codes.1 := by decide +kernel
  have hplain' : dot ∉ (stationOf plainAmplitudes.2).codes.1 := by decide +kernel
  refine (amplitudes_come_from_one_sensor_iff hfirst hsecond {}).mpr ?_
  rintro ⟨-, hconfusable⟩
  exact not_confusable_of_not_mem hplain hplain' hconfusable

end Properties
end ULocalMagnitude
