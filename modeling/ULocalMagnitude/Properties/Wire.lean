import ULocalMagnitude.Rationals

/-!
# Round trips through the messages

An object that is written to a message and read back is the same object, and a message
that is read is written in normal form: normalized codes, a location code that is always
there, millimeters.  Reading and writing the normal form changes nothing more.
-/

namespace ULocalMagnitude
namespace Properties

open Cxx Magnitude
open Corrections (StationIdentifier)

variable {F : Type} [ExactArithmetic F]

section Codecs

variable {σ μ : Type} (encode : σ → Throws μ) (decode : μ → Throws σ)

/-- What is written is read back. -/
def RoundTrips (object : σ) : Prop :=
  ∃ message, encode object = .ok message ∧ decode message = .ok object

/-- A message that is read is written in its normal form, which stands for the same
object. -/
def Settles (message normal : μ) : Prop :=
  ∀ object, decode message = .ok object →
    encode object = .ok normal ∧ decode normal = .ok object

variable {encode decode}

theorem RoundTrips.decode_eq {object : σ} {message : μ} (h : RoundTrips encode decode object)
    (hmessage : encode object = .ok message) : decode message = .ok object := by
  obtain ⟨message', hmessage', hobject⟩ := h
  obtain rfl : message = message' := Except.ok.inj (hmessage.symm.trans hmessage')
  exact hobject

/-- Objects that make round trips settle their messages. -/
theorem settles_of_roundTrips {message normal : μ}
    (h : ∀ object, decode message = .ok object →
      RoundTrips encode decode object ∧ encode object = .ok normal) :
    Settles encode decode message normal := by
  intro object hobject
  obtain ⟨htrip, hnormal⟩ := h object hobject
  exact ⟨hnormal, htrip.decode_eq hnormal⟩

end Codecs

/-! ## Normal forms of messages -/

def normalStream (message : Api.StreamIdentifier) : Api.StreamIdentifier where
  network := message.network.map capitalized
  station := message.station.map capitalized
  channel := message.channel.map capitalized
  locationCode := some (capitalized (message.locationCode.getD []))

def normalStation (message : Api.StationIdentifier) : Api.StationIdentifier where
  network := message.network.map capitalized
  station := message.station.map capitalized

/-- The value of a message in millimeters. -/
def millimeters (message : Api.Amplitude F) : Option (Double F) := do
  let value ← message.value
  let scale ← Amplitude.millimetersPer (← message.units)
  return value * .finite scale

def normalAmplitude (message : Api.Amplitude F) : Api.Amplitude F where
  streamIdentifier := message.streamIdentifier.map normalStream
  value := millimeters message
  units := some .millimeters

/-! ## Stream identifiers -/

theorem streamIdentifier_roundTrips {identifier : StreamIdentifier}
    (hnormal : identifier.Normal) (hcomplete : identifier.Complete) :
    RoundTrips StreamIdentifier.toMessage StreamIdentifier.ofMessage identifier := by
  refine ⟨_, hcomplete.toMessage, StreamIdentifier.ofMessage_eq_ok.mpr
    ⟨_, _, _, rfl, rfl, rfl, ?_, ?_, ?_, ?_⟩⟩
  · rw [hnormal.network]
    exact hcomplete.network
  · rw [hnormal.station]
    exact hcomplete.station
  · rw [hnormal.channel]
    exact hcomplete.channel
  · -- The location code was set, so the flag that reading sets is set already.
    rw [hnormal.network, hnormal.station, hnormal.channel, Option.getD_some,
      hnormal.locationCode, ← hcomplete.locationCode]

theorem normal_of_ofMessage {message : Api.StreamIdentifier} {identifier : StreamIdentifier}
    (h : StreamIdentifier.ofMessage message = .ok identifier) : identifier.Normal :=
  StreamIdentifier.IsReachable.normal (.init (Or.inr ⟨message, h⟩))

theorem streamIdentifier_settles (message : Api.StreamIdentifier) :
    Settles StreamIdentifier.toMessage StreamIdentifier.ofMessage message
      (normalStream message) := by
  refine settles_of_roundTrips fun identifier hidentifier => ?_
  have hcomplete := StreamIdentifier.complete_of_ofMessage hidentifier
  refine ⟨streamIdentifier_roundTrips (normal_of_ofMessage hidentifier) hcomplete, ?_⟩
  rw [hcomplete.toMessage]
  obtain ⟨network, station, channel, hnetwork, hstation, hchannel, -, -, -, rfl⟩ :=
    StreamIdentifier.ofMessage_eq_ok.mp hidentifier
  unfold normalStream
  rw [hnetwork, hstation, hchannel]
  rfl

/-! ## Station identifiers -/

theorem stationIdentifier_roundTrips {identifier : StationIdentifier}
    (hnormal : identifier.Normal) (hcomplete : identifier.Complete) :
    RoundTrips StationIdentifier.toMessage StationIdentifier.ofMessage identifier := by
  refine ⟨_, hcomplete.toMessage, StationIdentifier.ofMessage_eq_ok.mpr
    ⟨_, _, rfl, rfl, ?_, ?_, ?_⟩⟩
  · rw [hnormal.network]
    exact hcomplete.network
  · rw [hnormal.station]
    exact hcomplete.station
  · rw [hnormal.network, hnormal.station]

theorem stationIdentifier_settles (message : Api.StationIdentifier) :
    Settles StationIdentifier.toMessage StationIdentifier.ofMessage message
      (normalStation message) := by
  refine settles_of_roundTrips fun identifier hidentifier => ?_
  have hcomplete := StationIdentifier.complete_of_ofMessage hidentifier
  have hnormal : identifier.Normal :=
    StationIdentifier.IsReachable.normal (.init (Or.inr (Or.inr ⟨message, hidentifier⟩)))
  refine ⟨stationIdentifier_roundTrips hnormal hcomplete, ?_⟩
  rw [hcomplete.toMessage]
  obtain ⟨network, station, hnetwork, hstation, -, -, rfl⟩ :=
    StationIdentifier.ofMessage_eq_ok.mp hidentifier
  unfold normalStation
  rw [hnetwork, hstation]
  rfl

/-- The station of a stream that was read is the one that is read from a message with the
same texts; the second copy of the normalizer leaves what the first one made. -/
theorem ofStreamIdentifier_of_ofMessage {message : Api.StreamIdentifier}
    {identifier : StreamIdentifier} (h : StreamIdentifier.ofMessage message = .ok identifier) :
    ∃ station, StationIdentifier.ofStreamIdentifier identifier = .ok station ∧
      StationIdentifier.ofMessage { network := message.network, station := message.station } =
        .ok station := by
  have hnormal := normal_of_ofMessage h
  have hcomplete := StreamIdentifier.complete_of_ofMessage h
  obtain ⟨network, station, channel, hnetwork, hstation, -, hn, hs, -, rfl⟩ :=
    StreamIdentifier.ofMessage_eq_ok.mp h
  refine ⟨_, StationIdentifier.ofStreamIdentifier_eq_ok.mpr ⟨?_, ?_, rfl⟩,
    StationIdentifier.ofMessage_eq_ok.mpr ⟨network, station, hnetwork, hstation, hn, hs, ?_⟩⟩
  · rw [hnormal.network]
    exact hcomplete.network
  · rw [hnormal.station]
    exact hcomplete.station
  · rw [hnormal.network, hnormal.station]

/-! ## Amplitudes -/

theorem toMessage_eq {amplitude : Amplitude F} (hset : amplitude.mHasIdentifier = true)
    (hvalue : amplitude.hasValue = true) {message : Api.StreamIdentifier}
    (hmessage : amplitude.mIdentifier.toMessage = .ok message) :
    amplitude.toMessage =
      .ok { streamIdentifier := some message, value := some amplitude.mValue,
            units := some .millimeters } := by
  unfold Amplitude.toMessage
  rw [Amplitude.getIdentifier_eq_ok.mpr ⟨hset, rfl⟩, bind_ok, hmessage, bind_ok,
    Amplitude.getValue_eq_ok hvalue]
  rfl

theorem amplitude_roundTrips {amplitude : Amplitude F} (h : amplitude.Inv)
    (hvalue : amplitude.hasValue = true) (hset : amplitude.hasIdentifier = true) :
    RoundTrips Amplitude.toMessage Amplitude.ofMessage amplitude := by
  obtain ⟨hcomplete, hreachable⟩ := h.identifier hset
  obtain ⟨x, hx, hpositive⟩ := h.exists_value hvalue
  -- The amplitude's identifier makes its own round trip; the scale of millimeters is one.
  obtain ⟨message, hmessage, hidentifier⟩ :=
    streamIdentifier_roundTrips hreachable.normal hcomplete
  refine ⟨_, toMessage_eq hset hvalue hmessage, Amplitude.ofMessage_eq_ok.mpr
    ⟨message, .millimeters, x, 1, amplitude.mIdentifier, rfl, congrArg some hx, rfl, rfl, ?_,
      hidentifier, ?_⟩⟩
  · rw [mul_one]
    exact hpositive
  · rw [mul_one, ← hx, ← hset]
    rfl

theorem amplitude_settles (message : Api.Amplitude F) :
    Settles Amplitude.toMessage Amplitude.ofMessage message (normalAmplitude message) := by
  refine settles_of_roundTrips fun amplitude hamplitude => ?_
  have hinv : amplitude.Inv := Amplitude.IsReachable.inv (.init (Or.inr ⟨message, hamplitude⟩))
  obtain ⟨stream, units, v, scale, identifier, hstream, hv, hunits, hscale, hpositive,
    hidentifier, rfl⟩ := Amplitude.ofMessage_eq_ok.mp hamplitude
  -- What was read has a positive value, so it can be written.
  have hvalue : Amplitude.hasValue
      ({ mIdentifier := identifier, mValue := .finite (v * scale),
         mHasIdentifier := true } : Amplitude F) = true := decide_eq_true hpositive
  obtain ⟨hwritten, -⟩ := streamIdentifier_settles stream identifier hidentifier
  refine ⟨amplitude_roundTrips hinv hvalue rfl, ?_⟩
  rw [toMessage_eq rfl hvalue hwritten]
  unfold normalAmplitude millimeters
  rw [hstream, hv, hunits]
  simp only [Option.map_some, Option.bind_eq_bind, Option.bind_some, hscale,
    Double.finite_mul_finite]
  rfl

/-- Amplitudes and identifiers make round trips through their messages, the messages that
are accepted settle in normal form, and the station of a stream is read alike from both
messages. -/
theorem messages_round_trip :
    (∀ amplitude : Amplitude F, amplitude.IsReachable → amplitude.hasValue = true →
      amplitude.hasIdentifier = true →
        RoundTrips Amplitude.toMessage Amplitude.ofMessage amplitude) ∧
    (∀ message : Api.Amplitude F,
      Settles Amplitude.toMessage Amplitude.ofMessage message (normalAmplitude message)) ∧
    (∀ identifier : StreamIdentifier, identifier.IsReachable → identifier.Complete →
      RoundTrips StreamIdentifier.toMessage StreamIdentifier.ofMessage identifier) ∧
    (∀ message : Api.StreamIdentifier,
      Settles StreamIdentifier.toMessage StreamIdentifier.ofMessage message
        (normalStream message)) ∧
    (∀ identifier : StationIdentifier, identifier.IsReachable → identifier.Complete →
      RoundTrips StationIdentifier.toMessage StationIdentifier.ofMessage identifier) ∧
    (∀ message : Api.StationIdentifier,
      Settles StationIdentifier.toMessage StationIdentifier.ofMessage message
        (normalStation message)) ∧
    ∀ (message : Api.StreamIdentifier) (identifier : StreamIdentifier),
      StreamIdentifier.ofMessage message = .ok identifier →
        ∃ station, StationIdentifier.ofStreamIdentifier identifier = .ok station ∧
          StationIdentifier.ofMessage
            { network := message.network, station := message.station } = .ok station := by
  refine ⟨?_, amplitude_settles, ?_, streamIdentifier_settles, ?_, stationIdentifier_settles,
    fun message identifier => ofStreamIdentifier_of_ofMessage⟩
  · intro amplitude hreachable hvalue hset
    exact amplitude_roundTrips hreachable.inv hvalue hset
  · intro identifier hreachable hcomplete
    exact streamIdentifier_roundTrips hreachable.normal hcomplete
  · intro identifier hreachable hcomplete
    exact stationIdentifier_roundTrips hreachable.normal hcomplete

/-! ## A message in centimeters -/

/-- Two centimeters, with blanks and small letters in the codes and no location code. -/
def spelledAmplitude : Api.Amplitude ℚ where
  streamIdentifier := some
    { network := some (bytes " uu"), station := some (bytes "asu7"),
      channel := some (bytes "hhN "), locationCode := none }
  value := some (.finite 2)
  units := some .centimeters

/-- The same in millimeters. -/
def writtenAmplitude : Api.Amplitude ℚ where
  streamIdentifier := some
    { network := some (bytes "UU"), station := some (bytes "ASU7"),
      channel := some (bytes "HHN"), locationCode := some (bytes "") }
  value := some (.finite 20)
  units := some .millimeters

def readAmplitude : Amplitude ℚ := Rationals.returned (Amplitude.ofMessage spelledAmplitude) {}

def readIdentifier : StreamIdentifier :=
  Rationals.returned (StreamIdentifier.ofMessage
    ((spelledAmplitude.streamIdentifier).getD ⟨none, none, none, none⟩)) {}

/-- The amplitude is read, written in millimeters and read again. -/
theorem centimeters_settle_in_millimeters :
    RoundTrips Amplitude.toMessage Amplitude.ofMessage readAmplitude ∧
      readAmplitude.toMessage = .ok writtenAmplitude ∧
      RoundTrips StreamIdentifier.toMessage StreamIdentifier.ofMessage readIdentifier ∧
      RoundTrips StationIdentifier.toMessage StationIdentifier.ofMessage
        (Rationals.identifier (bytes "uu") (bytes "asu7")) ∧
      ∃ station, StationIdentifier.ofStreamIdentifier readIdentifier = .ok station ∧
        StationIdentifier.ofMessage
          { network := some (bytes " uu"), station := some (bytes "asu7") } = .ok station := by
  obtain ⟨hamplitudes, hmessages, hstreams, -, hstations, -, hsame⟩ :=
    messages_round_trip (F := ℚ)
  have hread : Amplitude.ofMessage spelledAmplitude = .ok readAmplitude :=
    Rationals.eq_ok_of_isOk (by decide +kernel) _
  have hidentifier : StreamIdentifier.ofMessage
      ((spelledAmplitude.streamIdentifier).getD ⟨none, none, none, none⟩) =
        .ok readIdentifier := Rationals.eq_ok_of_isOk (by decide +kernel) _
  have hnormal : normalAmplitude spelledAmplitude = writtenAmplitude := by decide +kernel
  refine ⟨hamplitudes readAmplitude (.init (Or.inr ⟨_, hread⟩)) (by decide +kernel)
    (by decide +kernel), ?_, ?_, ?_, hsame _ readIdentifier hidentifier⟩
  · rw [← hnormal]
    exact (hmessages spelledAmplitude readAmplitude hread).1
  · exact hstreams readIdentifier (.init (Or.inr ⟨_, hidentifier⟩))
      (StreamIdentifier.complete_of_ofMessage hidentifier)
  · have hreachable := @Rationals.identifier_isReachable (bytes "uu") (bytes "asu7") (by decide)
      (by decide)
    exact hstations _ hreachable ⟨by decide, by decide⟩

end Properties
end ULocalMagnitude
