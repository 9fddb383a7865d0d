import ULocalMagnitude.Cxx.ClassInvariants
import ULocalMagnitude.Corrections.Stations
import ULocalMagnitude.Magnitude.NetworkMagnitudeCalculator
import ULocalMagnitude.Grpc.MagnitudeServiceOptions
import ULocalMagnitude.WaveformProcessing.PacketMessage

/-!
# The classes of the library

The classes that can be copied keep their data behind a `std::unique_ptr` to an implementation
class and have the same copy and move members.  Here are the constructors and the non-constant
members of each of them, with the objects of other classes that they are given.  The overloads
for rvalues are given temporaries.

* `method_checksFirst` — the arguments of a call decide alone whether it throws;
* `keeps` — the reachable states of its class are what every object keeps to.
-/

namespace ULocalMagnitude

open Cxx Corrections Magnitude Grpc WaveformProcessing

/-- The classes that can be copied and moved. -/
inductive ClassName where
  | streamIdentifier
  -- The streams of waveforms have a class of their own, with the same text.
  | waveformStreamIdentifier
  | stationIdentifier
  | stationOptions
  | station
  | stationsSet
  | stations
  | distanceOptions
  | distance
  | stationLocation
  | hypocenter
  | amplitude
  | observation
  | stationMagnitude
  | residual
  | networkMagnitude
  | stationMagnitudeCalculator
  | networkMagnitudeCalculatorOptions
  | networkMagnitudeCalculator
  | serverOptions
  | magnitudeServiceOptions
  | packet
deriving DecidableEq

/-- What the library leaves to others. -/
structure Externals (F : Type) [Arithmetic F] where
  inverse : Distance.Inverse F
  timestampToNanoseconds : Api.Timestamp → Int64
  native : Endian

namespace ClassName

variable (F : Type) [ExactArithmetic F]

/-- The implementation class. -/
def Impl : ClassName → Type
  | streamIdentifier => StreamIdentifier
  | waveformStreamIdentifier => StreamIdentifier
  | stationIdentifier => StationIdentifier
  | stationOptions => StationOptions F
  | station => Station F
  | stationsSet => StationsSet F
  | stations => Stations F
  | distanceOptions => DistanceOptions F
  | distance => Distance F
  | stationLocation => StationLocation F
  | hypocenter => Hypocenter F
  | amplitude => Amplitude F
  | observation => Observation F
  | stationMagnitude => StationMagnitude F
  | residual => Residual F
  | networkMagnitude => NetworkMagnitude F
  | stationMagnitudeCalculator => StationMagnitudeCalculator F
  | networkMagnitudeCalculatorOptions => NetworkMagnitudeCalculatorOptions F
  | networkMagnitudeCalculator => NetworkMagnitudeCalculator F
  | serverOptions => ServerOptions
  | magnitudeServiceOptions => MagnitudeServiceOptions F
  | packet => Packet F

/-- A constructor with its arguments; there are none for the default constructor. -/
def Constructor : ClassName → Type
  | streamIdentifier => Option Api.StreamIdentifier
  | waveformStreamIdentifier => Option Api.StreamIdentifier
  | stationIdentifier => Option (StreamIdentifier ⊕ Api.StationIdentifier)
  | stationOptions => Unit
  | station => StationOptions F
  | stationsSet => Unit
  | stations => StationsSet F
  | distanceOptions => Unit
  | distance => DistanceOptions F
  | stationLocation => Option (Api.StationLocation F)
  | hypocenter => Option (Api.Hypocenter F)
  | amplitude => Option (Api.Amplitude F)
  | observation =>
      Option (Api.StationAmplitudeMeasurement F × (Hypocenter F ⊕ Api.Hypocenter F))
  | stationMagnitude => Unit
  | residual => Unit
  | networkMagnitude => Unit
  | stationMagnitudeCalculator => Station F × Distance F
  | networkMagnitudeCalculatorOptions => Unit
  | networkMagnitudeCalculator => NetworkMagnitudeCalculatorOptions F
  | serverOptions => Unit
  | magnitudeServiceOptions => Unit
  | packet => Option (Api.Packet F)

/-- A non-constant member function with its arguments. -/
def Call : ClassName → Type
  | streamIdentifier => StreamIdentifier.Setter
  | waveformStreamIdentifier => StreamIdentifier.Setter
  | stationIdentifier => StationIdentifier.Setter
  | stationOptions => StationOptions.Setter F
  | station => Empty
  | stationsSet => StationsSet.Insertion F
  | stations => Empty
  | distanceOptions => DistanceOptions.Setter F
  | distance => Empty
  | stationLocation => StationLocation.Setter F
  | hypocenter => Hypocenter.Setter F
  | amplitude => Amplitude.Setter F
  | observation => Observation.Setter F
  | stationMagnitude => StationMagnitude.Setter F
  | residual => Residual.Setter F
  | networkMagnitude => NetworkMagnitude.Setter F
  | stationMagnitudeCalculator => Empty
  | networkMagnitudeCalculatorOptions => NetworkMagnitudeCalculatorOptions.Setter F
  | networkMagnitudeCalculator => Empty
  | serverOptions => ServerOptions.Setter
  | magnitudeServiceOptions => MagnitudeServiceOptions.Setter F
  | packet => Packet.Setter F

/-- An object with its class. -/
abbrev Object : Type := Sigma (Impl F)

variable {F}

/-- What a constructor makes, if it does not throw. -/
def constructed (externals : Externals F) :
    (className : ClassName) → Constructor F className → Throws (Impl F className)
  | streamIdentifier, none => .ok ({} : StreamIdentifier)
  | streamIdentifier, some message => StreamIdentifier.ofMessage message
  | waveformStreamIdentifier, none => .ok ({} : StreamIdentifier)
  | waveformStreamIdentifier, some message => StreamIdentifier.ofMessage message
  | stationIdentifier, none => .ok ({} : StationIdentifier)
  | stationIdentifier, some (.inl identifier) => StationIdentifier.ofStreamIdentifier identifier
  | stationIdentifier, some (.inr message) => StationIdentifier.ofMessage message
  | stationOptions, () => .ok ({} : StationOptions F)
  | station, options => Station.ofOptions options
  | stationsSet, () => .ok ({} : StationsSet F)
  | stations, set => Stations.ofSet set
  | distanceOptions, () => .ok ({} : DistanceOptions F)
  | distance, options => Distance.ofOptions options
  | stationLocation, none => .ok ({} : StationLocation F)
  | stationLocation, some message => StationLocation.ofMessage message
  | hypocenter, none => .ok ({} : Hypocenter F)
  | hypocenter, some message => Hypocenter.ofMessage message
  | amplitude, none => .ok ({} : Amplitude F)
  | amplitude, some message => Amplitude.ofMessage message
  | observation, none => .ok ({} : Observation F)
  | observation, some (measurement, .inl origin) =>
      Observation.ofMeasurement externals.inverse measurement origin
  | observation, some (measurement, .inr message) =>
      Observation.ofMessages externals.inverse measurement message
  | stationMagnitude, () => .ok ({} : StationMagnitude F)
  | residual, () => .ok ({} : Residual F)
  | networkMagnitude, () => .ok ({} : NetworkMagnitude F)
  | stationMagnitudeCalculator, (stationCorrection, distanceCorrection) =>
      StationMagnitudeCalculator.ofCorrections stationCorrection distanceCorrection
  | networkMagnitudeCalculatorOptions, () => .ok ({} : NetworkMagnitudeCalculatorOptions F)
  | networkMagnitudeCalculator, options => NetworkMagnitudeCalculator.ofOptions options
  | serverOptions, () => .ok ({} : ServerOptions)
  | magnitudeServiceOptions, () => .ok ({} : MagnitudeServiceOptions F)
  | packet, none => .ok ({} : Packet F)
  | packet, some message =>
      Packet.ofMessage externals.timestampToNanoseconds externals.native message

/-- What a call does. -/
def method (externals : Externals F) :
    (className : ClassName) → Call F className → Method (Impl F className) Unit
  | streamIdentifier, setter => StreamIdentifier.Setter.method setter
  | waveformStreamIdentifier, setter => StreamIdentifier.Setter.method setter
  | stationIdentifier, setter => StationIdentifier.Setter.method setter
  | stationOptions, setter => StationOptions.Setter.method setter
  -- Whether the correction was inserted is not looked at.
  | stationsSet, insertion => do
      let _ ← StationsSet.Insertion.method insertion
      return ()
  | distanceOptions, setter => DistanceOptions.Setter.method setter
  | stationLocation, setter => StationLocation.Setter.method setter
  | hypocenter, setter => Hypocenter.Setter.method setter
  | amplitude, setter => Amplitude.Setter.method setter
  | observation, setter => Observation.Setter.method setter
  | stationMagnitude, setter => StationMagnitude.Setter.method setter
  | residual, setter => Residual.Setter.method setter
  | networkMagnitude, setter => NetworkMagnitude.Setter.method setter
  | networkMagnitudeCalculatorOptions, setter =>
      NetworkMagnitudeCalculatorOptions.Setter.method setter
  | serverOptions, setter => ServerOptions.Setter.method setter
  | magnitudeServiceOptions, setter => MagnitudeServiceOptions.Setter.method setter
  | packet, setter => Packet.Setter.method externals.native setter

/-- What a call throws because of its arguments.  All members throw before they look at their
object, so a new one is as good as any. -/
def refused (externals : Externals F) :
    (className : ClassName) → Call F className → Option Fault
  | streamIdentifier, call => (method externals streamIdentifier call).thrownAt
      ({} : StreamIdentifier)
  | waveformStreamIdentifier, call => (method externals waveformStreamIdentifier call).thrownAt
      ({} : StreamIdentifier)
  | stationIdentifier, call => (method externals stationIdentifier call).thrownAt
      ({} : StationIdentifier)
  | stationOptions, call => (method externals stationOptions call).thrownAt
      ({} : StationOptions F)
  | stationsSet, call => (method externals stationsSet call).thrownAt ({} : StationsSet F)
  | distanceOptions, call => (method externals distanceOptions call).thrownAt
      ({} : DistanceOptions F)
  | stationLocation, call => (method externals stationLocation call).thrownAt
      ({} : StationLocation F)
  | hypocenter, call => (method externals hypocenter call).thrownAt ({} : Hypocenter F)
  | amplitude, call => (method externals amplitude call).thrownAt ({} : Amplitude F)
  | observation, call => (method externals observation call).thrownAt ({} : Observation F)
  | stationMagnitude, call => (method externals stationMagnitude call).thrownAt
      ({} : StationMagnitude F)
  | residual, call => (method externals residual call).thrownAt ({} : Residual F)
  | networkMagnitude, call => (method externals networkMagnitude call).thrownAt
      ({} : NetworkMagnitude F)
  | networkMagnitudeCalculatorOptions, call =>
      (method externals networkMagnitudeCalculatorOptions call).thrownAt
        ({} : NetworkMagnitudeCalculatorOptions F)
  | serverOptions, call => (method externals serverOptions call).thrownAt ({} : ServerOptions)
  | magnitudeServiceOptions, call => (method externals magnitudeServiceOptions call).thrownAt
      ({} : MagnitudeServiceOptions F)
  | packet, call => (method externals packet call).thrownAt ({} : Packet F)

/-- The objects that a constructor is given. -/
def constructorTakes : (className : ClassName) → Constructor F className → List (Object F)
  | stationIdentifier, some (.inl identifier) => [⟨streamIdentifier, identifier⟩]
  | station, options => [⟨stationOptions, options⟩]
  | stations, set => [⟨stationsSet, set⟩]
  | distance, options => [⟨distanceOptions, options⟩]
  | observation, some (_, .inl origin) => [⟨hypocenter, origin⟩]
  | stationMagnitudeCalculator, (stationCorrection, distanceCorrection) =>
      [⟨station, stationCorrection⟩, ⟨distance, distanceCorrection⟩]
  | networkMagnitudeCalculator, options => [⟨networkMagnitudeCalculatorOptions, options⟩]
  | _, _ => []

/-- The objects that a member function is given. -/
def methodTakes : (className : ClassName) → Call F className → List (Object F)
  | stationOptions, .identifier identifier => [⟨stationIdentifier, identifier⟩]
  | stationsSet, insertion => [⟨station, insertion.correction⟩]
  | amplitude, .identifier identifier => [⟨streamIdentifier, identifier⟩]
  | observation, .amplitudes amplitudes =>
      [⟨amplitude, amplitudes.1⟩, ⟨amplitude, amplitudes.2⟩]
  | stationMagnitude, .amplitudes amplitudes =>
      [⟨amplitude, amplitudes.1⟩, ⟨amplitude, amplitudes.2⟩]
  | residual, .movedStationMagnitude magnitude => [⟨stationMagnitude, magnitude⟩]
  | residual, .copiedStationMagnitude magnitude => [⟨stationMagnitude, magnitude⟩]
  | networkMagnitude, .movedResiduals residuals =>
      residuals.map fun element => ⟨residual, element.1⟩
  | networkMagnitude, .copiedResiduals residuals =>
      residuals.map fun element => ⟨residual, element.1⟩
  | networkMagnitudeCalculatorOptions, .distanceCorrections corrections =>
      [⟨distance, corrections⟩]
  | networkMagnitudeCalculatorOptions, .stationCorrections corrections =>
      [⟨stationsSet, corrections⟩]
  | magnitudeServiceOptions, .grpcOptions options => [⟨serverOptions, options⟩]
  | magnitudeServiceOptions, .networkMagnitudeCalculatorOptions options =>
      [⟨networkMagnitudeCalculatorOptions, options⟩]
  | _, _ => []

/-- The members of the classes. -/
def classes (externals : Externals F) : Ownership.Classes (Impl F) (Constructor F) (Call F) where
  constructed := constructed externals
  refuses := refused externals
  method := method externals
  constructorTakes := constructorTakes
  methodTakes := methodTakes

/-! ## What calls throw -/

open Cxx.Method (ChecksFirst)

theorem setAmplitudes_checksFirst (amplitudes : Amplitude F × Amplitude F) :
    (StationMagnitude.setAmplitudes amplitudes).ChecksFirst := by
  by_cases hpaired : Observation.Paired amplitudes
  · exact Or.inl fun magnitude =>
      ⟨(), _, Method.call_eq_ok_iff.mp
        (StationMagnitude.call_setAmplitudes_of_paired hpaired magnitude)⟩
  · -- A pair that an observation refuses is not looked at any more.
    cases hobservation : (Observation.setAmplitudes amplitudes).call {} with
    | ok observation =>
        exact absurd (Observation.call_setAmplitudes_eq_ok.mp hobservation).1 hpaired
    | error fault =>
        refine Or.inr ⟨fault, fun magnitude => ?_⟩
        unfold StationMagnitude.setAmplitudes
        rw [hobservation]
        rfl

theorem insert_checksFirst (insertion : StationsSet.Insertion F) :
    (StationsSet.Insertion.method insertion).ChecksFirst := by
  refine .lift_bind fun _ => .lift_bind fun name => .get_bind fun set => ?_
  split
  · split
    · exact ⟨true, _, rfl⟩
    · exact ⟨false, _, rfl⟩
  · exact ⟨true, _, rfl⟩

/-- Both setters of the station magnitude check it first. -/
theorem residual_checksFirst (setter : Residual.Setter F) :
    (Residual.Setter.method setter).ChecksFirst := by
  have hset (magnitude : StationMagnitude F) :
      (Residual.setStationMagnitude magnitude).ChecksFirst :=
    .lift_bind fun _ => .lift_bind fun _ => .lift_bind fun _ => .lift_bind fun _ => .modify _
  cases setter with
  | value value => exact .modify _
  | movedStationMagnitude magnitude =>
      rw [Residual.Setter.method, Residual.withLocal_setStationMagnitudeMoving]
      exact hset magnitude
  | copiedStationMagnitude magnitude =>
      rw [Residual.Setter.method, Residual.setStationMagnitudeCopying_some]
      exact hset magnitude

/-- Both setters of the residuals check all of them first. -/
theorem networkMagnitude_checksFirst (setter : NetworkMagnitude.Setter F) :
    (NetworkMagnitude.Setter.method setter).ChecksFirst := by
  have hset (residuals : List (Residual F × Int)) :
      (NetworkMagnitude.setResiduals residuals).ChecksFirst :=
    .lift_bind fun _ => .lift_bind fun _ => .modify _
  cases setter with
  | value value => exact .lift_bind fun _ => .modify _
  | movedResiduals residuals =>
      rw [NetworkMagnitude.Setter.method, NetworkMagnitude.withLocal_setResidualsMoving]
      exact hset residuals
  | copiedResiduals residuals =>
      rw [NetworkMagnitude.Setter.method, NetworkMagnitude.setResidualsCopying_intact]
      exact hset residuals
  | rejectedObservations rejected => exact .lift_bind fun _ => .modify _

/-- The arguments of a call decide alone whether it throws. -/
theorem method_checksFirst (externals : Externals F) (className : ClassName)
    (call : Call F className) : (method externals className call).ChecksFirst := by
  have hstream (setter : StreamIdentifier.Setter) : setter.method.ChecksFirst := by
    cases setter with
    | network network => exact .lift_bind fun _ => .modify _
    | station station => exact .lift_bind fun _ => .modify _
    | channel channel => exact .lift_bind fun _ => .modify _
    | locationCode code => exact .modify _
  cases className with
  | streamIdentifier => exact hstream call
  | waveformStreamIdentifier => exact hstream call
  | stationIdentifier =>
      cases call with
      | network network => exact .lift_bind fun _ => .modify _
      | station station => exact .lift_bind fun _ => .modify _
  | stationOptions =>
      cases call with
      | identifier identifier => exact .lift_bind fun _ => .lift_bind fun _ => .modify _
      | correction correction => exact .modify _
  | station => exact call.elim
  | stationsSet => exact (insert_checksFirst call).bind_pure ()
  | stations => exact call.elim
  | distanceOptions =>
      cases call with
      | interpolation interpolation => exact .modify _
      | type type => exact .modify _
      | datum datum => exact .lift_bind fun _ => .lift_bind fun _ => .modify _
      | corrections corrections =>
          exact .lift_bind fun _ => .lift_bind fun _ => .lift_bind fun _ => .lift_bind fun _ =>
            .modify _
  | distance => exact call.elim
  | stationLocation =>
      cases call with
      | latitude latitude => exact .lift_bind fun _ => .modify _
      | longitude longitude => exact .lift_bind fun _ => .modify _
  | hypocenter =>
      cases call with
      | latitude latitude => exact .lift_bind fun _ => .modify _
      | longitude longitude => exact .lift_bind fun _ => .modify _
      | depth depth => exact .lift_bind fun _ => .lift_bind fun _ => .modify _
  | amplitude =>
      cases call with
      | value value => exact .lift_bind fun _ => .lift_bind fun _ => .modify _
      | identifier identifier =>
          exact .lift_bind fun _ => .lift_bind fun _ => .lift_bind fun _ => .lift_bind fun _ =>
            .modify _
  | observation =>
      cases call with
      | amplitudes amplitudes => exact .lift_bind fun _ => .modify _
      | epicentralDistance distance =>
          exact .lift_bind fun _ => .lift_bind fun _ => .lift_bind fun _ => .modify _
      | depth depth => exact .lift_bind fun _ => .lift_bind fun _ => .modify _
  | stationMagnitude =>
      cases call with
      | value value => exact .lift_bind fun _ => .modify _
      | stationCorrection correction => exact .lift_bind fun _ => .modify _
      | distanceCorrection correction => exact .lift_bind fun _ => .modify _
      | amplitudes amplitudes => exact setAmplitudes_checksFirst amplitudes
  | residual => exact residual_checksFirst call
  | networkMagnitude => exact networkMagnitude_checksFirst call
  | stationMagnitudeCalculator => exact call.elim
  | networkMagnitudeCalculatorOptions =>
      cases call with
      | distanceCorrections corrections => exact .lift_bind fun _ => .modify _
      | stationCorrections corrections => exact .lift_bind fun _ => .modify _
      | minimumNumberOfStationMagnitudes minimum => exact .lift_bind fun _ => .modify _
      | strategy strategy => exact .modify _
  | networkMagnitudeCalculator => exact call.elim
  | serverOptions =>
      cases call with
      | reflectionEnabled => exact .modify _
      | reflectionDisabled => exact .modify _
      | _ => exact .lift_bind fun _ => .modify _
  | magnitudeServiceOptions =>
      cases call with
      | grpcOptions options => exact .lift_bind fun _ => .modify _
      | networkMagnitudeCalculatorOptions options => exact .lift_bind fun _ => .modify _
      | maximumRequestMessageSizeInBytes size => exact .lift_bind fun _ => .modify _
  | packet =>
      cases call with
      | startTime time => exact .modify _
      | samplingRate rate => exact .lift_bind fun _ => .lift_bind fun _ => .modify _
      | data type data nSamples => exact .lift_bind fun _ => .lift_bind fun _ => .modify _

/-- There are calls on objects that can be made of nothing. -/
theorem exists_refused_eq (externals : Externals F) (className : ClassName)
    (call : Call F className) :
    ∃ object, refused externals className call =
      (method externals className call).thrownAt object := by
  cases className with
  | station => exact call.elim
  | stations => exact call.elim
  | distance => exact call.elim
  | stationMagnitudeCalculator => exact call.elim
  | networkMagnitudeCalculator => exact call.elim
  | _ => exact ⟨_, rfl⟩

/-- What is refused throws at all objects and leaves them. -/
theorem refused_eq_some_iff {externals : Externals F} {className : ClassName}
    {call : Call F className} {fault : Fault} :
    refused externals className call = some fault ↔
      ∀ object, method externals className call object = .error fault object := by
  obtain ⟨made, hrefused⟩ := exists_refused_eq externals className call
  rw [hrefused]
  exact (method_checksFirst externals className call).thrownAt_eq_some_iff

/-- What is not refused returns for all objects. -/
theorem refused_eq_none_iff {externals : Externals F} {className : ClassName}
    {call : Call F className} :
    refused externals className call = none ↔
      ∀ object, ∃ passed after, method externals className call object = .ok passed after := by
  obtain ⟨made, hrefused⟩ := exists_refused_eq externals className call
  rw [hrefused]
  exact (method_checksFirst externals className call).thrownAt_eq_none_iff

/-! ## What objects can become -/

/-- The states of an object that was made by a constructor of its class and then used through
members of its class only, all with objects made in the same way. -/
def IsReachable (externals : Externals F) :
    (className : ClassName) → Impl F className → Prop
  | streamIdentifier => StreamIdentifier.IsReachable
  | waveformStreamIdentifier => StreamIdentifier.IsReachable
  | stationIdentifier => StationIdentifier.IsReachable
  | stationOptions => StationOptions.IsReachable
  | station => Station.IsReachable
  | stationsSet => StationsSet.IsReachable
  | stations => fun corrections =>
      ∃ set, StationsSet.IsReachable set ∧ Stations.ofSet set = .ok corrections
  | distanceOptions => DistanceOptions.IsReachable
  | distance => Distance.IsReachable
  | stationLocation => StationLocation.IsReachable
  | hypocenter => Hypocenter.IsReachable
  | amplitude => Amplitude.IsReachable
  | observation => Observation.IsReachable
  | stationMagnitude => StationMagnitude.IsReachable
  | residual => Residual.IsReachable
  | networkMagnitude => NetworkMagnitude.IsReachable
  | stationMagnitudeCalculator => fun calculator =>
      ∃ stationCorrection distanceCorrection, Station.IsReachable stationCorrection ∧
        Distance.IsReachable distanceCorrection ∧
        StationMagnitudeCalculator.ofCorrections stationCorrection distanceCorrection =
          .ok calculator
  | networkMagnitudeCalculatorOptions => NetworkMagnitudeCalculatorOptions.IsReachable
  | networkMagnitudeCalculator => NetworkMagnitudeCalculator.IsReachable
  | serverOptions => ServerOptions.IsReachable
  | magnitudeServiceOptions =>
      Reachable (fun built => built = {}) MagnitudeServiceOptions.Setter.method
        MagnitudeServiceOptions.Setter.Admissible
  | packet =>
      Reachable (fun built => built = {} ∨ ∃ message, Packet.ofMessage
          externals.timestampToNanoseconds externals.native message = .ok built)
        (Packet.Setter.method externals.native) (fun _ => True)

variable {externals : Externals F}

theorem isReachable_of_constructed (className : ClassName)
    (constructor : Constructor F className) (object : Impl F className)
    (htakes : ∀ other ∈ constructorTakes className constructor,
      IsReachable externals other.1 other.2)
    (h : constructed externals className constructor = .ok object) :
    IsReachable externals className object := by
  cases className with
  | streamIdentifier =>
      cases constructor with
      | none => exact .init (.inl (Except.ok.inj h).symm)
      | some message => exact .init (.inr ⟨message, h⟩)
  | waveformStreamIdentifier =>
      cases constructor with
      | none => exact .init (.inl (Except.ok.inj h).symm)
      | some message => exact .init (.inr ⟨message, h⟩)
  | stationIdentifier =>
      cases constructor with
      | none => exact .init (.inl (Except.ok.inj h).symm)
      | some source =>
          cases source with
          | inl identifier =>
              exact .init (.inr (.inl ⟨identifier, htakes _ (List.mem_singleton_self _), h⟩))
          | inr message => exact .init (.inr (.inr ⟨message, h⟩))
  | stationOptions => exact .init (Except.ok.inj h).symm
  | station => exact ⟨constructor, htakes _ (List.mem_singleton_self _), h⟩
  | stationsSet => exact .init (Except.ok.inj h).symm
  | stations => exact ⟨constructor, htakes _ (List.mem_singleton_self _), h⟩
  | distanceOptions => exact .init (Except.ok.inj h).symm
  | distance => exact ⟨constructor, htakes _ (List.mem_singleton_self _), h⟩
  | stationLocation =>
      cases constructor with
      | none => exact .init (.inl (Except.ok.inj h).symm)
      | some message => exact .init (.inr ⟨message, h⟩)
  | hypocenter =>
      cases constructor with
      | none => exact .init (.inl (Except.ok.inj h).symm)
      | some message => exact .init (.inr ⟨message, h⟩)
  | amplitude =>
      cases constructor with
      | none => exact .init (.inl (Except.ok.inj h).symm)
      | some message => exact .init (.inr ⟨message, h⟩)
  | observation =>
      cases constructor with
      | none => exact .init (.inl (Except.ok.inj h).symm)
      | some given =>
          obtain ⟨measurement, origin⟩ := given
          cases origin with
          | inl origin => exact .init (.inr ⟨externals.inverse, measurement, origin, h⟩)
          | inr message =>
              obtain ⟨origin, -, h⟩ := bind_eq_ok.mp h
              exact .init (.inr ⟨externals.inverse, measurement, origin, h⟩)
  | stationMagnitude => exact .init (Except.ok.inj h).symm
  | residual => exact .init (Except.ok.inj h).symm
  | networkMagnitude => exact .init (Except.ok.inj h).symm
  | stationMagnitudeCalculator =>
      exact ⟨constructor.1, constructor.2, htakes _ List.mem_cons_self,
        htakes _ (List.mem_cons_of_mem _ List.mem_cons_self), h⟩
  | networkMagnitudeCalculatorOptions => exact .init (Except.ok.inj h).symm
  | networkMagnitudeCalculator => exact ⟨constructor, htakes _ (List.mem_singleton_self _), h⟩
  | serverOptions => exact .init (Except.ok.inj h).symm
  | magnitudeServiceOptions => exact .init (Except.ok.inj h).symm
  | packet =>
      cases constructor with
      | none => exact .init (.inl (Except.ok.inj h).symm)
      | some message => exact .init (.inr ⟨message, h⟩)

/-- What a call returns is not part of its object. -/
theorem state_discard {σ α : Type} (call : Method σ α) (object : σ) :
    Method.state (do
      let _ ← call
      return ()) object = call.state object := by
  show Method.state (EStateM.bind call fun _ => EStateM.pure ()) object = _
  unfold Method.state EStateM.bind
  cases call object with
  | ok result after => rfl
  | error fault after => rfl

theorem isReachable_of_method (className : ClassName) (call : Call F className)
    (object : Impl F className)
    (htakes : ∀ other ∈ methodTakes className call, IsReachable externals other.1 other.2)
    (h : IsReachable externals className object) :
    IsReachable externals className ((method externals className call).state object) := by
  cases className with
  | streamIdentifier => exact Reachable.call h trivial
  | waveformStreamIdentifier => exact Reachable.call h trivial
  | stationIdentifier => exact Reachable.call h trivial
  | stationOptions =>
      refine Reachable.call h ?_
      cases call with
      | identifier identifier => exact htakes _ (List.mem_singleton_self _)
      | correction correction => trivial
  | station => exact call.elim
  | stationsSet =>
      have hstate : (method externals stationsSet call).state object =
          (StationsSet.Insertion.method call).state object := state_discard _ _
      rw [hstate]
      exact Reachable.call h (htakes _ (List.mem_singleton_self _))
  | stations => exact call.elim
  | distanceOptions => exact Reachable.call h trivial
  | distance => exact call.elim
  | stationLocation => exact Reachable.call h trivial
  | hypocenter => exact Reachable.call h trivial
  | amplitude =>
      refine Reachable.call h ?_
      cases call with
      | value value => trivial
      | identifier identifier => exact htakes _ (List.mem_singleton_self _)
  | observation =>
      refine Reachable.call h ?_
      cases call with
      | amplitudes amplitudes =>
          exact ⟨htakes _ List.mem_cons_self,
            htakes _ (List.mem_cons_of_mem _ List.mem_cons_self)⟩
      | epicentralDistance distance => trivial
      | depth depth => trivial
  | stationMagnitude =>
      refine Reachable.call h ?_
      cases call with
      | amplitudes amplitudes =>
          exact ⟨htakes _ List.mem_cons_self,
            htakes _ (List.mem_cons_of_mem _ List.mem_cons_self)⟩
      | value value => trivial
      | stationCorrection correction => trivial
      | distanceCorrection correction => trivial
  | residual =>
      refine Reachable.call h ?_
      cases call with
      | value value => trivial
      | movedStationMagnitude magnitude => exact htakes _ (List.mem_singleton_self _)
      | copiedStationMagnitude magnitude => exact htakes _ (List.mem_singleton_self _)
  | networkMagnitude =>
      refine Reachable.call h ?_
      cases call with
      | value value => trivial
      | movedResiduals residuals =>
          exact fun element helement => htakes _ (List.mem_map_of_mem helement)
      | copiedResiduals residuals =>
          exact fun element helement => htakes _ (List.mem_map_of_mem helement)
      | rejectedObservations rejectedObservations => trivial
  | stationMagnitudeCalculator => exact call.elim
  | networkMagnitudeCalculatorOptions =>
      refine Reachable.call h ?_
      cases call with
      | distanceCorrections corrections => exact htakes _ (List.mem_singleton_self _)
      | stationCorrections corrections => exact htakes _ (List.mem_singleton_self _)
      | minimumNumberOfStationMagnitudes minimum => trivial
      | strategy strategy => trivial
  | networkMagnitudeCalculator => exact call.elim
  | serverOptions => exact Reachable.call h trivial
  | magnitudeServiceOptions =>
      refine Reachable.call h ?_
      cases call with
      | grpcOptions options => trivial
      | networkMagnitudeCalculatorOptions options => exact htakes _ (List.mem_singleton_self _)
      | maximumRequestMessageSizeInBytes size => trivial
  | packet => exact Reachable.call h trivial

/-- The states of its class are what every object keeps to. -/
theorem keeps (externals : Externals F) :
    Ownership.Keeps (classes externals).together fun object =>
      IsReachable externals object.1 object.2 :=
  Ownership.Classes.KeepEach.together
    { constructed := isReachable_of_constructed, method := isReachable_of_method }

end ClassName
end ULocalMagnitude
