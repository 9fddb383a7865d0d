import ULocalMagnitude.Grpc.Responses
import Mathlib.Data.Int.Log
import Mathlib.Data.Rat.Sqrt

/-!
# The service in rational arithmetic

At `ℚ` the whole program runs.  `log10` is exact at the powers of ten and `hypot` at
the rational right triangles; elsewhere both round down.  The second section builds
networks from their corrections by the calls that a client of the classes makes, so
what it builds is reachable as soon as the constructors return.
-/

namespace ULocalMagnitude
namespace Rationals

open Cxx Corrections Magnitude Grpc

instance : ExactArithmetic ℚ :=
  { (inferInstance : Field ℚ), (inferInstance : LinearOrder ℚ),
    (inferInstance : IsStrictOrderedRing ℚ), (inferInstance : FloorRing ℚ) with
    round := .finite
    round_mono := fun _ _ h => h
    round_natCast := fun _ _ => rfl
    round_eq := fun _ => rfl
    log10 := fun x => (Int.log 10 x : ℚ)
    hypot := fun x y => Rat.sqrt (x * x + y * y)
    hypot_nonneg := fun _ _ => Rat.sqrt_nonneg _
    sort := Double.stableSort
    sort_perm := fun rows _ => Double.stableSort_perm rows
    sort_sorted := fun _ => Double.stableSort_sorted }

/-! ## Networks -/

section Networks

variable {α : Type}

/-- What a call returns, or else a default. -/
def returned (x : Throws α) (default : α) : α :=
  match x with
  | .ok a => a
  | .error _ => default

theorem eq_ok_of_isOk {x : Throws α} (h : x.isOk = true) (default : α) :
    x = .ok (returned x default) := by
  cases x with
  | ok a => rfl
  | error fault => exact absurd h Bool.false_ne_true

def identifier (network station : Bytes) : StationIdentifier :=
  returned (StationIdentifier.ofMessage { network := some network, station := some station })
    {}

def stationOptions (network station : Bytes) (correction : Double ℚ) : StationOptions ℚ :=
  (StationOptions.Setter.correction correction).method.state
    ((StationOptions.Setter.identifier (identifier network station)).method.state {})

/-- A station with its correction. -/
def station (network code : Bytes) (correction : Double ℚ) : Station ℚ :=
  returned (Station.ofOptions (stationOptions network code correction))
    { mOptions := {}, mCorrection := .nan, mInitialized := false }

/-- The set of some stations, inserted in turn. -/
def stationsSet (stations : List (Station ℚ)) : StationsSet ℚ :=
  stations.foldl
    (fun set correction =>
      (StationsSet.Insertion.method { correction, overwrite := false }).state set) {}

def distanceOptions (interpolation : DistanceOptions.Interpolation)
    (type : DistanceOptions.DistanceType) (corrections : List (Double ℚ × Double ℚ)) :
    DistanceOptions ℚ :=
  (DistanceOptions.Setter.corrections corrections).method.state
    ((DistanceOptions.Setter.type type).method.state
      ((DistanceOptions.Setter.interpolation interpolation).method.state {}))

/-- A table of corrections at epicentral distances, read at the nearest one. -/
def distance (corrections : List (Double ℚ × Double ℚ)) : Distance ℚ :=
  returned (Distance.ofOptions (distanceOptions .nearest .epicentral corrections)) {}

def calculatorOptions (table : Distance ℚ) (set : StationsSet ℚ) (minimum : Int) :
    NetworkMagnitudeCalculatorOptions ℚ :=
  (NetworkMagnitudeCalculatorOptions.Setter.minimumNumberOfStationMagnitudes
      minimum).method.state
    ((NetworkMagnitudeCalculatorOptions.Setter.stationCorrections set).method.state
      ((NetworkMagnitudeCalculatorOptions.Setter.distanceCorrections table).method.state {}))

def calculator (table : Distance ℚ) (set : StationsSet ℚ) (minimum : Int) :
    NetworkMagnitudeCalculator ℚ :=
  returned (NetworkMagnitudeCalculator.ofOptions (calculatorOptions table set minimum))
    { mOptions := {} }

theorem identifier_eq {network code : Bytes} (hnetwork : capitalized network ≠ [])
    (hcode : capitalized code ≠ []) : identifier network code =
      { mNetwork := capitalized network, mStation := capitalized code } := by
  have hbuilt : StationIdentifier.ofMessage { network := some network, station := some code } =
      .ok { mNetwork := capitalized network, mStation := capitalized code } :=
    StationIdentifier.ofMessage_eq_ok.mpr ⟨_, _, rfl, rfl, hnetwork, hcode, rfl⟩
  unfold identifier
  rw [hbuilt]
  rfl

theorem identifier_isReachable {network code : Bytes} (hnetwork : capitalized network ≠ [])
    (hcode : capitalized code ≠ []) : (identifier network code).IsReachable := by
  have hbuilt : StationIdentifier.ofMessage { network := some network, station := some code } =
      .ok { mNetwork := capitalized network, mStation := capitalized code } :=
    StationIdentifier.ofMessage_eq_ok.mpr ⟨_, _, rfl, rfl, hnetwork, hcode, rfl⟩
  unfold identifier
  rw [hbuilt]
  exact .init (Or.inr (Or.inr ⟨_, hbuilt⟩))

theorem station_isReachable {network code : Bytes} (hnetwork : capitalized network ≠ [])
    (hcode : capitalized code ≠ []) {correction : Double ℚ} :
    (station network code correction).IsReachable := by
  refine ⟨stationOptions network code correction, ?_, eq_ok_of_isOk ?_ _⟩
  · have hempty : StationOptions.IsReachable ({} : StationOptions ℚ) := .init rfl
    have hidentifier : StationOptions.IsReachable
        ((StationOptions.Setter.identifier (identifier network code)).method.state {}) :=
      hempty.call (identifier_isReachable hnetwork hcode)
    exact hidentifier.call (i := StationOptions.Setter.correction correction) trivial
  · -- Both codes are there, so the setter of the identifier takes them.
    have hset := Method.state_of_call (StationOptions.call_setIdentifier_eq_ok.mpr
      ⟨by rw [identifier_eq hnetwork hcode]; exact ⟨hnetwork, hcode⟩, rfl⟩ :
        (StationOptions.setIdentifier (identifier network code)).call
          ({} : StationOptions ℚ) = _)
    unfold stationOptions
    change (Station.ofOptions ((StationOptions.setCorrection correction).state
      ((StationOptions.setIdentifier (identifier network code)).state {}))).isOk = true
    rw [hset]
    rfl

theorem stationsSet_isReachable {stations : List (Station ℚ)}
    (h : ∀ correction ∈ stations, correction.IsReachable) :
    (stationsSet stations).IsReachable := by
  have hfold (set : StationsSet ℚ) (hset : set.IsReachable) :
      (stations.foldl (fun set correction =>
        (StationsSet.Insertion.method { correction, overwrite := false }).state set)
          set).IsReachable := by
    induction stations generalizing set with
    | nil => exact hset
    | cons first rest ih =>
        have hfirst := h first (List.mem_cons_self ..)
        have hrest := fun correction hmem => h correction (List.mem_cons_of_mem first hmem)
        exact ih hrest _ (Reachable.call (i := { correction := first, overwrite := false })
          hset hfirst)
  exact hfold {} (.init rfl)

theorem distanceOptions_isReachable (interpolation : DistanceOptions.Interpolation)
    (type : DistanceOptions.DistanceType) (corrections : List (Double ℚ × Double ℚ)) :
    (distanceOptions interpolation type corrections).IsReachable := by
  have hempty : DistanceOptions.IsReachable ({} : DistanceOptions ℚ) := .init rfl
  have hinterpolation : DistanceOptions.IsReachable
      ((DistanceOptions.Setter.interpolation interpolation).method.state
        ({} : DistanceOptions ℚ)) := hempty.call trivial
  have htype : DistanceOptions.IsReachable
      ((DistanceOptions.Setter.type type).method.state
        ((DistanceOptions.Setter.interpolation interpolation).method.state
          ({} : DistanceOptions ℚ))) := hinterpolation.call trivial
  exact htype.call (i := DistanceOptions.Setter.corrections corrections) trivial

theorem distance_isReachable {corrections : List (Double ℚ × Double ℚ)}
    (h : (Distance.ofOptions (distanceOptions .nearest .epicentral corrections)).isOk =
      true) : (distance corrections).IsReachable :=
  ⟨_, distanceOptions_isReachable _ _ _, eq_ok_of_isOk h _⟩

theorem calculatorOptions_isReachable {table : Distance ℚ} {set : StationsSet ℚ}
    (htable : table.IsReachable) (hset : set.IsReachable) (minimum : Int) :
    (calculatorOptions table set minimum).IsReachable := by
  have hempty : NetworkMagnitudeCalculatorOptions.IsReachable
      ({} : NetworkMagnitudeCalculatorOptions ℚ) := .init rfl
  have hdistance : NetworkMagnitudeCalculatorOptions.IsReachable
      ((NetworkMagnitudeCalculatorOptions.Setter.distanceCorrections table).method.state
        {}) := hempty.call htable
  have hstations : NetworkMagnitudeCalculatorOptions.IsReachable
      ((NetworkMagnitudeCalculatorOptions.Setter.stationCorrections set).method.state
        ((NetworkMagnitudeCalculatorOptions.Setter.distanceCorrections table).method.state
          {})) := hdistance.call hset
  exact hstations.call trivial

/-- A table and a set with a station pass the setters. -/
theorem calculatorOptions_has {table : Distance ℚ} {set : StationsSet ℚ}
    (htable : table.IsReachable) (hnonempty : set.empty = false) (minimum : Int) :
    (calculatorOptions table set minimum).mHasDistanceCorrections = true ∧
      (calculatorOptions table set minimum).mHasStationCorrections = true := by
  have hdistance :
      (NetworkMagnitudeCalculatorOptions.Setter.distanceCorrections table).method.state {} =
        { mDistanceCorrections := some table, mHasDistanceCorrections := true } :=
    Method.state_of_call
      (NetworkMagnitudeCalculatorOptions.call_setDistanceCorrections_eq_ok.mpr
        ⟨htable.inv.initialized, rfl⟩)
  have hstations :
      (NetworkMagnitudeCalculatorOptions.Setter.stationCorrections set).method.state
          { mDistanceCorrections := some table, mHasDistanceCorrections := true } =
        { mDistanceCorrections := some table, mHasDistanceCorrections := true,
          mStationCorrections := set, mHasStationCorrections := true } :=
    Method.state_of_call
      (NetworkMagnitudeCalculatorOptions.call_setStationCorrections_eq_ok.mpr
        ⟨hnonempty, rfl⟩)
  unfold calculatorOptions
  rw [hdistance, hstations]
  rcases (NetworkMagnitudeCalculatorOptions.setter_atomic
    (.minimumNumberOfStationMagnitudes minimum :
      NetworkMagnitudeCalculatorOptions.Setter ℚ)).state_cases _ with hsame | ⟨_, hset⟩
  · rw [hsame]
    exact ⟨rfl, rfl⟩
  · rw [← (NetworkMagnitudeCalculatorOptions.call_setMinimumNumberOfStationMagnitudes_eq_ok.mp
      (Method.call_of_exec hset)).2]
    exact ⟨rfl, rfl⟩

theorem calculator_isReachable {table : Distance ℚ} {set : StationsSet ℚ}
    (htable : table.IsReachable) (hset : set.IsReachable) (hnonempty : set.empty = false)
    {minimum : Int} : (calculator table set minimum).IsReachable := by
  have hoptions := calculatorOptions_isReachable htable hset minimum
  obtain ⟨hdistance, hstations⟩ := calculatorOptions_has htable hnonempty minimum
  obtain ⟨_, hbuilt, -⟩ :=
    NetworkMagnitudeCalculator.exists_ofOptions hoptions hdistance hstations
  exact ⟨_, hoptions, eq_ok_of_isOk (by rw [hbuilt]; rfl) _⟩

/-- That all corrections are numbers is checked on the two tables. -/
theorem numeric_of_all {calculator : NetworkMagnitudeCalculator ℚ}
    (hdistance : (calculator.mOptions.getDistanceCorrections.toOption.all fun distance =>
      distance.mAbsissas.all Double.isFinite && distance.mValues.all Double.isFinite) = true)
    (hstations : (calculator.mOptions.getStationCorrections.toOption.all fun set =>
      set.mCorrections.entries.all fun entry => entry.2.mCorrection.isFinite) = true) :
    calculator.Numeric where
  distance := by
    intro distance h
    rw [h] at hdistance
    have hboth : (distance.mAbsissas.all Double.isFinite &&
        distance.mValues.all Double.isFinite) = true := hdistance
    rw [Bool.and_eq_true] at hboth
    exact ⟨List.all_eq_true.mp hboth.1, List.all_eq_true.mp hboth.2⟩
  stations := by
    intro set h name station hlookup
    rw [h] at hstations
    exact List.all_eq_true.mp hstations _ (StringMap.lookup_eq_some_iff.mp hlookup)

/-- A service without an access token. -/
def service (table : Distance ℚ) (set : StationsSet ℚ) (minimum : Int) :
    MagnitudeService ℚ where
  mCalculator := calculator table set minimum

theorem service_isReachable {table : Distance ℚ} {set : StationsSet ℚ}
    (htable : table.IsReachable) (hset : set.IsReachable) (hnonempty : set.empty = false)
    {minimum : Int} : (service table set minimum).IsReachable := by
  have hoptions := calculatorOptions_isReachable htable hset minimum
  obtain ⟨hdistance, hstations⟩ := calculatorOptions_has htable hnonempty minimum
  obtain ⟨_, hbuilt, -⟩ :=
    NetworkMagnitudeCalculator.exists_ofOptions hoptions hdistance hstations
  have hcalculator : NetworkMagnitudeCalculator.ofOptions
      (calculatorOptions table set minimum) = .ok (calculator table set minimum) :=
    eq_ok_of_isOk (by rw [hbuilt]; rfl) _
  have hinitialized : (calculator table set minimum).mInitialized = true :=
    (calculator_isReachable htable hset hnonempty).initialized
  refine ⟨_, none, hoptions, ?_⟩
  unfold MagnitudeService.ofOptions
  rw [hcalculator, bind_ok,
    throwIf_neg (by simp [NetworkMagnitudeCalculator.isInitialized, hinitialized])]
  rfl

theorem service_authorizes (table : Distance ℚ) (set : StationsSet ℚ) (minimum : Int)
    (clientMetadata : ClientMetadata) :
    (service table set minimum).Authorizes clientMetadata := by
  intro accessToken h
  cases h

end Networks

/-! ## Requests -/

/-- The amplitude of a stream, in millimeters. -/
def amplitude (network station channel : Bytes) (value : ℚ) : Api.Amplitude ℚ where
  streamIdentifier := some
    { network := some network, station := some station, channel := some channel,
      locationCode := some (bytes "01") }
  value := some (.finite value)
  units := some .millimeters

/-- The two horizontal amplitudes of a station at the epicenter of `event`. -/
def measurement (network station : Bytes) (value1 value2 : ℚ) :
    Api.StationAmplitudeMeasurement ℚ where
  amplitudeStream1 := some (amplitude network station (bytes "HHN") value1)
  amplitudeStream2 := some (amplitude network station (bytes "HHE") value2)
  stationLocation := some
    { latitude := some (.finite 41), longitude := some (.finite (-112)) }

def event : Api.Hypocenter ℚ where
  latitude := some (.finite 41)
  longitude := some (.finite (-112))
  depth := some (.finite 5000)

/-- The length of a geodesic: zero at equal points; no other points are in use here. -/
def inverse : Distance.Inverse ℚ := fun latitude longitude latitude' longitude' =>
  if latitude = latitude' ∧ longitude = longitude' then .finite 0 else .finite 111195

def hypocenter : Hypocenter ℚ := returned (Hypocenter.ofMessage event) {}

def observation (network station : Bytes) (value1 value2 : ℚ) : Observation ℚ :=
  returned (Observation.ofMeasurement inverse (measurement network station value1 value2)
    hypocenter) {}

theorem observation_isReachable {network station : Bytes} {value1 value2 : ℚ}
    (h : (Observation.ofMeasurement inverse (measurement network station value1 value2)
      hypocenter).isOk = true) : (observation network station value1 value2).IsReachable :=
  .init (Or.inr ⟨inverse, _, hypocenter, eq_ok_of_isOk h _⟩)

/-! ## A network with two corrected stations -/

def uu : Bytes := bytes "UU"

def table : Distance ℚ := distance [(.finite 0, .finite 1), (.finite 1000, .finite 2)]

def corrections : List (Station ℚ) :=
  [station uu (bytes "ASU7") (.finite 0), station uu (bytes "BSUT") (.finite (1 / 2))]

def network : NetworkMagnitudeCalculator ℚ := calculator table (stationsSet corrections) 2

def magnitudeService : MagnitudeService ℚ := service table (stationsSet corrections) 2

/-- The station in the middle has no correction. -/
def measurements : List (Api.StationAmplitudeMeasurement ℚ) :=
  [measurement uu (bytes "ASU7") 2 2, measurement uu (bytes "CVRU") 20 20,
    measurement uu (bytes "BSUT") 20 20]

def observations : List (Observation ℚ) :=
  [observation uu (bytes "ASU7") 2 2, observation uu (bytes "CVRU") 20 20,
    observation uu (bytes "BSUT") 20 20]

def request : Api.NetworkMagnitudeFromAmplitudesRequest ℚ where
  identifier := some (bytes "request")
  stationAmplitudeMeasurements := measurements
  hypocenter := some event

def version : Version where
  getVersion := bytes "1.0.0"
  getTag := []

/-- What the calculator returns for the three observations. -/
def networkMagnitude : NetworkMagnitude ℚ :=
  match network.apply observations with
  | .ok (.ok magnitude) => magnitude
  | _ => {}

/-- What the network endpoint makes of the request. -/
def reactor : Reactor (Api.NetworkMagnitudeFromAmplitudesResponse ℚ) :=
  returned (MagnitudeService.networkReactor inverse version magnitudeService [] request)
    { mRouteName := "", response := {} }

/-- The network and its observations are made through the classes, the corrections are
numbers, and calculator and endpoint return what is named above. -/
structure Sample : Prop where
  table_isReachable : table.IsReachable
  corrections_isReachable : (stationsSet corrections).IsReachable
  network_isReachable : network.IsReachable
  magnitudeService_isReachable : magnitudeService.IsReachable
  network_numeric : network.Numeric
  observations_isReachable : ∀ o ∈ observations, o.IsReachable
  network_apply : network.apply observations = .ok (.ok networkMagnitude)
  networkReactor_request :
    MagnitudeService.networkReactor inverse version magnitudeService [] request = .ok reactor
  reactor_answers : reactor.Answers .ok

theorem sample : Sample := by
  have htable : table.IsReachable := distance_isReachable (by decide +kernel)
  have hcorrections : (stationsSet corrections).IsReachable := by
    refine stationsSet_isReachable fun correction hmem => ?_
    rcases List.mem_cons.mp hmem with rfl | hmem
    · exact station_isReachable (by decide) (by decide)
    · obtain rfl := List.mem_singleton.mp hmem
      exact station_isReachable (by decide) (by decide)
  have hobservations : ∀ o ∈ observations, o.IsReachable := by
    intro o ho
    simp only [observations, List.mem_cons, List.not_mem_nil, or_false] at ho
    rcases ho with rfl | rfl | rfl
    · exact observation_isReachable (by decide +kernel)
    · exact observation_isReachable (by decide +kernel)
    · exact observation_isReachable (by decide +kernel)
  exact
    { table_isReachable := htable
      corrections_isReachable := hcorrections
      network_isReachable := calculator_isReachable htable hcorrections rfl
      magnitudeService_isReachable := service_isReachable htable hcorrections rfl
      network_numeric := numeric_of_all (by decide +kernel) (by decide +kernel)
      observations_isReachable := hobservations
      network_apply := by decide +kernel
      networkReactor_request := eq_ok_of_isOk (by decide +kernel) _
      reactor_answers := ⟨"", by decide +kernel⟩ }

end Rationals
end ULocalMagnitude
