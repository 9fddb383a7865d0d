import ULocalMagnitude.Configuration.Items
import ULocalMagnitude.Corrections.StationsSet

/-!
# Station corrections from a file

`StationsSet::fromInitializationFile`.  A row has the network, the station and the
correction, or the name of the station and the correction.  Only the second form looks for
dots.
-/

namespace ULocalMagnitude
namespace Corrections

open Cxx Configuration Magnitude

variable {F : Type} [ExactArithmetic F]

namespace StationsSet

/-! ## The initialization file -/

/-- The name of row `i` -/
def itemName (sectionName : Bytes) (i : Nat) : Bytes :=
  sectionName ++ bytes "station_correction_" ++ decimal i

def invalidFormat (name : Bytes) : Fault := .invalidArgument (toText name ++
  " invalid format; need station_correction_n = network station, number")

/-- Splits the name of a station in the first of two tokens. -/
def splitName (name : Bytes) (splitString : List Bytes) : Throws (List Bytes) := do
  match splitString with
  | [stationName, correction] =>
      match stationName.splitOnP fun c => c == dot with
      | [network, station] => return [network, station, correction]
      | _ => .error (invalidFormat name)
  | _ => return splitString

/-- One row, added to the set. -/
def readRow (name text : Bytes) (stationsSet : StationsSet F) : Throws (StationsSet F) := do
  match ← splitName name (tokens text) with
  | [network, station, number] => do
      let identifier ← (StationIdentifier.setNetwork network).call {}
      let identifier ← (StationIdentifier.setStation station).call identifier
      let (correction, nParsed) ← stod number
      throwIf (nParsed ≠ number.length)
        (.invalidArgument (toText name ++ " correction is not a number"))
      let stationOptions ← (StationOptions.setIdentifier identifier).call {}
      let stationOptions ← (StationOptions.setCorrection correction).call stationOptions
      let stationCorrection ← Station.ofOptions stationOptions
      let (added, stationsSet) ← (insert stationCorrection false).exec stationsSet
      if !added then do
        let stationName ← identifier.toString
        .error (.invalidArgument ("Failed to add correction for " ++ toText stationName ++
          "; likely a duplicate"))
      else return stationsSet
  | _ => .error (invalidFormat name)

/-- `StationsSet::fromInitializationFile` -/
def fromInitializationFile (files : FileSystem) (boost : Boost) (iniFile sectionIn : Bytes) :
    Throws (StationsSet F) := do
  throwIf (!files.doesExist iniFile)
    (.invalidArgument ("Initialization file " ++ toText iniFile ++ " does not exist"))
  let sectionName := sectionPrefix sectionIn
  let propertyTree ← boost.readIni iniFile
  forEachItem (itemName sectionName) readRow propertyTree {}

theorem itemName_injective (sectionName : Bytes) : Function.Injective (itemName sectionName) :=
  fun _ _ h => decimal_injective (List.append_cancel_left h)

/-! ## Rows -/

/-- The row has these fields, as three tokens or with the names in one. -/
def HasFields (text network station number : Bytes) : Prop :=
  tokens text = [network, station, number] ∨
    ∃ stationName, tokens text = [stationName, number] ∧
      (stationName.splitOnP fun c => c == dot) = [network, station]

/-- The correction of a station. -/
def correctionOf (network station : Bytes) (correction : Double F) : Station F where
  mOptions :=
    { mIdentifier := { mNetwork := network, mStation := station }
      mCorrection := correction
      mHasIdentifier := true
      mHasCorrection := true }
  mCorrection := correction
  mInitialized := true

/-- The row is read as a correction. -/
def IsReadAs (text : Bytes) (station : Station F) : Prop :=
  ∃ network code number correction, HasFields text network code number ∧
    capitalized network ≠ [] ∧ capitalized code ≠ [] ∧
    stod number = .ok (correction, number.length) ∧
    correctionOf (capitalized network) (capitalized code) correction = station

theorem splitName_eq_ok {name text network station number : Bytes} :
    splitName name (tokens text) = .ok [network, station, number] ↔
      HasFields text network station number := by
  unfold splitName HasFields
  constructor
  · intro h
    split at h
    · rename_i stationName correction htokens
      split at h
      · rename_i first second hsplit
        cases h
        exact Or.inr ⟨stationName, htokens, hsplit⟩
      · cases h
    · exact Or.inl (Except.ok.inj h)
  · rintro (htokens | ⟨stationName, htokens, hsplit⟩)
    · rw [htokens]
      rfl
    · rw [htokens]
      dsimp only
      rw [hsplit]
      rfl

/-- A correction that is read is made through the classes. -/
theorem isReachable_correctionOf {network station : Bytes} (hnetwork : capitalized network ≠ [])
    (hstation : capitalized station ≠ []) (correction : Double F) :
    (correctionOf (capitalized network) (capitalized station) correction).IsReachable := by
  have hbuilt : StationIdentifier.IsReachable {} := .init (Or.inl rfl)
  have hidentifier := (hbuilt.call_eq_ok (i := StationIdentifier.Setter.network network) trivial
    (StationIdentifier.call_setNetwork_eq_ok.mpr ⟨hnetwork, rfl⟩)).call_eq_ok
      (i := StationIdentifier.Setter.station station) trivial
      (StationIdentifier.call_setStation_eq_ok.mpr ⟨hstation, rfl⟩)
  have hnew : StationOptions.IsReachable ({} : StationOptions F) := .init rfl
  have hoptions := (hnew.call_eq_ok (i := StationOptions.Setter.identifier _) hidentifier
    (StationOptions.call_setIdentifier_eq_ok.mpr ⟨⟨hnetwork, hstation⟩, rfl⟩)).call_eq_ok
      (i := StationOptions.Setter.correction correction) trivial rfl
  exact ⟨_, hoptions, rfl⟩

/-- The set with one more station. -/
def withStation (set : StationsSet F) (station : Station F) : StationsSet F :=
  { set with mCorrections := set.mCorrections.insert station.name station }

/-- A row of a correction is added, unless there is one for the station. -/
theorem readRow_of_isReadAs {name text : Bytes} {set : StationsSet F} {station : Station F}
    (h : IsReadAs text station) :
    readRow name text set = if station.name ∈ set.mCorrections
      then .error (.invalidArgument ("Failed to add correction for " ++ toText station.name ++
        "; likely a duplicate"))
      else .ok (set.withStation station) := by
  obtain ⟨network, code, number, correction, hfields, hnetwork, hcode, hnumber, rfl⟩ := h
  have hreachable := isReachable_correctionOf hnetwork hcode correction
  have hinserted := exec_insert hreachable.inv false set
  unfold readRow
  rw [splitName_eq_ok.mpr hfields, bind_ok]
  dsimp only
  rw [StationIdentifier.call_setNetwork_eq_ok.mpr ⟨hnetwork, rfl⟩, bind_ok,
    StationIdentifier.call_setStation_eq_ok.mpr ⟨hcode, rfl⟩, bind_ok, hnumber, bind_ok]
  dsimp only
  rw [throwIf_neg (not_not.mpr rfl), bind_ok,
    StationOptions.call_setIdentifier_eq_ok.mpr ⟨⟨hnetwork, hcode⟩, rfl⟩, bind_ok]
  -- From here on no setter refuses anything.
  have hoptions : (StationOptions.setCorrection correction).call
      { mIdentifier := { mNetwork := capitalized network, mStation := capitalized code }
        mHasIdentifier := true } =
      .ok (correctionOf (capitalized network) (capitalized code) correction).mOptions := rfl
  have hstation : Station.ofOptions
      (correctionOf (capitalized network) (capitalized code) correction).mOptions =
      .ok (correctionOf (capitalized network) (capitalized code) correction) := rfl
  rw [hoptions, bind_ok, hstation, bind_ok, hinserted]
  by_cases hpresent : (correctionOf (capitalized network) (capitalized code)
      correction).name ∈ set.mCorrections
  · -- The text of the exception asks for the name, which the identifier has.
    have hname : StationIdentifier.toString
        { mNetwork := capitalized network, mStation := capitalized code } = .ok
          (correctionOf (capitalized network) (capitalized code) correction).name :=
      StationIdentifier.Complete.toString hreachable.inv.complete
    rw [if_pos ⟨hpresent, rfl⟩, if_pos hpresent, bind_ok]
    dsimp only
    rw [Bool.not_false, if_pos rfl, hname, bind_ok]
  · rw [if_neg fun hboth => hpresent hboth.1, if_neg hpresent, bind_ok]
    rfl

/-- A row is added when it is read as the correction of a station that is not there. -/
theorem readRow_eq_ok {name text : Bytes} {set after : StationsSet F} :
    readRow name text set = .ok after ↔
      ∃ station, IsReadAs text station ∧ station.name ∉ set.mCorrections ∧
        set.withStation station = after := by
  constructor
  · intro h
    have hread : ∃ station : Station F, IsReadAs text station := by
      obtain ⟨splitString, hsplit, hrow⟩ := bind_eq_ok.mp h
      split at hrow
      · rename_i network code number
        obtain ⟨_, hsetNetwork, hrow⟩ := bind_eq_ok.mp hrow
        obtain ⟨_, hsetStation, hrow⟩ := bind_eq_ok.mp hrow
        obtain ⟨⟨correction, nParsed⟩, hnumber, hrow⟩ := bind_eq_ok.mp hrow
        obtain rfl : nParsed = number.length := not_not.mp (throwIf_bind_eq_ok.mp hrow).1
        exact ⟨_, network, code, number, correction, splitName_eq_ok.mp hsplit,
          (StationIdentifier.call_setNetwork_eq_ok.mp hsetNetwork).1,
          (StationIdentifier.call_setStation_eq_ok.mp hsetStation).1, hnumber, rfl⟩
      · cases hrow
    obtain ⟨station, hread⟩ := hread
    rw [readRow_of_isReadAs hread] at h
    split_ifs at h with hpresent
    exact ⟨station, hread, hpresent, Except.ok.inj h⟩
  · rintro ⟨station, hread, habsent, rfl⟩
    rw [readRow_of_isReadAs hread, if_neg habsent]

/-- The set with all the stations. -/
def withStations (set : StationsSet F) (stations : List (Station F)) : StationsSet F :=
  stations.foldl withStation set

/-- The rows are read as corrections of stations with different names. -/
theorem readRows_eq_ok {sectionName : Bytes} {i : Nat} {texts : List Bytes}
    {set after : StationsSet F} :
    readRows (itemName sectionName) readRow i texts set = .ok after ↔
      ∃ stations, List.Forall₂ IsReadAs texts stations ∧ (stations.map Station.name).Nodup ∧
        (∀ station ∈ stations, station.name ∉ set.mCorrections) ∧
        set.withStations stations = after := by
  induction texts generalizing i set with
  | nil =>
      constructor
      · intro h
        exact ⟨[], .nil, List.nodup_nil, List.forall_mem_nil _, Except.ok.inj h⟩
      · rintro ⟨stations, hstations, -, -, rfl⟩
        cases hstations
        rfl
  | cons text texts ih =>
      rw [readRows]
      constructor
      · intro h
        obtain ⟨_, hrow, h⟩ := bind_eq_ok.mp h
        obtain ⟨station, hread, habsent, rfl⟩ := readRow_eq_ok.mp hrow
        obtain ⟨stations, hstations, hnodup, hfresh, rfl⟩ := ih.mp h
        -- The later stations are new in the set that has this one already.
        have hfresh' : ∀ other ∈ stations,
            other.name ≠ station.name ∧ other.name ∉ set.mCorrections := by
          intro other hother
          rw [← not_or, ← AList.mem_insert]
          exact hfresh other hother
        refine ⟨station :: stations, .cons hread hstations, ?_, ?_, rfl⟩
        · rw [List.map_cons, List.nodup_cons]
          refine ⟨?_, hnodup⟩
          intro hmem
          obtain ⟨other, hother, hname⟩ := List.mem_map.mp hmem
          exact (hfresh' other hother).1 hname
        · exact List.forall_mem_cons.mpr ⟨habsent, fun other hother => (hfresh' other hother).2⟩
      · rintro ⟨stations, hstations, hnodup, hfresh, rfl⟩
        cases hstations with
        | @cons _ station _ stations hread hstations =>
            obtain ⟨hname, hnodup⟩ := List.nodup_cons.mp hnodup
            obtain ⟨habsent, hfresh⟩ := List.forall_mem_cons.mp hfresh
            refine bind_eq_ok.mpr ⟨_, readRow_eq_ok.mpr ⟨station, hread, habsent, rfl⟩, ?_⟩
            refine ih.mpr ⟨stations, hstations, hnodup, ?_, rfl⟩
            intro other hother hmem
            rcases (AList.mem_insert _).mp hmem with hsame | hset
            · exact hname (List.mem_map.mpr ⟨other, hother, hsame⟩)
            · exact hfresh other hother hset

/-- The section can be loaded to the set: the rows are read as corrections of stations with
different names. -/
def Loads (propertyTree : PropertyTree) (sectionName : Bytes) (set : StationsSet F) : Prop :=
  ∃ stations, List.Forall₂ IsReadAs (rowsOf (itemName sectionName) propertyTree) stations ∧
    (stations.map Station.name).Nodup ∧ withStations {} stations = set

/-- A station that is read is made through its classes. -/
theorem IsReadAs.isReachable {text : Bytes} {station : Station F} (h : IsReadAs text station) :
    station.IsReachable := by
  obtain ⟨network, code, number, correction, -, hnetwork, hcode, -, rfl⟩ := h
  exact isReachable_correctionOf hnetwork hcode correction

/-- Insertions of constructed stations make the set. -/
theorem isReachable_withStations {stations : List (Station F)} {set : StationsSet F}
    (hset : set.IsReachable) (hstations : ∀ station ∈ stations, station.IsReachable) :
    (set.withStations stations).IsReachable := by
  induction stations generalizing set with
  | nil => exact hset
  | cons station stations ih =>
      obtain ⟨hstation, hrest⟩ := List.forall_mem_cons.mp hstations
      have hexec : (Insertion.method { correction := station, overwrite := true }).exec set =
          .ok (true, set.withStation station) :=
        (exec_insert hstation.inv true set).trans (if_neg (by simp))
      have hinserted : (set.withStation station).IsReachable := by
        rw [← Method.state_of_exec hexec]
        exact hset.call (i := { correction := station, overwrite := true }) hstation
      exact ih hinserted hrest

theorem Loads.isReachable {propertyTree : PropertyTree} {sectionName : Bytes}
    {set : StationsSet F} (h : Loads propertyTree sectionName set) : set.IsReachable := by
  obtain ⟨stations, hstations, -, rfl⟩ := h
  refine isReachable_withStations (.init rfl) fun station hstation => ?_
  obtain ⟨text, -, hread⟩ := exists_row_of_mem hstations hstation
  exact hread.isReachable

/-- A file is loaded when its section can be. -/
theorem fromInitializationFile_eq_ok {files : FileSystem} {boost : Boost}
    {iniFile sectionIn : Bytes} {propertyTree : PropertyTree}
    (hexists : files.doesExist iniFile = true)
    (hread : boost.readIni iniFile = .ok propertyTree) {set : StationsSet F} :
    fromInitializationFile files boost iniFile sectionIn = .ok set ↔
      Loads propertyTree (sectionPrefix sectionIn) set := by
  unfold fromInitializationFile Loads
  rw [throwIf_neg (by simp [hexists]), bind_ok, hread, bind_ok, forEachItem_eq, readRows_eq_ok]
  constructor
  · rintro ⟨stations, hstations, hnodup, -, hset⟩
    exact ⟨stations, hstations, hnodup, hset⟩
  · rintro ⟨stations, hstations, hnodup, hset⟩
    exact ⟨stations, hstations, hnodup, fun _ _ => AList.notMem_empty _, hset⟩

/-! ## What is thrown -/

theorem raises_splitName (name text : Bytes) :
    Raises (splitName name (tokens text)) Fault.IsException := by
  unfold splitName
  split
  · split
    · exact .ok _
    · exact .error trivial
  · exact .ok _

/-- A row is added, or an exception is thrown. -/
theorem raises_readRow (name text : Bytes) (set : StationsSet F) :
    Raises (readRow name text set) Fault.IsException := by
  by_cases hread : ∃ station : Station F, IsReadAs text station
  · obtain ⟨station, hread⟩ := hread
    rw [readRow_of_isReadAs hread]
    split_ifs
    · exact .error trivial
    · exact .ok _
  · -- One of the first steps throws, since what comes after them is read.
    have hidentifier (setter : StationIdentifier.Setter) (identifier : StationIdentifier) :
        Raises (setter.method.call identifier) Fault.IsException :=
      (StationIdentifier.raises_setter setter identifier).mono
        Fault.IsInvalidArgument.isException
    refine .bind (raises_splitName name text) fun splitString hsplit => ?_
    split
    · rename_i network code number
      refine .bind (hidentifier (.network network) _) fun _ hsetNetwork => ?_
      refine .bind (hidentifier (.station code) _) fun _ hsetStation => ?_
      refine .bind (raises_stod _) fun parsed hnumber => ?_
      refine .bind (.throwIf fun _ => trivial) fun _ hthrowIf => ?_
      have hparsed : parsed.2 = number.length := not_not.mp (throwIf_eq_ok.mp hthrowIf)
      refine absurd ⟨_, network, code, number, parsed.1, splitName_eq_ok.mp hsplit,
        (StationIdentifier.call_setNetwork_eq_ok.mp hsetNetwork).1,
        (StationIdentifier.call_setStation_eq_ok.mp hsetStation).1, ?_, rfl⟩ hread
      rw [hnumber, ← hparsed]
    · exact .error trivial

/-- A file that is there and can be parsed is loaded, or an exception is thrown. -/
theorem raises_fromInitializationFile {files : FileSystem} {boost : Boost}
    {iniFile sectionIn : Bytes} {propertyTree : PropertyTree}
    (hread : boost.readIni iniFile = .ok propertyTree) :
    Raises (fromInitializationFile files boost iniFile sectionIn : Throws (StationsSet F))
      Fault.IsException := by
  refine .bind (.throwIf fun _ => trivial) fun _ _ => ?_
  dsimp only
  rw [hread, bind_ok]
  exact raises_forEachItem _ _ _ raises_readRow

/-! ## The set of a file -/

theorem entries_withStations {stations : List (Station F)} {set : StationsSet F}
    (hnodup : (stations.map Station.name).Nodup)
    (hfresh : ∀ station ∈ stations, station.name ∉ set.mCorrections) :
    (set.withStations stations).mCorrections.entries =
      (stations.reverse.map fun station => ⟨station.name, station⟩) ++
        set.mCorrections.entries := by
  induction stations generalizing set with
  | nil => rfl
  | cons station stations ih =>
      obtain ⟨hname, hnodup⟩ := List.nodup_cons.mp hnodup
      obtain ⟨habsent, hfresh⟩ := List.forall_mem_cons.mp hfresh
      have hfresh' : ∀ other ∈ stations, other.name ∉ (set.withStation station).mCorrections := by
        intro other hother hmem
        rcases (AList.mem_insert _).mp hmem with hsame | hset
        · exact hname (List.mem_map.mpr ⟨other, hother, hsame⟩)
        · exact hfresh other hother hset
      have hinserted : (set.withStation station).mCorrections.entries =
          ⟨station.name, station⟩ :: set.mCorrections.entries :=
        AList.entries_insert_of_notMem habsent
      have hrest := ih hnodup hfresh'
      unfold withStations at hrest ⊢
      rw [List.foldl_cons, hrest, hinserted, List.reverse_cons, List.map_append,
        List.append_assoc]
      rfl

section Lookups

variable {stations : List (Station F)} (hnodup : (stations.map Station.name).Nodup)

include hnodup

theorem length_withStations :
    (withStations {} stations).getCorrections.entries.length = stations.length := by
  unfold getCorrections
  rw [entries_withStations hnodup fun _ _ => AList.notMem_empty _, List.length_append,
    List.length_map, List.length_reverse]
  rfl

/-- The stations are found under their names. -/
theorem lookup_withStations {name : Bytes} {station : Station F} :
    (withStations {} stations).mCorrections.lookup name = some station ↔
      station ∈ stations ∧ station.name = name := by
  rw [StringMap.lookup_eq_some_iff,
    entries_withStations hnodup fun _ _ => AList.notMem_empty _]
  constructor
  · intro h
    rcases List.mem_append.mp h with hmem | hmem
    · obtain ⟨other, hother, hentry⟩ := List.mem_map.mp hmem
      cases hentry
      exact ⟨List.mem_reverse.mp hother, rfl⟩
    · cases hmem
  · rintro ⟨hmem, rfl⟩
    exact List.mem_append_left _ (List.mem_map.mpr ⟨station, List.mem_reverse.mpr hmem, rfl⟩)

end Lookups

end StationsSet

end Corrections
end ULocalMagnitude
