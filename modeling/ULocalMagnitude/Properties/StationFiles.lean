import ULocalMagnitude.Corrections.StationsFile
import ULocalMagnitude.Rationals

/-!
# Station corrections in files

A row is meant to have a network, a station and a number, however they are separated, and
the first two may be joined by a dot.  Then neither of them has a dot itself.  The loader
sees dots only where the names are one token, and it takes infinities and NaNs for numbers.
A file means what it says exactly where its rows, in neither form, get a name with a dot or such
a number through.
-/

namespace ULocalMagnitude
namespace Properties

open Cxx Configuration Corrections Magnitude
open StationsSet (HasFields IsReadAs correctionOf fromInitializationFile withStations)

variable {F : Type} [ExactArithmetic F]

/-! ## What rows say -/

/-- The row has a network, a station and a number, in either form. -/
def Says (text network station number : Bytes) : Prop :=
  tokens text = [network, station, number] ∨
    tokens text = [joined dot network station, number]

/-- The correction of a station, by network and station code. -/
structure Entry (F : Type) where
  network : Bytes
  station : Bytes
  correction : F

namespace Entry

def codes (entry : Entry F) : Bytes × Bytes := (entry.network, entry.station)

def name (entry : Entry F) : Bytes := joined dot entry.network entry.station

/-- What the loader makes of it. -/
def toStation (entry : Entry F) : Station F :=
  correctionOf entry.network entry.station (.finite entry.correction)

end Entry

/-- The row is the correction of a station: both names are there and have no dot, and the
whole text of the number is a finite number. -/
def IsCorrection (text : Bytes) (entry : Entry F) : Prop :=
  ∃ network station number, Says text network station number ∧
    dot ∉ network ∧ dot ∉ station ∧ capitalized network ≠ [] ∧ capitalized station ≠ [] ∧
    stod number = .ok (.finite entry.correction, number.length) ∧
    entry.network = capitalized network ∧ entry.station = capitalized station

/-- The file has these rows in its section. -/
structure HasRows (files : FileSystem) (boost : Boost) (iniFile sectionIn : Bytes)
    (texts : List Bytes) : Prop where
  doesExist : files.doesExist iniFile = true
  items : ∃ propertyTree, boost.readIni iniFile = .ok propertyTree ∧
    Items (StationsSet.itemName (sectionPrefix sectionIn)) propertyTree texts

/-- In some order the rows say the same. -/
def SaysSame (texts texts' : List Bytes) : Prop :=
  ∃ middle, List.Forall₂ (fun text text' => ∃ network station number,
    Says text network station number ∧ Says text' network station number) texts middle ∧
      middle.Perm texts'

/-- Rows are accepted when they are corrections of different stations, which the set then
has; and files that say the same are loaded alike. -/
structure MeansWhatItSays (load : Throws (StationsSet F)) (texts : List Bytes) : Prop where
  accepted : (∃ set, load = .ok set) ↔ ∃ entries : List (Entry F),
    List.Forall₂ IsCorrection texts entries ∧ (entries.map Entry.codes).Nodup
  entries : ∀ set, load = .ok set → set.getCorrections.entries.length = texts.length ∧
    ∃ entries : List (Entry F), List.Forall₂ IsCorrection texts entries ∧
      ∀ entry ∈ entries, ∃ station, set.getCorrection entry.name = some station ∧
        station.apply = .ok (.finite entry.correction)
  agrees : ∀ files boost iniFile sectionIn texts',
    HasRows files boost iniFile sectionIn texts' → SaysSame texts texts' →
      ((∃ set, load = .ok set) ↔ ∃ set, fromInitializationFile (F := F) files boost iniFile
        sectionIn = .ok set) ∧
      ∀ set set', load = .ok set →
        fromInitializationFile files boost iniFile sectionIn = .ok set' →
          ∀ name, set.getCorrection name = set'.getCorrection name

/-- The row, in one of its forms, is read as the station. -/
def CanBeRead (text : Bytes) (station : Station F) : Prop :=
  ∃ text' network code number, Says text network code number ∧ Says text' network code number ∧
    IsReadAs text' station

/-- Rows that can be read as stations with different names are corrections: nothing else gets
through the checks of the loader. -/
def IsPlain (F : Type) [ExactArithmetic F] (texts : List Bytes) : Prop :=
  ∀ stations : List (Station F), List.Forall₂ CanBeRead texts stations →
    (stations.map Station.name).Nodup → ∃ entries : List (Entry F),
      List.Forall₂ IsCorrection texts entries

/-! ## Single rows -/

section Rows

variable {text text' network station number : Bytes} {entry : Entry F}

/-- A row says the same with all separators. -/
theorem says_of_spelled {written lead trail : Bytes}
    (hwritten : Spelled isSeparator [network, station, number] written ∨
      Spelled isSeparator [joined dot network station, number] written)
    (hsolid : Spelled.Solid isspace [network, station, number]) (hlead : IsBlank lead)
    (htrail : IsBlank trail) : Says (lead ++ (written ++ trail)) network station number := by
  rcases hwritten with hwritten | hwritten
  · exact Or.inl (tokens_of_spelled hwritten hsolid hlead htrail)
  · refine Or.inr (tokens_of_spelled hwritten ?_ hlead htrail)
    obtain ⟨hnetwork, hsolid⟩ := List.forall_mem_cons.mp hsolid
    obtain ⟨hstation, hnumber⟩ := List.forall_mem_cons.mp hsolid
    refine List.forall_mem_cons.mpr ⟨?_, hnumber⟩
    exact List.forall_mem_append.mpr ⟨hnetwork, List.forall_mem_cons.mpr ⟨rfl, hstation⟩⟩

theorem splitOnP_dot_iff {name : Bytes} :
    (name.splitOnP fun c => c == dot) = [network, station] ↔
      dot ∉ network ∧ dot ∉ station ∧ name = joined dot network station := by
  have hnot (s : Bytes) : (∀ c ∈ s, (c == dot) = false) ↔ dot ∉ s := by
    simp only [beq_eq_false_iff_ne]
    exact ⟨fun h hmem => h dot hmem rfl, fun h c hc hsame => h (hsame ▸ hc)⟩
  rw [splitOnP_eq_pair_iff, hnot, hnot]
  refine and_congr_right fun _ => and_congr_right fun _ => ?_
  constructor
  · rintro ⟨c, hc, hname⟩
    obtain rfl : c = dot := beq_iff_eq.mp hc
    exact hname
  · intro hname
    exact ⟨dot, beq_self_eq_true dot, hname⟩

/-- Names without dots are the fields in both forms. -/
theorem hasFields_of_says (h : Says text network station number) (hnetwork : dot ∉ network)
    (hstation : dot ∉ station) : HasFields text network station number := by
  rcases h with htokens | htokens
  · exact Or.inl htokens
  · exact Or.inr ⟨_, htokens, splitOnP_dot_iff.mpr ⟨hnetwork, hstation, rfl⟩⟩

theorem says_of_hasFields (h : HasFields text network station number) :
    Says text network station number := by
  rcases h with htokens | ⟨name, htokens, hsplit⟩
  · exact Or.inl htokens
  · obtain ⟨-, -, rfl⟩ := splitOnP_dot_iff.mp hsplit
    exact Or.inr htokens

/-- A row has one network, one station and one number if the names have no dots. -/
theorem says_unique {network' station' number' : Bytes}
    (h : Says text network station number) (hnetwork : dot ∉ network)
    (hstation : dot ∉ station) (h' : Says text network' station' number') :
    network = network' ∧ station = station' ∧ number = number' := by
  have hjoined {p q : Bytes × Bytes} (hp : dot ∉ p.1) (hp' : dot ∉ p.2)
      (heq : joined dot p.1 p.2 = joined dot q.1 q.2) : p = q := by
    rcases (joined_eq_joined_iff dot p q).mp heq with hsame | ⟨t, -, hsecond⟩ | ⟨t, hfirst, -⟩
    · exact hsame
    · -- If the joined names are split at different places, one of the fields has a dot.
      exact absurd (by rw [hsecond]; exact List.mem_append_right _ List.mem_cons_self) hp'
    · exact absurd (by rw [hfirst]; exact List.mem_append_right _ List.mem_cons_self) hp
  rcases h with htokens | htokens
  · rcases h' with htokens' | htokens'
    · rw [htokens] at htokens'
      cases htokens'
      exact ⟨rfl, rfl, rfl⟩
    · rw [htokens] at htokens'
      cases htokens'
  · rcases h' with htokens' | htokens'
    · rw [htokens] at htokens'
      cases htokens'
    · rw [htokens] at htokens'
      obtain ⟨hname, hnumber⟩ := List.cons.inj htokens'
      obtain ⟨hnetwork', hstation'⟩ := Prod.mk.inj
        (hjoined (p := (network, station)) (q := (network', station')) hnetwork hstation hname)
      exact ⟨hnetwork', hstation', (List.cons.inj hnumber).1⟩

/-- What one row says another one can say. -/
theorem IsCorrection.of_says (h : IsCorrection text entry)
    (htold : Says text network station number) (htold' : Says text' network station number) :
    IsCorrection text' entry := by
  obtain ⟨_, _, _, hsaid, hnetwork, hstation, hrest⟩ := h
  obtain ⟨rfl, rfl, rfl⟩ := says_unique hsaid hnetwork hstation htold
  exact ⟨_, _, _, htold', hnetwork, hstation, hrest⟩

/-- The loader reads corrections of stations. -/
theorem IsCorrection.isReadAs (h : IsCorrection text entry) :
    IsReadAs text entry.toStation := by
  obtain ⟨network, station, number, htold, hnetwork, hstation, hnetwork', hstation', hnumber,
    hcode, hcode'⟩ := h
  refine ⟨network, station, number, _, hasFields_of_says htold hnetwork hstation, hnetwork',
    hstation', hnumber, ?_⟩
  rw [← hcode, ← hcode']
  rfl

theorem isReadAs_unique {station station' : Station F} (h : IsReadAs text station)
    (h' : IsReadAs text station') : station = station' := by
  have hfields {a b c a' b' c' : Bytes} (hone : HasFields text a b c)
      (hother : HasFields text a' b' c') : a = a' ∧ b = b' ∧ c = c' := by
    rcases hone with htokens | ⟨name, htokens, hsplit⟩
    · rcases hother with htokens' | ⟨_, htokens', -⟩
      · rw [htokens] at htokens'
        cases htokens'
        exact ⟨rfl, rfl, rfl⟩
      · rw [htokens] at htokens'
        cases htokens'
    · obtain ⟨hnetwork, hcode, rfl⟩ := splitOnP_dot_iff.mp hsplit
      exact says_unique (Or.inr htokens) hnetwork hcode (says_of_hasFields hother)
  obtain ⟨_, _, _, _, hone, -, -, hnumber, rfl⟩ := h
  obtain ⟨_, _, _, _, hother, -, -, hnumber', rfl⟩ := h'
  obtain ⟨rfl, rfl, rfl⟩ := hfields hone hother
  rw [hnumber] at hnumber'
  rw [(Prod.mk.inj (Except.ok.inj hnumber')).1]

theorem toupper_eq_dot {c : UInt8} (h : toupper c = dot) : c = dot := by
  unfold toupper at h
  split at h
  · rename_i hletter
    obtain rfl : c = dot + 32 := by rw [← h, UInt8.sub_add_cancel]
    exact absurd hletter (by decide)
  · exact h

theorem dot_not_mem_capitalized {s : Bytes} (h : dot ∉ s) : dot ∉ capitalized s := by
  intro hmem
  obtain ⟨c, hc, hdot⟩ := List.mem_map.mp hmem
  exact h (toupper_eq_dot hdot ▸ (List.mem_filter.mp hc).1)

end Rows

/-! ## All rows -/

section Files

variable {texts texts' : List Bytes} {entries entries' : List (Entry F)}
  {stations : List (Station F)}

theorem isReadAs_of_isCorrection (h : List.Forall₂ IsCorrection texts entries) :
    List.Forall₂ IsReadAs texts (entries.map Entry.toStation) :=
  List.forall₂_map_right_iff.mpr (h.imp fun _ _ hrow => hrow.isReadAs)

/-- The rows are read as one list of stations only. -/
theorem stations_unique {stations' : List (Station F)} (h : List.Forall₂ IsReadAs texts stations)
    (h' : List.Forall₂ IsReadAs texts stations') : stations = stations' := by
  have hunique : Relator.RightUnique (IsReadAs (F := F)) := fun _ _ _ => isReadAs_unique
  exact List.right_unique_forall₂' hunique h h'

/-- Different stations have different names, since their codes have no dots. -/
theorem nodup_names_iff (h : List.Forall₂ IsCorrection texts entries) :
    ((entries.map Entry.toStation).map Station.name).Nodup ↔
      (entries.map Entry.codes).Nodup := by
  have hdots : ∀ entry ∈ entries, dot ∉ entry.network := by
    induction h with
    | nil => exact List.forall_mem_nil _
    | cons hrow _ ih =>
        obtain ⟨_, _, _, -, hnetwork, -, -, -, -, hcode, -⟩ := hrow
        exact List.forall_mem_cons.mpr ⟨hcode ▸ dot_not_mem_capitalized hnetwork, ih⟩
  have hnames : (entries.map Entry.toStation).map Station.name =
      (entries.map Entry.codes).map fun codes => joined dot codes.1 codes.2 := by
    rw [List.map_map, List.map_map]
    rfl
  rw [hnames]
  refine ⟨List.Nodup.of_map _, fun hnodup => List.Nodup.map_on ?_ hnodup⟩
  intro p hp q hq hsame
  obtain ⟨entry, hentry, rfl⟩ := List.mem_map.mp hp
  obtain ⟨other, hother, rfl⟩ := List.mem_map.mp hq
  rcases (joined_eq_joined_iff dot _ _).mp hsame with heq | hconfusable
  · exact heq
  · exact absurd hconfusable (not_confusable_of_not_mem (hdots _ hentry) (hdots _ hother))

/-! ### Files that say the same -/

theorem SaysSame.refl (h : List.Forall₂ IsReadAs texts stations) : SaysSame texts texts := by
  refine ⟨texts, ?_, .refl _⟩
  induction h with
  | nil => exact .nil
  | cons hrow _ ih =>
      obtain ⟨network, code, number, _, hfields, -⟩ := hrow
      have htold := says_of_hasFields hfields
      exact .cons ⟨network, code, number, htold, htold⟩ ih

theorem SaysSame.symm (h : SaysSame texts texts') : SaysSame texts' texts := by
  obtain ⟨middle, hsame, hperm⟩ := h
  obtain ⟨other, hother, hperm'⟩ := List.perm_comp_forall₂ hperm.symm hsame.flip
  refine ⟨other, hother.imp ?_, hperm'⟩
  rintro _ _ ⟨network, station, number, htold, htold'⟩
  exact ⟨network, station, number, htold', htold⟩

/-- They have the same corrections, in some order. -/
theorem SaysSame.exists_entries (h : SaysSame texts texts')
    (hentries : List.Forall₂ IsCorrection texts entries) :
    ∃ entries' : List (Entry F), List.Forall₂ IsCorrection texts' entries' ∧
      entries'.Perm entries := by
  obtain ⟨middle, hsame, hperm⟩ := h
  have hmiddle : List.Forall₂ IsCorrection middle entries := by
    clear hperm
    induction hsame generalizing entries with
    | nil =>
        cases hentries
        exact .nil
    | cons hrow _ ih =>
        cases hentries with
        | cons hentry hrest =>
            obtain ⟨_, _, _, htold, htold'⟩ := hrow
            exact .cons (hentry.of_says htold htold') (ih hrest)
  obtain ⟨entries', hentries', hperm'⟩ := List.perm_comp_forall₂ hperm.symm hmiddle
  exact ⟨entries', hentries', hperm'⟩

/-- What a file that says the same is read as, the rows can be read as. -/
theorem SaysSame.exists_canBeRead (h : SaysSame texts texts')
    (hread : List.Forall₂ IsReadAs texts' stations) :
    ∃ stations' : List (Station F), List.Forall₂ CanBeRead texts stations' ∧
      stations'.Perm stations := by
  obtain ⟨middle, hsame, hperm⟩ := h
  obtain ⟨stations', hmiddle, hperm'⟩ := List.perm_comp_forall₂ hperm hread
  refine ⟨stations', ?_, hperm'⟩
  clear hperm hperm'
  induction hsame generalizing stations' with
  | nil =>
      cases hmiddle
      exact .nil
  | cons hrow _ ih =>
      cases hmiddle with
      | cons hstation hrest =>
          obtain ⟨network, code, number, htold, htold'⟩ := hrow
          exact .cons ⟨_, network, code, number, htold, htold', hstation⟩ (ih _ hrest)

/-- And what they can be read as, there are rows for that say the same. -/
theorem exists_rows_of_canBeRead (h : List.Forall₂ CanBeRead texts stations) :
    ∃ texts', SaysSame texts texts' ∧ List.Forall₂ IsReadAs texts' stations := by
  have hrows : ∃ texts', List.Forall₂ (fun text text' => ∃ network station number,
      Says text network station number ∧ Says text' network station number) texts texts' ∧
        List.Forall₂ IsReadAs texts' stations := by
    induction h with
    | nil => exact ⟨[], .nil, .nil⟩
    | cons hrow _ ih =>
        obtain ⟨text', network, code, number, htold, htold', hstation⟩ := hrow
        obtain ⟨texts', hsame, hread⟩ := ih
        exact ⟨text' :: texts', .cons ⟨network, code, number, htold, htold'⟩ hsame,
          .cons hstation hread⟩
  obtain ⟨texts', hsame, hread⟩ := hrows
  exact ⟨texts', ⟨texts', hsame, .refl _⟩, hread⟩

/-! ### Loaded files -/

variable {files : FileSystem} {boost : Boost} {iniFile sectionIn : Bytes}

theorem HasRows.fromInitializationFile_eq_ok
    (hrows : HasRows files boost iniFile sectionIn texts) {set : StationsSet F} :
    fromInitializationFile files boost iniFile sectionIn = .ok set ↔
      ∃ stations, List.Forall₂ IsReadAs texts stations ∧ (stations.map Station.name).Nodup ∧
        withStations {} stations = set := by
  obtain ⟨propertyTree, hread, hitems⟩ := hrows.items
  rw [StationsSet.fromInitializationFile_eq_ok hrows.doesExist hread, StationsSet.Loads,
    hitems.rowsOf_eq]

/-- A file of corrections is loaded when they are of different stations. -/
theorem load_eq_ok_iff (hrows : HasRows files boost iniFile sectionIn texts)
    (h : List.Forall₂ IsCorrection texts entries) {set : StationsSet F} :
    fromInitializationFile files boost iniFile sectionIn = .ok set ↔
      (entries.map Entry.codes).Nodup ∧
        withStations {} (entries.map Entry.toStation) = set := by
  rw [hrows.fromInitializationFile_eq_ok, ← nodup_names_iff h]
  have hread := isReadAs_of_isCorrection h
  constructor
  · rintro ⟨stations, hstations, hnodup, hset⟩
    obtain rfl := stations_unique hread hstations
    exact ⟨hnodup, hset⟩
  · rintro ⟨hnodup, hset⟩
    exact ⟨_, hread, hnodup, hset⟩

/-- Files of corrections that say the same are loaded together. -/
theorem exists_load_of_saysSame {files' : FileSystem} {boost' : Boost}
    {iniFile' sectionIn' : Bytes} (hrows : HasRows files boost iniFile sectionIn texts)
    (hrows' : HasRows files' boost' iniFile' sectionIn' texts') (hsame : SaysSame texts texts')
    (h : List.Forall₂ IsCorrection texts entries) {set : StationsSet F}
    (hset : fromInitializationFile files boost iniFile sectionIn = .ok set) :
    ∃ set' : StationsSet F, fromInitializationFile files' boost' iniFile' sectionIn' =
      .ok set' := by
  obtain ⟨hnodup, -⟩ := (load_eq_ok_iff hrows h).mp hset
  obtain ⟨entries', hentries', hperm⟩ := hsame.exists_entries h
  exact ⟨_, (load_eq_ok_iff hrows' hentries').mpr ⟨(hperm.map _).nodup_iff.mpr hnodup, rfl⟩⟩

/-- The corrections are found under their names. -/
theorem getCorrection_iff (h : List.Forall₂ IsCorrection texts entries)
    (hnodup : (entries.map Entry.codes).Nodup) {name : Bytes} {station : Station F} :
    (withStations {} (entries.map Entry.toStation)).getCorrection name = some station ↔
      ∃ entry ∈ entries, entry.toStation = station ∧ entry.name = name := by
  have hlookup := @StationsSet.lookup_withStations F _ _ ((nodup_names_iff h).mpr hnodup) name
    station
  unfold StationsSet.getCorrection
  by_cases hname : name = []
  · rw [if_pos hname]
    constructor
    · intro hnone
      cases hnone
    · rintro ⟨entry, -, -, rfl⟩
      exact absurd hname (StationIdentifier.name_ne_nil entry.toStation.identifier)
  · rw [if_neg hname, hlookup, List.mem_map]
    constructor
    · rintro ⟨⟨entry, hentry, rfl⟩, hsame⟩
      exact ⟨entry, hentry, rfl, hsame⟩
    · rintro ⟨entry, hentry, rfl, hsame⟩
      exact ⟨⟨entry, hentry, rfl⟩, hsame⟩

/-- The order of the corrections makes no difference. -/
theorem getCorrection_eq_of_perm (h : List.Forall₂ IsCorrection texts entries)
    (h' : List.Forall₂ IsCorrection texts' entries') (hperm : entries'.Perm entries)
    (hnodup : (entries.map Entry.codes).Nodup) (name : Bytes) :
    (withStations {} (entries.map Entry.toStation)).getCorrection name =
      (withStations {} (entries'.map Entry.toStation)).getCorrection name := by
  have hnodup' : (entries'.map Entry.codes).Nodup := (hperm.map _).nodup_iff.mpr hnodup
  refine Option.ext fun station => ?_
  rw [getCorrection_iff h hnodup, getCorrection_iff h' hnodup']
  simp only [hperm.mem_iff]

end Files

/-! ### Written files -/

/-- A file without sections that has these rows. -/
def stationsBoost (texts : List Bytes) : Boost where
  readIni _ := .ok (treeFrom (StationsSet.itemName []) 1 texts)
  toInt _ := none
  toUInt16 _ := none
  toBool _ := none

def anyFiles : FileSystem where
  doesExist _ := true
  contents _ := none

theorem hasRows_written {texts : List Bytes} (hcount : texts.length ≤ 65534) :
    HasRows anyFiles (stationsBoost texts) (bytes "ini") [] texts where
  doesExist := rfl
  items := ⟨_, rfl, items_treeFrom (StationsSet.itemName_injective []) hcount⟩

/-- A file means what it says exactly when its rows get nothing else than corrections of
stations through the checks. -/
theorem file_means_what_it_says_iff (files : FileSystem) (boost : Boost)
    (iniFile sectionIn : Bytes) (texts : List Bytes)
    (hrows : HasRows files boost iniFile sectionIn texts) :
    MeansWhatItSays (F := F) (fromInitializationFile files boost iniFile sectionIn) texts ↔
      IsPlain F texts := by
  constructor
  · intro h stations hread hnodup
    obtain ⟨texts', hsame, hread'⟩ := exists_rows_of_canBeRead hread
    obtain ⟨_, -, hitems⟩ := hrows.items
    have hcount : texts'.length ≤ 65534 := by
      rw [hread'.length_eq, ← hread.length_eq]
      exact hitems.count
    have hrows' := hasRows_written hcount
    have hloaded := hrows'.fromInitializationFile_eq_ok.mpr ⟨stations, hread', hnodup, rfl⟩
    -- What the other file says is loaded from this one, too, and accepted rows are corrections.
    have hagrees := (h.agrees _ _ _ _ texts' hrows' hsame).1
    obtain ⟨entries, hentries, -⟩ := h.accepted.mp (hagrees.mpr ⟨_, hloaded⟩)
    exact ⟨entries, hentries⟩
  · intro hplain
    -- What is loaded are corrections of stations.
    have hcorrections {files' : FileSystem} {boost' : Boost} {iniFile' sectionIn' : Bytes}
        {texts' : List Bytes} (hrows' : HasRows files' boost' iniFile' sectionIn' texts')
        (hsame : SaysSame texts texts') {set : StationsSet F}
        (hset : fromInitializationFile files' boost' iniFile' sectionIn' = .ok set) :
        ∃ entries : List (Entry F), List.Forall₂ IsCorrection texts' entries := by
      obtain ⟨stations, hread, hnodup, -⟩ :=
        hrows'.fromInitializationFile_eq_ok.mp hset
      obtain ⟨stations', hread', hperm⟩ := hsame.exists_canBeRead hread
      obtain ⟨entries, hentries⟩ := hplain stations' hread' ((hperm.map _).nodup_iff.mpr hnodup)
      obtain ⟨entries', hentries', -⟩ := hsame.exists_entries hentries
      exact ⟨entries', hentries'⟩
    have hown {set : StationsSet F}
        (hset : fromInitializationFile files boost iniFile sectionIn = .ok set) :
        ∃ entries : List (Entry F), List.Forall₂ IsCorrection texts entries := by
      obtain ⟨stations, hread, -⟩ := hrows.fromInitializationFile_eq_ok.mp hset
      exact hcorrections hrows (.refl hread) hset
    refine ⟨⟨?_, ?_⟩, ?_, ?_⟩
    · rintro ⟨set, hset⟩
      obtain ⟨entries, hentries⟩ := hown hset
      exact ⟨entries, hentries, ((load_eq_ok_iff hrows hentries).mp hset).1⟩
    · rintro ⟨entries, hentries, hnodup⟩
      exact ⟨_, (load_eq_ok_iff hrows hentries).mpr ⟨hnodup, rfl⟩⟩
    · intro set hset
      obtain ⟨entries, hentries⟩ := hown hset
      obtain ⟨hnodup, rfl⟩ := (load_eq_ok_iff hrows hentries).mp hset
      refine ⟨?_, entries, hentries, fun entry hentry => ?_⟩
      · rw [StationsSet.length_withStations ((nodup_names_iff hentries).mpr hnodup),
          List.length_map, hentries.length_eq]
      · exact ⟨entry.toStation,
          (getCorrection_iff hentries hnodup).mpr ⟨entry, hentry, rfl, rfl⟩, rfl⟩
    · intro files' boost' iniFile' sectionIn' texts' hrows' hsame
      refine ⟨⟨?_, ?_⟩, ?_⟩
      · rintro ⟨set, hset⟩
        obtain ⟨entries, hentries⟩ := hown hset
        exact exists_load_of_saysSame hrows hrows' hsame hentries hset
      · rintro ⟨set, hset⟩
        obtain ⟨entries', hentries'⟩ := hcorrections hrows' hsame hset
        exact exists_load_of_saysSame hrows' hrows hsame.symm hentries' hset
      · intro set set' hset hset'
        obtain ⟨entries, hentries⟩ := hown hset
        obtain ⟨entries', hentries', hperm⟩ := hsame.exists_entries hentries
        obtain ⟨hnodup, rfl⟩ := (load_eq_ok_iff hrows hentries).mp hset
        obtain ⟨-, rfl⟩ := (load_eq_ok_iff hrows' hentries').mp hset'
        exact getCorrection_eq_of_perm hentries hentries' hperm hnodup

/-! ## A station with a dot -/

/-- Three stations with their names in both forms. -/
def plainRows : List Bytes := [bytes "uu.cwu, 0.4", bytes "UU ASU7 -0.25", bytes "us,bsut\t1.5"]

/-- Names without a second dot mean what they say. -/
theorem joined_names_mean_what_they_say :
    MeansWhatItSays (F := ℚ) (fromInitializationFile anyFiles (stationsBoost plainRows)
      (bytes "ini") []) plainRows := by
  refine (file_means_what_it_says_iff anyFiles (stationsBoost plainRows) (bytes "ini") []
    plainRows (hasRows_written (by decide))).mpr fun _ _ _ => ?_
  have hfirst : IsCorrection (bytes "uu.cwu, 0.4")
      { network := bytes "UU", station := bytes "CWU", correction := (2 / 5 : ℚ) } :=
    ⟨bytes "uu", bytes "cwu", bytes "0.4", by unfold Says; decide +kernel,
      by decide +kernel, by decide +kernel, by decide +kernel, by decide +kernel,
      by decide +kernel, by decide +kernel, by decide +kernel⟩
  have hsecond : IsCorrection (bytes "UU ASU7 -0.25")
      { network := bytes "UU", station := bytes "ASU7", correction := (-1 / 4 : ℚ) } :=
    ⟨bytes "UU", bytes "ASU7", bytes "-0.25", by unfold Says; decide +kernel,
      by decide +kernel, by decide +kernel, by decide +kernel, by decide +kernel,
      by decide +kernel, by decide +kernel, by decide +kernel⟩
  have hthird : IsCorrection (bytes "us,bsut\t1.5")
      { network := bytes "US", station := bytes "BSUT", correction := (3 / 2 : ℚ) } :=
    ⟨bytes "us", bytes "bsut", bytes "1.5", by unfold Says; decide +kernel,
      by decide +kernel, by decide +kernel, by decide +kernel, by decide +kernel,
      by decide +kernel, by decide +kernel, by decide +kernel⟩
  exact ⟨_, .cons hfirst (.cons hsecond (.cons hthird .nil))⟩

/-- The location code of a channel passes as a part of the station. -/
theorem dotted_station_is_loaded :
    ¬ MeansWhatItSays (F := ℚ) (fromInitializationFile anyFiles
      (stationsBoost [bytes "UU CWU.01 0.3"]) (bytes "ini") [])
      [bytes "UU CWU.01 0.3"] := by
  intro h
  have hwritten : tokens (bytes "UU CWU.01 0.3") =
      [bytes "UU", bytes "CWU.01", bytes "0.3"] := by decide +kernel
  have hread : IsReadAs (bytes "UU CWU.01 0.3")
      (correctionOf (bytes "UU") (bytes "CWU.01") (.finite (3 / 10 : ℚ))) :=
    ⟨bytes "UU", bytes "CWU.01", bytes "0.3", .finite (3 / 10), Or.inl hwritten,
      by decide +kernel, by decide +kernel, by decide +kernel, by decide +kernel⟩
  obtain ⟨entries, hentries, -⟩ := h.accepted.mp ⟨_,
    (hasRows_written (by decide)).fromInitializationFile_eq_ok.mpr
      ⟨_, .cons hread .nil, List.nodup_singleton _, rfl⟩⟩
  cases hentries with
  | cons hrow hrest =>
      obtain ⟨network, station, number, htold, -, hstation, -⟩ := hrow
      rcases htold with htokens | htokens
      · rw [hwritten] at htokens
        obtain ⟨-, hrest⟩ := List.cons.inj htokens
        obtain ⟨rfl, -⟩ := List.cons.inj hrest
        exact hstation (by decide +kernel)
      · rw [hwritten] at htokens
        have hlength : 3 = 2 := congrArg List.length htokens
        exact absurd hlength (by decide)

end Properties
end ULocalMagnitude
