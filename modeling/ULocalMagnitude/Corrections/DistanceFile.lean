import ULocalMagnitude.Configuration.Items
import ULocalMagnitude.Corrections.Table

/-!
# Distance corrections from a file

`DistanceOptions::fromInitializationFile`.  Of each token of a row the number that it starts
with is taken; whether there is something behind it is not looked at.
-/

namespace ULocalMagnitude
namespace Corrections

open Cxx Configuration

variable {F : Type} [ExactArithmetic F]

namespace DistanceOptions

/-! ## The initialization file -/

def readInterpolation (propertyTree : PropertyTree) (sectionName : Bytes) :
    Throws Interpolation := do
  let interpolation ← require (propertyTree (sectionName ++ bytes "interpolation"))
    (.invalidArgument (toText sectionName ++ "interpolation not set"))
  let interpolationType := toLower interpolation
  if interpolationType = bytes "linear" then return .linear
  else if interpolationType = bytes "nearest" then return .nearest
  else .error (.invalidArgument
    ("interpolation type " ++ toText interpolationType ++ " must be nearest or linear"))

def readDistanceType (propertyTree : PropertyTree) (sectionName : Bytes) :
    Throws DistanceType := do
  let distanceType ← require (propertyTree (sectionName ++ bytes "distanceType"))
    (.invalidArgument (toText sectionName ++ "distanceType not set"))
  let type := toLower distanceType
  if type = bytes "epicentral" then return .epicentral
  else if type = bytes "hypocentral" then return .hypocentral
  else .error (.invalidArgument
    ("distance type " ++ toText type ++ " must be epicentral or hypocentral"))

/-- The datum, which only hypocentral distances have. -/
def readDatum (toDouble : Bytes → Option (Double F)) (propertyTree : PropertyTree)
    (sectionName : Bytes) (options : DistanceOptions F) : Throws (DistanceOptions F) := do
  if (← options.getType) = .hypocentral then
    let datum := propertyTree.getValue toDouble (sectionName ++ bytes "datumInMeters")
      options.getDatum
    (setDatum datum).call options
  else return options

/-- The name of row `i` of the table -/
def itemName (sectionName : Bytes) (i : Nat) : Bytes :=
  sectionName ++ bytes "distance_correction_" ++ decimal i

/-- One row of the table, appended to the rows before it. -/
def readRow (name text : Bytes) (corrections : List (Double F × Double F)) :
    Throws (List (Double F × Double F)) := do
  match tokens text with
  | [first, second] => do
      let (distance, _) ← stod first
      let (value, _) ← stod second
      return corrections ++ [(distance, value)]
  | _ => .error (.invalidArgument (toText name ++
      " invalid format; need distance_correction_n = number, number"))

/-- `DistanceOptions::fromInitializationFile`; `toDouble` is the translator behind
`get<double>`. -/
def fromInitializationFile (files : FileSystem) (boost : Boost)
    (toDouble : Bytes → Option (Double F)) (iniFile sectionIn : Bytes) :
    Throws (DistanceOptions F) := do
  throwIf (!files.doesExist iniFile)
    (.invalidArgument ("Initialization file " ++ toText iniFile ++ " does not exist"))
  let sectionName := sectionPrefix sectionIn
  let propertyTree ← boost.readIni iniFile
  let interpolation ← readInterpolation propertyTree sectionName
  let options ← (setInterpolation interpolation).call {}
  let type ← readDistanceType propertyTree sectionName
  let options ← (setType type).call options
  let options ← readDatum toDouble propertyTree sectionName options
  let corrections ← forEachItem (itemName sectionName) readRow propertyTree []
  (setCorrections corrections).call options

/-! ## Rows -/

/-- The row has two tokens, and they start with the numbers. -/
def StartsWithNumbers (text : Bytes) (row : Double F × Double F) : Prop :=
  ∃ first second length length', tokens text = [first, second] ∧
    stod first = .ok (row.1, length) ∧ stod second = .ok (row.2, length')

/-- The row has two tokens, and in their entirety they are finite numbers. -/
def IsNumbers (text : Bytes) (row : Double F × Double F) : Prop :=
  ∃ first second x y, tokens text = [first, second] ∧
    stod first = .ok (.finite x, first.length) ∧
    stod second = .ok (.finite y, second.length) ∧ row = (.finite x, .finite y)

theorem IsNumbers.startsWithNumbers {text : Bytes} {row : Double F × Double F}
    (h : IsNumbers text row) : StartsWithNumbers text row := by
  obtain ⟨first, second, x, y, htokens, hfirst, hsecond, rfl⟩ := h
  exact ⟨first, second, _, _, htokens, hfirst, hsecond⟩

/-- A row starts with one pair of numbers at most. -/
theorem StartsWithNumbers.unique {text : Bytes} {row row' : Double F × Double F}
    (h : StartsWithNumbers text row) (h' : StartsWithNumbers text row') : row = row' := by
  obtain ⟨first, second, length, length', htokens, hfirst, hsecond⟩ := h
  obtain ⟨_, _, _, _, htokens', hfirst', hsecond'⟩ := h'
  rw [htokens] at htokens'
  cases htokens'
  rw [hfirst] at hfirst'
  rw [hsecond] at hsecond'
  have hdistance := (Prod.mk.inj (Except.ok.inj hfirst')).1
  have hvalue := (Prod.mk.inj (Except.ok.inj hsecond')).1
  exact Prod.ext hdistance hvalue

theorem readRow_eq_ok {name text : Bytes} {before after : List (Double F × Double F)} :
    readRow name text before = .ok after ↔
      ∃ row, StartsWithNumbers text row ∧ before ++ [row] = after := by
  unfold readRow
  constructor
  · intro h
    match htokens : tokens text, h with
    | [first, second], h =>
        obtain ⟨⟨distance, length⟩, hfirst, h⟩ := bind_eq_ok.mp h
        obtain ⟨⟨value, length'⟩, hsecond, h⟩ := bind_eq_ok.mp h
        exact ⟨_, ⟨first, second, length, length', htokens, hfirst, hsecond⟩,
          Except.ok.inj h⟩
  · rintro ⟨⟨distance, value⟩, ⟨first, second, length, length', htokens, hfirst, hsecond⟩, rfl⟩
    rw [htokens]
    dsimp only
    rw [hfirst, bind_ok, hsecond, bind_ok]
    rfl

/-- The rows are read when each of them starts with numbers. -/
theorem readRows_eq_ok {sectionName : Bytes} {i : Nat} {texts : List Bytes}
    {before after : List (Double F × Double F)} :
    readRows (itemName sectionName) readRow i texts before = .ok after ↔
      ∃ rows, List.Forall₂ StartsWithNumbers texts rows ∧ before ++ rows = after := by
  induction texts generalizing i before with
  | nil =>
      constructor
      · intro h
        exact ⟨[], .nil, by rw [List.append_nil]; exact Except.ok.inj h⟩
      · rintro ⟨rows, hrows, rfl⟩
        cases hrows
        rw [List.append_nil]
        rfl
  | cons text texts ih =>
      rw [readRows]
      constructor
      · intro h
        obtain ⟨_, hrow, h⟩ := bind_eq_ok.mp h
        obtain ⟨row, hstarts, rfl⟩ := readRow_eq_ok.mp hrow
        obtain ⟨rows, hrows, rfl⟩ := ih.mp h
        exact ⟨row :: rows, .cons hstarts hrows, by rw [List.append_cons]⟩
      · rintro ⟨rows, hrows, rfl⟩
        cases hrows with
        | @cons _ row _ rows hstarts hrows =>
            refine bind_eq_ok.mpr ⟨_, readRow_eq_ok.mpr ⟨row, hstarts, rfl⟩, ?_⟩
            exact ih.mpr ⟨rows, hrows, by rw [← List.append_cons]⟩

/-! ## What is read from a file -/

/-- The table is accepted by its setter. -/
def Accepts (corrections : List (Double F × Double F)) : Prop :=
  ∃ after, (setCorrections corrections).call ({} : DistanceOptions F) = .ok after

/-- The setter of the table does not look at the other options. -/
theorem call_setCorrections_eq_ok_iff {corrections : List (Double F × Double F)}
    {options after : DistanceOptions F} :
    (setCorrections corrections).call options = .ok after ↔ Accepts corrections ∧
      { options with mCorrections := sortByDistance corrections, mHaveCorrections := true } =
        after := by
  unfold Accepts
  simp only [call_setCorrections_eq_ok]
  constructor
  · rintro ⟨hnonempty, hnonneg, hordered, hneighbors, hafter⟩
    exact ⟨⟨_, hnonempty, hnonneg, hordered, hneighbors, rfl⟩, hafter⟩
  · rintro ⟨⟨_, hnonempty, hnonneg, hordered, hneighbors, -⟩, hafter⟩
    exact ⟨hnonempty, hnonneg, hordered, hneighbors, hafter⟩

/-- The datum of a section. -/
def datumIn (toDouble : Bytes → Option (Double F)) (propertyTree : PropertyTree)
    (sectionName : Bytes) : Double F :=
  propertyTree.getValue toDouble (sectionName ++ bytes "datumInMeters") (.finite 0)

/-- Hypocentral distances have a datum in its range. -/
def DatumInRange (type : DistanceType) (datum : Double F) : Prop :=
  type = .hypocentral →
    datum.isFinite = true ∧ ¬ (datum < .finite (-10000) ∨ datum > .finite 8600)

instance (type : DistanceType) (datum : Double F) : Decidable (DatumInRange type datum) :=
  inferInstanceAs (Decidable (_ → _))

/-- The options of a section. -/
def optionsOf (interpolation : Interpolation) (type : DistanceType) (datum : Double F)
    (corrections : List (Double F × Double F)) : DistanceOptions F where
  mCorrections := sortByDistance corrections
  mInterpolation := interpolation
  mType := type
  mDatum := if type = .hypocentral then datum else .finite 0
  mHaveCorrections := true
  mHasInterpolation := true
  mHasType := true

/-- The section can be loaded to the options: it has an interpolation and a type, the datum is
in its range, and the rows start with the numbers of a table that is accepted. -/
def Loads (toDouble : Bytes → Option (Double F)) (propertyTree : PropertyTree)
    (sectionName : Bytes) (options : DistanceOptions F) : Prop :=
  ∃ interpolation type rows, readInterpolation propertyTree sectionName = .ok interpolation ∧
    readDistanceType propertyTree sectionName = .ok type ∧
    DatumInRange type (datumIn toDouble propertyTree sectionName) ∧
    List.Forall₂ StartsWithNumbers (rowsOf (itemName sectionName) propertyTree) rows ∧
    Accepts rows ∧
    optionsOf interpolation type (datumIn toDouble propertyTree sectionName) rows = options

section Loaded

variable {toDouble : Bytes → Option (Double F)} {propertyTree : PropertyTree}
  {sectionName : Bytes} {options : DistanceOptions F}

/-- The datum is read and set. -/
theorem readDatum_eq_ok {before after : DistanceOptions F} (hset : before.mHasType = true)
    (hdatum : before.mDatum = .finite 0) :
    readDatum toDouble propertyTree sectionName before = .ok after ↔
      DatumInRange before.mType (datumIn toDouble propertyTree sectionName) ∧
        { before with
          mDatum := if before.mType = .hypocentral
            then datumIn toDouble propertyTree sectionName else .finite 0 } = after := by
  unfold readDatum getType DatumInRange
  rw [throwIf_neg (by simp [hasType, hset]), bind_ok, pure_eq_ok, bind_ok]
  by_cases htype : before.mType = .hypocentral
  · rw [if_pos htype, if_pos htype, call_setDatum_eq_ok, getDatum, hdatum]
    constructor
    · rintro ⟨hfinite, hrange, hafter⟩
      exact ⟨fun _ => ⟨hfinite, hrange⟩, hafter⟩
    · rintro ⟨hrange, hafter⟩
      exact ⟨(hrange htype).1, (hrange htype).2, hafter⟩
  · rw [if_neg htype, if_neg htype, ← hdatum]
    constructor
    · intro hafter
      exact ⟨fun h => absurd h htype, Except.ok.inj hafter⟩
    · rintro ⟨-, hafter⟩
      exact congrArg _ hafter

/-- The table is read and set. -/
theorem readTable_eq_ok {before : DistanceOptions F} :
    (do
      let corrections ← forEachItem (itemName sectionName) readRow propertyTree []
      (setCorrections corrections).call before) = .ok options ↔
    ∃ rows, List.Forall₂ StartsWithNumbers (rowsOf (itemName sectionName) propertyTree) rows ∧
      Accepts rows ∧
      { before with mCorrections := sortByDistance rows, mHaveCorrections := true } =
        options := by
  rw [forEachItem_eq, bind_eq_ok]
  constructor
  · rintro ⟨_, hread, hset⟩
    obtain ⟨rows, hstarts, rfl⟩ := readRows_eq_ok.mp hread
    exact ⟨rows, hstarts, call_setCorrections_eq_ok_iff.mp hset⟩
  · rintro ⟨rows, hstarts, hset⟩
    exact ⟨rows, readRows_eq_ok.mpr ⟨rows, hstarts, rfl⟩, call_setCorrections_eq_ok_iff.mpr hset⟩

/-- A file is loaded when its section can be. -/
theorem fromInitializationFile_eq_ok {files : FileSystem} {boost : Boost}
    {iniFile sectionIn : Bytes} (hexists : files.doesExist iniFile = true)
    (hread : boost.readIni iniFile = .ok propertyTree) :
    fromInitializationFile files boost toDouble iniFile sectionIn = .ok options ↔
      Loads toDouble propertyTree (sectionPrefix sectionIn) options := by
  unfold fromInitializationFile Loads
  rw [throwIf_neg (by simp [hexists]), bind_ok, hread, bind_ok]
  constructor
  · intro h
    obtain ⟨interpolation, hinterpolation, h⟩ := bind_eq_ok.mp h
    obtain ⟨_, hsetInterpolation, h⟩ := bind_eq_ok.mp h
    obtain ⟨type, htype, h⟩ := bind_eq_ok.mp h
    obtain ⟨_, hsetType, h⟩ := bind_eq_ok.mp h
    obtain ⟨_, hreadDatum, h⟩ := bind_eq_ok.mp h
    -- The two setters without checks return what they are given.
    obtain rfl := Except.ok.inj hsetInterpolation
    obtain rfl := Except.ok.inj hsetType
    obtain ⟨hdatum, rfl⟩ := (readDatum_eq_ok rfl rfl).mp hreadDatum
    obtain ⟨rows, hstarts, haccepts, hoptions⟩ := readTable_eq_ok.mp h
    exact ⟨interpolation, type, rows, hinterpolation, htype, hdatum, hstarts, haccepts,
      hoptions⟩
  · rintro ⟨interpolation, type, rows, hinterpolation, htype, hdatum, hstarts, haccepts,
      hoptions⟩
    rw [hinterpolation, bind_ok, setInterpolation, Method.call_modify, bind_ok, htype, bind_ok,
      setType, Method.call_modify, bind_ok]
    exact bind_eq_ok.mpr ⟨_, (readDatum_eq_ok rfl rfl).mpr ⟨hdatum, rfl⟩,
      readTable_eq_ok.mpr ⟨rows, hstarts, haccepts, hoptions⟩⟩

/-- A section is loaded to one value of the options only. -/
theorem Loads.unique {options' : DistanceOptions F}
    (h : Loads toDouble propertyTree sectionName options)
    (h' : Loads toDouble propertyTree sectionName options') : options = options' := by
  obtain ⟨interpolation, type, rows, hinterpolation, htype, -, hstarts, -, rfl⟩ := h
  obtain ⟨interpolation', type', rows', hinterpolation', htype', -, hstarts', -, rfl⟩ := h'
  obtain rfl := Except.ok.inj (hinterpolation.symm.trans hinterpolation')
  obtain rfl := Except.ok.inj (htype.symm.trans htype')
  obtain rfl : rows = rows' :=
    List.right_unique_forall₂' (fun _ _ _ hrow hrow' => hrow.unique hrow') hstarts hstarts'
  rfl

/-- Options that are loaded are made through the setters. -/
theorem Loads.isReachable (h : Loads toDouble propertyTree sectionName options) :
    options.IsReachable := by
  obtain ⟨interpolation, type, rows, -, -, hdatum, -, haccepts, rfl⟩ := h
  have hnew : IsReachable ({} : DistanceOptions F) := .init rfl
  have hchosen := (hnew.call_eq_ok (i := Setter.interpolation interpolation) trivial
    rfl).call_eq_ok (i := Setter.type type) trivial rfl
  -- The datum is only set for hypocentral distances.
  have hset : ∃ before : DistanceOptions F, before.IsReachable ∧
      { before with mCorrections := sortByDistance rows, mHaveCorrections := true } =
        optionsOf interpolation type (datumIn toDouble propertyTree sectionName) rows := by
    cases type with
    | epicentral => exact ⟨_, hchosen, rfl⟩
    | hypocentral =>
        obtain ⟨hfinite, hrange⟩ := hdatum rfl
        exact ⟨_, hchosen.call_eq_ok (i := Setter.datum _) trivial
          (call_setDatum_eq_ok.mpr ⟨hfinite, hrange, rfl⟩), rfl⟩
  obtain ⟨before, hbefore, hoptions⟩ := hset
  exact hbefore.call_eq_ok (i := Setter.corrections rows) trivial
    (call_setCorrections_eq_ok_iff.mpr ⟨haccepts, hoptions⟩)

/-! ## What is thrown -/

theorem raises_readInterpolation :
    Raises (readInterpolation propertyTree sectionName) Fault.IsException := by
  refine .bind (.require fun _ => trivial) fun text _ => ?_
  dsimp only
  split_ifs
  · exact .ok _
  · exact .ok _
  · exact .error trivial

theorem raises_readDistanceType :
    Raises (readDistanceType propertyTree sectionName) Fault.IsException := by
  refine .bind (.require fun _ => trivial) fun text _ => ?_
  dsimp only
  split_ifs
  · exact .ok _
  · exact .ok _
  · exact .error trivial

theorem raises_readDatum :
    Raises (readDatum toDouble propertyTree sectionName options) Fault.IsException := by
  refine .bind (.bind (.throwIf fun _ => trivial) fun _ _ => .ok _) fun type _ => ?_
  split_ifs
  · exact Method.raises_call_lift_bind (.throwIf fun _ => trivial) fun _ =>
      Method.raises_call_lift_bind (.throwIf fun _ => trivial) fun _ => .ok _
  · exact .ok _

theorem raises_readRow (name text : Bytes) (corrections : List (Double F × Double F)) :
    Raises (readRow name text corrections) Fault.IsException := by
  unfold readRow
  split
  · exact .bind (raises_stod _) fun _ _ => .bind (raises_stod _) fun _ _ => .ok _
  · exact .error trivial

theorem raises_checkNeighbors (corrections : List (Double F × Double F)) :
    Raises (checkNeighbors corrections) Fault.IsException := by
  fun_induction checkNeighbors corrections with
  | case1 first second rest ih => exact .bind (.throwIf fun _ => trivial) fun _ _ => ih
  | case2 => exact .ok _

/-- The table is set, or refused with an exception, unless it can not be sorted. -/
theorem raises_setCorrections (corrections : List (Double F × Double F)) :
    Raises ((setCorrections corrections).call options) fun fault =>
      fault.IsException ∨ fault = .undefinedBehavior ∧ IsUnsortable corrections := by
  simp only [setCorrections, Method.call_lift_bind]
  refine .bind (.throwIf fun _ => Or.inl trivial) fun _ hnonempty => ?_
  refine .bind (.throwIf fun _ => Or.inl trivial) fun _ hnonneg => ?_
  refine .bind (.throwIf fun hunordered => Or.inr ⟨rfl, ?_, ?_, hunordered⟩) fun _ _ => ?_
  · exact throwIf_eq_ok.mp hnonempty
  · simpa using throwIf_eq_ok.mp hnonneg
  · exact .bind ((raises_checkNeighbors _).mono fun _ => Or.inl) fun _ _ => .ok _

/-- Nothing is refused before the table of the section is sorted, and that can not be done. -/
def HasUnsortableTable (toDouble : Bytes → Option (Double F)) (propertyTree : PropertyTree)
    (sectionName : Bytes) : Prop :=
  ∃ interpolation type, ∃ rows : List (Double F × Double F),
    readInterpolation propertyTree sectionName = .ok interpolation ∧
    readDistanceType propertyTree sectionName = .ok type ∧
    DatumInRange type (datumIn toDouble propertyTree sectionName) ∧
    List.Forall₂ StartsWithNumbers (rowsOf (itemName sectionName) propertyTree) rows ∧
    IsUnsortable rows

/-- A file that is there and can be parsed is loaded, or an exception is thrown, unless its
table can not be sorted. -/
theorem raises_fromInitializationFile {files : FileSystem} {boost : Boost}
    {iniFile sectionIn : Bytes} (hread : boost.readIni iniFile = .ok propertyTree) :
    Raises (fromInitializationFile files boost toDouble iniFile sectionIn) fun fault =>
      fault.IsException ∨ fault = .undefinedBehavior ∧
        HasUnsortableTable toDouble propertyTree (sectionPrefix sectionIn) := by
  have hlift {α : Type} {x : Throws α} (hx : Raises x Fault.IsException) :
      Raises x fun fault => fault.IsException ∨ fault = .undefinedBehavior ∧
        HasUnsortableTable toDouble propertyTree (sectionPrefix sectionIn) :=
    hx.mono fun _ => Or.inl
  refine .bind (hlift (.throwIf fun _ => trivial)) fun _ _ => ?_
  dsimp only
  rw [hread, bind_ok]
  refine .bind (hlift raises_readInterpolation) fun interpolation hinterpolation => ?_
  refine .bind (.ok _) fun _ hsetInterpolation => ?_
  refine .bind (hlift raises_readDistanceType) fun type htype => .bind (.ok _) fun _ hsetType => ?_
  obtain rfl := Except.ok.inj hsetInterpolation
  obtain rfl := Except.ok.inj hsetType
  refine .bind (hlift raises_readDatum) fun _ hreadDatum => ?_
  obtain ⟨hdatum, -⟩ := (readDatum_eq_ok rfl rfl).mp hreadDatum
  refine .bind (hlift (raises_forEachItem _ _ _ raises_readRow)) fun corrections hrows => ?_
  rw [forEachItem_eq] at hrows
  obtain ⟨rows, hstarts, rfl⟩ := readRows_eq_ok.mp hrows
  refine (raises_setCorrections ([] ++ rows)).mono fun fault => Or.imp_right ?_
  rintro ⟨hfault, hunsortable⟩
  exact ⟨hfault, interpolation, type, rows, hinterpolation, htype, hdatum, hstarts, hunsortable⟩

/-- And then the behaviour is undefined. -/
theorem fromInitializationFile_of_unsortable {files : FileSystem} {boost : Boost}
    {iniFile sectionIn : Bytes} (hexists : files.doesExist iniFile = true)
    (hread : boost.readIni iniFile = .ok propertyTree)
    (h : HasUnsortableTable toDouble propertyTree (sectionPrefix sectionIn)) :
    fromInitializationFile files boost toDouble iniFile sectionIn =
      .error .undefinedBehavior := by
  obtain ⟨interpolation, type, rows, hinterpolation, htype, hdatum, hstarts, hunsortable⟩ := h
  have hrows : forEachItem (itemName (sectionPrefix sectionIn)) readRow propertyTree [] =
      .ok rows := by
    rw [forEachItem_eq]
    exact readRows_eq_ok.mpr ⟨rows, hstarts, rfl⟩
  unfold fromInitializationFile
  rw [throwIf_neg (by simp [hexists]), bind_ok, hread, bind_ok]
  rw [hinterpolation, bind_ok, setInterpolation, Method.call_modify, bind_ok, htype, bind_ok,
    setType, Method.call_modify, bind_ok, (readDatum_eq_ok rfl rfl).mpr ⟨hdatum, rfl⟩, bind_ok,
    hrows, bind_ok]
  exact hunsortable.call_setCorrections _

end Loaded

end DistanceOptions

end Corrections
end ULocalMagnitude
