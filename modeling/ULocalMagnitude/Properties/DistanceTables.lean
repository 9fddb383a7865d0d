import ULocalMagnitude.Corrections.DistanceFile
import ULocalMagnitude.Rationals

/-!
# Tables of distance corrections in files

A row is meant to be two numbers.  The loader reads the numbers that its two tokens start
with, and takes infinities and NaNs for numbers.  A table is therefore read as it is written
exactly where the tokens of no table that is accepted have more than a finite number to
them.
-/

namespace ULocalMagnitude
namespace Properties

open Cxx Configuration Corrections
open DistanceOptions (Interpolation DistanceType StartsWithNumbers IsNumbers Accepts
  DatumInRange readInterpolation readDistanceType datumIn itemName fromInitializationFile)

variable {F : Type} [ExactArithmetic F]

/-- The table is loaded exactly when all rows are numbers and the setter accepts them, and
then it is the rows sorted by distance. -/
structure ReadsTable (load : Throws (DistanceOptions F)) (texts : List Bytes) : Prop where
  accepted : (∃ options, load = .ok options) ↔
    1 ≤ texts.length ∧ ∃ rows, List.Forall₂ IsNumbers texts rows ∧ Accepts (F := F) rows
  stored : ∀ options, load = .ok options →
    ∃ rows table, List.Forall₂ IsNumbers texts rows ∧ options.getCorrections = .ok table ∧
      table.Perm rows ∧ table.Pairwise fun a b => a.1 ≤ b.1

/-- Rows that start with the numbers of an accepted table are these numbers; where the datum
is refused, there is no such table. -/
def IsExactTable (type : DistanceType) (datum : Double F) (texts : List Bytes) : Prop :=
  if DatumInRange type datum then
    ∀ rows, List.Forall₂ StartsWithNumbers texts rows → Accepts (F := F) rows →
      List.Forall₂ IsNumbers texts rows
  else ∀ rows, List.Forall₂ IsNumbers texts rows → ¬ Accepts (F := F) rows

/-! ## Rows of numbers -/

section Rows

variable {texts : List Bytes} {rows rows' : List (Double F × Double F)}

theorem startsWithNumbers_of_isNumbers (h : List.Forall₂ IsNumbers texts rows) :
    List.Forall₂ StartsWithNumbers texts rows :=
  h.imp fun _ _ hrow => hrow.startsWithNumbers

/-- The numbers that the rows start with are determined. -/
theorem rows_unique (h : List.Forall₂ StartsWithNumbers texts rows)
    (h' : List.Forall₂ StartsWithNumbers texts rows') : rows = rows' :=
  List.right_unique_forall₂' (fun _ _ _ hrow hrow' => hrow.unique hrow') h h'

theorem isFinite_of_isNumbers (h : List.Forall₂ IsNumbers texts rows) :
    ∀ row ∈ rows, row.1.isFinite = true := by
  induction h with
  | nil => exact fun _ hrow => nomatch hrow
  | cons hrow _ ih =>
      obtain ⟨_, _, x, y, -, -, -, rfl⟩ := hrow
      exact List.forall_mem_cons.mpr ⟨rfl, ih⟩

/-- Numbers are sorted by distance. -/
theorem sortByDistance_sorted (hfinite : ∀ row ∈ rows, row.1.isFinite = true) :
    (DistanceOptions.sortByDistance rows).Pairwise fun a b => a.1 ≤ b.1 := by
  obtain ⟨numbers, rfl⟩ := exists_storedRows hfinite
  obtain ⟨sorted, hstored, -, hsorted⟩ := DistanceOptions.exists_sorted numbers
  rw [hstored]
  exact List.pairwise_map.mpr hsorted

/-- An accepted table has a row. -/
theorem texts_of_accepts (h : List.Forall₂ IsNumbers texts rows) (haccepts : Accepts rows) :
    1 ≤ texts.length := by
  obtain ⟨after, hafter⟩ := haccepts
  rw [h.length_eq]
  exact List.length_pos_iff.mpr (DistanceOptions.call_setCorrections_eq_ok.mp hafter).1

end Rows

/-! ## Loaded tables -/

section Loaded

variable {files : FileSystem} {boost : Boost} (toDouble : Bytes → Option (Double F))
  {iniFile sectionIn : Bytes} {propertyTree : PropertyTree} {interpolation : Interpolation}
  {type : DistanceType} {texts : List Bytes} {load : Throws (DistanceOptions F)}

/-- What is loaded has the numbers that the rows start with. -/
theorem fromInitializationFile_eq_ok_iff_of_items (hexists : files.doesExist iniFile = true)
    (hread : boost.readIni iniFile = .ok propertyTree)
    (hinterpolation : readInterpolation propertyTree (sectionPrefix sectionIn) =
      .ok interpolation)
    (htype : readDistanceType propertyTree (sectionPrefix sectionIn) = .ok type)
    (hitems : Items (itemName (sectionPrefix sectionIn)) propertyTree texts)
    (options : DistanceOptions F) :
    fromInitializationFile files boost toDouble iniFile sectionIn = .ok options ↔
      DatumInRange type (datumIn toDouble propertyTree (sectionPrefix sectionIn)) ∧
        ∃ rows, List.Forall₂ StartsWithNumbers texts rows ∧ Accepts rows ∧
          DistanceOptions.optionsOf interpolation type
            (datumIn toDouble propertyTree (sectionPrefix sectionIn)) rows = options := by
  rw [DistanceOptions.fromInitializationFile_eq_ok hexists hread, DistanceOptions.Loads,
    hitems.rowsOf_eq, hinterpolation, htype]
  constructor
  · rintro ⟨_, _, rows, hsame, hsame', hdatum, hrest⟩
    obtain rfl := Except.ok.inj hsame
    obtain rfl := Except.ok.inj hsame'
    exact ⟨hdatum, rows, hrest⟩
  · rintro ⟨hdatum, rows, hrest⟩
    exact ⟨interpolation, type, rows, rfl, rfl, hdatum, hrest⟩

/-- A loader that only looks at the table reads what is written when the rows that it takes
are numbers. -/
theorem readsTable_iff_of_loads {optionsOf : List (Double F × Double F) → DistanceOptions F}
    (hstored : ∀ rows, (optionsOf rows).getCorrections =
      .ok (DistanceOptions.sortByDistance rows))
    (hload : ∀ options, load = .ok options ↔ ∃ rows,
      List.Forall₂ StartsWithNumbers texts rows ∧ Accepts rows ∧ optionsOf rows = options) :
    ReadsTable load texts ↔ ∀ rows, List.Forall₂ StartsWithNumbers texts rows →
      Accepts (F := F) rows → List.Forall₂ IsNumbers texts rows := by
  constructor
  · intro h rows hstarts haccepts
    obtain ⟨-, rows', hnumbers, -⟩ :=
      h.accepted.mp ⟨_, (hload _).mpr ⟨rows, hstarts, haccepts, rfl⟩⟩
    -- The rows start with one list of numbers, so it is the one that is written.
    rwa [rows_unique hstarts (startsWithNumbers_of_isNumbers hnumbers)]
  · intro hexact
    refine ⟨⟨?_, ?_⟩, ?_⟩
    · rintro ⟨options, hoptions⟩
      obtain ⟨rows, hstarts, haccepts, -⟩ := (hload options).mp hoptions
      have hnumbers := hexact rows hstarts haccepts
      exact ⟨texts_of_accepts hnumbers haccepts, rows, hnumbers, haccepts⟩
    · rintro ⟨-, rows, hnumbers, haccepts⟩
      exact ⟨_, (hload _).mpr
        ⟨rows, startsWithNumbers_of_isNumbers hnumbers, haccepts, rfl⟩⟩
    · intro options hoptions
      obtain ⟨rows, hstarts, haccepts, rfl⟩ := (hload options).mp hoptions
      have hnumbers := hexact rows hstarts haccepts
      have hfinite := isFinite_of_isNumbers hnumbers
      exact ⟨rows, _, hnumbers, hstored rows,
        DistanceOptions.sortByDistance_perm (DistanceOptions.isOrdered_of_isFinite hfinite),
        sortByDistance_sorted hfinite⟩

/-- A loader that refuses everything should have no table to refuse. -/
theorem readsTable_iff_of_refused (hload : ∀ options, load ≠ .ok options) :
    ReadsTable load texts ↔
      ∀ rows, List.Forall₂ IsNumbers texts rows → ¬ Accepts (F := F) rows := by
  constructor
  · intro h rows hnumbers haccepts
    obtain ⟨options, hoptions⟩ :=
      h.accepted.mpr ⟨texts_of_accepts hnumbers haccepts, rows, hnumbers, haccepts⟩
    exact hload options hoptions
  · intro hnone
    refine ⟨⟨?_, ?_⟩, ?_⟩
    · rintro ⟨options, hoptions⟩
      exact absurd hoptions (hload options)
    · rintro ⟨-, rows, hnumbers, haccepts⟩
      exact absurd haccepts (hnone rows hnumbers)
    · intro options hoptions
      exact absurd hoptions (hload options)

end Loaded

/-- A file without sections that has up to three rows. -/
def tableTree (rows : List Bytes) : PropertyTree := fun path =>
  if path = bytes "interpolation" then some (bytes "nearest")
  else if path = bytes "distanceType" then some (bytes "epicentral")
  else if path = bytes "distance_correction_1" then rows[0]?
  else if path = bytes "distance_correction_2" then rows[1]?
  else if path = bytes "distance_correction_3" then rows[2]?
  else none

def tableBoost (rows : List Bytes) : Boost where
  readIni _ := .ok (tableTree rows)
  toInt _ := none
  toUInt16 _ := none
  toBool _ := none

def allFiles : FileSystem where
  doesExist _ := true
  contents _ := none

/-- The row in the middle is the nearest one. -/
def unsortedRows : List Bytes := [bytes "5000, 1.4", bytes "7, -0.25", bytes "120.5 2"]

end Properties
end ULocalMagnitude
