import ULocalMagnitude.Cxx.Exceptions
import ULocalMagnitude.Cxx.Text

/-!
# Initialization files

Configurations are read through `boost::property_tree`.  A tree is what it answers for a
path, and the parser and the translators for texts are parameters: the code relies on
them, but they are not a part of it.
-/

namespace ULocalMagnitude
namespace Configuration

open Cxx

/-- The files: which paths there are, and the contents of those that can be opened. -/
structure FileSystem where
  doesExist : Bytes → Bool
  contents : Bytes → Option Bytes

/-- `boost::property_tree::ptree`: `get_optional<std::string>` as a function of the path. -/
abbrev PropertyTree := Bytes → Option Bytes

/-- `read_ini`, and the translators behind `get_optional<T>`; they return nothing for a
text that `operator>>` does not take in its entirety. -/
structure Boost where
  readIni : Bytes → Throws PropertyTree
  toInt : Bytes → Option Int
  toUInt16 : Bytes → Option UInt16
  toBool : Bytes → Option Bool

namespace PropertyTree

variable {α : Type}

/-- `get_optional<T>` -/
def getOptional (tree : PropertyTree) (translate : Bytes → Option α) (key : Bytes) : Option α :=
  (tree key).bind translate

/-- `get<T>` with a default, which also stands in for a text that is no value -/
def getValue (tree : PropertyTree) (translate : Bytes → Option α) (key : Bytes)
    (defaultValue : α) : α := (tree.getOptional translate key).getD defaultValue

/-- `get<std::string>` with a default -/
def getString (tree : PropertyTree) (key defaultValue : Bytes) : Bytes :=
  (tree key).getD defaultValue

section Values

variable {tree : PropertyTree} {translate : Bytes → Option α} {key text : Bytes}
  {defaultValue value : α}

theorem getValue_of_some (htext : tree key = some text)
    (hvalue : translate text = some value) :
    tree.getValue translate key defaultValue = value := by
  rw [getValue, getOptional, htext, Option.bind_some, hvalue]
  rfl

/-- A text that is no value counts as absent. -/
theorem getValue_of_no_value (htext : tree key = some text)
    (hvalue : translate text = none) :
    tree.getValue translate key defaultValue = defaultValue := by
  rw [getValue, getOptional, htext, Option.bind_some, hvalue]
  rfl

theorem getValue_of_none (hnone : tree key = none) :
    tree.getValue translate key defaultValue = defaultValue := by
  rw [getValue, getOptional, hnone]
  rfl

end Values

end PropertyTree

/-- Make sure section ends with `.` so we can find stuff. -/
def sectionPrefix (sectionIn : Bytes) : Bytes :=
  if sectionIn ≠ [] ∧ sectionIn.getLast? ≠ some 46 then sectionIn ++ bytes "." else sectionIn

end Configuration
end ULocalMagnitude
