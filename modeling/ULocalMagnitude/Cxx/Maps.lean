import ULocalMagnitude.Cxx.Text
import Mathlib.Data.List.AList

/-!
# Maps keyed by strings

A `std::map<std::string, V>` is an association list without a second entry for a
key.  Its entries are not kept in key order: nothing here depends on the order
in which a map is traversed.
-/

namespace ULocalMagnitude
namespace Cxx

/-- `std::map<std::string, V>` -/
abbrev StringMap (V : Type) := AList fun _ : Bytes => V

namespace StringMap

variable {V : Type}

/-- `map.insert({key, value})`: an entry that is there already stays. -/
def emplace (map : StringMap V) (key : Bytes) (value : V) : StringMap V :=
  if key ∈ map then map else map.insert key value

theorem lookup_emplace_self {map : StringMap V} {key : Bytes} (h : key ∉ map)
    (value : V) : (map.emplace key value).lookup key = some value := by
  rw [emplace, if_neg h, AList.lookup_insert]

theorem lookup_emplace_ne {map : StringMap V} {key key' : Bytes} (h : key' ≠ key)
    (value : V) : (map.emplace key value).lookup key' = map.lookup key' := by
  unfold emplace
  split
  · rfl
  · exact AList.lookup_insert_ne h

theorem lookup_eq_some_iff {map : StringMap V} {key : Bytes} {value : V} :
    map.lookup key = some value ↔ (⟨key, value⟩ : Sigma fun _ => V) ∈ map.entries :=
  AList.mem_lookup_iff

end StringMap

end Cxx
end ULocalMagnitude
