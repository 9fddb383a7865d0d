import ULocalMagnitude.Configuration.PropertyTree

/-!
# Secrets

`secretFile.hpp`: a secret is written into the configuration or into a file that the
configuration names, but not both.
-/

namespace ULocalMagnitude
namespace Configuration

open Cxx

/-- `find_first_not_of` -/
def findFirstNotOf (characters s : Bytes) : Option Nat := s.findIdx? fun c => c ∉ characters

/-- `find_last_not_of` -/
def findLastNotOf (characters s : Bytes) : Option Nat :=
  (findFirstNotOf characters s.reverse).map fun position => s.length - 1 - position

/-- The surrounding characters that are removed. -/
def surroundings : Bytes := bytes " \t\r\n"

/-- Reads a secret from a file. -/
def readSecretFile (files : FileSystem) (path setting : Bytes) : Throws Bytes := do
  throwIf (!files.doesExist path)
    (.invalidArgument (toText setting ++ " names " ++ toText path ++ ", which does not exist"))
  let contents ← require (files.contents path)
    (.runtimeError ("Could not open " ++ toText path ++ " named by " ++ toText setting))
  match findFirstNotOf surroundings contents, findLastNotOf surroundings contents with
  | some first, some last => return (contents.drop first).take (last - first + 1)
  | _, _ =>
      .error (.invalidArgument (toText setting ++ " names " ++ toText path ++ ", which is empty"))

/-- Resolves a setting given either inline or as a file. -/
def resolveSecret (files : FileSystem) (propertyTree : PropertyTree)
    (inlineKey fileKey : Bytes) : Throws (Option Bytes) :=
  match propertyTree inlineKey, propertyTree fileKey with
  | some _, some _ => .error (.invalidArgument
      ("Both " ++ toText inlineKey ++ " and " ++ toText fileKey ++ " are set - use one"))
  | none, some fileValue => some <$> readSecretFile files fileValue fileKey
  | some inlineValue, none => return some inlineValue
  | none, none => return none

variable {files : FileSystem} {propertyTree : PropertyTree} {inlineKey fileKey : Bytes}

/-- A secret that is set in either way is resolved. -/
theorem exists_of_resolveSecret {secret : Option Bytes}
    (h : resolveSecret files propertyTree inlineKey fileKey = .ok secret)
    (hset : (propertyTree inlineKey).isSome ∨ (propertyTree fileKey).isSome) :
    ∃ token, secret = some token := by
  unfold resolveSecret at h
  cases hinline : propertyTree inlineKey with
  | none =>
      cases hfile : propertyTree fileKey with
      | none => simp [hinline, hfile] at hset
      | some fileValue =>
          rw [hinline, hfile] at h
          dsimp only at h
          cases hread : readSecretFile files fileValue fileKey with
          | error reason => simp [hread] at h
          | ok token =>
              rw [hread] at h
              exact ⟨token, (Except.ok.inj h).symm⟩
  | some inlineValue =>
      cases hfile : propertyTree fileKey with
      | none =>
          rw [hinline, hfile] at h
          exact ⟨inlineValue, (Except.ok.inj h).symm⟩
      | some fileValue =>
          rw [hinline, hfile] at h
          cases h

theorem raises_resolveSecret :
    Raises (resolveSecret files propertyTree inlineKey fileKey) Fault.IsException := by
  have hreadFile (path : Bytes) :
      Raises (readSecretFile files path fileKey) Fault.IsException := by
    refine .bind (.throwIf fun _ => trivial) fun _ _ => ?_
    refine .bind (.require fun _ => trivial) fun contents _ => ?_
    split
    · exact .ok _
    · exact .error trivial
  unfold resolveSecret
  split
  · exact .error trivial
  · exact (hreadFile _).map
  · exact .ok _
  · exact .ok _

end Configuration
end ULocalMagnitude
