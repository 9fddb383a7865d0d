import Mathlib.Data.List.Basic
import Mathlib.Tactic.Common

/-!
# Byte strings

A `std::string` is a list of bytes.  Character classes are those of
`std::locale::classic()`: they look at single bytes, only the ASCII blanks are
blank and only the ASCII letters have another case.

Two general facts carry what is said about names.  Removing the blanks and
capitalizing gives one result for exactly the spellings of one name and never
changes its own result.  Joining two names by a separator determines both of them
as long as the separator does not occur where the names meet.
-/

namespace ULocalMagnitude
namespace Cxx

/-- A `std::string`. -/
abbrev Bytes := List UInt8

/-- The bytes of an ASCII literal. -/
def bytes (literal : String) : Bytes := literal.toList.map Char.toUInt8

/-- The text a byte string shows as, for messages. -/
def toText (s : Bytes) : String := String.ofList (s.map fun c => Char.ofNat c.toNat)

/-- `std::isspace(c, std::locale::classic())`: blank, `\t`, `\n`, `\v`, `\f`, `\r` -/
def isspace (c : UInt8) : Bool := c == 32 || (9 ≤ c && c ≤ 13)

/-- `std::toupper(c, std::locale::classic())` -/
def toupper (c : UInt8) : UInt8 := if 97 ≤ c ∧ c ≤ 122 then c - 32 else c

/-- Without its blanks and capitalized. -/
def capitalized (s : Bytes) : Bytes := (s.filter fun c => !isspace c).map toupper

/-! ## Normalization -/

@[simp] theorem capitalized_nil : capitalized [] = [] := rfl

theorem capitalized_cons_of_isspace {c : UInt8} (h : isspace c = true) (s : Bytes) :
    capitalized (c :: s) = capitalized s := by
  simp [capitalized, h]

theorem capitalized_cons_of_not_isspace {c : UInt8} (h : isspace c = false) (s : Bytes) :
    capitalized (c :: s) = toupper c :: capitalized s := by
  simp [capitalized, h]

/-- Nothing but blanks. -/
def IsBlank (s : Bytes) : Prop := ∀ c ∈ s, isspace c = true

theorem capitalized_eq_nil_iff {s : Bytes} : capitalized s = [] ↔ IsBlank s := by
  simp [capitalized, IsBlank]

/-- A property of all bytes is checked on the 256 of them. -/
theorem forall_byte {P : UInt8 → Prop} (h : ∀ n < 256, P (UInt8.ofNat n)) (c : UInt8) :
    P c := by
  simpa using h c.toNat c.toNat_lt

theorem toupper_toupper (c : UInt8) : toupper (toupper c) = toupper c := by
  revert c
  refine forall_byte ?_
  decide +kernel

theorem isspace_toupper (c : UInt8) : isspace (toupper c) = isspace c := by
  revert c
  refine forall_byte ?_
  decide +kernel

/-- The result is its own normal form. -/
theorem capitalized_capitalized (s : Bytes) :
    capitalized (capitalized s) = capitalized s := by
  induction s with
  | nil => rfl
  | cons c s ih =>
      cases hc : isspace c with
      | true => rw [capitalized_cons_of_isspace hc, ih]
      | false =>
          have hupper : isspace (toupper c) = false := by rw [isspace_toupper, hc]
          rw [capitalized_cons_of_not_isspace hc,
            capitalized_cons_of_not_isspace hupper, toupper_toupper, ih]

/-- Two spellings of one name: they differ in blanks and in the case of letters. -/
inductive SameSpelling : Bytes → Bytes → Prop
  | nil : SameSpelling [] []
  | blankLeft {c : UInt8} {s t : Bytes} (hc : isspace c = true) (h : SameSpelling s t) :
      SameSpelling (c :: s) t
  | blankRight {c : UInt8} {s t : Bytes} (hc : isspace c = true) (h : SameSpelling s t) :
      SameSpelling s (c :: t)
  | same {s t : Bytes} (c : UInt8) (h : SameSpelling s t) :
      SameSpelling (c :: s) (c :: t)
  /-- A lower-case letter on the left against its capital on the right. -/
  | capitalRight {c : UInt8} {s t : Bytes} (hc : 97 ≤ c ∧ c ≤ 122) (h : SameSpelling s t) :
      SameSpelling (c :: s) ((c - 32) :: t)
  /-- A lower-case letter on the right against its capital on the left. -/
  | capitalLeft {c : UInt8} {s t : Bytes} (hc : 97 ≤ c ∧ c ≤ 122) (h : SameSpelling s t) :
      SameSpelling ((c - 32) :: s) (c :: t)

theorem SameSpelling.refl (s : Bytes) : SameSpelling s s := by
  induction s with
  | nil => exact .nil
  | cons c s ih => exact .same c ih

theorem isspace_letter :
    ∀ c : UInt8, 97 ≤ c ∧ c ≤ 122 → isspace c = false ∧ isspace (c - 32) = false := by
  refine forall_byte ?_
  decide +kernel

theorem toupper_capital :
    ∀ c : UInt8, 97 ≤ c ∧ c ≤ 122 → toupper (c - 32) = toupper c := by
  refine forall_byte ?_
  decide +kernel

/-- All spellings of a name have one normal form. -/
theorem SameSpelling.capitalized_eq {s t : Bytes} (h : SameSpelling s t) :
    capitalized s = capitalized t := by
  induction h with
  | nil => rfl
  | blankLeft hc _ ih => rw [capitalized_cons_of_isspace hc, ih]
  | blankRight hc _ ih => rw [capitalized_cons_of_isspace hc, ih]
  | same c _ ih =>
      cases hc : isspace c with
      | true => rw [capitalized_cons_of_isspace hc, capitalized_cons_of_isspace hc, ih]
      | false =>
          rw [capitalized_cons_of_not_isspace hc, capitalized_cons_of_not_isspace hc, ih]
  | capitalRight hc _ ih =>
      obtain ⟨hlower, hupper⟩ := isspace_letter _ hc
      rw [capitalized_cons_of_not_isspace hlower, capitalized_cons_of_not_isspace hupper,
        toupper_capital _ hc, ih]
  | capitalLeft hc _ ih =>
      obtain ⟨hlower, hupper⟩ := isspace_letter _ hc
      rw [capitalized_cons_of_not_isspace hlower, capitalized_cons_of_not_isspace hupper,
        toupper_capital _ hc, ih]

theorem toupper_of_lower {c : UInt8} (h : 97 ≤ c ∧ c ≤ 122) : toupper c = c - 32 := if_pos h

theorem toupper_of_not_lower {c : UInt8} (h : ¬ (97 ≤ c ∧ c ≤ 122)) : toupper c = c := if_neg h

/-- What all characters with one capital have in common. -/
theorem SameSpelling.cons_of_toupper {c d : UInt8} (hcd : toupper c = toupper d)
    {s t : Bytes} (h : SameSpelling s t) : SameSpelling (c :: s) (d :: t) := by
  by_cases hc : 97 ≤ c ∧ c ≤ 122
  · by_cases hd : 97 ≤ d ∧ d ≤ 122
    · rw [toupper_of_lower hc, toupper_of_lower hd, UInt8.sub_left_inj] at hcd
      rw [hcd]
      exact .same d h
    · rw [toupper_of_lower hc, toupper_of_not_lower hd] at hcd
      rw [← hcd]
      exact .capitalRight hc h
  · by_cases hd : 97 ≤ d ∧ d ≤ 122
    · rw [toupper_of_not_lower hc, toupper_of_lower hd] at hcd
      rw [hcd]
      exact .capitalLeft hd h
    · rw [toupper_of_not_lower hc, toupper_of_not_lower hd] at hcd
      rw [hcd]
      exact .same d h

/-- Names with one normal form are spellings of one name. -/
theorem sameSpelling_iff {s t : Bytes} : SameSpelling s t ↔ capitalized s = capitalized t := by
  refine ⟨SameSpelling.capitalized_eq, fun h => ?_⟩
  induction s generalizing t with
  | nil =>
      induction t with
      | nil => exact .nil
      | cons d t ih =>
          cases hd : isspace d with
          | true =>
              rw [capitalized_cons_of_isspace hd] at h
              exact .blankRight hd (ih h)
          | false =>
              rw [capitalized_cons_of_not_isspace hd] at h
              exact absurd h nofun
  | cons c s ih =>
      cases hc : isspace c with
      | true =>
          rw [capitalized_cons_of_isspace hc] at h
          exact .blankLeft hc (ih h)
      | false =>
          rw [capitalized_cons_of_not_isspace hc] at h
          -- The blanks before the counterpart of `c` are skipped.
          induction t with
          | nil => exact absurd h nofun
          | cons d t iht =>
              cases hd : isspace d with
              | true =>
                  rw [capitalized_cons_of_isspace hd] at h
                  exact .blankRight hd (iht h)
              | false =>
                  rw [capitalized_cons_of_not_isspace hd, List.cons.injEq] at h
                  exact .cons_of_toupper h.1 (ih h.2)

instance (s t : Bytes) : Decidable (SameSpelling s t) :=
  decidable_of_iff _ sameSpelling_iff.symm

/-! ## Joined names -/

/-- `first + separator + second` -/
def joined (separator : UInt8) (first second : Bytes) : Bytes :=
  first ++ separator :: second

/-- The pairs are different but read the same when joined: the separator occurs
inside one of the names, where the other pair is joined. -/
def Confusable (separator : UInt8) (p q : Bytes × Bytes) : Prop :=
  (∃ t, q.1 = p.1 ++ separator :: t ∧ p.2 = t ++ separator :: q.2) ∨
    ∃ t, p.1 = q.1 ++ separator :: t ∧ q.2 = t ++ separator :: p.2

/-- Joined names are equal exactly for equal and for confusable pairs. -/
theorem joined_eq_joined_iff (separator : UInt8) (p q : Bytes × Bytes) :
    joined separator p.1 p.2 = joined separator q.1 q.2 ↔
      p = q ∨ Confusable separator p q := by
  obtain ⟨a, b⟩ := p
  obtain ⟨c, d⟩ := q
  simp only [joined, Confusable, Prod.mk.injEq, List.append_eq_append_iff]
  constructor
  · intro h
    rcases h with ⟨t, hc, hb⟩ | ⟨t, ha, hd⟩
    · cases t with
      | nil =>
          refine Or.inl ⟨by simpa using hc.symm, ?_⟩
          simpa using hb
      | cons e t =>
          simp only [List.cons_append, List.cons.injEq] at hb
          obtain ⟨rfl, hb⟩ := hb
          exact Or.inr (Or.inl ⟨t, hc, hb⟩)
    · cases t with
      | nil =>
          refine Or.inl ⟨by simpa using ha, ?_⟩
          simpa using hd.symm
      | cons e t =>
          simp only [List.cons_append, List.cons.injEq] at hd
          obtain ⟨rfl, hd⟩ := hd
          exact Or.inr (Or.inr ⟨t, ha, hd⟩)
  · intro h
    rcases h with ⟨rfl, rfl⟩ | ⟨t, hc, hb⟩ | ⟨t, ha, hd⟩
    · exact Or.inl ⟨[], by simp⟩
    · exact Or.inl ⟨separator :: t, hc, by simp [hb]⟩
    · exact Or.inr ⟨separator :: t, ha, by simp [hd]⟩

/-- Confusable pairs are different pairs. -/
theorem Confusable.ne {separator : UInt8} {p q : Bytes × Bytes}
    (h : Confusable separator p q) : p ≠ q := by
  rintro rfl
  rcases h with ⟨t, ht, -⟩ | ⟨t, ht, -⟩
  · have := congrArg List.length ht
    simp at this
  · have := congrArg List.length ht
    simp at this

/-- Without the separator in the first names nothing is confusable. -/
theorem not_confusable_of_not_mem {separator : UInt8} {p q : Bytes × Bytes}
    (hp : separator ∉ p.1) (hq : separator ∉ q.1) : ¬ Confusable separator p q := by
  intro h
  rcases h with ⟨t, ht, -⟩ | ⟨t, ht, -⟩
  · exact hq (by simp [ht])
  · exact hp (by simp [ht])

end Cxx
end ULocalMagnitude
