import ULocalMagnitude.Cxx.Numerals
import Mathlib.Data.List.TakeWhile

/-!
# Numbers from streams

`operator>>` of a `std::istream` skips blanks and takes a sign and a number in decimal
notation.  Of a text it is asked for one number only: blanks may follow, and then the text
has to end.

`Written` says what stands in a text without reading it: it is blanks, a sign, a number and
blanks.  A reader that takes the longest number it can get finds exactly what is written.
A minus is read for unsigned types as well; there the number is subtracted from zero, modulo
the size of the type.
-/

namespace ULocalMagnitude
namespace Cxx

variable {α : Type}

/-! ## Extraction -/

/-- The value of a text that is one number for a reader of numbers without sign: is there a
minus, and the number. -/
def extract (read : Bytes → Option (α × Nat)) (text : Bytes) : Option (Bool × α) :=
  let s := text.dropWhile isspace
  let (negative, signed) := readSign s
  match read (s.drop signed) with
  | some (x, length) =>
      if (s.drop (signed + length)).all isspace then some (negative, x) else none
  | none => none

/-- The number that the text starts with and its length. -/
def readDigits (s : Bytes) : Option (Nat × Nat) :=
  let digits := s.takeWhile (isDigit 10)
  if digits = [] then none else some (ofDigits 10 digits, digits.length)

/-- The number is one of type `int`. -/
def InInt (z : Int) : Prop := -2 ^ 31 ≤ z ∧ z < 2 ^ 31

instance : DecidablePred InInt := fun z => inferInstanceAs (Decidable (-2 ^ 31 ≤ z ∧ z < 2 ^ 31))

/-- `operator>>(int &)` -/
def extractInt (text : Bytes) : Option Int := do
  let (negative, number) ← extract readDigits text
  let value : Int := if negative then -number else number
  if InInt value then some value else none

/-- `operator>>(uint16_t &)` -/
def extractUInt16 (text : Bytes) : Option UInt16 := do
  let (negative, number) ← extract readDigits text
  if number < 2 ^ 16 then
    some (if negative then -UInt16.ofNat number else UInt16.ofNat number)
  else none

/-- `operator>>(double &)`; numbers that are rounded to an infinity are out of range. -/
def extractDouble {F : Type} [ExactArithmetic F] (text : Bytes) : Option (Double F) := do
  let (negative, x) ← extract Numeral.decimal.read text
  if x < ((2 ^ 1024 - 2 ^ 970 : Nat) : F) then
    some (.finite (if negative then -x else x))
  else none

/-! ## What is written -/

/-- A sign and whether it is a minus. -/
inductive IsSign : Bytes → Bool → Prop
  | absent : IsSign [] false
  | plus : IsSign [43] false
  | minus : IsSign [45] true

/-- The text is a number of the kind `P`, with a sign and blanks around it. -/
def Written (P : Bytes → α → Prop) (text : Bytes) (negative : Bool) (x : α) : Prop :=
  ∃ before sign s behind, IsBlank before ∧ IsSign sign negative ∧ P s x ∧ IsBlank behind ∧
    text = before ++ sign ++ s ++ behind

/-- The text does not start with a digit, a point or a letter. -/
def EndsNumber (s : Bytes) : Prop :=
  ∀ c ∈ s.head?, isDigit 10 c = false ∧ c ≠ 46 ∧ tolower c ≠ 101

/-- The text starts with neither a blank nor a sign. -/
def StartsUnsigned (s : Bytes) : Prop :=
  ∃ c rest, s = c :: rest ∧ isspace c = false ∧ c ≠ 43 ∧ c ≠ 45

/-- The reader finds the longest number of the kind `P` that its text starts with. -/
structure IsReader (read : Bytes → Option (α × Nat)) (P : Bytes → α → Prop) : Prop where
  sound : ∀ s x length, read s = some (x, length) →
    ∃ number rest, s = number ++ rest ∧ number.length = length ∧ P number x
  complete : ∀ number x rest, P number x → EndsNumber rest →
    read (number ++ rest) = some (x, number.length)
  unsigned : ∀ number x, P number x → StartsUnsigned number

theorem endsNumber_of_isBlank {s : Bytes} (h : IsBlank s) : EndsNumber s := by
  have hblank : ∀ c : UInt8, isspace c = true →
      isDigit 10 c = false ∧ c ≠ 46 ∧ tolower c ≠ 101 := by
    refine forall_byte ?_
    decide +kernel
  intro c hc
  exact hblank c (h c (List.mem_of_mem_head? hc))

theorem takeWhile_append_of_head {p : α → Bool} {s rest : List α} (hs : ∀ a ∈ s, p a = true)
    (hrest : ∀ a ∈ rest.head?, p a = false) : (s ++ rest).takeWhile p = s := by
  rw [List.takeWhile_append_of_pos hs]
  cases rest with
  | nil => simp
  | cons a rest => simp [hrest a rfl]

theorem dropWhile_append_of_head {p : α → Bool} {s rest : List α} (hs : ∀ a ∈ s, p a = true)
    (hrest : ∀ a ∈ rest.head?, p a = false) : (s ++ rest).dropWhile p = rest := by
  rw [List.dropWhile_append_of_pos hs]
  cases rest with
  | nil => rfl
  | cons a rest => simp [hrest a rfl]

theorem readSign_cases (s : Bytes) :
    ∃ sign rest negative, s = sign ++ rest ∧ IsSign sign negative ∧
      readSign s = (negative, sign.length) := by
  cases s with
  | nil => exact ⟨[], [], false, rfl, .absent, rfl⟩
  | cons c rest =>
      by_cases hminus : c = 45
      · subst hminus
        exact ⟨[45], rest, true, rfl, .minus, rfl⟩
      by_cases hplus : c = 43
      · subst hplus
        exact ⟨[43], rest, false, rfl, .plus, rfl⟩
      · refine ⟨[], c :: rest, false, rfl, .absent, ?_⟩
        simp [readSign, hminus, hplus]

theorem readSign_append {sign rest : Bytes} {negative : Bool} (h : IsSign sign negative)
    (hrest : ∀ c ∈ rest.head?, c ≠ 43 ∧ c ≠ 45) :
    readSign (sign ++ rest) = (negative, sign.length) := by
  cases h with
  | absent =>
      cases rest with
      | nil => rfl
      | cons c rest =>
          obtain ⟨hplus, hminus⟩ := hrest c rfl
          simp [readSign, hplus, hminus]
  | plus => rfl
  | minus => rfl

theorem not_isspace_sign {sign : Bytes} {negative : Bool} (h : IsSign sign negative) :
    ∀ c ∈ sign, isspace c = false := by
  cases h with
  | absent => exact nofun
  | plus => exact List.forall_mem_singleton.mpr rfl
  | minus => exact List.forall_mem_singleton.mpr rfl

/-- A text is one number for the reader exactly when the number is written in it. -/
theorem extract_eq_some_iff {read : Bytes → Option (α × Nat)} {P : Bytes → α → Prop}
    (hread : IsReader read P) {text : Bytes} {negative : Bool} {x : α} :
    extract read text = some (negative, x) ↔ Written P text negative x := by
  constructor
  · intro h
    unfold extract at h
    dsimp only at h
    obtain ⟨sign, s, negative', hs, hsign, hsigned⟩ := readSign_cases (text.dropWhile isspace)
    rw [hsigned, hs, List.drop_left] at h
    cases hnumber : read s with
    | none => simp [hnumber] at h
    | some found =>
        obtain ⟨y, length⟩ := found
        obtain ⟨number, behind, rfl, rfl, hP⟩ := hread.sound s y length hnumber
        rw [hnumber] at h
        dsimp only at h
        rw [← List.length_append, ← List.append_assoc, List.drop_left] at h
        split at h
        case isFalse => cases h
        case isTrue hbehind =>
          obtain ⟨rfl, rfl⟩ := Prod.mk.inj (Option.some.inj h)
          refine ⟨text.takeWhile isspace, sign, number, behind, ?_, hsign, hP, ?_, ?_⟩
          · exact fun c hc => List.mem_takeWhile_imp hc
          · simpa [IsBlank] using hbehind
          · rw [List.append_assoc, List.append_assoc, ← hs, List.takeWhile_append_dropWhile]
  · rintro ⟨before, sign, number, behind, hbefore, hsign, hP, hbehind, rfl⟩
    obtain ⟨c, rest, hc, hspace, hplus, hminus⟩ := hread.unsigned number x hP
    have hstart : ∀ a ∈ (sign ++ (number ++ behind)).head?, isspace a = false := by
      intro a ha
      rcases List.mem_append.mp (List.mem_of_mem_head? ha) with hmem | hmem
      · exact not_isspace_sign hsign a hmem
      · cases hsign with
        | absent =>
            rw [hc] at ha
            obtain rfl : c = a := by simpa using ha
            exact hspace
        | plus =>
            obtain rfl : 43 = a := by simpa using ha
            rfl
        | minus =>
            obtain rfl : 45 = a := by simpa using ha
            rfl
    have hhead : ∀ a ∈ (number ++ behind).head?, a ≠ 43 ∧ a ≠ 45 := by
      intro a ha
      rw [hc] at ha
      obtain rfl : c = a := by simpa using ha
      exact ⟨hplus, hminus⟩
    unfold extract
    rw [List.append_assoc, List.append_assoc, dropWhile_append_of_head hbefore hstart]
    dsimp only
    rw [readSign_append hsign hhead, List.drop_left,
      hread.complete number x behind hP (endsNumber_of_isBlank hbehind)]
    dsimp only
    rw [← List.length_append, ← List.append_assoc, List.drop_left,
      if_pos (by simpa [IsBlank] using hbehind)]

/-- In one text one number is written. -/
theorem Written.unique {read : Bytes → Option (α × Nat)} {P : Bytes → α → Prop}
    (hread : IsReader read P) {text : Bytes} {negative negative' : Bool} {x x' : α}
    (h : Written P text negative x) (h' : Written P text negative' x') :
    negative = negative' ∧ x = x' := by
  have hsame := (extract_eq_some_iff hread).mpr h
  rw [(extract_eq_some_iff hread).mpr h'] at hsame
  obtain ⟨rfl, rfl⟩ := Prod.mk.inj (Option.some.inj hsame)
  exact ⟨rfl, rfl⟩

/-! ## Integers -/

/-- Digits and their number. -/
structure IsDigits (s : Bytes) (number : Nat) : Prop where
  nonempty : s ≠ []
  digits : ∀ c ∈ s, isDigit 10 c = true
  value : ofDigits 10 s = number

theorem startsUnsigned_of_isDigit {c : UInt8} (h : isDigit 10 c = true) (rest : Bytes) :
    StartsUnsigned (c :: rest) := by
  have hdigit : ∀ c : UInt8, isDigit 10 c = true → isspace c = false ∧ c ≠ 43 ∧ c ≠ 45 := by
    refine forall_byte ?_
    decide +kernel
  exact ⟨c, rest, rfl, hdigit c h⟩

theorem EndsNumber.not_isDigit {s : Bytes} (h : EndsNumber s) :
    ∀ c ∈ s.head?, isDigit 10 c = false :=
  fun c hc => (h c hc).1

theorem isReader_digits : IsReader readDigits IsDigits where
  sound s number length h := by
    unfold readDigits at h
    dsimp only at h
    split at h
    case isTrue => cases h
    case isFalse hnonempty =>
      obtain ⟨rfl, rfl⟩ := Prod.mk.inj (Option.some.inj h)
      exact ⟨s.takeWhile (isDigit 10), s.dropWhile (isDigit 10),
        List.takeWhile_append_dropWhile.symm, rfl, hnonempty,
        fun c hc => List.mem_takeWhile_imp hc, rfl⟩
  complete s number rest h hrest := by
    unfold readDigits
    dsimp only
    rw [takeWhile_append_of_head h.digits hrest.not_isDigit, if_neg h.nonempty, h.value]
  unsigned s number h := by
    obtain ⟨c, rest, rfl⟩ := List.exists_cons_of_ne_nil h.nonempty
    exact startsUnsigned_of_isDigit (h.digits c List.mem_cons_self) rest

/-- The text is the integer in decimal notation. -/
def IsInteger (text : Bytes) (z : Int) : Prop :=
  ∃ negative number, Written IsDigits text negative number ∧
    (if negative then -(number : Int) else number) = z

theorem IsInteger.unique {text : Bytes} {z z' : Int} (h : IsInteger text z)
    (h' : IsInteger text z') : z = z' := by
  obtain ⟨negative, number, hwritten, rfl⟩ := h
  obtain ⟨negative', number', hwritten', rfl⟩ := h'
  obtain ⟨rfl, rfl⟩ := hwritten.unique isReader_digits hwritten'
  rfl

/-- Of the integers those of the type are read. -/
theorem extractInt_eq_some_iff {text : Bytes} {z : Int} :
    extractInt text = some z ↔ IsInteger text z ∧ InInt z := by
  unfold extractInt IsInteger
  simp only [Option.bind_eq_bind, Option.bind_eq_some_iff, Prod.exists,
    extract_eq_some_iff isReader_digits, Option.ite_none_right_eq_some, Option.some.injEq]
  constructor
  · rintro ⟨negative, number, hwritten, hrange, rfl⟩
    exact ⟨⟨negative, number, hwritten, rfl⟩, hrange⟩
  · rintro ⟨⟨negative, number, hwritten, rfl⟩, hrange⟩
    exact ⟨negative, number, hwritten, hrange, rfl⟩

theorem ofInt_natCast (number : Nat) : UInt16.ofInt number = UInt16.ofNat number := by
  have hmod : ((number : Int) % 2 ^ 16).toNat = number % 2 ^ 16 := by omega
  rw [UInt16.ofInt, hmod]
  exact UInt16.ofNat_mod_size

/-- Integers are read for the unsigned type up to the sign, modulo its size. -/
theorem extractUInt16_eq_some_iff {text : Bytes} {value : UInt16} :
    extractUInt16 text = some value ↔
      ∃ z, IsInteger text z ∧ z.natAbs < 2 ^ 16 ∧ UInt16.ofInt z = value := by
  unfold extractUInt16 IsInteger
  simp only [Option.bind_eq_bind, Option.bind_eq_some_iff, Prod.exists,
    extract_eq_some_iff isReader_digits, Option.ite_none_right_eq_some, Option.some.injEq]
  have hvalue (negative : Bool) (number : Nat) :
      UInt16.ofInt (if negative then -(number : Int) else number) =
        if negative then -UInt16.ofNat number else UInt16.ofNat number := by
    cases negative <;> simp [ofInt_natCast]
  have habs (negative : Bool) (number : Nat) :
      (if negative then -(number : Int) else number).natAbs = number := by
    cases negative <;> simp
  constructor
  · rintro ⟨negative, number, hwritten, hrange, rfl⟩
    exact ⟨_, ⟨negative, number, hwritten, rfl⟩, (habs negative number).trans_lt hrange,
      hvalue negative number⟩
  · rintro ⟨_, ⟨negative, number, hwritten, rfl⟩, hrange, rfl⟩
    exact ⟨negative, number, hwritten, (habs negative number).symm.trans_lt hrange,
      (hvalue negative number).symm⟩

/-! ## Decimals -/

/-- A point and the digits behind it, or nothing. -/
inductive IsFraction : Bytes → Bytes → Prop
  | absent : IsFraction [] []
  | point (digits : Bytes) : IsFraction (46 :: digits) digits

/-- A letter, a sign and the digits of the exponent, or nothing. -/
inductive IsExponent : Bytes → Int → Prop
  | absent : IsExponent [] 0
  | given {letter : UInt8} {sign digits : Bytes} {negative : Bool} {number : Nat}
      (hletter : tolower letter = 101) (hsign : IsSign sign negative)
      (hdigits : IsDigits digits number) :
      IsExponent (letter :: (sign ++ digits)) (if negative then -(number : Int) else number)

section Decimals

variable {F : Type} [ExactArithmetic F]

/-- Digits with a point in front of, among or behind them, and an exponent. -/
def IsUnsignedDecimal (s : Bytes) (x : F) : Prop :=
  ∃ whole pointed fraction suffix exponent, s = whole ++ pointed ++ suffix ∧
    (∀ c ∈ whole, isDigit 10 c = true) ∧ (∀ c ∈ fraction, isDigit 10 c = true) ∧
    ¬ (whole = [] ∧ fraction = []) ∧ IsFraction pointed fraction ∧ IsExponent suffix exponent ∧
    x = (ofDigits 10 (whole ++ fraction) : F) * (10 : F) ^ (exponent - fraction.length)

/-- An exponent is read when it has digits. -/
theorem readExponent_sound (s : Bytes) :
    ∃ suffix rest, s = suffix ++ rest ∧
      IsExponent suffix (Numeral.decimal.readExponent s).1 ∧
      suffix.length = (Numeral.decimal.readExponent s).2 := by
  unfold Numeral.readExponent
  obtain ⟨sign, behind, negative, hs, hsign, hsigned⟩ := readSign_cases (s.drop 1)
  have hdrop : s.drop (1 + sign.length) = behind := by
    rw [← List.drop_drop, hs, List.drop_left]
  dsimp only
  rw [hsigned]
  dsimp only
  rw [hdrop]
  split
  case isFalse => exact ⟨[], s, rfl, .absent, rfl⟩
  case isTrue h =>
    obtain ⟨hletter, hnonempty⟩ := h
    cases s with
    | nil => cases hletter
    | cons letter rest =>
        have hrest : rest = sign ++ behind := hs
        have hlower : tolower letter = 101 := Option.some.inj hletter
        have hdigits : IsDigits (behind.takeWhile (isDigit 10))
            (ofDigits 10 (behind.takeWhile (isDigit 10))) :=
          ⟨hnonempty, fun c hc => List.mem_takeWhile_imp hc, rfl⟩
        refine ⟨_, behind.dropWhile (isDigit 10), ?_, .given hlower hsign hdigits, ?_⟩
        · rw [hrest, List.cons_append, List.append_assoc, List.takeWhile_append_dropWhile]
        · rw [List.length_cons, List.length_append]
          omega

theorem readExponent_complete {suffix rest : Bytes} {exponent : Int}
    (h : IsExponent suffix exponent) (hrest : EndsNumber rest) :
    Numeral.decimal.readExponent (suffix ++ rest) = (exponent, suffix.length) := by
  unfold Numeral.readExponent
  cases h with
  | absent =>
      dsimp only
      rw [if_neg]
      · rfl
      · rintro ⟨hletter, -⟩
        obtain ⟨letter, hhead, hlower⟩ := Option.map_eq_some_iff.mp hletter
        exact (hrest letter hhead).2.2 hlower
  | @given letter sign digits negative number hletter hsign hdigits =>
      obtain ⟨c, tail, hc⟩ := List.exists_cons_of_ne_nil hdigits.nonempty
      have hstart : ∀ a ∈ (digits ++ rest).head?, a ≠ 43 ∧ a ≠ 45 := by
        obtain ⟨d, tail', hd, -, hplus, hminus⟩ := isReader_digits.unsigned digits number hdigits
        intro a ha
        rw [hd] at ha
        obtain rfl : d = a := by simpa using ha
        exact ⟨hplus, hminus⟩
      have htail : (letter :: (sign ++ digits) ++ rest).drop 1 = sign ++ (digits ++ rest) := by
        rw [List.cons_append, List.drop_one, List.tail_cons, List.append_assoc]
      dsimp only
      rw [htail, readSign_append hsign hstart]
      dsimp only
      rw [← List.drop_drop, htail, List.drop_left,
        takeWhile_append_of_head hdigits.digits hrest.not_isDigit, hdigits.value,
        if_pos ⟨congrArg some hletter, hdigits.nonempty⟩]
      simp only [List.length_cons, List.length_append, Prod.mk.injEq]
      exact ⟨trivial, by omega⟩

/-- The digits that a text starts with, and what is behind them. -/
theorem exists_digits (s : Bytes) :
    ∃ digits rest, s = digits ++ rest ∧ (∀ c ∈ digits, isDigit 10 c = true) ∧
      ∀ c ∈ rest.head?, isDigit 10 c = false := by
  refine ⟨s.takeWhile (isDigit 10), s.dropWhile (isDigit 10),
    List.takeWhile_append_dropWhile.symm, fun c hc => List.mem_takeWhile_imp hc, ?_⟩
  intro c hc
  have hnot := List.head?_dropWhile_not (isDigit 10) s
  rw [hc] at hnot
  exact hnot

/-- The reader of decimals on a text that is taken apart. -/
theorem readDecimal_append {whole pointed fraction rest : Bytes}
    (hwhole : ∀ c ∈ whole, isDigit 10 c = true)
    (hfraction : ∀ c ∈ fraction, isDigit 10 c = true) (hpointed : IsFraction pointed fraction)
    (hrest : ∀ c ∈ rest.head?, isDigit 10 c = false)
    (hpoint : pointed = [] → ∀ c ∈ rest.head?, c ≠ 46) :
    (Numeral.decimal.read (whole ++ (pointed ++ rest)) : Option (F × Nat)) =
      if whole = [] ∧ fraction = [] then none
      else some ((ofDigits 10 (whole ++ fraction) : F) *
          (10 : F) ^ ((Numeral.decimal.readExponent rest).1 - fraction.length),
        whole.length + pointed.length + (Numeral.decimal.readExponent rest).2) := by
  have hbehind : ∀ c ∈ (pointed ++ rest).head?, isDigit 10 c = false := by
    cases hpointed with
    | absent => exact hrest
    | point digits =>
        intro c hc
        obtain rfl : 46 = c := by simpa using hc
        rfl
  have htake : (whole ++ (pointed ++ rest)).takeWhile (isDigit Numeral.decimal.base) = whole :=
    takeWhile_append_of_head hwhole hbehind
  unfold Numeral.read
  rw [htake]
  dsimp only
  rw [List.drop_left]
  cases hpointed with
  | absent =>
      have hnone : ([] ++ rest : Bytes).head? ≠ some 46 := fun h => hpoint rfl 46 h rfl
      rw [if_neg hnone, if_neg hnone, Nat.add_zero, List.drop_left]
      simp [Numeral.decimal]
  | point =>
      have hhead : (46 :: fraction ++ rest : Bytes).head? = some 46 := rfl
      have hdigits : ((46 :: fraction ++ rest : Bytes).drop 1).takeWhile
          (isDigit Numeral.decimal.base) = fraction := takeWhile_append_of_head hfraction hrest
      have hdrop : (whole ++ (46 :: fraction ++ rest) : Bytes).drop
          (whole.length + (1 + fraction.length)) = rest := by
        rw [← List.drop_drop, List.drop_left, Nat.add_comm, List.cons_append,
          List.drop_succ_cons, List.drop_left]
      rw [if_pos hhead, if_pos hhead, hdigits, hdrop]
      simp [Numeral.decimal, Nat.add_comm]

theorem isReader_decimal :
    IsReader (Numeral.decimal.read : Bytes → Option (F × Nat)) IsUnsignedDecimal where
  sound s x length h := by
    obtain ⟨whole, behind, rfl, hwhole, hbehind⟩ := exists_digits s
    -- A point that follows takes its digits with it.
    have hsplit : ∃ pointed fraction rest, behind = pointed ++ rest ∧
        IsFraction pointed fraction ∧ (∀ c ∈ fraction, isDigit 10 c = true) ∧
        (∀ c ∈ rest.head?, isDigit 10 c = false) ∧
        (pointed = [] → ∀ c ∈ rest.head?, c ≠ 46) := by
      by_cases hpoint : behind.head? = some 46
      · obtain ⟨tail, rfl⟩ := List.head?_eq_some_iff.mp hpoint
        obtain ⟨fraction, rest, rfl, hfraction, hrest⟩ := exists_digits tail
        exact ⟨46 :: fraction, fraction, rest, rfl, .point fraction, hfraction, hrest, nofun⟩
      · refine ⟨[], [], behind, rfl, .absent, by simp, hbehind, fun _ c hc hcolon => ?_⟩
        exact hpoint (hcolon ▸ hc)
    obtain ⟨pointed, fraction, rest, rfl, hpointed, hfraction, hrest, hpoint⟩ := hsplit
    rw [readDecimal_append hwhole hfraction hpointed hrest hpoint] at h
    split at h
    case isTrue => cases h
    case isFalse hdigits =>
      obtain ⟨rfl, rfl⟩ := Prod.mk.inj (Option.some.inj h)
      obtain ⟨suffix, after, hsuffix, hexponent, hlength⟩ := readExponent_sound rest
      refine ⟨whole ++ pointed ++ suffix, after, ?_, ?_, whole, pointed, fraction, suffix, _,
        rfl, hwhole, hfraction, hdigits, hpointed, hexponent, rfl⟩
      · conv_lhs => rw [hsuffix]
        simp only [List.append_assoc]
      · rw [List.length_append, List.length_append, hlength]
  complete s x rest h hrest := by
    obtain ⟨whole, pointed, fraction, suffix, exponent, rfl, hwhole, hfraction, hdigits,
      hpointed, hexponent, rfl⟩ := h
    have hbehind : ∀ c ∈ (suffix ++ rest).head?, isDigit 10 c = false ∧ c ≠ 46 := by
      cases hexponent with
      | absent => exact fun c hc => ⟨(hrest c hc).1, (hrest c hc).2.1⟩
      | @given letter sign digits negative number hletter hsign hnumber =>
          have hnot : ∀ c : UInt8, tolower c = 101 → isDigit 10 c = false ∧ c ≠ 46 := by
            refine forall_byte ?_
            decide +kernel
          intro c hc
          obtain rfl : letter = c := by simpa using hc
          exact hnot letter hletter
    have hread := readDecimal_append (F := F) hwhole hfraction hpointed
      (fun c hc => (hbehind c hc).1) (fun _ c hc => (hbehind c hc).2)
    rw [List.append_assoc, List.append_assoc, hread, if_neg hdigits,
      readExponent_complete hexponent hrest]
    simp only [List.length_append]
  unsigned s x h := by
    obtain ⟨whole, pointed, fraction, suffix, exponent, rfl, hwhole, hfraction, hdigits,
      hpointed, hexponent, rfl⟩ := h
    cases whole with
    | cons c tail =>
        exact startsUnsigned_of_isDigit (hwhole c List.mem_cons_self) (tail ++ pointed ++ suffix)
    | nil =>
        cases hpointed with
        | absent => exact absurd ⟨rfl, rfl⟩ hdigits
        | point => exact ⟨46, fraction ++ suffix, rfl, by decide⟩

/-- The text is the number in decimal notation. -/
def IsDecimal (text : Bytes) (x : F) : Prop :=
  ∃ negative y, Written IsUnsignedDecimal text negative y ∧ (if negative then -y else y) = x

theorem IsUnsignedDecimal.nonneg {s : Bytes} {x : F} (h : IsUnsignedDecimal s x) : 0 ≤ x := by
  obtain ⟨whole, pointed, fraction, suffix, exponent, -, -, -, -, -, -, rfl⟩ := h
  exact mul_nonneg (Nat.cast_nonneg _) (zpow_nonneg (by norm_num) _)

/-- Of the decimals those are read that are not rounded to an infinity. -/
theorem extractDouble_eq_some_iff {text : Bytes} {value : Double F} :
    extractDouble text = some value ↔
      ∃ x : F, IsDecimal text x ∧ |x| < ((2 ^ 1024 - 2 ^ 970 : Nat) : F) ∧
        .finite x = value := by
  unfold extractDouble IsDecimal
  simp only [Option.bind_eq_bind, Option.bind_eq_some_iff, Prod.exists,
    extract_eq_some_iff isReader_decimal, Option.ite_none_right_eq_some, Option.some.injEq]
  have habs {s : Bytes} {negative : Bool} {y : F} (h : Written IsUnsignedDecimal s negative y) :
      |if negative then -y else y| = y := by
    obtain ⟨_, _, _, _, -, -, hnumber, -⟩ := h
    cases negative with
    | false => exact abs_of_nonneg hnumber.nonneg
    | true => exact (abs_neg y).trans (abs_of_nonneg hnumber.nonneg)
  constructor
  · rintro ⟨negative, y, hwritten, hrange, rfl⟩
    exact ⟨_, ⟨negative, y, hwritten, rfl⟩, (habs hwritten).trans_lt hrange, rfl⟩
  · rintro ⟨_, ⟨negative, y, hwritten, rfl⟩, hrange, rfl⟩
    exact ⟨negative, y, hwritten, (habs hwritten).symm.trans_lt hrange, rfl⟩

end Decimals

end Cxx
end ULocalMagnitude
