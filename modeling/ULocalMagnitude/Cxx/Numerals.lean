import ULocalMagnitude.Cxx.Double
import ULocalMagnitude.Cxx.Exceptions
import ULocalMagnitude.Cxx.Text

/-!
# Numbers in texts

`std::stod` reads the longest prefix of a text that is a number and reports its length;
what comes behind it is left to the caller.  A number is written in decimal or in
hexadecimal, or it is an infinity or a NaN, and blanks and a sign may stand before it.
Numbers that no `double` comes close to are out of range.
-/

namespace ULocalMagnitude
namespace Cxx

variable {F : Type} [ExactArithmetic F]

/-- `std::tolower(c, std::locale::classic())` -/
def tolower (c : UInt8) : UInt8 := if 65 ≤ c ∧ c ≤ 90 then c + 32 else c

/-- The word is a prefix, in letters of either case. -/
def startsWith (word : String) (s : Bytes) : Bool := (bytes word).isPrefixOf (s.map tolower)

/-! ## Digits -/

/-- The value of a digit; behind `9` the letters go on. -/
def digitValue (c : UInt8) : Nat :=
  if 48 ≤ c ∧ c ≤ 57 then c.toNat - 48
  else if 97 ≤ tolower c ∧ tolower c ≤ 122 then (tolower c).toNat - 87
  else 36

def isDigit (base : Nat) (c : UInt8) : Bool := decide (digitValue c < base)

def ofDigits (base : Nat) (digits : Bytes) : Nat :=
  digits.foldl (fun number c => base * number + digitValue c) 0

/-- Is there a minus, and how long is the sign? -/
def readSign (s : Bytes) : Bool × Nat :=
  if s.head? = some 45 then (true, 1)
  else if s.head? = some 43 then (false, 1)
  else (false, 0)

/-! ## Numerals -/

/-- How numerals are written.  The exponent behind the letter counts powers of the radix,
and a digit behind the point is worth `place` of them less than the one before it. -/
structure Numeral where
  base : Nat
  radix : Nat
  place : Nat
  letter : UInt8

namespace Numeral

def decimal : Numeral := { base := 10, radix := 10, place := 1, letter := 101 }

def hexadecimal : Numeral := { base := 16, radix := 2, place := 4, letter := 112 }

/-- The exponent and its length; without digits there is none. -/
def readExponent (format : Numeral) (s : Bytes) : Int × Nat :=
  let (negative, signed) := readSign (s.drop 1)
  let digits := (s.drop (1 + signed)).takeWhile (isDigit 10)
  if s.head?.map tolower = some format.letter ∧ digits ≠ [] then
    (if negative then -(ofDigits 10 digits) else ofDigits 10 digits, 1 + signed + digits.length)
  else (0, 0)

/-- The number and its length. -/
def read (format : Numeral) (s : Bytes) : Option (F × Nat) :=
  let whole := s.takeWhile (isDigit format.base)
  let rest := s.drop whole.length
  let pointed := rest.head? = some 46
  let fraction := if pointed then (rest.drop 1).takeWhile (isDigit format.base) else []
  if whole = [] ∧ fraction = [] then none
  else
    let length := whole.length + if pointed then 1 + fraction.length else 0
    let (exponent, exponentLength) := format.readExponent (s.drop length)
    let scale := exponent - format.place * fraction.length
    some ((ofDigits format.base (whole ++ fraction) : F) * (format.radix : F) ^ scale,
      length + exponentLength)

end Numeral

/-- The length of what may stand in parentheses behind `nan`. -/
def readParenthesized (s : Bytes) : Nat :=
  let inside := (s.drop 1).takeWhile fun c => isDigit 36 c || c == 95
  if s.head? = some 40 ∧ (s.drop (1 + inside.length)).head? = some 41 then inside.length + 2
  else 0

/-- A number without a sign and its length. -/
def readMagnitude (s : Bytes) : Option (Double F × Nat) :=
  if startsWith "infinity" s then some (.posInf, 8)
  else if startsWith "inf" s then some (.posInf, 3)
  else if startsWith "nan" s then some (.nan, 3 + readParenthesized (s.drop 3))
  else
    match if startsWith "0x" s then Numeral.hexadecimal.read (s.drop 2) else none with
    | some (x, length) => some (.finite x, 2 + length)
    | none => (Numeral.decimal.read s).map fun (x, length) => (.finite x, length)

/-- `std::strtod`; the length is zero where there is no number. -/
def strtod (text : Bytes) : Double F × Nat :=
  let blanks := (text.takeWhile isspace).length
  let (negative, signed) := readSign (text.drop blanks)
  match readMagnitude (text.drop (blanks + signed)) with
  | some (x, length) => (if negative then -x else x, blanks + signed + length)
  | none => (.finite 0, 0)

/-- `errno` is `ERANGE`: the number is rounded to an infinity, or it lies below the normal
numbers and is not one of those between them and zero. -/
def IsRangeError : Double F → Prop
  | .finite x => ((2 ^ 1024 - 2 ^ 970 : Nat) : F) ≤ |x| ∨
      (|x| * ((2 ^ 1022 : Nat) : F) < 1 ∧ Int.fract (x * ((2 ^ 1074 : Nat) : F)) ≠ 0)
  | _ => False

instance (x : Double F) : Decidable (IsRangeError x) :=
  match x with
  | .finite x => inferInstanceAs (Decidable (((2 ^ 1024 - 2 ^ 970 : Nat) : F) ≤ |x| ∨
      (|x| * ((2 ^ 1022 : Nat) : F) < 1 ∧ Int.fract (x * ((2 ^ 1074 : Nat) : F)) ≠ 0)))
  | .nan => isFalse id
  | .posInf => isFalse id
  | .negInf => isFalse id

/-- `std::stod`: the number and the length of its text. -/
def stod (text : Bytes) : Throws (Double F × Nat) := do
  let (x, length) := strtod text
  throwIf (length = 0) (.invalidArgument "stod")
  throwIf (IsRangeError x) (.outOfRange "stod")
  return (x, length)

theorem raises_stod (text : Bytes) :
    Raises (stod text : Throws (Double F × Nat)) Fault.IsException :=
  .bind (.throwIf fun _ => trivial) fun _ _ =>
    .bind (.throwIf fun _ => trivial) fun _ _ => .ok _

end Cxx
end ULocalMagnitude
