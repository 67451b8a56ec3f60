/-! # Reading decimal numbers

A number is an optional sign followed by `inf`, `infinity` or `nan` in any case, or by digits with
an optional point and an optional exponent. Nothing may surround it.
-/
namespace Tableaux.Decimal

def isDigit (c : Char) : Bool := '0' ≤ c && c ≤ '9'

/-- The float nearest to `digits · 10 ^ exponent`, where `digits` is read as an integer. -/
def ofDigits (digits : List Char) (exponent : Int) : Float :=
  Float.ofScientific (Nat.ofDigitChars 10 digits 0) (decide (exponent < 0)) exponent.natAbs

def splitSign : List Char → Bool × List Char
  | '-' :: rest => (true, rest)
  | '+' :: rest => (false, rest)
  | text => (false, text)

/-- Reads what follows the mark of an exponent: an optional sign and at least one digit. -/
def readExponent (text : List Char) : Option Int :=
  let (negative, digits) := splitSign text
  if digits ≠ [] ∧ digits.all isDigit then
    let magnitude : Int := Nat.ofDigitChars 10 digits 0
    some (if negative then -magnitude else magnitude)
  else none

/-- Splits unsigned decimal digits into those in front of the point, those behind it, and what
follows. -/
def splitMantissa (text : List Char) : List Char × List Char × List Char :=
  let whole := text.takeWhile isDigit
  match text.dropWhile isDigit with
  | '.' :: rest => (whole, rest.takeWhile isDigit, rest.dropWhile isDigit)
  | rest => (whole, [], rest)

/-- Reads an unsigned decimal. The point may stand in front of or behind all digits, but there must
be a digit. -/
def readMagnitude (text : List Char) : Option Float :=
  let (whole, fraction, rest) := splitMantissa text
  if whole = [] ∧ fraction = [] then none
  else
    let value (exponent : Int) := ofDigits (whole ++ fraction) (exponent - fraction.length)
    match rest with
    | [] => some (value 0)
    | 'e' :: exponent => (readExponent exponent).map value
    | 'E' :: exponent => (readExponent exponent).map value
    | _ => none

def readUnsigned (text : List Char) : Option Float :=
  let word := String.ofList (text.map Char.toLower)
  if word = "inf" ∨ word = "infinity" then some (1.0 / 0.0)
  else if word = "nan" then some (0.0 / 0.0)
  else readMagnitude text

def read (text : List Char) : Option Float :=
  let (negative, rest) := splitSign text
  (readUnsigned rest).map fun x => if negative then -x else x

end Tableaux.Decimal
