import Tableaux.Decimal.Reader
import Tableaux.Program
import Tableaux.Text.Blank

/-! # Programs in a grid of cells

A program can be typed into a table, cell by cell. A numeric cell counts as the number that it
starts with, and as zero if it starts with none.
-/
namespace Tableaux.Grid

open Decimal (isDigit splitSign splitMantissa)

def leadingSign : List Char → List Char
  | '+' :: _ => ['+']
  | '-' :: _ => ['-']
  | _ => []

/-- The exponent in front of a text, if it is complete. -/
def leadingExponent : List Char → List Char
  | c :: rest =>
    let sign := leadingSign rest
    let digits := (rest.drop sign.length).takeWhile isDigit
    if (c = 'e' ∨ c = 'E') ∧ digits ≠ [] then c :: sign ++ digits else []
  | [] => []

/-- The longest decimal in front of a text: digits with an optional point, or a point with digits,
and an optional exponent. -/
def leadingDecimal? (text : List Char) : Option (List Char) :=
  let whole := text.takeWhile isDigit
  let point := (text.drop whole.length).take 1
  if point = ['.'] then
    let fraction := (text.drop (whole.length + 1)).takeWhile isDigit
    if whole = [] ∧ fraction = [] then none
    else
      let mantissa := whole ++ '.' :: fraction
      some (mantissa ++ leadingExponent (text.drop mantissa.length))
  else if whole = [] then none
  else some (whole ++ leadingExponent (text.drop whole.length))

def leadingNumber? (text : List Char) : Option (List Char) :=
  let sign := leadingSign text
  let rest := text.drop sign.length
  let word := "Infinity".toList
  if word.isPrefixOf rest then some (sign ++ word) else (leadingDecimal? rest).map (sign ++ ·)

def readCell (cell : String) : Float :=
  match (leadingNumber? (Text.trim cell.toList)).bind Decimal.read with
  | some x => if x.isNaN then 0 else x + 0
  | none => 0

def read (cost : List String) (constraints : List (List String)) (rhs : List String)
    (direction : Direction) (pivotRule : PivotRule) : Except ShapeError Program :=
  Program.make (cost.map fun cell => String.ofList (Text.trim cell.toList))
    (constraints.map (·.map readCell)) (rhs.map readCell) direction pivotRule

end Tableaux.Grid
