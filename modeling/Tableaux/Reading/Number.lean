import Tableaux.Decimal.Reader
import Tableaux.Reading.Recorded

/-! # Reading numbers

Malformed input is absorbed when reading leniently and refused when reading strictly.
-/
namespace Tableaux

inductive Leniency where
  | lenient
  | strict
deriving DecidableEq, Repr

namespace Reading

open Text (Line)

inductive Field where
  | cost
  | constraints
  | rhs
deriving DecidableEq, Repr

def Field.name : Field → String
  | .cost => "c"
  | .constraints => "A"
  | .rhs => "b"

inductive ReadError where
  | missingField (field : Field)
  | noVariables
  | tooManyVariables (number limit : Nat)
  | malformedNumber (token : List Char) (line : Line)
  | missingRelation (line : Line)
  | inconsistent (error : ShapeError)
deriving DecidableEq, Repr

private def location (line : Line) : String :=
  s!"caused at line {line.number}: \"" ++ String.ofList line.text ++ "\""

def ReadError.message : ReadError → String
  | .missingField field =>
    "Missing required field \"" ++ field.name ++ "\" (c, A and b are all required)."
  | .noVariables => "No variables (x1, x2...) found."
  | .tooManyVariables number limit =>
    s!"Variable x{number} is beyond the largest supported variable x{limit}."
  | .malformedNumber token line =>
    "Could not read \"" ++ String.ofList token ++ "\" as a number, " ++ location line ++ "."
  | .missingRelation line => "Constraint without \"=\", " ++ location line ++ "."
  | .inconsistent error => error.message

/-- Reads a real number, which may be surrounded by blanks. Leniently, what is not a number is read
as NaN; strictly, a number must be finite. -/
def readReal (leniency : Leniency) (line : Line) (text : List Char) : Recorded ReadError Float :=
  let token := Text.trim text
  match Decimal.read token, leniency with
  | some x, .lenient => pure x
  | none, .lenient => do
    Recorded.record [.unreadableNumber token]
    pure (0.0 / 0.0)
  | some x, .strict => if x.isFinite then pure x else Recorded.fail (.malformedNumber token line)
  | none, .strict => Recorded.fail (.malformedNumber token line)

end Reading
end Tableaux
