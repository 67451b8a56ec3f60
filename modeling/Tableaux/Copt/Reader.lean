import Tableaux.Copt.Outline
import Tableaux.Expression.Term
import Tableaux.Reading.Number
import Tableaux.Row

/-! # Programs in COPT notation

The algebraic notation of the COPT solver: an objective and constraints in variables `x1`, `x2`, …
The number of a variable is its column, and all relations are read as equations.
-/
namespace Tableaux.Copt

open Expression (terms Term largestVariable?)
open Reading (Recorded ReadError Note readReal)
open Text (Line)

/-- The largest number of a variable. Rows are dense, with an entry for every number up to the
largest one that occurs. -/
def maxVariables : Nat := 65536

/-- The costs in an objective, with their columns. Coefficients are kept as text, since they may
hold an `M`. -/
def costEntries (expression : List Char) : List (Nat × String) :=
  (terms expression).filterMap fun t =>
    t.column?.map fun column => (column, String.ofList t.coefficient)

def readObjective (width : Nat) (expression : List Char) : Recorded ReadError (List String) := do
  Recorded.record <| (terms expression).filterMap fun t =>
    if t.column? = none then some .zeroVariable else none
  pure (row width "0" (costEntries expression))

/-- The coefficient of a term, with its column. Variable number zero has none, and its coefficient
is not read. -/
def readEntry (leniency : Leniency) (line : Line) (t : Term) :
    Recorded ReadError (Option (Nat × Float)) :=
  match t.column? with
  | none => pure none
  | some column => do
    let value ← readReal leniency line t.coefficient
    pure (some (column, value))

structure Constraint where
  row : List Float
  rhs : Float
deriving Repr

/-- Reads a constraint: the terms in front of the first `=`, and the number between it and the next
one. Leniently, a line without `=` is left out. -/
def readConstraint (leniency : Leniency) (width : Nat) (line : Line) :
    Recorded ReadError (Option Constraint) :=
  match Text.pieces '=' (afterLabel line.text) with
  | left :: right :: _ => do
    let entries ← (terms left).mapM (readEntry leniency line)
    let rhs ← readReal leniency line right
    pure (some ⟨row width 0 (entries.filterMap id), rhs⟩)
  | _ =>
    match leniency with
    | .lenient => do
      Recorded.record [.skippedConstraint line.number]
      pure none
    | .strict => Recorded.fail (.missingRelation line)

def readBody (leniency : Leniency) (width : Nat) (places : List Place) :
    Recorded ReadError Program := do
  Recorded.record ((linesOf .skipped places).map .skippedLine)
  let cost ← readObjective width (Text.join [' '] (objectiveFragments places))
  let read ← (linesOf .constraints places).mapM (readConstraint leniency width)
  let constraints := read.filterMap id
  Recorded.record [.programRead width constraints.length (direction places)]
  Recorded.ofExcept <| (Program.make cost (constraints.map (·.row)) (constraints.map (·.rhs))
    (direction places) .bland).mapError .inconsistent

def read (leniency : Leniency) (text : List Char) : Recorded ReadError Program :=
  match largestVariable? text with
  | none => Recorded.fail .noVariables
  | some 0 => Recorded.fail .noVariables
  | some width =>
    if maxVariables < width then Recorded.fail (.tooManyVariables width maxVariables)
    else readBody leniency width (outline text)

end Tableaux.Copt
