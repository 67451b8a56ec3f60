import Tableaux.Reading.Number
import Tableaux.Text.Lowercase

/-! # Programs in standardized notation

Each line gives one part of a program behind a key: the cost terms `c`, the rows `A`, the right-hand
sides `b`, the direction `obj` and the pivot rule `rule`. Keys may be written in any case, and a
later line replaces an earlier one with the same key.
-/
namespace Tableaux.Standardized

open Reading (Recorded ReadError Field readReal)
open Text (Line pieces trim lowercase)

structure Draft where
  cost : Option (List String)
  constraints : Option (List (List Float))
  rhs : Option (List Float)
  direction : Direction
  pivotRule : PivotRule
deriving Repr

def Draft.empty : Draft := ⟨none, none, none, .minimize, .bland⟩

inductive Key where
  | cost
  | constraints
  | rhs
  | direction
  | pivotRule
deriving DecidableEq, Repr

def Key.ofName? (name : String) : Option Key :=
  match name with
  | "c" => some .cost
  | "a" => some .constraints
  | "b" => some .rhs
  | "obj" => some .direction
  | "rule" => some .pivotRule
  | _ => none

/-- Only `min` means minimisation. -/
def readDirection (value : List Char) : Direction :=
  if lowercase value = "min".toList then .minimize else .maximize

/-- `maxcoeff` with any underscores selects the largest coefficient. -/
def readPivotRule (value : List Char) : PivotRule :=
  if (lowercase value).filter (· != '_') = "maxcoeff".toList then .largestCoefficient else .bland

def readNumbers (leniency : Leniency) (line : Line) (text : List Char) :
    Recorded ReadError (List Float) :=
  (pieces ',' text).mapM (readReal leniency line)

def readValue (leniency : Leniency) (line : Line) (draft : Draft) (value : List Char) :
    Key → Recorded ReadError Draft
  | .cost => pure { draft with cost := (pieces ',' value).map fun t => String.ofList (trim t) }
  | .constraints => do
    let rows ← (pieces ';' value).mapM (readNumbers leniency line)
    pure { draft with constraints := rows }
  | .rhs => do
    let values ← readNumbers leniency line value
    pure { draft with rhs := values }
  | .direction => pure { draft with direction := readDirection value }
  | .pivotRule => pure { draft with pivotRule := readPivotRule value }

/-- Reads a line into a draft. Lines without key and lines with an unknown one change nothing. -/
def readLine (leniency : Leniency) (draft : Draft) (line : Line) : Recorded ReadError Draft :=
  match Text.cut? ':' line.text with
  | none => do
    Recorded.record [.keylessLine line]
    pure draft
  | some (name, value) =>
    let name := lowercase (trim name)
    match Key.ofName? (String.ofList name) with
    | some key => readValue leniency line draft (trim value) key
    | none => do
      Recorded.record [.unknownKey name line.number]
      pure draft

def require {α : Type} (field : Field) : Option α → Except ReadError α
  | some part => .ok part
  | none => .error (.missingField field)

def Draft.finish (draft : Draft) : Except ReadError Program := do
  let cost ← require .cost draft.cost
  let constraints ← require .constraints draft.constraints
  let rhs ← require .rhs draft.rhs
  (Program.make cost constraints rhs draft.direction draft.pivotRule).mapError .inconsistent

def read (leniency : Leniency) (text : List Char) : Recorded ReadError Program := do
  let draft ← (Text.lines text).foldlM (readLine leniency) .empty
  Recorded.ofExcept draft.finish

end Tableaux.Standardized
