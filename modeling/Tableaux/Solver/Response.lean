import Tableaux.Json.Decode
import Tableaux.Json.Reader
import Tableaux.Json.Writer
import Tableaux.Simplex.Tableau

/-! # Responses of the solver

The solver answers with the tableaus it went through, or with the reason why there are none.
-/
namespace Tableaux.Solver

open Json (ofFloat ofInt ofList ofNat ofString record optional?)
open Simplex (Pivot Tableau)

/-- A tableau as it is sent. Reduced costs and the objective are split into real and `M` parts. -/
structure Report where
  basis : List UInt64
  constraints : List (List Float)
  rhs : List Float
  realCosts : List Float
  mCosts : List Float
  realObjective : Float
  mObjective : Float
  /-- The row and the column of the pivot. Negative ones stand for no pivot. -/
  pivotRow : Int64
  pivotColumn : Int64
deriving DecidableEq, Repr

namespace Report

def pivot? (r : Report) : Option Pivot :=
  if 0 ≤ r.pivotRow ∧ 0 ≤ r.pivotColumn then
    some ⟨r.pivotRow.toNatClampNeg, r.pivotColumn.toNatClampNeg⟩
  else none

def tableau (r : Report) : Tableau where
  basis := r.basis.map UInt64.toNat
  constraints := r.constraints
  rhs := r.rhs
  reducedCosts := List.zipWith BigM.mk r.realCosts r.mCosts
  objective := ⟨r.realObjective, r.mObjective⟩
  pivot := r.pivot?

def json (r : Report) : Json.Value :=
  record [("basis", ofList (fun i => ofNat i.toNat) r.basis),
    ("A", ofList (ofList ofFloat) r.constraints),
    ("b", ofList ofFloat r.rhs), ("r_R", ofList ofFloat r.realCosts),
    ("r_M", ofList ofFloat r.mCosts), ("neg_obj_R", ofFloat r.realObjective),
    ("neg_obj_M", ofFloat r.mObjective),
    ("next_pivot", ofList (fun n => ofInt n.toInt) [r.pivotRow, r.pivotColumn])]

def ofJson? (v : Json.Value) : Option Report :=
  match v.fields? ["basis", "A", "b", "r_R", "r_M", "neg_obj_R", "neg_obj_M", "next_pivot"] with
  | some [some basis, some constraints, some rhs, some realCosts, some mCosts,
      some realObjective, some mObjective, some pivot] => do
    match ← pivot.list? Json.Value.signed? with
    | [row, column] =>
      return {
        basis := ← basis.list? Json.Value.index?
        constraints := ← constraints.list? (Json.Value.list? Json.Value.float?)
        rhs := ← rhs.list? Json.Value.float?
        realCosts := ← realCosts.list? Json.Value.float?
        mCosts := ← mCosts.list? Json.Value.float?
        realObjective := ← realObjective.float?
        mObjective := ← mObjective.float?
        pivotRow := row
        pivotColumn := column }
    | _ => none
  | _ => none

end Report

structure Response where
  steps : Option (List Report)
  error : Option String
deriving DecidableEq, Repr

inductive SolverError where
  | reported (message : String)
  | noSteps
deriving DecidableEq, Repr

def SolverError.message : SolverError → String
  | .reported message => message
  | .noSteps => "The solver response contains no steps."

namespace Response

def optionalField {α : Type} (name : String) (f : α → Json.Value) :
    Option α → List (String × Json.Value)
  | none => []
  | some a => [(name, f a)]

def json (r : Response) : Json.Value :=
  record (optionalField "steps" (ofList Report.json) r.steps
    ++ optionalField "error" ofString r.error)

def ofJson? (v : Json.Value) : Option Response :=
  match v.fields? ["steps", "error"] with
  | some [steps, error] => do
    return {
      steps := ← optional? (Json.Value.list? Report.ofJson?) steps
      error := ← optional? Json.Value.string? error }
  | _ => none

def write (r : Response) : String := r.json.compact

def read? (text : String) : Option Response := (Json.ofText? text).bind ofJson?

/-- The tableaus of a response. A reported error counts more than they do, unless it is empty. -/
def tableaus (r : Response) : Except SolverError (List Tableau) :=
  match r.error, r.steps with
  | some message, steps =>
    if message ≠ "" then .error (.reported message)
    else match steps with
      | some reports => .ok (reports.map Report.tableau)
      | none => .error .noSteps
  | none, some reports => .ok (reports.map Report.tableau)
  | none, none => .error .noSteps

end Response
end Tableaux.Solver
