import Tableaux.Json.Decode
import Tableaux.Json.Reader
import Tableaux.Json.Writer
import Tableaux.Program

/-! # Requests to the solver

The simplex method runs in a solver of its own. It is sent a linear program as JSON.
-/
namespace Tableaux.Solver

open Json (ofFloat ofList ofString record optional?)

structure Request where
  cost : List String
  constraints : List (List Float)
  rhs : List Float
  minimizes : Bool
  pivotRule : PivotRule
deriving DecidableEq, Repr

namespace Request

def ofProgram (p : Program) : Request :=
  ⟨p.cost, p.constraints, p.rhs, p.direction == .minimize, p.pivotRule⟩

def json (r : Request) : Json.Value :=
  record [("c_T", ofList ofString r.cost), ("A", ofList (ofList ofFloat) r.constraints),
    ("b_T", ofList ofFloat r.rhs), ("is_minimize", .bool r.minimizes),
    ("pivot_rule", ofString r.pivotRule.name)]

def pivotRuleNamed? (name : String) : Option PivotRule :=
  if name = PivotRule.bland.name then some .bland
  else if name = PivotRule.largestCoefficient.name then some .largestCoefficient
  else none

/-- Reads a pivot rule: its name, or an object with nothing but that name for null. -/
def pivotRule? : Json.Value → Option PivotRule
  | .string name => (Json.text? name).bind pivotRuleNamed?
  | .object [(name, .null)] => (Json.text? name).bind pivotRuleNamed?
  | _ => none

def ofJson? (v : Json.Value) : Option Request :=
  match v.fields? ["c_T", "A", "b_T", "is_minimize", "pivot_rule"] with
  | some [some cost, some constraints, some rhs, some minimizes, some rule] => do
    return {
      cost := ← cost.list? Json.Value.string?
      constraints := ← constraints.list? (Json.Value.list? Json.Value.float?)
      rhs := ← rhs.list? Json.Value.float?
      minimizes := ← minimizes.bool?
      pivotRule := ← pivotRule? rule }
  | _ => none

def write (r : Request) : String := r.json.compact

def read? (text : String) : Option Request := (Json.ofText? text).bind ofJson?

end Request
end Tableaux.Solver
