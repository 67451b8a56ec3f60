import Tableaux.Json.Value
import Tableaux.Simplex.Step

/-! # Runs of the simplex method

The tableaus that a solver went through are explained one by one, starting with the tableau before
the costs are reduced. Their solutions are the points that the run passed.
-/
namespace Tableaux.Simplex

structure Run where
  steps : List Step
deriving DecidableEq, Repr

def retrace (cost : List String) (tableaus : List Tableau) : Run :=
  match tableaus with
  | [] => ⟨[]⟩
  | first :: _ =>
    ⟨Step.of .initial (first.unreduced cost) cost.length
      :: tableaus.mapIdx fun i t => Step.of (.step i) t cost.length⟩

namespace Run

def path (r : Run) : List (List Float) := r.steps.map (·.x)

/-- The points that the solver moved through. The tableau before the costs are reduced has the
solution of the first report and is left out. -/
def trajectory (r : Run) : List (List Float) := r.path.drop 1

end Run

open Json (ofFloat ofList ofNat ofString record)

def bigMJson (v : BigM) : Json.Value := record [("real", ofFloat v.real), ("m", ofFloat v.m)]

def pivotJson : Option Pivot → Json.Value
  | none => .null
  | some p => record [("row", ofNat p.row), ("column", ofNat p.column)]

def Tableau.json (t : Tableau) : Json.Value :=
  record [("basis", ofList ofNat t.basis), ("constraints", ofList (ofList ofFloat) t.constraints),
    ("rhs", ofList ofFloat t.rhs), ("reduced_costs", ofList bigMJson t.reducedCosts),
    ("objective_value", bigMJson t.objective), ("next_pivot", pivotJson t.pivot)]

def Label.json : Label → Json.Value
  | .initial => ofString "initial"
  | .step index => record [("step", ofNat index)]

def Analysis.json : Analysis → Json.Value
  | .initialized => ofString "initialized"
  | .pivot entering leaving =>
    record [("pivot", record [("entering", ofNat entering), ("leaving", ofNat leaving)])]
  | .optimal => ofString "optimal"

def Step.json (s : Step) : Json.Value :=
  record [("label", s.label.json), ("tableau", s.tableau.json),
    ("roles", ofList (fun role => ofString role.name) s.roles), ("x", ofList ofFloat s.x),
    ("analysis", s.analysis.json)]

def Run.json (r : Run) : Json.Value :=
  record [("steps", ofList Step.json r.steps), ("path", ofList (ofList ofFloat) r.path)]

end Tableaux.Simplex
