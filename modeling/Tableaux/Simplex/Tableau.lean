import Tableaux.BigM
import Tableaux.Row

/-! # Tableaus

A tableau of the simplex method as the solver reports it. It is trusted: nothing checks that its
parts fit together.
-/
namespace Tableaux.Simplex

structure Pivot where
  row : Nat
  column : Nat
deriving DecidableEq, Repr

structure Tableau where
  /-- For each row the variable that is basic in it, counting from zero. -/
  basis : List Nat
  constraints : List (List Float)
  rhs : List Float
  reducedCosts : List BigM
  /-- The negated value of the objective. -/
  objective : BigM
  pivot : Option Pivot
deriving DecidableEq, Repr

/-- The values of the decision variables. A basic one has the right-hand side of its row, and the
others are zero. -/
def Tableau.solution (t : Tableau) (width : Nat) : List Float :=
  row width 0 (t.basis.zip t.rhs)

/-- The tableau before the costs are reduced: that of the first report with the costs of the
program, objective zero and no pivot. -/
def Tableau.unreduced (cost : List String) (first : Tableau) : Tableau :=
  { first with reducedCosts := cost.map BigM.ofTerm, objective := BigM.zero, pivot := none }

end Tableaux.Simplex
