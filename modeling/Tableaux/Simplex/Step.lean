import Tableaux.Program
import Tableaux.Simplex.Role

/-! # Steps of the simplex method

A tableau with what is said about it: its caption, the roles of its columns, its solution and what
happens next.
-/
namespace Tableaux.Simplex

inductive Label where
  /-- The tableau before the costs are reduced. -/
  | initial
  | step (index : Nat)
deriving DecidableEq, Repr

def Label.text : Label → String
  | .initial => "Initial Tableau (Pre-reduction)"
  | .step index => s!"Step {index}"

inductive Analysis where
  | initialized
  | pivot (entering leaving : Nat)
  | optimal
deriving DecidableEq, Repr

def Analysis.text : Analysis → String
  | .initialized => "Tableau initialized."
  | .pivot entering leaving => s!"Entering: x{shownNumber entering}, leaving: x{shownNumber leaving}."
  | .optimal => "Optimal solution found."

structure Step where
  label : Label
  tableau : Tableau
  roles : List Role
  x : List Float
  analysis : Analysis
deriving DecidableEq, Repr

/-- Without exchange the first tableau is the initial one, and every other one is optimal. -/
def analyse (label : Label) (t : Tableau) : Analysis :=
  match Exchange.of? t.basis t.pivot, label with
  | some e, _ => .pivot e.entering e.leaving
  | none, .initial => .initialized
  | none, .step _ => .optimal

def Step.of (label : Label) (t : Tableau) (width : Nat) : Step where
  label := label
  tableau := t
  roles := columnRoles t.basis t.pivot t.reducedCosts.length
  x := t.solution width
  analysis := analyse label t

structure TextRow where
  head : String
  cells : List String
deriving DecidableEq, Repr

def TextRow.text (r : TextRow) : String := r.head ++ " | " ++ " | ".intercalate r.cells

namespace Step

def variableName (role : Role) (column : Nat) : String :=
  String.ofList ('x' :: role.mark?.toList ++ Nat.toDigits 10 (column + 1))

/-- An entry of the constraint matrix. The pivot element has a star. -/
def entryText (s : Step) (row column : Nat) (x : Float) : String :=
  Decimal.brief x ++ if s.tableau.pivot = some ⟨row, column⟩ then "*" else ""

def constraintRow (s : Step) (row : Nat) (entries : List Float) (rhs : Float) : TextRow where
  head := Decimal.brief rhs
  cells := entries.mapIdx fun column x => s.entryText row column x

def textRows (s : Step) : List TextRow :=
  ⟨"variable", s.roles.mapIdx fun column role => variableName role column⟩
    :: ⟨"x values", s.x.map Decimal.brief⟩
    :: ⟨s.tableau.objective.text, s.tableau.reducedCosts.map BigM.text⟩
    :: (s.tableau.constraints.zip s.tableau.rhs).mapIdx fun row (entries, rhs) =>
      s.constraintRow row entries rhs

def text (s : Step) : String :=
  "\n".intercalate (s.label.text :: s.textRows.map TextRow.text ++ [s.analysis.text])

def note (s : Step) : String :=
  let basis := ", ".intercalate (s.tableau.basis.map toString)
  let x := ", ".intercalate (s.x.map fun v => String.ofList (Decimal.Layout.journal.write v))
  s!"{s.label.text}: basis [" ++ basis ++ "], x [" ++ x ++ s!"], {s.analysis.text}"

end Step
end Tableaux.Simplex
