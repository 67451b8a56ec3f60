/-! # Linear programs

A linear program has one cost term per variable, and for each constraint one coefficient per
variable and a right-hand side. All notations are read into this form.
-/
namespace Tableaux

/-- The number that a variable is shown with. It counts from one, in 64 bits. -/
def shownNumber (column : Nat) : Nat := (column + 1) % Nat.pow 2 64

inductive Direction where
  | minimize
  | maximize
deriving DecidableEq, Repr

def Direction.name : Direction → String
  | .minimize => "minimize"
  | .maximize => "maximize"

/-- How the solver is asked to choose the entering column: the first one that improves, or the one
that improves most. -/
inductive PivotRule where
  | bland
  | largestCoefficient
deriving DecidableEq, Repr

def PivotRule.name : PivotRule → String
  | .bland => "bland"
  | .largestCoefficient => "max"

/-- Cost terms are kept as text, since they may hold an `M`. -/
structure Program where
  cost : List String
  constraints : List (List Float)
  rhs : List Float
  direction : Direction
  pivotRule : PivotRule
  width_eq : ∀ row ∈ constraints, row.length = cost.length
  height_eq : constraints.length = rhs.length
deriving Repr

inductive ShapeError where
  | rowWidth (row width terms : Nat)
  | rowCount (rows values : Nat)
deriving DecidableEq, Repr

def ShapeError.message : ShapeError → String
  | .rowWidth row width terms =>
    s!"Inconsistent linear program: Constraint row {row} has {width} coefficients, " ++
      s!"but the objective has {terms} terms."
  | .rowCount rows values =>
    s!"Inconsistent linear program: There are {rows} constraint rows, " ++
      s!"but {values} right-hand side values."

namespace Program

def firstMisfit? (width : Nat) (rows : List (List Float)) : Option (List Float × Nat) :=
  (rows.zipIdx 1).find? fun (row, _) => row.length != width

theorem length_of_firstMisfit? {width : Nat} {rows : List (List Float)}
    (h : firstMisfit? width rows = none) : ∀ row ∈ rows, row.length = width := by
  intro row hrow
  obtain ⟨i, hi, rfl⟩ := List.mem_iff_getElem.1 hrow
  have := List.find?_eq_none.1 h (rows[i], 1 + i) (List.mk_add_mem_zipIdx_iff_getElem?.2 (by simp))
  simpa using this

def make (cost : List String) (constraints : List (List Float)) (rhs : List Float)
    (direction : Direction) (pivotRule : PivotRule) : Except ShapeError Program :=
  match h : firstMisfit? cost.length constraints with
  | some (row, number) => .error (.rowWidth number row.length cost.length)
  | none =>
    if hh : constraints.length = rhs.length then
      .ok ⟨cost, constraints, rhs, direction, pivotRule, length_of_firstMisfit? h, hh⟩
    else .error (.rowCount constraints.length rhs.length)

/-- Programs agree if their cost terms agree as text and their numbers as numbers: NaN differs
from itself and the zeros are equal. -/
instance : BEq Program where
  beq p q := p.cost == q.cost && p.constraints == q.constraints && p.rhs == q.rhs
    && p.direction == q.direction && p.pivotRule == q.pivotRule

end Program
end Tableaux
