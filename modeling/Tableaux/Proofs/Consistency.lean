import Tableaux.Grid
import Tableaux.Proofs.Copt.Width
import Tableaux.Proofs.Standardized.Draft

/-!
# Consistent programs

Every program has rows as wide as its cost terms and as many right-hand sides as rows,
wherever it was read. Nothing else is asked of parts: they are refused exactly if they
do not fit together, and otherwise nothing of them is changed.
-/
namespace Tableaux.Program

open Reading (ReadError)
open Text (trim)

/-- A program that was made of parts or of cells, or read in one of the notations. -/
inductive Returned (p : Program) : Prop where
  | made (parts : Parts) (h : parts.make = .ok p)
  | cells (cost : List String) (constraints : List (List String)) (rhs : List String)
      (direction : Direction) (pivotRule : PivotRule)
      (h : Grid.read cost constraints rhs direction pivotRule = .ok p)
  | standardized (leniency : Leniency) (text : List Char)
      (h : (Standardized.read leniency text).outcome = .ok p)
  | copt (leniency : Leniency) (text : List Char)
      (h : (Copt.read leniency text).outcome = .ok p)

def Parts.ofCells (cost : List String) (constraints : List (List String)) (rhs : List String)
    (direction : Direction) (pivotRule : PivotRule) : Parts where
  cost := cost.map fun cell => String.ofList (trim cell.toList)
  constraints := constraints.map (·.map Grid.readCell)
  rhs := rhs.map Grid.readCell
  direction := direction
  pivotRule := pivotRule

theorem widths_ofCells (constraints : List (List String)) :
    (constraints.map (·.map Grid.readCell)).map List.length = constraints.map List.length := by
  rw [List.map_map]
  apply List.map_congr_left
  intro row _
  exact List.length_map _

section Cells

variable (cost : List String) (constraints : List (List String)) (rhs : List String)
  (direction : Direction) (pivotRule : PivotRule)

theorem misfit_ofCells {e : ShapeError} :
    (Parts.ofCells cost constraints rhs direction pivotRule).Misfit e ↔
      Misfit cost.length (constraints.map List.length) rhs.length e := by
  simp only [Parts.Misfit, Parts.ofCells, List.length_map, widths_ofCells]

theorem fits_ofCells :
    (Parts.ofCells cost constraints rhs direction pivotRule).Fits ↔
      Fits cost.length (constraints.map List.length) rhs.length := by
  simp only [Parts.Fits, Parts.ofCells, List.length_map, widths_ofCells]

end Cells

/-- Whatever returns a program, its parts fit together. Parts are refused exactly if they do not:
for the first row of a wrong width, or else for the number of rows. Otherwise the program consists
of them unchanged. The same holds of cells, and of the last lines of a text in standardized
notation. In COPT notation the parts always fit together. -/
theorem consistent_iff_fits :
    (∀ p, Returned p → (∀ row ∈ p.constraints, row.length = p.cost.length) ∧
      p.constraints.length = p.rhs.length) ∧
    (∀ parts : Parts, ((∃ e, parts.Misfit e) ↔ ¬ parts.Fits) ∧
      (∀ e, parts.make = .error e ↔ parts.Misfit e) ∧
      ∀ p, parts.make = .ok p ↔ parts.Fits ∧ p.parts = parts) ∧
    (∀ cost constraints rhs direction pivotRule,
      (∀ e, Grid.read cost constraints rhs direction pivotRule = .error e ↔
        Misfit cost.length (constraints.map List.length) rhs.length e) ∧
      ∀ p, Grid.read cost constraints rhs direction pivotRule = .ok p ↔
        Fits cost.length (constraints.map List.length) rhs.length ∧
          p.parts = .ofCells cost constraints rhs direction pivotRule) ∧
    (∀ leniency text,
      (∀ e, (Standardized.read leniency text).outcome = .error (.inconsistent e) ↔
        ∃ parts, Standardized.Gives leniency text parts ∧ parts.Misfit e) ∧
      ∀ p, (Standardized.read leniency text).outcome = .ok p ↔
        ∃ parts, Standardized.Gives leniency text parts ∧ parts.Fits ∧ p.parts = parts) ∧
    ∀ leniency text e, (Copt.read leniency text).outcome ≠ .error (.inconsistent e) := by
  refine ⟨?_, ?_, ?_, ?_, Copt.read_not_inconsistent⟩
  · intro p _
    exact ⟨p.width_eq, p.height_eq⟩
  · intro parts
    exact ⟨misfit_iff parts, fun e => ⟨misfit_of_make, make_of_misfit⟩, fun p => make_ok_iff⟩
  · intro cost constraints rhs direction pivotRule
    have hread : Grid.read cost constraints rhs direction pivotRule
        = (Parts.ofCells cost constraints rhs direction pivotRule).make := rfl
    rw [hread]
    constructor
    · intro e
      rw [← misfit_ofCells cost constraints rhs direction pivotRule]
      exact ⟨misfit_of_make, make_of_misfit⟩
    · intro p
      rw [← fits_ofCells cost constraints rhs direction pivotRule]
      exact make_ok_iff
  · intro leniency text
    constructor
    · intro e
      exact Standardized.read_inconsistent_iff
    · intro p
      rw [Standardized.read_ok_iff]
      constructor
      · intro h
        exact ⟨p.parts, h, p.parts_fit, rfl⟩
      · rintro ⟨parts, h, -, rfl⟩
        exact h

end Tableaux.Program
