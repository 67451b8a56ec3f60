import Tableaux.Proofs.Simplex.Text
import Tableaux.Proofs.Text.Separator

/-!
# Taking a text tableau apart

The lines of a step are its caption, the names of the variables, their values, the objective, the
constraints and the analysis. Each line between the captions is cut at its separators into the
cells it was written with, and a name is taken apart into a number and the mark of a role.
-/
namespace Tableaux.Simplex

open Text (join pieces piecesAt)

def cellsOf (line : List Char) : List (List Char) := piecesAt " | ".toList line

theorem cellsOf_row {r : TextRow} (hcells : r.cells ≠ []) (hhead : '|' ∉ r.head.toList)
    (h : ∀ cell ∈ r.cells, '|' ∉ cell.toList) :
    cellsOf r.text.toList = r.head.toList :: r.cells.map String.toList := by
  have htext : r.text.toList =
      join " | ".toList (r.head.toList :: r.cells.map String.toList) := by
    rw [TextRow.toList_text, Text.join_cons (by simpa using hcells)]
  rw [htext]
  have hbar : '|' ∉ [' '] := by decide
  apply Text.piecesAt_join hbar (List.cons_ne_nil _ _)
  intro p hp
  rcases List.mem_cons.mp hp with rfl | hp
  · exact hhead
  · obtain ⟨cell, hcell, rfl⟩ := List.mem_map.mp hp
    exact h cell hcell

theorem TextRow.Plain.cellsOf {r : TextRow} (h : r.Plain) (hcells : r.cells ≠ []) :
    cellsOf r.text.toList = r.head.toList :: r.cells.map String.toList :=
  cellsOf_row hcells (h.head '|' (by decide)) fun cell hcell => h.cells cell hcell '|' (by decide)

/-- The characters that mark a name with a role. -/
def marks : List Char := ['\u0302', '\u030C', '\u0304']

namespace Step

variable {s : Step}

end Step

end Tableaux.Simplex
