/-! # Dense rows

A row has an entry for every column. Columns that are not given have a default, and of several
entries for a column the last one counts.
-/
namespace Tableaux

/-- The row of a width that holds the given entries. -/
def row {α : Type} (width : Nat) (default : α) (entries : List (Nat × α)) : List α :=
  (entries.foldl (fun cells (column, a) => cells.setIfInBounds column a)
    (Array.replicate width default)).toList

theorem length_row {α : Type} (width : Nat) (default : α) (entries : List (Nat × α)) :
    (row width default entries).length = width := by
  suffices h : ∀ cells : Array α,
      (entries.foldl (fun cells (column, a) => cells.setIfInBounds column a) cells).size
        = cells.size by
    simp [row, h]
  induction entries with
  | nil => simp
  | cons e es ih => intro cells; simp [ih]

end Tableaux
