import Tableaux.Proofs.Decimal.Layout
import Tableaux.Proofs.Text.Split
import Tableaux.Simplex.Run

/-!
# The text of a step

Names, values and captions hold none of the characters that structure the text of a step. So the
text is cut at its line breaks into the lines it was put together from.
-/
namespace Tableaux.Simplex

open Decimal (IsFigure figures_brief)
open Text (join pieces)

/-- The characters that end a line, separate cells and mark the pivot element. -/
def structural : List Char := ['\n', '|', '*']

def IsCell (text : List Char) : Prop := ∀ c ∈ structural, c ∉ text

instance (text : List Char) : Decidable (IsCell text) := List.decidableBAll _ _

theorem IsCell.append {front back : List Char} (hf : IsCell front) (hb : IsCell back) :
    IsCell (front ++ back) := by
  intro c hc hmem
  rcases List.mem_append.mp hmem with h | h
  · exact hf c hc h
  · exact hb c hc h

theorem isCell_figures {text : List Char} (h : ∀ c ∈ text, IsFigure c) : IsCell text := by
  have hstructural : ∀ c ∈ structural, ¬ IsFigure c := by
    simp [structural, IsFigure, Decimal.isDigit]
  exact fun c hc hmem => hstructural c hc (h c hmem)

theorem isCell_digits (n : Nat) : IsCell (Nat.toDigits 10 n) :=
  isCell_figures fun c hc => Or.inl (Decimal.digits_toDigits n c hc)

theorem isCell_brief (x : Float) : IsCell (Decimal.brief x).toList :=
  isCell_figures (figures_brief x)

theorem isCell_multiple (v : BigM) : IsCell v.multipleText.toList := by
  unfold BigM.multipleText
  split
  · decide
  · split
    · decide
    · rw [String.toList_append]
      exact (isCell_brief v.m).append (by decide)

theorem isCell_bigM (v : BigM) : IsCell v.text.toList := by
  have hoperator : IsCell (if v.real > 0 then " + " else " - ").toList := by
    split <;> decide
  unfold BigM.text
  split
  · exact isCell_brief v.real
  · split
    · rw [String.toList_append, String.toList_append]
      exact ((isCell_multiple v).append hoperator).append (isCell_brief _)
    · exact isCell_multiple v

theorem isCell_name (role : Role) (column : Nat) :
    IsCell (Step.variableName role column).toList := by
  have hmark : IsCell ('x' :: role.mark?.toList) := by
    cases role <;> decide
  rw [Step.variableName, String.toList_ofList]
  exact hmark.append (isCell_digits (column + 1))

theorem isCell_label (label : Label) : IsCell label.text.toList := by
  cases label with
  | initial => decide
  | step index =>
    have htext : (Label.step index).text.toList = "Step ".toList ++ Nat.toDigits 10 index := by
      simp [Label.text, toString]
    rw [htext]
    exact IsCell.append (by decide) (isCell_digits index)

theorem isCell_analysis (a : Analysis) : IsCell a.text.toList := by
  cases a with
  | initialized => decide
  | pivot entering leaving =>
    have htext : (Analysis.pivot entering leaving).text.toList =
        "Entering: x".toList ++ Nat.toDigits 10 (shownNumber entering) ++
          ", leaving: x".toList ++ Nat.toDigits 10 (shownNumber leaving) ++ ".".toList := by
      simp [Analysis.text, toString]
    rw [htext]
    exact (((IsCell.append (by decide) (isCell_digits _)).append (by decide)).append
      (isCell_digits _)).append (by decide)
  | optimal => decide

theorem TextRow.toList_text (r : TextRow) :
    r.text.toList =
      r.head.toList ++ " | ".toList ++ join " | ".toList (r.cells.map String.toList) := by
  rw [TextRow.text, String.toList_append, String.toList_append, String.toList_intercalate,
    Text.join_eq_intercalate]

theorem TextRow.not_mem_text {r : TextRow} {c : Char} (hsep : c ∉ " | ".toList)
    (hhead : c ∉ r.head.toList) (hcells : ∀ cell ∈ r.cells, c ∉ cell.toList) :
    c ∉ r.text.toList := by
  have hjoin : c ∉ join " | ".toList (r.cells.map String.toList) := by
    apply Text.not_mem_join hsep
    intro p hp
    obtain ⟨cell, hcell, rfl⟩ := List.mem_map.mp hp
    exact hcells cell hcell
  rw [TextRow.toList_text]
  simp only [List.mem_append, not_or]
  exact ⟨⟨hhead, hsep⟩, hjoin⟩

structure TextRow.Plain (r : TextRow) : Prop where
  head : IsCell r.head.toList
  cells : ∀ cell ∈ r.cells, IsCell cell.toList

theorem TextRow.Plain.not_mem_text {r : TextRow} (h : r.Plain) {c : Char} (hc : c ∈ structural)
    (hsep : c ∉ " | ".toList) : c ∉ r.text.toList :=
  TextRow.not_mem_text hsep (h.head c hc) fun cell hcell => h.cells cell hcell c hc

namespace Step

def lines (s : Step) : List (List Char) :=
  s.label.text.toList :: s.textRows.map (fun r => r.text.toList) ++ [s.analysis.text.toList]

theorem toList_text (s : Step) : s.text.toList = join ['\n'] s.lines := by
  rw [Step.text, String.toList_intercalate, ← Text.join_eq_intercalate, lines, List.map_append,
    List.map_cons, List.map_map]
  rfl

variable {s : Step}

theorem toList_entryText (s : Step) (row column : Nat) (x : Float) :
    (s.entryText row column x).toList = (Decimal.brief x).toList ++
      if s.tableau.pivot = some ⟨row, column⟩ then ['*'] else [] := by
  rw [entryText, String.toList_append]
  split <;> rfl

theorem textRow_cases {i : Nat} {r : TextRow} (h : s.textRows[i]? = some r) :
    r.Plain ∨ ∃ row entries rhs, i = row + 3 ∧ s.tableau.constraints[row]? = some entries ∧
      s.tableau.rhs[row]? = some rhs ∧ r = s.constraintRow row entries rhs := by
  match i with
  | 0 =>
    obtain rfl := Option.some.inj h
    refine Or.inl ⟨show IsCell "variable".toList by decide, ?_⟩
    intro cell hcell
    obtain ⟨column, hcolumn, rfl⟩ := List.mem_mapIdx.mp hcell
    exact isCell_name _ column
  | 1 =>
    obtain rfl := Option.some.inj h
    refine Or.inl ⟨show IsCell "x values".toList by decide, ?_⟩
    intro cell hcell
    obtain ⟨x, -, rfl⟩ := List.mem_map.mp hcell
    exact isCell_brief x
  | 2 =>
    obtain rfl := Option.some.inj h
    refine Or.inl ⟨isCell_bigM _, ?_⟩
    intro cell hcell
    obtain ⟨v, -, rfl⟩ := List.mem_map.mp hcell
    exact isCell_bigM v
  | row + 3 =>
    change (List.mapIdx _ (s.tableau.constraints.zip s.tableau.rhs))[row]? = some r at h
    rw [List.getElem?_mapIdx] at h
    obtain ⟨⟨entries, rhs⟩, hentry, rfl⟩ := Option.map_eq_some_iff.mp h
    obtain ⟨hentries, hrhs⟩ := List.getElem?_zip_eq_some.mp hentry
    exact Or.inr ⟨row, entries, rhs, rfl, hentries, hrhs, rfl⟩

/-- In the row of a constraint only the star of the pivot element is structural, but for what
separates the cells. -/
theorem not_mem_constraintRow {c : Char} {row : Nat} (hc : c ∈ structural)
    (hsep : c ∉ " | ".toList) (hstar : c = '*' → ∀ column, s.tableau.pivot ≠ some ⟨row, column⟩)
    (entries : List Float) (rhs : Float) :
    c ∉ (s.constraintRow row entries rhs).text.toList := by
  apply TextRow.not_mem_text hsep
  · exact isCell_brief rhs c hc
  · intro cell hcell
    obtain ⟨column, hcolumn, rfl⟩ := List.mem_mapIdx.mp hcell
    rw [toList_entryText, List.mem_append, not_or]
    refine ⟨isCell_brief _ c hc, ?_⟩
    split
    · rename_i hpivot
      rw [List.mem_singleton]
      exact fun e => hstar e column hpivot
    · exact List.not_mem_nil

theorem line_cases {i : Nat} {line : List Char} (h : s.lines[i]? = some line) :
    IsCell line ∨ ∃ k r, i = k + 1 ∧ s.textRows[k]? = some r ∧ line = r.text.toList := by
  cases i with
  | zero =>
    obtain rfl := Option.some.inj h
    exact Or.inl (isCell_label s.label)
  | succ k =>
    change (s.textRows.map (fun r => r.text.toList) ++ [s.analysis.text.toList])[k]? = _ at h
    by_cases hk : k < (s.textRows.map fun r => r.text.toList).length
    · rw [List.getElem?_append_left hk, List.getElem?_map] at h
      obtain ⟨r, hr, rfl⟩ := Option.map_eq_some_iff.mp h
      exact Or.inr ⟨k, r, rfl, hr, rfl⟩
    · rw [List.getElem?_append_right (Nat.le_of_not_lt hk)] at h
      obtain rfl := List.mem_singleton.mp (List.mem_of_getElem? h)
      exact Or.inl (isCell_analysis s.analysis)

theorem getElem_lines_row {k : Nat} {r : TextRow} (h : s.textRows[k]? = some r) :
    s.lines[k + 1]? = some r.text.toList := by
  have hrow : (s.textRows.map fun r => r.text.toList)[k]? = some r.text.toList := by
    rw [List.getElem?_map, h]
    rfl
  change (s.textRows.map (fun r => r.text.toList) ++ [s.analysis.text.toList])[k]? = _
  rw [List.getElem?_append_left (List.getElem?_eq_some_iff.mp hrow).1, hrow]

theorem break_not_mem_line {line : List Char} (h : line ∈ s.lines) : '\n' ∉ line := by
  obtain ⟨i, hi⟩ := List.mem_iff_getElem?.mp h
  rcases line_cases hi with hcell | ⟨k, r, -, hr, rfl⟩
  · exact hcell '\n' (by decide)
  · rcases textRow_cases hr with hplain | ⟨row, entries, rhs, -, -, -, rfl⟩
    · exact hplain.not_mem_text (by decide) (by decide)
    · exact not_mem_constraintRow (by decide) (by decide) (fun h => by cases h) entries rhs

theorem pieces_text (s : Step) : pieces '\n' s.text.toList = s.lines := by
  rw [toList_text]
  exact Text.pieces_join_singleton (by simp [lines]) fun _ => break_not_mem_line

end Step
end Tableaux.Simplex
