import Tableaux.Proofs.Consistency
import Tableaux.Proofs.Decimal.Meaning
import Tableaux.Proofs.Grid.Number

/-!
# The value of a cell

A cell counts as the number that its longest numeric part denotes, and as zero if no part at its
start is numeric. It is never NaN and never the negative zero, so a grid is refused only if the
numbers of its cells do not match.
-/
namespace Tableaux.Grid

open Decimal (Denotes StandsFor)
open Text (trim)

/-- What a text counts as. The part that is read is the longest one with the form of a number and
the first one that backtracking finds. -/
inductive CountsAs (text : List Char) : Float → Prop where
  | number {part : List Char} {x : Float} (hlongest : numberForm.Longest text part)
      (hfirst : numberForm.first? text = some part) (hdenotes : Denotes part x)
      (hvalue : StandsFor part x) (hread : Decimal.read part = some x) (hnumber : x.isNaN = false) :
      CountsAs text (if x == 0 then 0 else x)
  | nothing (h : ∀ part, part <+: text → ¬ numberForm.Fits part)
      (hfirst : numberForm.first? text = none) : CountsAs text 0

structure IsPlain (x : Float) : Prop where
  number : x.isNaN = false
  unsigned : x ≠ -0

theorem zero_isPlain : IsPlain 0 := ⟨by decide, by decide⟩

theorem isPlain_of_nonzero {x : Float} (h : x.isNaN = false) (hzero : (x == 0) = false) :
    IsPlain x := by
  refine ⟨h, ?_⟩
  rintro rfl
  exact absurd hzero (by decide)

theorem CountsAs.plain {text : List Char} {x : Float} (h : CountsAs text x) : IsPlain x := by
  cases h with
  | nothing => exact zero_isPlain
  | @number part x _ _ _ _ _ hnumber =>
    by_cases hzero : (x == 0) = true
    · rw [if_pos hzero]
      exact zero_isPlain
    · rw [if_neg hzero]
      exact isPlain_of_nonzero hnumber (Bool.eq_false_iff.mpr hzero)

theorem countsAs_readCell (cell : String) : CountsAs (trim cell.toList) (readCell cell) := by
  have hleading := leads_number (trim cell.toList)
  rw [readCell]
  generalize trim cell.toList = text at hleading ⊢
  generalize leadingNumber? text = found at hleading ⊢
  cases hleading with
  | missing h => exact .nothing h (Text.Form.first_eq_none h)
  | @found part rest htext hleads =>
    subst htext
    obtain ⟨x, hdenotes⟩ := fits_numberForm.mp hleads.longest.fits
    obtain ⟨hread, hnumber⟩ := Decimal.read_of_denotes hdenotes
    rw [Option.bind_some, hread]
    simp only [hnumber, Bool.false_eq_true, if_false, Decimal.add_zero_eq hnumber]
    exact .number hleads.longest hleads.finds.first hdenotes (Decimal.standsFor_of_denotes hdenotes)
      hread hnumber

theorem CountsAs.zero_iff {text : List Char} {x : Float} (h : CountsAs text x) :
    x = 0 ↔ (∀ part, part <+: text → ¬ numberForm.Fits part) ∨
      ∃ part y, numberForm.Longest text part ∧ Denotes part y ∧ (y == 0) = true := by
  cases h with
  | nothing h _ => exact ⟨fun _ => Or.inl h, fun _ => rfl⟩
  | @number part x hlongest hfirst hdenotes hvalue hread hnumber =>
    constructor
    · intro hx
      refine Or.inr ⟨part, x, hlongest, hdenotes, ?_⟩
      by_contra hzero
      rw [if_neg hzero] at hx
      subst hx
      exact hzero (by decide)
    · rintro (hnone | ⟨other, y, hother, hy, hzero⟩)
      · exact absurd hlongest.fits (hnone part hlongest.starts)
      · obtain rfl := hlongest.unique hother
        have hsame := (Decimal.read_of_denotes hy).1
        rw [hread, Option.some.injEq] at hsame
        rw [hsame, if_pos hzero]

theorem numbers_of_read {cost : List String} {constraints : List (List String)}
    {rhs : List String} {direction : Direction} {pivotRule : PivotRule} {p : Program}
    (h : read cost constraints rhs direction pivotRule = .ok p) : p.Numbers IsPlain := by
  have hcell : ∀ cell, IsPlain (readCell cell) := fun cell => (countsAs_readCell cell).plain
  obtain ⟨-, hconstraints, hrhs, -, -⟩ := Program.eq_of_make h
  constructor
  · intro row hrow x hx
    rw [hconstraints] at hrow
    obtain ⟨cells, -, rfl⟩ := List.mem_map.mp hrow
    obtain ⟨cell, -, rfl⟩ := List.mem_map.mp hx
    exact hcell cell
  · intro x hx
    rw [hrhs] at hx
    obtain ⟨cell, -, rfl⟩ := List.mem_map.mp hx
    exact hcell cell

/-- A cell counts as the number that the longest numeric part at its start denotes, which can always
be read. It counts as zero exactly if there is no such part or that number is zero, and never as NaN
or the negative zero. So a grid is refused exactly if the numbers of its cells do not match, and all
numbers of its program are such values. -/
theorem cells_count_as_numbers :
    (∀ cell, CountsAs (trim cell.toList) (readCell cell) ∧ IsPlain (readCell cell) ∧
      (readCell cell = 0 ↔ (∀ part, part <+: trim cell.toList → ¬ numberForm.Fits part) ∨
        ∃ part y, numberForm.Longest (trim cell.toList) part ∧ Denotes part y ∧
          (y == 0) = true)) ∧
    (∀ part, numberForm.Fits part ↔
      ∃ x, Denotes part x ∧ Decimal.read part = some x ∧ x.isNaN = false) ∧
    ∀ cost constraints rhs direction pivotRule,
      (∀ e, read cost constraints rhs direction pivotRule = .error e ↔
        Program.Misfit cost.length (constraints.map List.length) rhs.length e) ∧
      ∀ p, read cost constraints rhs direction pivotRule = .ok p ↔
        Program.Fits cost.length (constraints.map List.length) rhs.length ∧
          p.parts = .ofCells cost constraints rhs direction pivotRule ∧ p.Numbers IsPlain := by
  refine ⟨fun cell => ?_, fun part => ?_, fun cost constraints rhs direction pivotRule => ?_⟩
  · have hcell := countsAs_readCell cell
    exact ⟨hcell, hcell.plain, hcell.zero_iff⟩
  · rw [fits_numberForm]
    constructor
    · rintro ⟨x, hx⟩
      exact ⟨x, hx, Decimal.read_of_denotes hx⟩
    · rintro ⟨x, hx, -⟩
      exact ⟨x, hx⟩
  · have hread : read cost constraints rhs direction pivotRule =
        (Program.Parts.ofCells cost constraints rhs direction pivotRule).make := rfl
    constructor
    · intro e
      rw [hread, ← Program.misfit_ofCells cost constraints rhs direction pivotRule]
      exact ⟨Program.misfit_of_make, Program.make_of_misfit⟩
    · intro p
      rw [← Program.fits_ofCells cost constraints rhs direction pivotRule]
      constructor
      · intro h
        obtain ⟨hfits, hparts⟩ := Program.make_ok_iff.mp (hread.symm.trans h)
        exact ⟨hfits, hparts, numbers_of_read h⟩
      · rintro ⟨hfits, hparts, -⟩
        exact hread.trans (Program.make_ok_iff.mpr ⟨hfits, hparts⟩)

/-- What follows an incomplete exponent, a lone point and a second number. -/
example : (leadingNumber? "-2.5e+x".toList, leadingNumber? ".".toList,
    leadingNumber? "3.1.4".toList) = (some "-2.5".toList, none, some "3.1".toList) := by decide

end Tableaux.Grid
