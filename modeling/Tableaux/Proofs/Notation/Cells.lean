import Tableaux.Grid
import Tableaux.Proofs.Notation.Sheet

/-!
# Sheets typed into cells

The longest number in front of a numeral is the numeral itself, so a grid of cells
gives the program of the sheet, up to the sign of zero.
-/
namespace Tableaux.Notation

open Decimal (isDigit)
open Grid (leadingDecimal? leadingNumber? leadingSign readCell)

theorem leadingDecimal_plain {m : List Char} (h : PlainDecimal m) :
    leadingDecimal? m = some m := by
  cases h with
  | whole _ hne hd =>
    have hwhole : m.takeWhile isDigit = m := List.takeWhile_eq_self_iff.mpr hd
    simp [leadingDecimal?, hwhole, hne, Grid.leadingExponent]
  | point digits fraction hne hd hf =>
    have hwhole : (digits ++ '.' :: fraction).takeWhile isDigit = digits :=
      Decimal.takeWhile_digits hd (Expression.head_not_digit (by decide) fraction)
    have hfraction : fraction.takeWhile isDigit = fraction := List.takeWhile_eq_self_iff.mpr hf
    have hbehind : (digits ++ '.' :: fraction).drop (digits.length + 1) = fraction := by simp
    simp [leadingDecimal?, hwhole, hbehind, hfraction, hne, Grid.leadingExponent]

theorem PlainDecimal.first {m : List Char} (h : PlainDecimal m) :
    ∀ c ∈ m.head?, isDigit c = true ∨ c = '.' := by
  intro c hc
  cases h with
  | whole _ hne hd => exact Or.inl (hd c (List.mem_of_mem_head? hc))
  | point digits fraction hne hd hf =>
    cases digits with
    | nil => exact Or.inr (Option.some.inj hc).symm
    | cons d digits =>
      obtain rfl : d = c := Option.some.inj hc
      exact Or.inl (hd d List.mem_cons_self)

theorem leadingSign_text (n : Numeral) : leadingSign n.text = n.sign := by
  unfold Token.text Token.sign
  split
  · rfl
  · cases hm : n.magnitude with
    | nil => rfl
    | cons c rest =>
      have hc := n.plain.first c (by rw [hm]; rfl)
      have hplus : c ≠ '+' := by
        rintro rfl
        exact absurd hc (by decide)
      have hminus : c ≠ '-' := by
        rintro rfl
        exact absurd hc (by decide)
      simp [leadingSign, hplus, hminus]

theorem leadingNumber_text (n : Numeral) : leadingNumber? n.text = some n.text := by
  have hrest : n.text.drop n.sign.length = n.magnitude := by simp [Token.text]
  have hword : "Infinity".toList.isPrefixOf n.magnitude = false := by
    cases hm : n.magnitude with
    | nil => rfl
    | cons c rest =>
      have hc := n.plain.first c (by rw [hm]; rfl)
      have hI : 'I' ≠ c := by
        rintro rfl
        exact absurd hc (by decide)
      simp [List.isPrefixOf, hI]
  dsimp only [leadingNumber?]
  rw [leadingSign_text, hrest, hword, leadingDecimal_plain n.plain]
  rfl

theorem readCell_numeral (n : Numeral) : readCell n.cell = n.value + 0 := by
  have hread : (leadingNumber? n.text).bind Decimal.read = some n.value := by
    rw [leadingNumber_text, Option.bind_some, n.reads]
  rw [readCell, Token.cell, String.toList_ofList, n.tight.trim, hread]
  exact if_neg (by rw [Decimal.isNaN_of_finite n.finite]; decide)

theorem trim_cell (t : Token) : String.ofList (Text.trim t.cell.toList) = t.cell := by
  simp [Token.cell, t.tight.trim]

theorem read_cells (s : Sheet) :
    Grid.read (s.cost.map Token.cell) (s.rows.map (·.map fun n => n.cell))
      (s.rhs.map fun n => n.cell) s.direction .bland = .ok (s.program fun n => n.value + 0) := by
  rw [← s.make_program, Grid.read]
  congr 1
  · simp [trim_cell]
  · simp [readCell_numeral]
  · simp [readCell_numeral]

end Tableaux.Notation
