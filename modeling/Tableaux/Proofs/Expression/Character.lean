import Mathlib.Tactic.ByContra
import Tableaux.Expression.Term
import Tableaux.Proofs.Decimal.Digits

/-!
# The characters of an expression

Digits, blanks, signs, the `x` of a variable and the characters of a magnitude do
not overlap, apart from digits, which are magnitude characters.
-/
namespace Tableaux.Expression

open Decimal (isDigit)
open Text (isBlank)

theorem blank_not_digit {c : Char} (h : isBlank c = true) : isDigit c = false := by
  by_contra hd
  have hr := (Decimal.digit_iff_range c).mp (by simpa using hd)
  simp only [isBlank, Text.inRanges, Text.blankRanges, List.any_cons, List.any_nil,
    Bool.or_eq_true, Bool.and_eq_true, decide_eq_true_eq, Bool.false_eq_true, or_false] at h
  omega

theorem blank_ne_x {c : Char} (h : isBlank c = true) : c ≠ 'x' := by
  rintro rfl
  exact absurd h (by decide)

theorem digit_ne_x {c : Char} (h : isDigit c = true) : c ≠ 'x' := by
  rintro rfl
  exact absurd h (by decide)

theorem magnitude_not_blank {c : Char} (h : isMagnitude c = true) : isBlank c = false := by
  simp only [isMagnitude, Bool.or_eq_true, beq_iff_eq] at h
  rcases h with (hd | rfl) | rfl
  · by_contra hb
    rw [blank_not_digit (by simpa using hb)] at hd
    cases hd
  · decide
  · decide

theorem head_not_digit {c : Char} (h : isDigit c = false) (rest : List Char) :
    ∀ d ∈ (c :: rest).head?, isDigit d = false := by
  intro d hd
  obtain rfl : c = d := Option.some.inj hd
  exact h

end Tableaux.Expression
