import Mathlib.Data.List.Basic
import Tableaux.Decimal.Reader
import Tableaux.Decimal.Shortest

/-!
# Digits

The decimal name of a positive number consists of digits and does not start with zero,
and neither do the shortest digits of a float. Digits in front of a text are all that
is scanned as digits, if none follows them.
-/
namespace Tableaux.Decimal

theorem digit_iff_range (c : Char) : isDigit c = true ↔ 48 ≤ c.toNat ∧ c.toNat ≤ 57 := by
  rw [isDigit, Bool.and_eq_true, decide_eq_true_iff, decide_eq_true_iff, Char.le_def, Char.le_def,
    UInt32.le_iff_toNat_le, UInt32.le_iff_toNat_le]
  rfl

theorem takeWhile_no_digit {after : List Char} (h : ∀ c ∈ after.head?, isDigit c = false) :
    after.takeWhile isDigit = [] := by
  cases after with
  | nil => rfl
  | cons c rest => exact List.takeWhile_cons_of_neg (by simp [h c rfl])

theorem takeWhile_digits {digits after : List Char} (hd : ∀ c ∈ digits, isDigit c = true)
    (ha : ∀ c ∈ after.head?, isDigit c = false) :
    (digits ++ after).takeWhile isDigit = digits := by
  rw [List.takeWhile_append_of_pos hd, takeWhile_no_digit ha, List.append_nil]

theorem dropWhile_digits {digits after : List Char} (hd : ∀ c ∈ digits, isDigit c = true)
    (ha : ∀ c ∈ after.head?, isDigit c = false) :
    (digits ++ after).dropWhile isDigit = after := by
  rw [List.dropWhile_append_of_pos hd]
  cases after with
  | nil => rfl
  | cons c rest => exact List.dropWhile_cons_of_neg (by simp [ha c rfl])

theorem digits_toDigits (number : Nat) : ∀ c ∈ Nat.toDigits 10 number, isDigit c = true := by
  intro c hc
  have h := Nat.isDigit_of_mem_toDigits (by decide) (by decide) hc
  rw [Char.isDigit, Bool.and_eq_true, decide_eq_true_iff, decide_eq_true_iff, ge_iff_le,
    UInt32.le_iff_toNat_le, UInt32.le_iff_toNat_le] at h
  exact (digit_iff_range c).mpr h

theorem digitChar_ne_zero : ∀ d < 10, d ≠ 0 → Nat.digitChar d ≠ '0' := by
  decide

theorem head_toDigits (n : Nat) : 0 < n → (Nat.toDigits 10 n).head? ≠ some '0' := by
  induction n using Nat.strongRecOn with
  | _ n ih =>
    intro hpos
    by_cases hsmall : n < 10
    · rw [Nat.toDigits_of_lt_base hsmall]
      simpa using digitChar_ne_zero n hsmall (Nat.ne_of_gt hpos)
    · -- The first digit is that of the number without its last digit.
      rw [Nat.toDigits_of_base_le (by decide) (Nat.le_of_not_lt hsmall),
        List.head?_append_of_ne_nil _ Nat.toDigits_ne_nil]
      exact ih (n / 10) (by omega) (by omega)

structure Leading (digits : List Char) : Prop where
  digit : ∀ c ∈ digits, isDigit c = true
  head : digits.head? ≠ some '0'

theorem Leading.nil : Leading [] := ⟨fun _ h => absurd h List.not_mem_nil, by simp⟩

theorem leading_toDigits {n : Nat} (h : 0 < n) : Leading (Nat.toDigits 10 n) :=
  ⟨digits_toDigits n, head_toDigits n h⟩

theorem Leading.shorten {digits first : List Char} (h : Leading digits)
    (hf : first <+: digits) : Leading first := by
  refine ⟨fun c hc => h.digit c (hf.subset hc), ?_⟩
  obtain ⟨rest, rfl⟩ := hf
  cases first with
  | nil => simp
  | cons c first => exact h.head

theorem leading_ofMultiple (multiple : Nat) (place : Int) :
    Leading (Digits.ofMultiple multiple place).digits := by
  by_cases hzero : multiple = 0
  · subst hzero
    exact Leading.nil
  · apply (leading_toDigits (Nat.pos_of_ne_zero hzero)).shorten
    have hsuffix := List.dropWhile_suffix (· == '0') (l := (Nat.toDigits 10 multiple).reverse)
    simpa [Digits.ofMultiple] using List.reverse_prefix.mpr hsuffix

theorem leading_shortest (v : Binary) (tie : Tie) : Leading (v.shortest tie).digits := by
  unfold Binary.shortest
  split
  · exact Leading.nil
  · dsimp only
    cases hfound : List.findSome? _ (List.range 17) with
    | none => exact Leading.nil
    | some d =>
      obtain ⟨n, -, hn⟩ := List.exists_of_findSome?_eq_some hfound
      obtain ⟨multiple, -, rfl⟩ := Option.map_eq_some_iff.mp hn
      exact leading_ofMultiple multiple _

end Tableaux.Decimal
