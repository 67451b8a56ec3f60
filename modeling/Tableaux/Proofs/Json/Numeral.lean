import Mathlib.Data.List.Basic
import Tableaux.Json.Token
import Tableaux.Proofs.Decimal.Layout
import Tableaux.Proofs.Expression.Character

/-!
# Numbers of JSON are read back

An integer part without leading zeros, decimals and an exponent are read as they are
written, if nothing follows that could continue the number. The numbers that are
written for indices, signed integers and floats have this form.
-/
namespace Tableaux.Json

open Decimal (Binary Digits Leading Numeral dropWhile_digits digits_fraction digits_toDigits
  isDigit replicate_zero_digits takeWhile_digits)
open Expression (head_not_digit)

structure WellFormed (n : Numeral) : Prop where
  whole : n.whole ≠ []
  wholeDigits : ∀ c ∈ n.whole, isDigit c = true
  leading : n.whole.head? = some '0' → n.whole.length = 1
  fractionDigits : ∀ c ∈ n.fraction, isDigit c = true

/-- What follows a number does not continue it. -/
def EndsNumber (rest : List Char) : Prop :=
  ∀ c ∈ rest.head?, isDigit c = false ∧ c ≠ '.' ∧ c ≠ 'e' ∧ c ≠ 'E'

def signText (e : Int) : List Char := if e < 0 then ['-'] else ['+']

def exponentText : Option Int → List Char
  | none => []
  | some e => 'e' :: (signText e ++ Nat.toDigits 10 e.natAbs)

def fractionText (fraction : List Char) : List Char :=
  if fraction = [] then [] else '.' :: fraction

theorem spell_eq (n : Numeral) :
    layout.spell n = (if n.negative then ['-'] else []) ++ (n.whole ++
      (fractionText n.fraction ++ exponentText n.exponent)) := by
  have hplus : layout.exponentPlus = true := rfl
  cases hexp : n.exponent with
  | none => simp [Decimal.Layout.spell, fractionText, exponentText, hexp]
  | some e => simp [Decimal.Layout.spell, fractionText, exponentText, signText, hexp, hplus]

theorem splitSign_signText (e : Int) (after : List Char) :
    Decimal.splitSign (signText e ++ after) = (decide (e < 0), after) := by
  by_cases he : e < 0
  · simp [signText, he, Decimal.splitSign]
  · simp [signText, he, Decimal.splitSign]

theorem readExponent_text (exponent : Option Int) {rest : List Char} (h : EndsNumber rest) :
    readExponent (exponentText exponent ++ rest) = some (exponent, rest) := by
  cases exponent with
  | none =>
    have hstart : startsExponent rest = false := by
      cases rest with
      | nil => rfl
      | cons c rest =>
        obtain ⟨-, -, he, hE⟩ := h c rfl
        simp [startsExponent, he, hE]
    simp [exponentText, readExponent, hstart]
  | some e =>
    have hrest : ∀ c ∈ rest.head?, isDigit c = false := fun c hc => (h c hc).1
    have htake := takeWhile_digits (digits_toDigits e.natAbs) hrest
    have hdrop := dropWhile_digits (digits_toDigits e.natAbs) hrest
    have hvalue : (if e < 0 then -(e.natAbs : Int) else e.natAbs) = e := by
      split <;> omega
    have hsplit := splitSign_signText e (Nat.toDigits 10 e.natAbs ++ rest)
    simp only [exponentText, List.cons_append, List.append_assoc, readExponent, startsExponent,
      List.drop_one, List.tail_cons, hsplit, htake, hdrop, Nat.toDigits_ne_nil,
      Nat.ofDigitChars_ten_toDigits, decide_eq_true_eq, hvalue]
    rfl

theorem readFraction_text {fraction after : List Char}
    (hf : ∀ c ∈ fraction, isDigit c = true)
    (ha : ∀ c ∈ after.head?, isDigit c = false ∧ c ≠ '.') :
    readFraction (fractionText fraction ++ after) = some (fraction, after) := by
  by_cases hnil : fraction = []
  · subst hnil
    cases after with
    | nil => rfl
    | cons c after =>
      obtain ⟨-, hpoint⟩ := ha c rfl
      simp [fractionText, readFraction, hpoint]
  · have hafter : ∀ c ∈ after.head?, isDigit c = false := fun c hc => (ha c hc).1
    have htake := takeWhile_digits hf hafter
    have hdrop := dropWhile_digits hf hafter
    simp [fractionText, hnil, readFraction, htake, hdrop]

theorem exponentText_ends (exponent : Option Int) {rest : List Char} (h : EndsNumber rest) :
    ∀ c ∈ (exponentText exponent ++ rest).head?, isDigit c = false ∧ c ≠ '.' := by
  cases exponent with
  | none => exact fun c hc => ⟨(h c hc).1, (h c hc).2.1⟩
  | some e =>
    intro c hc
    obtain rfl : 'e' = c := Option.some.inj hc
    decide

theorem fractionText_ends (fraction : List Char) {after : List Char}
    (h : ∀ c ∈ after.head?, isDigit c = false ∧ c ≠ '.') :
    ∀ c ∈ (fractionText fraction ++ after).head?, isDigit c = false := by
  by_cases hnil : fraction = []
  · simpa [fractionText, hnil] using fun c hc => (h c hc).1
  · simp only [fractionText, hnil, if_false, List.cons_append]
    exact head_not_digit (by decide) _

theorem readUnsigned_text {n : Numeral} (h : WellFormed n) {rest : List Char}
    (hr : EndsNumber rest) :
    readUnsigned n.negative
        (n.whole ++ (fractionText n.fraction ++ (exponentText n.exponent ++ rest)))
      = some (n, rest) := by
  have hend := exponentText_ends n.exponent hr
  have hwhole := fractionText_ends n.fraction hend
  have htake := takeWhile_digits h.wholeDigits hwhole
  have hdrop := dropWhile_digits h.wholeDigits hwhole
  have hleading : ¬ (n.whole = [] ∨ (n.whole.head? = some '0' ∧ n.whole.length ≠ 1)) := by
    rintro (hnil | ⟨hzero, hlength⟩)
    · exact h.whole hnil
    · exact hlength (h.leading hzero)
  simp only [readUnsigned, htake, hdrop, if_neg hleading, readFraction_text h.fractionDigits hend,
    readExponent_text n.exponent hr, bind, Option.bind]

theorem readNumber_spell {n : Numeral} (h : WellFormed n) {rest : List Char}
    (hr : EndsNumber rest) : readNumber (layout.spell n ++ rest) = some (n, rest) := by
  have htext := readUnsigned_text h hr
  rw [spell_eq]
  simp only [List.append_assoc]
  cases hneg : n.negative with
  | true =>
    rw [hneg] at htext
    exact htext
  | false =>
    rw [hneg] at htext
    obtain ⟨c, whole, hw⟩ := List.exists_cons_of_ne_nil h.whole
    have hminus : c ≠ '-' := by
      rintro rfl
      have := h.wholeDigits '-' (by simp [hw])
      exact absurd this (by decide)
    rw [hw] at htext ⊢
    simpa [readNumber, hminus] using htext

theorem head_zero_of_toDigits {n : Nat} (h : (Nat.toDigits 10 n).head? = some '0') :
    (Nat.toDigits 10 n).length = 1 := by
  rcases Nat.eq_zero_or_pos n with rfl | hpos
  · rfl
  · exact absurd h (Decimal.head_toDigits n hpos)

theorem wellFormed_integer (negative : Bool) (n : Nat) :
    WellFormed ⟨negative, Nat.toDigits 10 n, [], none⟩ :=
  ⟨Nat.toDigits_ne_nil, digits_toDigits n, head_zero_of_toDigits,
    fun _ h => absurd h List.not_mem_nil⟩

theorem wellFormed_positional {d : Digits} (h : Leading d.digits) (negative : Bool)
    {fraction : List Char} (hf : ∀ c ∈ fraction, isDigit c = true) :
    WellFormed ⟨negative, d.positional.1, fraction, none⟩ := by
  have hzero : WellFormed ⟨negative, ['0'], fraction, none⟩ :=
    ⟨by simp, replicate_zero_digits 1, fun _ => rfl, hf⟩
  unfold Digits.positional
  by_cases hnil : d.digits = []
  · rw [if_pos hnil]
    exact hzero
  · rw [if_neg hnil]
    by_cases hpoint : d.point ≤ 0
    · rw [if_pos hpoint]
      exact hzero
    · rw [if_neg hpoint]
      obtain ⟨first, digits, hdigits⟩ := List.exists_cons_of_ne_nil hnil
      obtain ⟨places, hplaces⟩ := Nat.exists_eq_succ_of_ne_zero
        (show d.point.toNat ≠ 0 by omega)
      refine ⟨by simp [hdigits, hplaces], ?_, ?_, hf⟩
      · intro c hc
        rcases List.mem_append.mp hc with hc | hc
        · exact h.digit c (List.mem_of_mem_take hc)
        · exact replicate_zero_digits _ c hc
      · intro hhead
        have hfirst := h.head
        simp only [hdigits, hplaces, Nat.succ_eq_add_one, List.take_succ_cons, List.cons_append,
          List.head?_cons] at hhead hfirst
        exact absurd hhead hfirst

theorem wellFormed_numeral (v : Binary) : WellFormed (layout.numeral v) := by
  have hlead := Decimal.leading_shortest v layout.tie
  unfold Decimal.Layout.numeral
  generalize v.shortest layout.tie = d at hlead
  dsimp only
  split
  · split
    · exact wellFormed_positional hlead v.negative (replicate_zero_digits 1)
    · exact wellFormed_positional hlead v.negative (digits_fraction hlead)
  · rename_i hexp
    -- Only zero has no digits, and zero is written positionally.
    have hnil : d.digits ≠ [] := by
      intro hnil
      have hzero : d.exponent = 0 := by simp [Digits.exponent, hnil]
      exact hexp (by rw [Decimal.Layout.isPositional, hzero]; decide)
    obtain ⟨first, digits, hdigits⟩ := List.exists_cons_of_ne_nil hnil
    refine ⟨by simp [hdigits], fun c hc => hlead.digit c (List.mem_of_mem_take hc),
      by simp [hdigits], fun c hc => hlead.digit c (List.mem_of_mem_drop hc)⟩

end Tableaux.Json
