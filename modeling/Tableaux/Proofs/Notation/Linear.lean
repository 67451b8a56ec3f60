import Tableaux.Proofs.Expression.Written
import Tableaux.Proofs.Notation.Sheet

/-!
# Linear expressions of tokens

Tokens are written in front of the variables of their columns, with plus signs between
the terms. The scan for terms gives the tokens back with the numbers of their columns.
-/
namespace Tableaux.Notation

open Decimal (digits_toDigits isDigit)
open Expression (IsCoefficient Term isMagnitude numberLimit terms variableNumbers)
open Text (Tight isBlank join)

theorem Token.isCoefficient (t : Token) : IsCoefficient t.text := by
  refine ⟨t.sign, t.magnitude, rfl, ?_, t.filled, t.typed⟩
  unfold Token.sign
  cases t.negative
  · exact Or.inl rfl
  · exact Or.inr rfl

def variableText (number : Nat) : List Char := 'x' :: Nat.toDigits 10 number

def termText (t : Token) (number : Nat) : List Char := t.text ++ ' ' :: variableText number

def termsOf (first : Nat) (tokens : List Token) : List Term :=
  (tokens.zipIdx first).map fun (t, number) => ⟨t.text, number⟩

def expressionFrom (first : Nat) (tokens : List Token) : List Char :=
  join [' ', '+', ' '] ((tokens.zipIdx first).map fun (t, number) => termText t number)

def expression (tokens : List Token) : List Char := expressionFrom 1 tokens

theorem written_termsOf (first : Nat) (tokens : List Token) :
    Expression.written (termsOf first tokens) = expressionFrom first tokens := by
  rw [Expression.written, termsOf, List.map_map]
  rfl

theorem scannable_termsOf {tokens : List Token} {first : Nat}
    (h : first + tokens.length ≤ numberLimit) : ∀ t ∈ termsOf first tokens, t.Scannable := by
  intro t ht
  obtain ⟨⟨token, number⟩, hmem, rfl⟩ := List.mem_map.mp ht
  have hnumber : number < first + tokens.length := List.snd_lt_add_of_mem_zipIdx hmem
  have hlimit : number < numberLimit := by omega
  exact ⟨token.isCoefficient, hlimit⟩

theorem terms_expression (tokens : List Token) (h : tokens.length < numberLimit)
    {after : List Char} (ha : ∀ c ∈ after.head?, isDigit c = false) (hx : 'x' ∉ after) :
    terms (expression tokens ++ after) = termsOf 1 tokens := by
  rw [expression, ← written_termsOf,
    Expression.terms_written_append (scannable_termsOf (by omega)) ha,
    Expression.terms_of_gap (Expression.gap_of_not_mem hx), List.append_nil]

theorem numbers_termsOf (first : Nat) (tokens : List Token) :
    (termsOf first tokens).map Term.number = List.range' first tokens.length := by
  rw [termsOf, List.map_map, ← List.zipIdx_map_snd first tokens]
  rfl

theorem variableNumbers_expression (tokens : List Token) (h : tokens.length < numberLimit) :
    variableNumbers (expression tokens) = List.range' 1 tokens.length := by
  have hterms : terms (expression tokens ++ []) = termsOf 1 tokens :=
    terms_expression tokens h (by simp) List.not_mem_nil
  rw [List.append_nil] at hterms
  rw [← Expression.numbers_termsAfter .start, ← terms, hterms, numbers_termsOf]

theorem termsOf_one {α : Type} (f : α → Token) (xs : List α) :
    termsOf 1 (xs.map f) = xs.zipIdx.map fun (x, i) => ⟨(f x).text, i + 1⟩ := by
  rw [termsOf, List.zipIdx_succ, List.zipIdx_map, List.map_map, List.map_map]
  rfl

theorem typed_of_digit {c : Char} (h : isDigit c = true) : isTyped c = true := by
  simp [isTyped, isMagnitude, h]

theorem not_mem_variableText {c : Char} (hc : isTyped c = false) (hx : c ≠ 'x')
    (number : Nat) : c ∉ variableText number := by
  intro hm
  rcases List.mem_cons.mp hm with hm | hm
  · exact hx hm
  · rw [typed_of_digit (digits_toDigits number c hm)] at hc
    cases hc

theorem not_mem_expression {c : Char} (hc : isTyped c = false) (h : c ∉ ['x', ' ', '+'])
    (tokens : List Token) : c ∉ expression tokens := by
  simp only [List.mem_cons, List.not_mem_nil, or_false, not_or] at h
  apply Text.not_mem_join (by simp [h])
  intro p hp
  obtain ⟨⟨t, number⟩, -, rfl⟩ := List.mem_map.mp hp
  simp [termText, t.not_mem_text hc, h, not_mem_variableText hc h.1]

theorem variableText_tight (number : Nat) : Tight (variableText number) := by
  refine Text.tight_token (by simp [variableText]) ?_
  intro c hc
  rcases List.mem_cons.mp hc with rfl | hc
  · decide
  · exact not_blank_of_typed (typed_of_digit (digits_toDigits number c hc))

theorem expression_tight {tokens : List Token} (hne : tokens ≠ []) :
    Tight (expression tokens) := by
  refine Tight.join (by simpa using hne) ?_ _
  intro p hp
  obtain ⟨⟨t, number⟩, -, rfl⟩ := List.mem_map.mp hp
  have h := t.tight.append (variableText_tight number) [' ']
  simpa [termText] using h

end Tableaux.Notation
