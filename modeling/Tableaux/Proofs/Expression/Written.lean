import Tableaux.Proofs.Expression.Scan

/-!
# Written terms

Terms are written as sums: each coefficient in front of its variable, and plus signs between the
terms. The scan gives the terms back, also if a coefficient has a minus sign behind the plus sign.
-/
namespace Tableaux.Expression

open Decimal (digits_toDigits isDigit)
open Text (join)

theorem variableNumber_toDigits {number : Nat} (h : number < numberLimit) :
    variableNumber? (Nat.toDigits 10 number) = some number :=
  variableNumber_eq_some.mpr ⟨Nat.toDigits_ne_nil, Nat.ofDigitChars_ten_toDigits, h⟩

theorem numbered_toDigits (number : Nat) {rest : List Char}
    (h : ∀ c ∈ rest.head?, isDigit c = false) : Numbered (Nat.toDigits 10 number) rest :=
  ⟨Nat.toDigits_ne_nil, digits_toDigits number, h⟩

theorem IsCoefficient.not_mem_x {text : List Char} (h : IsCoefficient text) : 'x' ∉ text := by
  obtain ⟨sign, magnitude, rfl, hsign, -, htyped⟩ := h
  intro hx
  rcases List.mem_append.mp hx with hx | hx
  · rcases hsign with rfl | rfl <;> exact absurd hx (by decide)
  · exact absurd (htyped 'x' hx) (by decide)

theorem IsCoefficient.readBackwards_eq {text : List Char} (h : IsCoefficient text) :
    readBackwards (text ++ [' ']) = text := by
  obtain ⟨sign, magnitude, rfl, hsign, hfilled, htyped⟩ := h
  have hlead : Lead [] sign [] magnitude [' '] := by
    refine ⟨?_, by simp, htyped, ?_, by simp⟩
    · rcases hsign with rfl | rfl
      · exact Or.inl rfl
      · exact Or.inr (Or.inr rfl)
    · intro c hc
      obtain rfl := List.mem_singleton.mp hc
      decide
  have hread := hlead.readBackwards_eq
  rw [if_neg hfilled, List.nil_append, List.append_nil] at hread
  rw [hread]
  rcases hsign with rfl | rfl <;> rfl

def writtenTerm (t : Term) : List Char := t.coefficient ++ ' ' :: 'x' :: Nat.toDigits 10 t.number

def written (ts : List Term) : List Char := join [' ', '+', ' '] (ts.map writtenTerm)

variable {rest : List Char}

theorem terms_writtenTerm {t : Term} (h : t.Scannable)
    (hrest : ∀ c ∈ rest.head?, isDigit c = false) :
    terms (writtenTerm t ++ rest) = t :: terms rest := by
  have hsplit : writtenTerm t ++ rest =
      (t.coefficient ++ [' ']) ++ 'x' :: Nat.toDigits 10 t.number ++ rest := by
    simp [writtenTerm]
  have hgap : Gap (t.coefficient ++ [' ']) := gap_of_not_mem (by simp [h.1.not_mem_x])
  rw [hsplit, terms_cut hgap (numbered_toDigits t.number hrest), termOf?,
    variableNumber_toDigits h.2, h.1.readBackwards_eq]
  rfl

/-- Behind the plus sign the scan is where it started, so a minus sign may follow. -/
theorem terms_plus (text : List Char) : terms ([' ', '+', ' '] ++ text) = terms text :=
  termsAfter_skip (by decide) .start text

theorem terms_written_append {ts : List Term} (h : ∀ t ∈ ts, t.Scannable)
    (hrest : ∀ c ∈ rest.head?, isDigit c = false) :
    terms (written ts ++ rest) = ts ++ terms rest := by
  induction ts with
  | nil => rfl
  | cons t others ih =>
    have ht : t.Scannable := h t List.mem_cons_self
    have hothers := ih fun u hu => h u (List.mem_cons_of_mem _ hu)
    by_cases hne : others = []
    · subst others
      exact terms_writtenTerm ht hrest
    · have hplus : ∀ c ∈ ([' ', '+', ' '] ++ (written others ++ rest)).head?, isDigit c = false :=
        head_not_digit (by decide) _
      have hsplit : written (t :: others) ++ rest =
          writtenTerm t ++ ([' ', '+', ' '] ++ (written others ++ rest)) := by
        rw [written, List.map_cons, Text.join_cons (by simpa using hne)]
        simp [written]
      rw [hsplit, terms_writtenTerm ht hplus, terms_plus, hothers, List.cons_append]

theorem terms_written {ts : List Term} (h : ∀ t ∈ ts, t.Scannable) : terms (written ts) = ts := by
  have hnil : ∀ c ∈ ([] : List Char).head?, isDigit c = false := by simp
  have hall := terms_written_append h hnil
  rwa [List.append_nil, terms_of_gap gap_nil, List.append_nil] at hall

/-- Scanning undoes writing, for terms that a scan can find and hence for those it has found. -/
theorem scanning_undoes_writing :
    (∀ ts : List Term, (∀ t ∈ ts, t.Scannable) → terms (written ts) = ts) ∧
    ∀ text : List Char, terms (written (terms text)) = terms text :=
  ⟨fun _ h => terms_written h, fun _ => terms_written fun _ ht => scannable_of_mem ht⟩

def signedTerms : List Term :=
  [⟨['2'], 1⟩, ⟨"-2.5M".toList, 0⟩, ⟨['-', '.'], 18446744073709551615⟩]

theorem signedTerms_scanned :
    (∀ t ∈ signedTerms, t.Scannable) ∧
    written signedTerms = "2 x1 + -2.5M x0 + -. x18446744073709551615".toList ∧
    terms (written signedTerms) = signedTerms := by
  have hscannable : ∀ t ∈ signedTerms, t.Scannable := by decide +kernel
  exact ⟨hscannable, by decide +kernel, scanning_undoes_writing.1 signedTerms hscannable⟩

end Tableaux.Expression
