import Mathlib.Data.List.Basic
import Tableaux.Copt.Outline

/-!
# Sections of a program in COPT notation

A header places itself and the lines below it, up to the next header. A line whose first
letter is not that of a header word is no header.
-/
namespace Tableaux.Copt

open Text (Line lowercase lowerChar)

theorem outlineBelow_header (part : Part) {line : Line} {header : Header}
    (h : Header.ofLine? line = some header) (rest : List Line) :
    outlineBelow part (line :: rest) =
      ⟨line, some header, header.part⟩ :: outlineBelow header.part rest := by
  simp [outlineBelow, h]

theorem outlineBelow_body (part : Part) {body : List Line}
    (h : ∀ line ∈ body, Header.ofLine? line = none) (rest : List Line) :
    outlineBelow part (body ++ rest) =
      body.map (fun line => ⟨line, none, part⟩) ++ outlineBelow part rest := by
  induction body with
  | nil => rfl
  | cons line body ih =>
    rw [List.cons_append, outlineBelow, h line List.mem_cons_self, Option.map_none,
      Option.getD_none, ih fun l hl => h l (List.mem_cons_of_mem _ hl), List.map_cons,
      List.cons_append]

/-- No header word starts with the character. -/
def Inert (c : Char) : Prop :=
  c ≠ 'Σ' ∧ lowerChar c = [c] ∧ ∀ word ∈ Header.words, word.1.head?.any (· != c) = true

instance (c : Char) : Decidable (Inert c) := inferInstanceAs (Decidable (_ ∧ _ ∧ _))

theorem header_of_inert {c : Char} (h : Inert c) (number : Nat) (rest : List Char) :
    Header.ofLine? ⟨number, c :: rest⟩ = none := by
  obtain ⟨hsigma, hlower, hwords⟩ := h
  have hline : ∃ below, lowercase (c :: rest) = c :: below := by
    rw [lowercase, Text.lowerAfter, if_neg hsigma, hlower]
    exact ⟨_, rfl⟩
  obtain ⟨below, hbelow⟩ := hline
  simp only [Header.ofLine?, Option.map_eq_none_iff, List.find?_eq_none]
  rintro ⟨word, header⟩ hword
  have hfirst := hwords _ hword
  rw [hbelow]
  cases word with
  | nil => cases hfirst
  | cons d word =>
    have hd : (d == c) = false := by simpa using hfirst
    simp [List.isPrefixOf, hd]

end Tableaux.Copt
