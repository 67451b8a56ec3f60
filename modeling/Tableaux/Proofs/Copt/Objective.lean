import Tableaux.Proofs.Copt.Entry
import Tableaux.Proofs.Expression.Joined

/-!
# The lines of the objective

If each line of the objective is closed, its terms are not mixed up with those of the next one:
the costs are those that one gets by going through the lines one by one.
-/
namespace Tableaux.Copt

open Expression (Closed terms)
open Text (join lines)

/-- The costs behind an expression, each term of which replaces the cost of its variable. -/
def replaceCosts (cost : List String) (expression : List Char) : List String :=
  (terms expression).foldl (fun cost t => match t.column? with
    | some column => cost.set column (String.ofList t.coefficient)
    | none => cost) cost

def costsOf (width : Nat) (expressions : List (List Char)) : List String :=
  expressions.foldl replaceCosts (List.replicate width "0")

def objectiveExpressions (text : List Char) : List (List Char) :=
  (objectiveLines (lines text)).map fun line => afterLabel line.text

theorem costRow_foldl (width : Nat) (expression : List Char) :
    costRow width expression = replaceCosts (List.replicate width "0") expression := by
  rw [costRow, costEntries, row_foldl, List.foldl_filterMap, replaceCosts]
  congr 1
  funext cost t
  cases t.column? <;> rfl

theorem costRow_join {expressions : List (List Char)} (width : Nat)
    (h : ∀ e ∈ expressions.dropLast, Closed e) :
    costRow width (join [' '] expressions) = costsOf width expressions := by
  rw [costRow_foldl, replaceCosts, Expression.terms_join h, List.foldl_flatMap]
  rfl

/-- Joined by blanks, closed expressions have the terms of the single ones, in order. So if all
lines of the objective but the last one are closed, going through them one by one gives the
costs. -/
theorem objective_lines_do_not_fuse :
    (∀ expressions : List (List Char), (∀ e ∈ expressions.dropLast, Closed e) →
      terms (join [' '] expressions) = expressions.flatMap terms) ∧
    ∀ (leniency : Leniency) (text : List Char) (p : Program),
      (read leniency text).outcome = .ok p →
      (∀ e ∈ (objectiveExpressions text).dropLast, Closed e) →
      p.cost = costsOf p.cost.length (objectiveExpressions text) := by
  refine ⟨fun expressions h => Expression.terms_join h, ?_⟩
  intro leniency text p hp hclosed
  rcases read_cases leniency text with ⟨width, -, -, -, hr⟩ | ⟨width, -, -, hr⟩ | ⟨-, hr⟩
  · rw [hr] at hp
    obtain ⟨read, -, hcost, -, -, -⟩ := readBody_ok hp
    rw [outline, objectiveFragments_lines, ← objectiveExpressions,
      costRow_join width hclosed] at hcost
    have hlength : p.cost.length = width := by
      rw [hcost, ← costRow_join width hclosed]
      exact length_row _ _ _
    rw [hlength]
    exact hcost
  · rw [hr] at hp
    cases hp
  · rw [hr] at hp
    cases hp

/-- An objective over several lines and sections. A line is blank behind its label, one starts with
a sign, and one ends with a plus sign; the last one may end as it likes. -/
def wrappedText : List Char :=
  "Minimize\n obj: 2 x1 + x2\n\n- 3 x1 <\nrest:\nmax: 4 x2 +\n5 x3 - M\nsubject to\nend".toList

theorem wrappedText_expressions :
    objectiveExpressions wrappedText =
      ["Minimize", " 2 x1 + x2", "- 3 x1 <", "", " 4 x2 +", "5 x3 - M"].map String.toList := by
  decide +kernel

theorem wrappedText_closed : ∀ e ∈ (objectiveExpressions wrappedText).dropLast, Closed e := by
  rw [wrappedText_expressions]
  intro e he
  have hparts : e ∈ ["Minimize", " 2 x1 + x2", "- 3 x1 <", "", " 4 x2 +"].map String.toList := he
  simp only [List.map_cons, List.map_nil, List.mem_cons, List.not_mem_nil, or_false] at hparts
  rcases hparts with rfl | rfl | rfl | rfl | rfl
  · exact .other "Minimiz".toList 'e' [] (by decide) (by decide) (by decide) (by simp)
  · exact .number " 2 x1 + ".toList ['2'] [] (by decide) (by simp; decide) (by simp)
  · exact .other "- 3 x1 ".toList '<' [] (by decide) (by decide) (by decide) (by simp)
  · exact .blank [] (by simp)
  · exact .other " 4 x2 ".toList '+' [] (by decide) (by decide) (by decide) (by simp)

theorem wrappedText_accepted :
    (read .lenient wrappedText).outcome.map (·.cost.length) = .ok 3 := by
  decide +kernel

theorem wrappedText_costs :
    (∀ e ∈ (objectiveExpressions wrappedText).dropLast, Closed e) ∧
    terms (join [' '] (objectiveExpressions wrappedText)) =
      [⟨['2'], 1⟩, ⟨['1'], 2⟩, ⟨['-', '3'], 1⟩, ⟨['4'], 2⟩, ⟨['5'], 3⟩] ∧
    ∃ p, (read .lenient wrappedText).outcome = .ok p ∧ p.cost = ["-3", "4", "5"] := by
  obtain ⟨hterms, hcosts⟩ := objective_lines_do_not_fuse
  refine ⟨wrappedText_closed, ?_, ?_⟩
  · rw [hterms _ wrappedText_closed]
    decide +kernel
  · have haccepted := wrappedText_accepted
    cases hp : (read .lenient wrappedText).outcome with
    | error e => rw [hp] at haccepted; cases haccepted
    | ok p =>
      rw [hp] at haccepted
      have hlength : p.cost.length = 3 := Except.ok.inj haccepted
      refine ⟨p, rfl, ?_⟩
      rw [hcosts .lenient wrappedText p hp wrappedText_closed, hlength]
      decide +kernel

end Tableaux.Copt
