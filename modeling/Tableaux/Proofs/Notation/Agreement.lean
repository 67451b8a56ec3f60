import Tableaux.Proofs.Notation.Cells
import Tableaux.Proofs.Notation.Copt
import Tableaux.Proofs.Notation.Standardized
import Tableaux.Storage.Import

/-!
# Agreement of the notations

A sheet gives the same program in every notation. Both texts are read as its program,
and the grid of its cells as the same program with zero added to all numbers, which no
comparison can tell apart.
-/
namespace Tableaux.Notation

/-- Numerals stand for their values, up to the sign of zero. -/
def Faithful (number : Numeral → Float) : Prop := ∀ n, number n = n.value ∨ number n = n.value + 0

theorem value_faithful : Faithful Numeral.value := fun _ => Or.inl rfl

theorem cell_faithful : Faithful fun n => n.value + 0 := fun _ => Or.inr rfl

theorem Faithful.beq {f g : Numeral → Float} (hf : Faithful f) (hg : Faithful g) (n : Numeral) :
    (f n == g n) = true := by
  obtain ⟨hsum, hvalue⟩ := Decimal.add_zero_beq n.finite
  rcases hf n with hf | hf <;> rcases hg n with hg | hg <;> rw [hf, hg]
  · exact Decimal.beq_self_of_finite n.finite
  · exact hvalue
  · exact hsum
  · exact Decimal.beq_self_of_finite (Decimal.add_zero_finite n.finite)

/-- In all three notations a sheet is read, strictly and leniently where there is a choice.
The programs are equal, their cost terms are the tokens of the sheet, and their numbers are
the values of its numerals. -/
theorem notations_agree (s : Sheet) :
    ∃ p q g : Program,
      (∀ leniency,
        (Format.standardized.read leniency (String.ofList s.standardized)).outcome = .ok p) ∧
      (∀ leniency, (Format.copt.read leniency (String.ofList s.copt)).outcome = .ok q) ∧
      Grid.read (s.cost.map Token.cell) (s.rows.map (·.map fun n => n.cell))
        (s.rhs.map fun n => n.cell) s.direction .bland = .ok g ∧
      (∀ a ∈ [p, q, g], ∀ b ∈ [p, q, g], (a == b) = true) ∧
      (∀ a ∈ [p, q, g], a.cost = s.cost.map Token.cell) ∧
      p.constraints = s.rows.map (·.map Numeral.value) ∧ p.rhs = s.rhs.map Numeral.value ∧
      p.direction = s.direction ∧ p.pivotRule = .bland := by
  have hread : ∀ a ∈ [s.program Numeral.value, s.program Numeral.value,
      s.program fun n => n.value + 0], ∃ f, Faithful f ∧ a = s.program f := by
    intro a ha
    simp only [List.mem_cons, List.not_mem_nil, or_false] at ha
    rcases ha with rfl | rfl | rfl
    · exact ⟨_, value_faithful, rfl⟩
    · exact ⟨_, value_faithful, rfl⟩
    · exact ⟨_, cell_faithful, rfl⟩
  refine ⟨s.program Numeral.value, s.program Numeral.value, s.program fun n => n.value + 0,
    ?_, ?_, read_cells s, ?_, ?_, rfl, rfl, rfl, rfl⟩
  · intro leniency
    rw [Format.read, String.toList_ofList]
    exact read_standardized leniency s
  · intro leniency
    rw [Format.read, String.toList_ofList]
    exact read_copt leniency s
  · intro a ha b hb
    obtain ⟨f, hf, rfl⟩ := hread a ha
    obtain ⟨g, hg, rfl⟩ := hread b hb
    exact s.program_beq (hf.beq hg)
  · intro a ha
    obtain ⟨f, -, rfl⟩ := hread a ha
    rfl

def half : Numeral where
  negative := false
  magnitude := ['.', '5']
  filled := by decide
  typed := List.all_eq_true.mp (by decide)
  plain := .point [] ['5'] (by decide) (List.forall_mem_nil _) (List.all_eq_true.mp (by decide))
  value := 0.5
  reads := by rfl
  finite := by decide

def negativeZero : Numeral where
  negative := true
  magnitude := ['0']
  filled := by decide
  typed := List.all_eq_true.mp (by decide)
  plain := .whole ['0'] (by decide) (List.all_eq_true.mp (by decide))
  value := -0
  reads := by rfl
  finite := by decide

def smallSheet : Sheet where
  direction := .maximize
  cost := [⟨true, ['2', 'M'], by decide, List.all_eq_true.mp (by decide)⟩, half.toToken]
  rows := [[negativeZero, half], [half, negativeZero]]
  rhs := [half, negativeZero]
  wide := by decide
  limited := by decide
  tall := by decide
  width_eq := by decide
  height_eq := by decide

def smallStandardized : String :=
  "c: -2M, .5\nA: -0, .5; .5, -0\nb: .5, -0\nobj: max\nrule: bland"

def smallCopt : String :=
  "Maximize\nobj: -2M x1 + .5 x2\nSubject To\nc1: -0 x1 + .5 x2 = .5\n" ++
    "c2: .5 x1 + -0 x2 = -0\nEnd"

theorem small_sheet_agrees :
    ∃ p q g : Program,
      (∀ leniency, (Format.standardized.read leniency smallStandardized).outcome = .ok p) ∧
      (∀ leniency, (Format.copt.read leniency smallCopt).outcome = .ok q) ∧
      Grid.read ["-2M", ".5"] [["-0", ".5"], [".5", "-0"]] [".5", "-0"] .maximize .bland = .ok g ∧
      (∀ a ∈ [p, q, g], ∀ b ∈ [p, q, g], (a == b) = true) ∧
      (∀ a ∈ [p, q, g], a.cost = ["-2M", ".5"]) ∧
      p.constraints = [[-0, 0.5], [0.5, -0]] ∧ p.rhs = [0.5, -0] ∧
      p.direction = .maximize ∧ p.pivotRule = .bland := by
  have hstandardized : String.ofList smallSheet.standardized = smallStandardized := by
    decide +kernel
  have hcopt : String.ofList smallSheet.copt = smallCopt := by decide +kernel
  have hagree := notations_agree smallSheet
  rw [hstandardized, hcopt] at hagree
  exact hagree

end Tableaux.Notation
