import Tableaux.Proofs.Simplex.Run
import Tableaux.Solver.Response

/-!
# Responses retraced

A response is a reported error, or empty, or a list of tableaus. The run retraced from
those has an opening step, made from the costs of the program, and behind it a step for
each of the tableaus.
-/
namespace Tableaux.Solver

open Simplex (Analysis Pivot Run Step retrace)

def Response.Silent (r : Response) : Prop := ∀ message, r.error = some message → message = ""

theorem tableaus_of_silent {r : Response} (h : r.Silent) :
    r.tableaus = match r.steps with
      | some reports => .ok (reports.map Report.tableau)
      | none => .error .noSteps := by
  obtain ⟨steps, error⟩ := r
  cases error with
  | none => cases steps <;> rfl
  | some message =>
    obtain rfl := h message rfl
    cases steps <;> rfl

theorem tableaus_of_reported {r : Response} {message : String} (h : r.error = some message)
    (hne : message ≠ "") : r.tableaus = .error (.reported message) := by
  obtain ⟨steps, error⟩ := r
  obtain rfl : error = some message := h
  simp [Response.tableaus, hne]

theorem silent_or_reported (r : Response) :
    r.Silent ∨ ∃ message, r.error = some message ∧ message ≠ "" := by
  by_cases h : r.Silent
  · exact Or.inl h
  · simpa [Response.Silent] using Or.inr h

theorem tableaus_reported_iff (r : Response) (message : String) :
    r.tableaus = .error (.reported message) ↔ r.error = some message ∧ message ≠ "" := by
  constructor
  · intro h
    rcases silent_or_reported r with hs | ⟨other, he, hne⟩
    · rw [tableaus_of_silent hs] at h
      cases hsteps : r.steps <;> rw [hsteps] at h <;> cases h
    · rw [tableaus_of_reported he hne] at h
      cases h
      exact ⟨he, hne⟩
  · rintro ⟨he, hne⟩
    exact tableaus_of_reported he hne

theorem tableaus_noSteps_iff (r : Response) :
    r.tableaus = .error .noSteps ↔ r.Silent ∧ r.steps = none := by
  constructor
  · intro h
    rcases silent_or_reported r with hs | ⟨message, he, hne⟩
    · rw [tableaus_of_silent hs] at h
      cases hsteps : r.steps with
      | none => exact ⟨hs, rfl⟩
      | some reports => rw [hsteps] at h; cases h
    · rw [tableaus_of_reported he hne] at h
      cases h
  · rintro ⟨hs, hsteps⟩
    rw [tableaus_of_silent hs, hsteps]

theorem pivot_some_iff (r : Report) (p : Pivot) :
    r.pivot? = some p ↔
      (p.row : Int) = r.pivotRow.toInt ∧ (p.column : Int) = r.pivotColumn.toInt := by
  obtain ⟨row, column⟩ := p
  have hpos : ∀ n : Int64, 0 ≤ n ↔ 0 ≤ n.toInt := fun n => Int64.le_iff_toInt_le
  simp only [Report.pivot?, hpos, Int64.toNatClampNeg]
  split
  · simp only [Option.some.injEq, Pivot.mk.injEq]
    omega
  · simp only [reduceCtorEq, false_iff]
    omega

theorem costs_iff (r : Report) (j : Nat) (c : BigM) :
    r.tableau.reducedCosts[j]? = some c ↔
      r.realCosts[j]? = some c.real ∧ r.mCosts[j]? = some c.m := by
  obtain ⟨real, m⟩ := c
  simp only [Report.tableau, List.getElem?_zipWith_eq_some, BigM.mk.injEq]
  constructor
  · rintro ⟨x, y, hx, hy, rfl, rfl⟩
    exact ⟨hx, hy⟩
  · rintro ⟨hx, hy⟩
    exact ⟨real, m, hx, hy, rfl, rfl⟩

/-- The step before the costs are reduced. -/
structure Opens (cost : List String) (first : Report) (s : Step) : Prop where
  label : s.label = .initial
  basis : s.tableau.basis = first.basis.map UInt64.toNat
  constraints : s.tableau.constraints = first.constraints
  rhs : s.tableau.rhs = first.rhs
  costs : s.tableau.reducedCosts = cost.map BigM.ofTerm
  objective : s.tableau.objective = ⟨0, 0⟩
  pivot : s.tableau.pivot = none
  roles : s.roles = List.replicate cost.length .uninvolved
  analysis : s.analysis = .initialized

/-- The step of a report. It pivots if the report has a pivot in a row of the basis, and is
optimal if not. -/
structure Shows (index : Nat) (r : Report) (s : Step) : Prop where
  label : s.label = .step index
  basis : s.tableau.basis = r.basis.map UInt64.toNat
  constraints : s.tableau.constraints = r.constraints
  rhs : s.tableau.rhs = r.rhs
  objective : s.tableau.objective = ⟨r.realObjective, r.mObjective⟩
  costs : ∀ (j : Nat) (c : BigM), s.tableau.reducedCosts[j]? = some c ↔
    r.realCosts[j]? = some c.real ∧ r.mCosts[j]? = some c.m
  pivots : (∃ p, s.tableau.pivot = some p) ↔ 0 ≤ r.pivotRow ∧ 0 ≤ r.pivotColumn
  pivot : ∀ p, s.tableau.pivot = some p →
    (p.row : Int) = r.pivotRow.toInt ∧ (p.column : Int) = r.pivotColumn.toInt
  exchange : ∀ entering leaving, s.analysis = .pivot entering leaving ↔
    ∃ row, s.tableau.pivot = some ⟨row, entering⟩ ∧
      (r.basis.map UInt64.toNat)[row]? = some leaving
  optimal : s.analysis = .optimal ↔
    ¬ ∃ p, s.tableau.pivot = some p ∧ p.row < r.basis.length

/-- The steps of a run are the opening one and those of the reports, and its path has the
values of the variables in each of them. -/
structure Retraces (cost : List String) (reports : List Report) (run : Run) : Prop where
  count : run.steps.length = if reports = [] then 0 else reports.length + 1
  opening : ∀ first, reports[0]? = some first → ∃ s, run.steps[0]? = some s ∧ Opens cost first s
  shown : ∀ (k : Nat) (r : Report), reports[k]? = some r → ∃ s, run.steps[k + 1]? = some s ∧ Shows k r s
  points : run.path.length = run.steps.length
  point : ∀ (k : Nat) (s : Step), run.steps[k]? = some s →
    run.path[k]? = some s.x ∧ s.tableau.Solves cost.length s.x

theorem opens_unreduced (cost : List String) (first : Report) :
    Opens cost first (Step.of .initial (first.tableau.unreduced cost) cost.length) where
  label := rfl
  basis := rfl
  constraints := rfl
  rhs := rfl
  costs := rfl
  objective := rfl
  pivot := rfl
  roles := by
    change Simplex.columnRoles first.tableau.basis none (cost.map BigM.ofTerm).length = _
    rw [List.length_map]
    exact Simplex.columnRoles_none rfl cost.length
  analysis := rfl

theorem shows_report (index : Nat) (r : Report) (width : Nat) :
    Shows index r (Step.of (.step index) r.tableau width) where
  label := rfl
  basis := rfl
  constraints := rfl
  rhs := rfl
  objective := rfl
  costs := costs_iff r
  pivots := by
    change (∃ p, r.pivot? = some p) ↔ _
    simp [Report.pivot?]
  pivot := fun p hp => (pivot_some_iff r p).mp hp
  exchange := Simplex.analyse_pivot_iff _ r.tableau
  optimal := by
    have hlength : r.tableau.basis.length = r.basis.length := List.length_map _
    rw [← hlength]
    change Simplex.analyse (.step index) r.tableau = .optimal ↔
      ¬ ∃ p, r.tableau.pivot = some p ∧ p.row < r.tableau.basis.length
    rw [Simplex.analyse_optimal_iff]
    simp

theorem retraces_reports (cost : List String) (reports : List Report) :
    Retraces cost reports (retrace cost (reports.map Report.tableau)) where
  count := by
    simp only [Simplex.length_retrace, List.length_map, List.map_eq_nil_iff]
  opening := by
    intro first hfirst
    cases reports with
    | nil => cases hfirst
    | cons head rest =>
      obtain rfl := Option.some.inj hfirst
      exact ⟨_, Simplex.steps_zero cost _ _, opens_unreduced cost head⟩
  shown := by
    intro k r hr
    refine ⟨_, ?_, shows_report k r cost.length⟩
    rw [Simplex.steps_succ, List.getElem?_map, hr]
    rfl
  points := Simplex.length_path _
  point := by
    intro k s hs
    refine ⟨Simplex.path_of_step hs, ?_⟩
    rw [Simplex.solution_of_step hs]
    exact Simplex.solution_solves s.tableau cost.length

/-- A response fails with the error it reports, if that has a text, and otherwise only
if it has no steps. In every other case the run is retraced from all of them. -/
theorem response_is_retraced (cost : List String) (r : Response) :
    (∀ message, r.tableaus = .error (.reported message) ↔
      r.error = some message ∧ message ≠ "") ∧
    (r.tableaus = .error .noSteps ↔ r.Silent ∧ r.steps = none) ∧
    ∀ reports, r.Silent → r.steps = some reports →
      ∃ tableaus, r.tableaus = .ok tableaus ∧
        Retraces cost reports (retrace cost tableaus) := by
  refine ⟨tableaus_reported_iff r, tableaus_noSteps_iff r, ?_⟩
  intro reports hs hsteps
  refine ⟨reports.map Report.tableau, ?_, retraces_reports cost reports⟩
  rw [tableaus_of_silent hs, hsteps]

def retraceSample : Response :=
  ⟨some [⟨[2, 3], [[1, 1, 1, 0], [1, 3, 0, 1]], [4, 6], [-3, -5, 0], [0, 0, 0, 0], 0, 0, 0, 1⟩,
    ⟨[1, 1], [[1, 1, 1, 0]], [4, 6, 8], [], [], 12, 0, -1, 0⟩], some ""⟩

theorem retraceSample_is_retraced :
    retraceSample.Silent ∧ ∃ tableaus, retraceSample.tableaus = .ok tableaus ∧
      (retrace ["3", "M"] tableaus).steps.length = 3 ∧
      (retrace ["3", "M"] tableaus).path[2]? = some [0, 6] := by
  have hs : retraceSample.Silent := by
    rintro message ⟨⟩
    rfl
  obtain ⟨-, -, hsteps⟩ := response_is_retraced ["3", "M"] retraceSample
  obtain ⟨tableaus, ht, h⟩ := hsteps _ hs rfl
  refine ⟨hs, tableaus, ht, h.count, ?_⟩
  obtain ⟨s, hk, -⟩ := h.shown 1 _ rfl
  rw [(h.point 2 s hk).1]
  obtain rfl := Except.ok.inj ht
  obtain rfl := Option.some.inj hk
  decide +kernel

end Tableaux.Solver
