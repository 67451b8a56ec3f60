import Tableaux.Proofs.Row
import Tableaux.Proofs.Simplex.Role
import Tableaux.Simplex.Run

/-!
# Steps of a run

Behind the tableau before the costs are reduced there is one step for each tableau, in
order, and every step has the solution of its tableau as a point of the path.
-/
namespace Tableaux.Simplex

theorem length_retrace (cost : List String) (tableaus : List Tableau) :
    (retrace cost tableaus).steps.length =
      if tableaus = [] then 0 else tableaus.length + 1 := by
  cases tableaus with
  | nil => rfl
  | cons first rest => simp [retrace]

theorem steps_zero (cost : List String) (first : Tableau) (rest : List Tableau) :
    (retrace cost (first :: rest)).steps[0]?
      = some (Step.of .initial (first.unreduced cost) cost.length) := rfl

theorem steps_succ (cost : List String) (tableaus : List Tableau) (k : Nat) :
    (retrace cost tableaus).steps[k + 1]?
      = tableaus[k]?.map fun t => Step.of (.step k) t cost.length := by
  cases tableaus with
  | nil => rfl
  | cons first rest =>
    change (List.mapIdx _ (first :: rest))[k]? = _
    rw [List.getElem?_mapIdx]

theorem solution_of_step {cost : List String} {tableaus : List Tableau} {k : Nat} {s : Step}
    (h : (retrace cost tableaus).steps[k]? = some s) :
    s.x = s.tableau.solution cost.length := by
  cases k with
  | zero =>
    cases tableaus with
    | nil => cases h
    | cons first rest =>
      rw [steps_zero] at h
      cases h
      rfl
  | succ k =>
    rw [steps_succ] at h
    obtain ⟨t, -, rfl⟩ := Option.map_eq_some_iff.mp h
    rfl

theorem length_path (r : Run) : r.path.length = r.steps.length := List.length_map _

theorem path_of_step {r : Run} {k : Nat} {s : Step} (h : r.steps[k]? = some s) :
    r.path[k]? = some s.x := by
  rw [Run.path, List.getElem?_map, h]
  rfl

theorem trajectory_retrace (cost : List String) (tableaus : List Tableau) :
    (retrace cost tableaus).trajectory = tableaus.map (·.solution cost.length) := by
  apply List.ext_getElem?
  intro k
  rw [Run.trajectory, List.getElem?_drop, Nat.add_comm, Run.path, List.getElem?_map, steps_succ,
    List.getElem?_map, Option.map_map]
  rfl

theorem length_solution (t : Tableau) (width : Nat) : (t.solution width).length = width :=
  length_row _ _ _

/-- A variable has the right-hand side of the last row in which it is basic, or else zero. -/
theorem getElem_solution (t : Tableau) {width v : Nat} (hv : v < width) :
    (t.solution width)[v]? = some ((lastGiven? (t.basis.zip t.rhs) v).getD 0) := by
  rw [Tableau.solution, getElem_row, if_pos hv]

/-- The values of the variables: a basic one has the right-hand side of the last of its rows,
and every other one is zero. -/
structure Tableau.Solves (t : Tableau) (width : Nat) (x : List Float) : Prop where
  length : x.length = width
  basic : ∀ row v value, v < width → t.basis[row]? = some v → t.rhs[row]? = some value →
    (∀ later, row < later → later < t.rhs.length → t.basis[later]? ≠ some v) → x[v]? = some value
  nonbasic : ∀ v < width, (∀ row < t.rhs.length, t.basis[row]? ≠ some v) → x[v]? = some 0

theorem solution_solves (t : Tableau) (width : Nat) : t.Solves width (t.solution width) where
  length := length_solution t width
  basic := by
    intro row v value hv hbasis hrhs hlast
    rw [getElem_solution t hv]
    have hentry : (t.basis.zip t.rhs)[row]? = some (v, value) :=
      List.getElem?_zip_eq_some.mpr ⟨hbasis, hrhs⟩
    rw [lastGiven_of_last hentry]
    · rfl
    · rintro later ⟨w, other⟩ hlater he rfl
      obtain ⟨hw, hother⟩ := List.getElem?_zip_eq_some.mp he
      exact hlast later hlater (List.getElem?_eq_some_iff.mp hother).1 hw
  nonbasic := by
    intro v hv hnone
    rw [getElem_solution t hv]
    cases hl : lastGiven? (t.basis.zip t.rhs) v with
    | none => rfl
    | some value =>
      obtain ⟨row, hrow⟩ := List.mem_iff_getElem?.mp (mem_of_lastGiven hl)
      obtain ⟨hw, hvalue⟩ := List.getElem?_zip_eq_some.mp hrow
      exact absurd hw (hnone row (List.getElem?_eq_some_iff.mp hvalue).1)

theorem solution_nonbasic {t : Tableau} {width v : Nat} (hv : v < width) (h : v ∉ t.basis) :
    (t.solution width)[v]? = some 0 :=
  (solution_solves t width).nonbasic v hv fun _ _ hbasis => h (List.mem_of_getElem? hbasis)

theorem analyse_pivot_iff (label : Label) (t : Tableau) (entering leaving : Nat) :
    analyse label t = .pivot entering leaving ↔
      ∃ row, t.pivot = some ⟨row, entering⟩ ∧ t.basis[row]? = some leaving := by
  unfold analyse
  cases he : Exchange.of? t.basis t.pivot with
  | none =>
    have hnone : ¬ ∃ row, t.pivot = some ⟨row, entering⟩ ∧ t.basis[row]? = some leaving := by
      rintro ⟨row, hp, hl⟩
      have hsome : Exchange.of? t.basis t.pivot = some ⟨row, entering, leaving⟩ :=
        exchange_of_some.mpr ⟨⟨row, entering⟩, hp, hl, rfl, rfl⟩
      rw [he] at hsome
      cases hsome
    cases label <;> simpa using hnone
  | some e =>
    obtain ⟨p, hp, hl, hrow, hentering⟩ := exchange_of_some.mp he
    simp only [Analysis.pivot.injEq]
    constructor
    · rintro ⟨rfl, rfl⟩
      refine ⟨p.row, ?_, hl⟩
      rw [hp, hentering]
    · rintro ⟨row, hp', hl'⟩
      obtain rfl : p = ⟨row, entering⟩ := Option.some.inj (hp.symm.trans hp')
      exact ⟨hentering, Option.some.inj (hl.symm.trans hl')⟩

theorem exchange_none_iff (basis : List Nat) (pivot : Option Pivot) :
    Exchange.of? basis pivot = none ↔ ∀ p ∈ pivot, basis.length ≤ p.row := by
  cases pivot with
  | none => simp [Exchange.of?]
  | some p => simp [Exchange.of?]

theorem analyse_optimal_iff (index : Nat) (t : Tableau) :
    analyse (.step index) t = .optimal ↔ ∀ p ∈ t.pivot, t.basis.length ≤ p.row := by
  rw [← exchange_none_iff]
  unfold analyse
  cases Exchange.of? t.basis t.pivot <;> simp

end Tableaux.Simplex
