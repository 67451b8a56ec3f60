import Mathlib.Data.List.NodupEquivFin
import Tableaux.Proofs.Simplex.Run

/-!
# The exchange of the basis along a run

At every pivot the roles of a step describe how the basis is exchanged, so a variable
that leaves or is not involved is zero in the solution of the next step.
-/
namespace Tableaux.Simplex

theorem count_le_one {roles : List Role} {role : Role}
    (h : ∀ i j : Nat, roles[i]? = some role → roles[j]? = some role → i = j) :
    roles.count role ≤ 1 := by
  by_contra hcount
  have hduplicate : List.Duplicate role roles := by
    rw [List.duplicate_iff_two_le_count]
    omega
  obtain ⟨i, j, hij, hi, hj⟩ := List.duplicate_iff_exists_distinct_get.mp hduplicate
  have hsame : (i : Nat) = j := by
    apply h
    · rw [hi, List.getElem?_eq_some_iff]
      exact ⟨i.isLt, rfl⟩
    · rw [hj, List.getElem?_eq_some_iff]
      exact ⟨j.isLt, rfl⟩
  omega

theorem Exchangeable.not_mem_exchanged {basis : List Nat} {p : Pivot} {columns v : Nat}
    (h : Exchangeable basis p columns)
    (hv : (columnRoles basis (some p) columns)[v]? = some .leaving ∨
      (columnRoles basis (some p) columns)[v]? = some .uninvolved) : v ∉ exchanged basis p := by
  intro hmem
  rcases (h.mem_behind_iff v).mpr hmem with hrole | hrole <;>
  · rw [hrole] at hv
    rcases hv with hv | hv <;> cases hv

/-- What leaves or is not involved in one tableau is zero in the solution of the next one. -/
theorem zero_behind_pivot {cost : List String} {tableaus : List Tableau} {k : Nat}
    {first second : Tableau} {p : Pivot} (hfirst : tableaus[k]? = some first)
    (hsecond : tableaus[k + 1]? = some second) (hp : first.pivot = some p)
    (h : Exchangeable first.basis p first.reducedCosts.length)
    (hbasis : ∀ v, v ∈ second.basis ↔ v ∈ exchanged first.basis p) :
    ∃ s t, (retrace cost tableaus).steps[k + 1]? = some s ∧
      (retrace cost tableaus).steps[k + 2]? = some t ∧
      ∀ v < cost.length, s.roles[v]? = some .leaving ∨ s.roles[v]? = some .uninvolved →
        t.x[v]? = some 0 := by
  refine ⟨Step.of (.step k) first cost.length, Step.of (.step (k + 1)) second cost.length,
    ?_, ?_, ?_⟩
  · rw [steps_succ, hfirst]
    rfl
  · rw [steps_succ, hsecond]
    rfl
  · intro v hv hrole
    change (columnRoles first.basis first.pivot _)[v]? = _ ∨
      (columnRoles first.basis first.pivot _)[v]? = _ at hrole
    rw [hp] at hrole
    apply solution_nonbasic hv
    rw [hbasis]
    exact h.not_mem_exchanged hrole

/-- Every column has one role, and at most one enters and one leaves. If the pivot can
exchange the basis, the roles tell the basis before and behind it. In a run whose next
tableau has the basis behind the pivot, whatever leaves or is not involved is zero there. -/
theorem roles_describe_exchange :
    (∀ (basis : List Nat) (pivot : Option Pivot) (columns : Nat),
      (columnRoles basis pivot columns).length = columns ∧
      (columnRoles basis pivot columns).count .entering ≤ 1 ∧
      (columnRoles basis pivot columns).count .leaving ≤ 1) ∧
    (∀ (basis : List Nat) (p : Pivot) (columns : Nat), Exchangeable basis p columns →
      let roles := columnRoles basis (some p) columns
      (∀ j, roles[j]? = some .entering ↔ j = p.column) ∧
      (∀ j, roles[j]? = some .leaving ↔ basis[p.row]? = some j) ∧
      (∀ j, roles[j]? = some .leaving ∨ roles[j]? = some .basisMember ↔ j ∈ basis) ∧
      ∀ j, roles[j]? = some .entering ∨ roles[j]? = some .basisMember ↔ j ∈ exchanged basis p) ∧
    ∀ (cost : List String) (tableaus : List Tableau) (k : Nat) (first second : Tableau)
      (p : Pivot), tableaus[k]? = some first → tableaus[k + 1]? = some second →
      first.pivot = some p → Exchangeable first.basis p first.reducedCosts.length →
      (∀ v, v ∈ second.basis ↔ v ∈ exchanged first.basis p) →
      ∃ s t, (retrace cost tableaus).steps[k + 1]? = some s ∧
        (retrace cost tableaus).steps[k + 2]? = some t ∧
        ∀ v < cost.length, s.roles[v]? = some .leaving ∨ s.roles[v]? = some .uninvolved →
          t.x[v]? = some 0 := by
  refine ⟨fun basis pivot columns => ⟨length_columnRoles basis pivot columns, ?_, ?_⟩,
    fun basis p columns h => ⟨h.entering_iff, h.leaving_iff, h.mem_before_iff,
      h.mem_behind_iff⟩, ?_⟩
  · exact count_le_one fun i j => entering_unique
  · exact count_le_one fun i j => leaving_unique
  · intro cost tableaus k first second p
    exact zero_behind_pivot

def exchangeSample : Tableau where
  basis := [2, 3]
  constraints := [[1, 1, 1, 0], [1, 3, 0, 1]]
  rhs := [4, 6]
  reducedCosts := [⟨-3, 0⟩, ⟨-5, 0⟩, ⟨0, 0⟩, ⟨0, 0⟩]
  objective := BigM.zero
  pivot := some ⟨0, 0⟩

def exchangedSample : Tableau where
  basis := [3, 0]
  constraints := [[0, 2, -1, 1], [1, 1, 1, 0]]
  rhs := [2, 4]
  reducedCosts := [⟨0, 0⟩, ⟨-2, 0⟩, ⟨3, 0⟩, ⟨0, 0⟩]
  objective := ⟨12, 0⟩
  pivot := none

theorem exchangeSample_exchangeable : Exchangeable exchangeSample.basis ⟨0, 0⟩ 4 where
  distinct := by decide
  below := by decide
  row := by decide
  column := by decide
  outside := by decide

/-- Behind that pivot `x3` and `x2`, which stays outside, are zero, whatever the order of the
basis. -/
theorem exchangeSample_is_exchanged :
    Exchangeable exchangeSample.basis ⟨0, 0⟩ 4 ∧
    (∀ j, (columnRoles exchangeSample.basis (some ⟨0, 0⟩) 4)[j]? = some .entering ↔ j = 0) ∧
    ∃ s t, (retrace ["-3", "-5", "0", "0"] [exchangeSample, exchangedSample]).steps[1]? = some s ∧
      (retrace ["-3", "-5", "0", "0"] [exchangeSample, exchangedSample]).steps[2]? = some t ∧
      s.roles[2]? = some .leaving ∧ s.roles[1]? = some .uninvolved ∧
      t.x[2]? = some 0 ∧ t.x[1]? = some 0 := by
  obtain ⟨-, hroles, hrun⟩ := roles_describe_exchange
  refine ⟨exchangeSample_exchangeable, (hroles _ _ _ exchangeSample_exchangeable).1, ?_⟩
  obtain ⟨s, t, hs, ht, hzero⟩ := hrun ["-3", "-5", "0", "0"] [exchangeSample, exchangedSample] 0
    exchangeSample exchangedSample ⟨0, 0⟩ rfl rfl rfl exchangeSample_exchangeable
    (by simp [exchangedSample, exchangeSample, exchanged, or_comm])
  have hleaving : s.roles[2]? = some .leaving := by
    obtain rfl := Option.some.inj hs
    decide
  have huninvolved : s.roles[1]? = some .uninvolved := by
    obtain rfl := Option.some.inj hs
    decide
  exact ⟨s, t, hs, ht, hleaving, huninvolved, hzero 2 (by decide) (.inl hleaving),
    hzero 1 (by decide) (.inr huninvolved)⟩

end Tableaux.Simplex
