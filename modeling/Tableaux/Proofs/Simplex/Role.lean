import Mathlib.Data.List.Nodup
import Tableaux.Simplex.Role

/-!
# Roles and the exchange of the basis

The roles of the columns describe the exchange at a pivot: the leaving column and the
staying ones are the basis before it, the entering column and the staying ones are the
basis behind it.
-/
namespace Tableaux.Simplex

theorem staysBasic_iff (basis : List Nat) (row column : Nat) :
    staysBasic basis row column = true ↔ ∃ i, i ≠ row ∧ basis[i]? = some column := by
  simp only [staysBasic, List.any_eq_true, Prod.exists, List.mem_zipIdx_iff_getElem?,
    Bool.and_eq_true, bne_iff_ne, beq_iff_eq]
  constructor
  · rintro ⟨member, i, hi, hrow, rfl⟩
    exact ⟨i, hrow, hi⟩
  · rintro ⟨i, hrow, hi⟩
    exact ⟨column, i, hi, hrow, rfl⟩

theorem role_entering_iff (e : Exchange) (basis : List Nat) (column : Nat) :
    e.role basis column = .entering ↔ column = e.entering := by
  unfold Exchange.role
  grind

theorem role_leaving_iff (e : Exchange) (basis : List Nat) (column : Nat) :
    e.role basis column = .leaving ↔ column ≠ e.entering ∧ column = e.leaving := by
  unfold Exchange.role
  grind

theorem role_basisMember_iff (e : Exchange) (basis : List Nat) (column : Nat) :
    e.role basis column = .basisMember ↔
      column ≠ e.entering ∧ column ≠ e.leaving ∧ ∃ i, i ≠ e.row ∧ basis[i]? = some column := by
  rw [← staysBasic_iff]
  unfold Exchange.role
  grind

theorem exchange_of_some {basis : List Nat} {pivot : Option Pivot} {e : Exchange} :
    Exchange.of? basis pivot = some e ↔
      ∃ p, pivot = some p ∧ basis[p.row]? = some e.leaving ∧ e.row = p.row ∧
        e.entering = p.column := by
  cases pivot with
  | none => simp [Exchange.of?]
  | some p =>
    simp only [Exchange.of?, Option.map_eq_some_iff, Option.some.injEq, exists_eq_left']
    constructor
    · rintro ⟨leaving, hl, rfl⟩
      exact ⟨hl, rfl, rfl⟩
    · rintro ⟨hl, hrow, hcolumn⟩
      exact ⟨e.leaving, hl, by cases e; simp_all⟩

theorem length_columnRoles (basis : List Nat) (pivot : Option Pivot) (columns : Nat) :
    (columnRoles basis pivot columns).length = columns := by
  unfold columnRoles
  split <;> simp

theorem getElem_columnRoles {basis : List Nat} {pivot : Option Pivot} {e : Exchange}
    (h : Exchange.of? basis pivot = some e) (columns j : Nat) :
    (columnRoles basis pivot columns)[j]? =
      if j < columns then some (e.role basis j) else none := by
  unfold columnRoles
  rw [h]
  by_cases hj : j < columns
  · simp [hj]
  · simp [hj]

theorem columnRoles_none {basis : List Nat} {pivot : Option Pivot}
    (h : Exchange.of? basis pivot = none) (columns : Nat) :
    columnRoles basis pivot columns = List.replicate columns .uninvolved := by
  unfold columnRoles
  rw [h]

theorem role_of_getElem {basis : List Nat} {pivot : Option Pivot} {columns j : Nat} {role : Role}
    (h : (columnRoles basis pivot columns)[j]? = some role) (hrole : role ≠ .uninvolved) :
    ∃ e, Exchange.of? basis pivot = some e ∧ e.role basis j = role := by
  cases he : Exchange.of? basis pivot with
  | none =>
    rw [columnRoles_none he, List.getElem?_replicate] at h
    split at h
    · exact absurd (Option.some.inj h).symm hrole
    · cases h
  | some e =>
    rw [getElem_columnRoles he] at h
    split at h
    · exact ⟨e, rfl, Option.some.inj h⟩
    · cases h

theorem entering_unique {basis : List Nat} {pivot : Option Pivot} {columns i j : Nat}
    (hi : (columnRoles basis pivot columns)[i]? = some .entering)
    (hj : (columnRoles basis pivot columns)[j]? = some .entering) : i = j := by
  obtain ⟨e, he, hi⟩ := role_of_getElem hi nofun
  obtain ⟨e', he', hj⟩ := role_of_getElem hj nofun
  obtain rfl : e = e' := Option.some.inj (he.symm.trans he')
  exact ((role_entering_iff e basis i).mp hi).trans ((role_entering_iff e basis j).mp hj).symm

theorem leaving_unique {basis : List Nat} {pivot : Option Pivot} {columns i j : Nat}
    (hi : (columnRoles basis pivot columns)[i]? = some .leaving)
    (hj : (columnRoles basis pivot columns)[j]? = some .leaving) : i = j := by
  obtain ⟨e, he, hi⟩ := role_of_getElem hi nofun
  obtain ⟨e', he', hj⟩ := role_of_getElem hj nofun
  obtain rfl : e = e' := Option.some.inj (he.symm.trans he')
  exact ((role_leaving_iff e basis i).mp hi).2.trans ((role_leaving_iff e basis j).mp hj).2.symm

/-- The basis has different variables, all of them columns, and the pivot exchanges one of
them for a column outside the basis. -/
structure Exchangeable (basis : List Nat) (p : Pivot) (columns : Nat) : Prop where
  distinct : basis.Nodup
  below : ∀ v ∈ basis, v < columns
  row : p.row < basis.length
  column : p.column < columns
  outside : p.column ∉ basis

def exchanged (basis : List Nat) (p : Pivot) : List Nat := basis.set p.row p.column

variable {basis : List Nat} {p : Pivot} {columns : Nat}

theorem Exchangeable.leaves (h : Exchangeable basis p columns) :
    ∃ leaving, basis[p.row]? = some leaving ∧
      Exchange.of? basis (some p) = some ⟨p.row, p.column, leaving⟩ :=
  have hrow := List.getElem?_eq_getElem h.row
  ⟨_, hrow, exchange_of_some.mpr ⟨p, rfl, hrow, rfl, rfl⟩⟩

theorem Exchangeable.row_unique (h : Exchangeable basis p columns) {i v : Nat}
    (hi : basis[i]? = some v) : i = p.row ↔ basis[p.row]? = some v := by
  constructor
  · rintro rfl
    exact hi
  · intro hrow
    have hlength : i < basis.length := (List.getElem?_eq_some_iff.mp hi).1
    exact (List.getElem?_inj hlength h.distinct).mp (hi.trans hrow.symm)

theorem Exchangeable.mem_exchanged (h : Exchangeable basis p columns) (v : Nat) :
    v ∈ exchanged basis p ↔ v = p.column ∨ (v ∈ basis ∧ basis[p.row]? ≠ some v) := by
  simp only [exchanged, List.mem_iff_getElem?, List.getElem?_set]
  constructor
  · rintro ⟨i, hi⟩
    by_cases hrow : p.row = i
    · rw [if_pos hrow, if_pos (hrow ▸ h.row)] at hi
      exact Or.inl (Option.some.inj hi).symm
    · rw [if_neg hrow] at hi
      exact Or.inr ⟨⟨i, hi⟩, fun hv => hrow ((h.row_unique hi).mpr hv).symm⟩
  · rintro (rfl | ⟨⟨i, hi⟩, hv⟩)
    · exact ⟨p.row, by rw [if_pos rfl, if_pos h.row]⟩
    · have hrow : p.row ≠ i := fun e => hv ((h.row_unique hi).mp e.symm)
      exact ⟨i, by rw [if_neg hrow]; exact hi⟩

theorem columnRoles_iff {e : Exchange} (he : Exchange.of? basis (some p) = some e) {role : Role}
    {P : Nat → Prop} (hP : ∀ j, P j → j < columns) (hrole : ∀ j, e.role basis j = role ↔ P j)
    (j : Nat) : (columnRoles basis (some p) columns)[j]? = some role ↔ P j := by
  rw [getElem_columnRoles he]
  by_cases hj : j < columns
  · rw [if_pos hj, Option.some.injEq]
    exact hrole j
  · rw [if_neg hj]
    exact ⟨nofun, fun hp => absurd (hP j hp) hj⟩

theorem Exchangeable.entering_iff (h : Exchangeable basis p columns) (j : Nat) :
    (columnRoles basis (some p) columns)[j]? = some .entering ↔ j = p.column := by
  obtain ⟨leaving, -, he⟩ := h.leaves
  apply columnRoles_iff he
  · rintro j rfl
    exact h.column
  · exact role_entering_iff _ basis

theorem Exchangeable.leaving_iff (h : Exchangeable basis p columns) (j : Nat) :
    (columnRoles basis (some p) columns)[j]? = some .leaving ↔ basis[p.row]? = some j := by
  obtain ⟨leaving, hrow, he⟩ := h.leaves
  have hmem : leaving ∈ basis := List.mem_of_getElem? hrow
  rw [hrow, Option.some.injEq]
  apply columnRoles_iff he
  · rintro j rfl
    exact h.below leaving hmem
  · intro j
    rw [role_leaving_iff]
    constructor
    · exact fun hj => hj.2.symm
    · rintro rfl
      refine ⟨fun hentering => ?_, rfl⟩
      change leaving = p.column at hentering
      exact h.outside (hentering ▸ hmem)

theorem Exchangeable.basisMember_iff (h : Exchangeable basis p columns) (j : Nat) :
    (columnRoles basis (some p) columns)[j]? = some .basisMember ↔
      j ∈ basis ∧ basis[p.row]? ≠ some j := by
  obtain ⟨leaving, hrow, he⟩ := h.leaves
  apply columnRoles_iff he
  · exact fun j hj => h.below j hj.1
  · intro j
    rw [role_basisMember_iff]
    constructor
    · rintro ⟨-, -, i, hi, hj⟩
      exact ⟨List.mem_of_getElem? hj, fun hv => hi ((h.row_unique hj).mpr hv)⟩
    · rintro ⟨hmem, hv⟩
      obtain ⟨i, hi⟩ := List.mem_iff_getElem?.mp hmem
      refine ⟨?_, ?_, i, fun e => hv ((h.row_unique hi).mp e), hi⟩
      · rintro rfl
        exact h.outside hmem
      · rintro rfl
        exact hv hrow

theorem Exchangeable.mem_before_iff (h : Exchangeable basis p columns) (j : Nat) :
    (columnRoles basis (some p) columns)[j]? = some .leaving ∨
      (columnRoles basis (some p) columns)[j]? = some .basisMember ↔ j ∈ basis := by
  rw [h.leaving_iff, h.basisMember_iff]
  constructor
  · rintro (hrow | ⟨hmem, -⟩)
    · exact List.mem_of_getElem? hrow
    · exact hmem
  · intro hmem
    by_cases hrow : basis[p.row]? = some j
    · exact Or.inl hrow
    · exact Or.inr ⟨hmem, hrow⟩

theorem Exchangeable.mem_behind_iff (h : Exchangeable basis p columns) (j : Nat) :
    (columnRoles basis (some p) columns)[j]? = some .entering ∨
      (columnRoles basis (some p) columns)[j]? = some .basisMember ↔ j ∈ exchanged basis p := by
  rw [h.entering_iff, h.basisMember_iff, h.mem_exchanged]

end Tableaux.Simplex
