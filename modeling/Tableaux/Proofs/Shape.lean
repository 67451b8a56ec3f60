import Tableaux.Program

/-!
# Making programs

Parts that fit together make a program of exactly these parts, and nothing else is
made of them. Of parts that do not fit together the first row of a wrong width is named,
or the numbers of rows and of right-hand sides if all widths are right.
-/
namespace Tableaux.Program

variable {cost : List String} {constraints : List (List Float)} {rhs : List Float}
  {direction : Direction} {pivotRule : PivotRule}

structure Numbers (P : Float → Prop) (p : Program) : Prop where
  row : ∀ row ∈ p.constraints, ∀ x ∈ row, P x
  rhs : ∀ x ∈ p.rhs, P x

theorem firstMisfit_of_fits {width : Nat} {rows : List (List Float)}
    (h : ∀ row ∈ rows, row.length = width) : firstMisfit? width rows = none := by
  rw [firstMisfit?, List.find?_eq_none]
  rintro ⟨row, number⟩ hmem
  have hrow : row ∈ rows := List.fst_mem_of_mem_zipIdx hmem
  simp [h row hrow]

theorem make_of_fits (hw : ∀ row ∈ constraints, row.length = cost.length)
    (hh : constraints.length = rhs.length) :
    make cost constraints rhs direction pivotRule
      = .ok ⟨cost, constraints, rhs, direction, pivotRule, hw, hh⟩ := by
  have hnone := firstMisfit_of_fits hw
  unfold make
  split
  · rename_i heq
    rw [hnone] at heq
    cases heq
  · rw [dif_pos hh]

theorem eq_of_make {p : Program}
    (h : make cost constraints rhs direction pivotRule = .ok p) :
    p.cost = cost ∧ p.constraints = constraints ∧ p.rhs = rhs ∧ p.direction = direction ∧
      p.pivotRule = pivotRule := by
  unfold make at h
  split at h
  · cases h
  · split at h
    · cases h
      exact ⟨rfl, rfl, rfl, rfl, rfl⟩
    · cases h

theorem firstMisfit_eq_some {width : Nat} {rows : List (List Float)} {row : List Float}
    {number : Nat} :
    firstMisfit? width rows = some (row, number) ↔ ∃ k, number = k + 1 ∧ rows[k]? = some row ∧
      row.length ≠ width ∧ ∀ j, j < k → (rows.map List.length)[j]? = some width := by
  rw [firstMisfit?, List.find?_eq_some_iff_getElem]
  constructor
  · rintro ⟨hwrong, k, hk, hentry, hfirst⟩
    rw [List.getElem_zipIdx, Prod.mk.injEq] at hentry
    rw [List.length_zipIdx] at hk
    refine ⟨k, by omega, ?_, by simpa using hwrong, ?_⟩
    · rw [List.getElem?_eq_getElem hk, hentry.1]
    · intro j hj
      have hright := hfirst j hj
      rw [List.getElem_zipIdx] at hright
      rw [List.getElem?_map, List.getElem?_eq_getElem (by omega), Option.map_some]
      simpa using hright
  · rintro ⟨k, rfl, hk, hwrong, hfirst⟩
    obtain ⟨hlt, rfl⟩ := List.getElem?_eq_some_iff.mp hk
    refine ⟨by simpa using hwrong, k, by simpa using hlt, ?_, ?_⟩
    · rw [List.getElem_zipIdx, Nat.add_comm]
    · intro j hj
      have hright := hfirst j hj
      rw [List.getElem?_map, List.getElem?_eq_getElem (by omega), Option.map_some] at hright
      rw [List.getElem_zipIdx]
      simpa using hright

/-- As many rows as right-hand sides, and each row with as many entries as there are cost terms. -/
structure Fits (terms : Nat) (widths : List Nat) (values : Nat) : Prop where
  width : ∀ width ∈ widths, width = terms
  height : widths.length = values

/-- What does not fit: the first row of a wrong width, counting from one, or if there is none the
number of rows. -/
inductive Misfit (terms : Nat) (widths : List Nat) (values : Nat) : ShapeError → Prop where
  | row (k width : Nat) (hrow : widths[k]? = some width) (hwrong : width ≠ terms)
      (hfirst : ∀ j, j < k → widths[j]? = some terms) :
      Misfit terms widths values (.rowWidth (k + 1) width terms)
  | count (hwidth : ∀ width ∈ widths, width = terms) (hwrong : widths.length ≠ values) :
      Misfit terms widths values (.rowCount widths.length values)

/-- The parts of a program, whether or not they fit together. -/
structure Parts where
  cost : List String
  constraints : List (List Float)
  rhs : List Float
  direction : Direction
  pivotRule : PivotRule

def parts (p : Program) : Parts := ⟨p.cost, p.constraints, p.rhs, p.direction, p.pivotRule⟩

namespace Parts

def make (parts : Parts) : Except ShapeError Program :=
  Program.make parts.cost parts.constraints parts.rhs parts.direction parts.pivotRule

def Fits (parts : Parts) : Prop :=
  Program.Fits parts.cost.length (parts.constraints.map List.length) parts.rhs.length

def Misfit (parts : Parts) : ShapeError → Prop :=
  Program.Misfit parts.cost.length (parts.constraints.map List.length) parts.rhs.length

end Parts

theorem parts_fit (p : Program) : p.parts.Fits where
  width width hmem := by
    obtain ⟨row, hrow, rfl⟩ := List.mem_map.mp hmem
    exact p.width_eq row hrow
  height := by
    rw [List.length_map]
    exact p.height_eq

theorem make_ok_iff {parts : Parts} {p : Program} :
    parts.make = .ok p ↔ parts.Fits ∧ p.parts = parts := by
  constructor
  · intro h
    obtain ⟨hcost, hconstraints, hrhs, hdirection, hpivotRule⟩ := eq_of_make h
    have hparts : p.parts = parts := by
      rw [Program.parts, hcost, hconstraints, hrhs, hdirection, hpivotRule]
    exact ⟨hparts ▸ p.parts_fit, hparts⟩
  · rintro ⟨hfits, rfl⟩
    exact make_of_fits p.width_eq p.height_eq

theorem make_of_misfit {parts : Parts} {e : ShapeError} (h : parts.Misfit e) :
    parts.make = .error e := by
  cases h with
  | row k width hrow hwrong hfirst =>
    rw [List.getElem?_map] at hrow
    obtain ⟨row, hk, rfl⟩ := Option.map_eq_some_iff.mp hrow
    have hsome := firstMisfit_eq_some.mpr ⟨k, rfl, hk, hwrong, hfirst⟩
    unfold Parts.make make
    split
    · rename_i found number heq
      rw [hsome] at heq
      cases heq
      rfl
    · rename_i heq
      rw [hsome] at heq
      cases heq
  | count hwidth hwrong =>
    have hnone : firstMisfit? parts.cost.length parts.constraints = none :=
      firstMisfit_of_fits fun row hrow => hwidth _ (List.mem_map_of_mem hrow)
    rw [List.length_map] at hwrong ⊢
    unfold Parts.make make
    split
    · rename_i heq
      rw [hnone] at heq
      cases heq
    · rw [dif_neg hwrong]

theorem misfit_of_make {parts : Parts} {e : ShapeError} (h : parts.make = .error e) :
    parts.Misfit e := by
  unfold Parts.make make at h
  split at h
  · rename_i row number hsome
    obtain ⟨k, rfl, hk, hwrong, hfirst⟩ := firstMisfit_eq_some.mp hsome
    cases h
    exact .row k row.length (by rw [List.getElem?_map, hk]; rfl) hwrong hfirst
  · rename_i hnone
    split at h
    · cases h
    · rename_i hwrong
      cases h
      have hwidth : ∀ width ∈ parts.constraints.map List.length, width = parts.cost.length := by
        intro width hmem
        obtain ⟨row, hrow, rfl⟩ := List.mem_map.mp hmem
        exact length_of_firstMisfit? hnone row hrow
      have hcount : parts.Misfit
          (.rowCount (parts.constraints.map List.length).length parts.rhs.length) :=
        .count hwidth (by rwa [List.length_map])
      rwa [List.length_map] at hcount

theorem misfit_iff (parts : Parts) : (∃ e, parts.Misfit e) ↔ ¬ parts.Fits := by
  constructor
  · rintro ⟨e, he⟩ hfits
    have hok : ∃ p, parts.make = .ok p :=
      ⟨_, make_of_fits (fun row hrow => hfits.width _ (List.mem_map_of_mem hrow))
        (by simpa using hfits.height)⟩
    rw [make_of_misfit he] at hok
    obtain ⟨p, hp⟩ := hok
    cases hp
  · intro hfits
    cases h : parts.make with
    | ok p => exact absurd (make_ok_iff.mp h).1 hfits
    | error e => exact ⟨e, misfit_of_make h⟩

end Tableaux.Program
