import Tableaux.Copt.Reader
import Tableaux.Proofs.Reading.Number
import Tableaux.Proofs.Row
import Tableaux.Proofs.Shape

/-!
# Reading COPT notation step by step

What holds of every number that is read, and of zero, holds of every entry of a
program, and what holds of every error of a number and of a missing relation holds of
every error. Rows are as wide as asked for, so the parts always fit together.
-/
namespace Tableaux.Copt

open Expression (terms Term largestVariable?)
open Reading (Recorded ReadError Reads readReal Yields Refines)
open Text (Line pieces join)

def constraintOf (leniency : Leniency) (width : Nat) (line : Line) (left right : List Char) :
    Except ReadError (Option Constraint) := do
  let entries ← (terms left).mapM fun t => (readEntry leniency line t).outcome
  let rhs ← (readReal leniency line right).outcome
  pure (some ⟨row width 0 (entries.filterMap id), rhs⟩)

theorem readConstraint_cut {leniency : Leniency} {width : Nat} {line : Line}
    {left right : List Char} {others : List (List Char)}
    (h : pieces '=' (afterLabel line.text) = left :: right :: others) :
    (readConstraint leniency width line).outcome
      = constraintOf leniency width line left right := by
  simp only [readConstraint, h]
  rw [Recorded.outcome_bind, Recorded.outcome_mapM]
  simp only [Recorded.outcome_bind, Recorded.outcome_pure]
  rfl

theorem readConstraint_uncut (width : Nat) {line : Line}
    (h : ∀ left right others, pieces '=' (afterLabel line.text) ≠ left :: right :: others) :
    (readConstraint .lenient width line).outcome = .ok none ∧
      (readConstraint .strict width line).outcome = .error (.missingRelation line) := by
  unfold readConstraint
  constructor
  · split
    · rename_i left right others hcut
      exact absurd hcut (h left right others)
    · rfl
  · split
    · rename_i left right others hcut
      exact absurd hcut (h left right others)
    · rfl

theorem readEntry_none {leniency : Leniency} {line : Line} {t : Term} (h : t.column? = none) :
    (readEntry leniency line t).outcome = .ok none := by
  simp only [readEntry, h]
  rfl

theorem readEntry_some {leniency : Leniency} {line : Line} {t : Term} {column : Nat}
    (h : t.column? = some column) :
    (readEntry leniency line t).outcome =
      (readReal leniency line t.coefficient).outcome >>= fun x => .ok (some (column, x)) := by
  simp only [readEntry, h, Recorded.outcome_bind]
  rfl

structure Constraint.Has (width : Nat) (P : Float → Prop) (c : Constraint) : Prop where
  width : c.row.length = width
  row : ∀ x ∈ c.row, P x
  rhs : P c.rhs

variable {leniency : Leniency} {P : Float → Prop} {E : ReadError → Prop}

theorem readEntry_yields (h : Reads leniency P E) (line : Line) (t : Term) :
    Yields (fun e => ∀ c ∈ e, P c.2) E (readEntry leniency line t).outcome := by
  cases hcol : t.column? with
  | none =>
    rw [readEntry_none hcol]
    intro c hc
    cases hc
  | some column =>
    rw [readEntry_some hcol]
    apply (h.real line t.coefficient).bind
    intro x hx c hc
    cases hc
    exact hx

theorem readConstraint_yields (h : Reads leniency P E) (width : Nat) (line : Line) :
    Yields (fun r => ∀ c ∈ r, Constraint.Has width P c) E
      (readConstraint leniency width line).outcome := by
  by_cases hcut : ∃ left right others,
      pieces '=' (afterLabel line.text) = left :: right :: others
  · obtain ⟨left, right, others, hcut⟩ := hcut
    rw [readConstraint_cut hcut]
    apply (Yields.mapM fun t _ => readEntry_yields h line t).bind
    intro entries hentries
    apply (h.real line right).bind
    intro rhs hrhs c hc
    cases hc
    refine ⟨length_row _ _ _, ?_, hrhs⟩
    intro x hx
    rcases mem_row hx with rfl | ⟨column, hmem⟩
    · exact h.zero
    · obtain ⟨e, he, hid⟩ := List.mem_filterMap.mp hmem
      exact hentries e he _ hid
  · -- Only strict reading minds a missing relation.
    push Not at hcut
    obtain ⟨hlenient, hstrict⟩ := readConstraint_uncut width hcut
    cases leniency with
    | lenient => rw [hlenient]; exact fun c hc => by cases hc
    | strict => rw [hstrict]; exact h.relation rfl line

def costRow (width : Nat) (expression : List Char) : List String :=
  row width "0" (costEntries expression)

theorem readObjective_outcome (width : Nat) (expression : List Char) :
    (readObjective width expression).outcome = .ok (costRow width expression) := rfl

theorem readBody_outcome (leniency : Leniency) (width : Nat) (places : List Place) :
    (readBody leniency width places).outcome =
      ((linesOf .constraints places).mapM fun line =>
        (readConstraint leniency width line).outcome) >>= fun read =>
      (Program.make (costRow width (join [' '] (objectiveFragments places)))
        ((read.filterMap id).map (·.row)) ((read.filterMap id).map (·.rhs))
        (direction places) .bland).mapError .inconsistent := by
  unfold readBody
  rw [Recorded.outcome_bind]
  change (_ >>= _ : Recorded ReadError Program).outcome = _
  rw [Recorded.outcome_bind, readObjective_outcome]
  change (_ >>= _ : Recorded ReadError Program).outcome = _
  rw [Recorded.outcome_bind, Recorded.outcome_mapM]
  rfl

theorem readBody_ok {width : Nat} {places : List Place} {p : Program}
    (h : (readBody leniency width places).outcome = .ok p) :
    ∃ read, ((linesOf .constraints places).mapM fun line =>
        (readConstraint leniency width line).outcome) = .ok read ∧
      p.cost = costRow width (join [' '] (objectiveFragments places)) ∧
      p.constraints = (read.filterMap id).map (·.row) ∧
      p.rhs = (read.filterMap id).map (·.rhs) ∧ p.direction = direction places := by
  rw [readBody_outcome] at h
  obtain ⟨read, hread, h⟩ := Reading.bind_ok_iff.mp h
  refine ⟨read, hread, ?_⟩
  cases hmake : Program.make (costRow width (join [' '] (objectiveFragments places)))
    ((read.filterMap id).map (·.row)) ((read.filterMap id).map (·.rhs))
    (direction places) .bland with
  | error e => rw [hmake] at h; cases h
  | ok q =>
    rw [hmake] at h
    obtain rfl : q = p := Except.ok.inj h
    obtain ⟨hcost, hconstraints, hrhs, hdirection, -⟩ := Program.eq_of_make hmake
    exact ⟨hcost, hconstraints, hrhs, hdirection⟩

theorem readBody_yields (h : Reads leniency P E) (width : Nat) (places : List Place) :
    Yields (fun p => p.cost.length = width ∧ p.Numbers P) E
      (readBody leniency width places).outcome := by
  rw [readBody_outcome]
  apply (Yields.mapM fun line _ => readConstraint_yields h width line).bind
  intro read hread
  have hall : ∀ c ∈ read.filterMap id, Constraint.Has width P c := by
    intro c hc
    obtain ⟨r, hr, hid⟩ := List.mem_filterMap.mp hc
    exact hread r hr c hid
  have hcost : (costRow width (join [' '] (objectiveFragments places))).length = width :=
    length_row _ _ _
  have hwidth : ∀ row ∈ (read.filterMap id).map (·.row), row.length = width := by
    intro row hrow
    obtain ⟨c, hc, rfl⟩ := List.mem_map.mp hrow
    exact (hall c hc).width
  rw [Program.make_of_fits (fun row hr => (hwidth row hr).trans hcost.symm)
    (by rw [List.length_map, List.length_map])]
  refine ⟨hcost, ?_, ?_⟩
  · intro row hrow
    obtain ⟨c, hc, rfl⟩ := List.mem_map.mp hrow
    exact (hall c hc).row
  · intro x hx
    obtain ⟨c, hc, rfl⟩ := List.mem_map.mp hx
    exact (hall c hc).rhs

theorem read_cases (leniency : Leniency) (text : List Char) :
    (∃ width, largestVariable? text = some width ∧ 1 ≤ width ∧ width ≤ maxVariables ∧
      read leniency text = readBody leniency width (outline text)) ∨
    (∃ width, largestVariable? text = some width ∧ maxVariables < width ∧
      read leniency text = Recorded.fail (.tooManyVariables width maxVariables)) ∨
    ((∀ width, largestVariable? text = some width → width = 0) ∧
      read leniency text = Recorded.fail .noVariables) := by
  unfold read
  split
  · rename_i hnone
    refine Or.inr (Or.inr ⟨fun width hw => ?_, rfl⟩)
    rw [hnone] at hw
    cases hw
  · rename_i hzero
    refine Or.inr (Or.inr ⟨fun width hw => ?_, rfl⟩)
    rw [hzero] at hw
    exact (Option.some.inj hw).symm
  · rename_i width hne hwidth
    have hpos : 1 ≤ width := Nat.pos_of_ne_zero hne
    by_cases hlarge : maxVariables < width
    · rw [if_pos hlarge]
      exact Or.inr (Or.inl ⟨width, hwidth, hlarge, rfl⟩)
    · rw [if_neg hlarge]
      exact Or.inl ⟨width, hwidth, hpos, Nat.le_of_not_lt hlarge, rfl⟩

end Tableaux.Copt
