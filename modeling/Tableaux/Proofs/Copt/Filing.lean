import Tableaux.Proofs.Copt.Section
import Tableaux.Proofs.Copt.Width
import Tableaux.Proofs.Reading.Warning

/-!
# Where the lines of a program end up

Read leniently, a line of constraints with a relation becomes a row, and one without is
named in a warning. Nothing else becomes a row and nothing else is warned of, so no
constraint is lost without notice.
-/
namespace Tableaux.Copt

open Expression (terms Term)
open Reading (Note ReadError Recorded readReal warnings)
open Text (Line lines pieces trim)

/-- The number that a text stands for, NaN if it is none. -/
def lenientValue (text : List Char) : Float := (Decimal.read (trim text)).getD (0.0 / 0.0)

def lenientTerm? (t : Term) : Option (Nat × Float) :=
  t.column?.map fun column => (column, lenientValue t.coefficient)

theorem readEntry_lenient (line : Line) (t : Term) :
    (readEntry .lenient line t).outcome = .ok (lenientTerm? t) := by
  cases h : t.column? with
  | none => rw [readEntry_none h, lenientTerm?, h, Option.map_none]
  | some column =>
    rw [readEntry_some h, Reading.readReal_lenient, lenientTerm?, h, Option.map_some]
    rfl

theorem warnings_readEntry (line : Line) (t : Term) :
    warnings (readEntry .lenient line t).notes = [] := by
  unfold readEntry
  cases t.column? with
  | none => rfl
  | some column =>
    dsimp only
    rw [Recorded.warnings_bind (Reading.readReal_lenient line t.coefficient),
      Reading.warnings_readReal]
    rfl

theorem readTerms_lenient (line : Line) (ts : List Term) :
    (ts.mapM (readEntry .lenient line)).outcome = .ok (ts.map lenientTerm?) := by
  rw [Recorded.outcome_mapM]
  exact Reading.mapM_ok fun t _ => readEntry_lenient line t

theorem warnings_readTerms (line : Line) (ts : List Term) :
    warnings (ts.mapM (readEntry .lenient line)).notes = [] := by
  rw [Recorded.warnings_mapM fun t _ => readEntry_lenient line t]
  exact List.flatMap_eq_nil_iff.mpr fun t _ => warnings_readEntry line t

def lenientRow (width : Nat) (text : List Char) : List Float :=
  row width 0 ((terms text).filterMap lenientTerm?)

def lenientConstraint? (width : Nat) (line : Line) : Option Constraint :=
  match pieces '=' (afterLabel line.text) with
  | left :: right :: _ => some ⟨lenientRow width left, lenientValue right⟩
  | _ => none

theorem readConstraint_lenient (width : Nat) (line : Line) :
    (readConstraint .lenient width line).outcome = .ok (lenientConstraint? width line) := by
  unfold lenientConstraint?
  split
  · rename_i left right others hcut
    have hterms := readTerms_lenient line (terms left)
    rw [Recorded.outcome_mapM] at hterms
    rw [readConstraint_cut hcut, constraintOf, hterms, Reading.readReal_lenient]
    change Except.ok (some (Constraint.mk (row width 0 _) _)) = _
    rw [List.filterMap_map]
    rfl
  · rename_i hcut
    exact (readConstraint_uncut width fun left right others => hcut left right others).1

def HasRelation (line : Line) : Prop := '=' ∈ afterLabel line.text

instance (line : Line) : Decidable (HasRelation line) := inferInstanceAs (Decidable (_ ∈ _))

theorem sides_of_relation {line : Line} (h : HasRelation line) :
    ∃ left right others, pieces '=' (afterLabel line.text) = left :: right :: others := by
  obtain ⟨left, behind, htext, hleft⟩ := List.eq_append_cons_of_mem h
  obtain ⟨right, others, hbehind⟩ :=
    List.exists_cons_of_ne_nil (Text.pieces_ne_nil '=' behind)
  exact ⟨left, right, others, by rw [htext, Text.pieces_append_cons hleft, hbehind]⟩

theorem lenientConstraint_some (width : Nat) {line : Line} {left right : List Char}
    {others : List (List Char)}
    (h : pieces '=' (afterLabel line.text) = left :: right :: others) :
    lenientConstraint? width line = some ⟨lenientRow width left, lenientValue right⟩ := by
  rw [lenientConstraint?, h]

theorem pieces_of_no_relation {line : Line} (h : ¬ HasRelation line) :
    pieces '=' (afterLabel line.text) = [afterLabel line.text] :=
  Text.pieces_of_not_mem h

theorem warnings_readConstraint (width : Nat) (line : Line) :
    warnings (readConstraint .lenient width line).notes =
      if HasRelation line then [] else [.skippedConstraint line.number] := by
  by_cases h : HasRelation line
  · obtain ⟨left, right, others, hcut⟩ := sides_of_relation h
    rw [if_pos h]
    simp only [readConstraint, hcut]
    rw [Recorded.warnings_bind (readTerms_lenient line (terms left)),
      Recorded.warnings_bind (Reading.readReal_lenient line right), warnings_readTerms,
      Reading.warnings_readReal]
    rfl
  · rw [if_neg h]
    simp only [readConstraint, pieces_of_no_relation h]
    rfl

theorem readConstraints_lenient (width : Nat) (ls : List Line) :
    (ls.mapM (readConstraint .lenient width)).outcome
      = .ok (ls.map (lenientConstraint? width)) := by
  rw [Recorded.outcome_mapM]
  exact Reading.mapM_ok fun line _ => readConstraint_lenient width line

theorem warnings_readConstraints (width : Nat) (ls : List Line) :
    warnings (ls.mapM (readConstraint .lenient width)).notes =
      (ls.filter fun line => ¬ HasRelation line).map fun line => .skippedConstraint line.number := by
  rw [Recorded.warnings_mapM fun line _ => readConstraint_lenient width line]
  induction ls with
  | nil => rfl
  | cons line ls ih =>
    rw [List.flatMap_cons, ih, warnings_readConstraint]
    by_cases h : HasRelation line
    · simp [h]
    · simp [h]

theorem constraints_of_relations (width : Nat) (ls : List Line) :
    (ls.filterMap (lenientConstraint? width)).map some =
      (ls.filter fun line => HasRelation line).map (lenientConstraint? width) := by
  induction ls with
  | nil => rfl
  | cons line ls ih =>
    by_cases h : HasRelation line
    · obtain ⟨left, right, others, hcut⟩ := sides_of_relation h
      have hsome := lenientConstraint_some width hcut
      rw [List.filterMap_cons_some hsome, List.filter_cons_of_pos (by simpa using h),
        List.map_cons, ih, List.map_cons, hsome]
    · have hnone : lenientConstraint? width line = none := by
        rw [lenientConstraint?, pieces_of_no_relation h]
      rw [List.filterMap_cons_none hnone, ih, List.filter_cons_of_neg (by simpa using h)]

theorem getElem_constraints {width k : Nat} {ls : List Line} {line : Line}
    {left right : List Char} {others : List (List Char)}
    (hline : (ls.filter fun line => HasRelation line)[k]? = some line)
    (hcut : pieces '=' (afterLabel line.text) = left :: right :: others) :
    (ls.filterMap (lenientConstraint? width))[k]?
      = some ⟨lenientRow width left, lenientValue right⟩ := by
  have hk := congrArg (fun found => found[k]?) (constraints_of_relations width ls)
  simp only [List.getElem?_map, hline, Option.map_some, lenientConstraint_some width hcut] at hk
  obtain ⟨c, hc, hsame⟩ := Option.map_eq_some_iff.mp hk
  rw [hc, hsame]

theorem warnings_of_details {notes : List Note} (h : ∀ note ∈ notes, note.level = .detail) :
    warnings notes = [] := by
  rw [warnings, List.filter_eq_nil_iff]
  intro note hnote
  simp [h note hnote]

theorem warnings_readObjective (width : Nat) (expression : List Char) :
    warnings (readObjective width expression).notes = [] := by
  apply warnings_of_details
  intro note hnote
  change note ∈ List.filterMap _ _ ++ [] at hnote
  rw [List.append_nil] at hnote
  obtain ⟨t, -, ht⟩ := List.mem_filterMap.mp hnote
  split at ht
  · obtain rfl := Option.some.inj ht
    rfl
  · cases ht

theorem warnings_readBody (width : Nat) (places : List Place) :
    warnings (readBody .lenient width places).notes =
      ((linesOf .constraints places).filter fun line => ¬ HasRelation line).map
        fun line => .skippedConstraint line.number := by
  have hskipped : warnings ((linesOf .skipped places).map Note.skippedLine) = [] := by
    apply warnings_of_details
    intro note hnote
    obtain ⟨line, -, rfl⟩ := List.mem_map.mp hnote
    rfl
  unfold readBody
  rw [Recorded.warnings_bind (a := ()) rfl,
    Recorded.warnings_bind (readObjective_outcome width _),
    Recorded.warnings_bind (readConstraints_lenient width _), warnings_readConstraints,
    warnings_readObjective, Recorded.warnings_bind (a := ()) rfl]
  change warnings (List.map _ _) ++ _ = _
  rw [hskipped]
  exact List.append_nil _

theorem readBody_lenient {width : Nat} {places : List Place} {p : Program}
    (h : (readBody .lenient width places).outcome = .ok p) :
    p.cost.length = width ∧ p.direction = direction places ∧
      p.constraints
        = ((linesOf .constraints places).filterMap (lenientConstraint? width)).map (·.row) ∧
      p.rhs
        = ((linesOf .constraints places).filterMap (lenientConstraint? width)).map (·.rhs) := by
  obtain ⟨read, hread, hcost, hconstraints, hrhs, hdirection⟩ := readBody_ok h
  have hlines := readConstraints_lenient width (linesOf .constraints places)
  rw [Recorded.outcome_mapM, hread] at hlines
  have hread : read.filterMap id
      = (linesOf .constraints places).filterMap (lenientConstraint? width) := by
    rw [Except.ok.inj hlines, List.filterMap_map]
    rfl
  rw [hread] at hconstraints hrhs
  refine ⟨?_, hdirection, hconstraints, hrhs⟩
  rw [hcost]
  exact length_row _ _ _

/-- What has become of the lines of a text that was read. -/
structure Filed (text : List Char) (notes : List Note) (p : Program) : Prop where
  numbered : ∀ line, line ∈ lines text ↔ ∃ i piece, (pieces '\n' text)[i]? = some piece ∧
    trim piece ≠ [] ∧ line = ⟨i + 1, trim piece⟩
  ascending : (lines text).Pairwise fun a b => a.number < b.number
  directed : ∀ line, directionLine? (lines text) = some line →
    p.direction = if Starts "min" line then .minimize else .maximize
  undirected : directionLine? (lines text) = none → p.direction = .minimize
  height : p.constraints.length =
    ((constraintLines (lines text)).filter fun line => HasRelation line).length
  row : ∀ (k : Nat) (line : Line),
    ((constraintLines (lines text)).filter fun line => HasRelation line)[k]? = some line →
    ∃ left right others, pieces '=' (afterLabel line.text) = left :: right :: others ∧
      p.constraints[k]? = some (lenientRow p.cost.length left) ∧
      p.rhs[k]? = some (lenientValue right)
  warned : warnings notes =
    ((constraintLines (lines text)).filter fun line => ¬ HasRelation line).map
      fun line => .skippedConstraint line.number
  messages : (warnings notes).map Note.message =
    ((constraintLines (lines text)).filter fun line => ¬ HasRelation line).map
      fun line => s!"Skipping constraint without \"=\" on line {line.number}"
  count : p.constraints.length + (warnings notes).length = (constraintLines (lines text)).length

theorem filed_of_body {width : Nat} {text : List Char} {p : Program}
    (h : (readBody .lenient width (outline text)).outcome = .ok p) :
    Filed text (readBody .lenient width (outline text)).notes p := by
  obtain ⟨hwidth, hdirection, hconstraints, hrhs⟩ := readBody_lenient h
  have hwarned := warnings_readBody width (outline text)
  rw [outline, direction_outline] at hdirection
  rw [outline, linesOf_constraints] at hconstraints hrhs hwarned
  have hheight : p.constraints.length =
      ((constraintLines (lines text)).filter fun line => HasRelation line).length := by
    have hlength := congrArg List.length
      (constraints_of_relations width (constraintLines (lines text)))
    rw [List.length_map, List.length_map] at hlength
    rw [hconstraints, List.length_map, hlength]
  refine ⟨Text.mem_lines_iff text, Text.lines_ascend text, ?_, ?_, hheight, ?_, hwarned, ?_, ?_⟩
  · intro line hline
    rw [hdirection, hline]
  · intro hnone
    rw [hdirection, hnone]
  · intro k line hline
    obtain ⟨left, right, others, hcut⟩ :=
      sides_of_relation (by simpa using (List.mem_filter.mp (List.mem_of_getElem? hline)).2)
    refine ⟨left, right, others, hcut, ?_, ?_⟩
    · rw [hconstraints, List.getElem?_map, getElem_constraints hline hcut, hwidth]
      rfl
    · rw [hrhs, List.getElem?_map, getElem_constraints hline hcut]
      rfl
  · rw [outline, hwarned, List.map_map]
    rfl
  · rw [outline, hwarned, hheight, List.length_map]
    have hsplit := List.length_eq_length_filter_add (l := constraintLines (lines text))
      fun line => decide (HasRelation line)
    simpa using hsplit.symm

/-- No line of a text that is read leniently is misfiled or lost in silence: the last
header with a direction gives it, and each line of constraints is either a row, in order,
or named in a warning. -/
theorem lines_are_filed (text : List Char) (p : Program)
    (h : (read .lenient text).outcome = .ok p) : Filed text (read .lenient text).notes p := by
  rcases read_cases .lenient text with ⟨width, -, -, -, hr⟩ | ⟨width, -, -, hr⟩ | ⟨-, hr⟩
  · rw [hr] at h ⊢
    exact filed_of_body h
  · rw [hr] at h
    cases h
  · rw [hr] at h
    cases h

/-- The constraints are interrupted by bounds and by an objective, and two of them have no
relation. -/
def sectionedText : List Char :=
  ("MAXimize x1\n\nSub to\n c1: x1 + x2 >\n\n c2: x2 = 3\nBounds\n x1 = 9\n"
    ++ "min: x2\nsubject\nx1 4\nx1 = 5").toList

theorem sectionedText_filed :
    ∃ p, (read .lenient sectionedText).outcome = .ok p ∧ p.direction = .minimize ∧
      warnings (read .lenient sectionedText).notes
        = [.skippedConstraint 4, .skippedConstraint 11] ∧ p.constraints.length = 2 := by
  have hwidth : Expression.largestVariable? sectionedText = some 2 := by decide +kernel
  obtain ⟨p, hp⟩ := (read_lenient_ok_iff sectionedText).mpr ⟨2, hwidth, by decide, by decide⟩
  have hfiled := lines_are_filed sectionedText p hp
  have hdirection : directionLine? (lines sectionedText) = some ⟨9, "min: x2".toList⟩ := by
    decide +kernel
  refine ⟨p, hp, ?_, ?_, ?_⟩
  · rw [hfiled.directed _ hdirection]
    decide
  · rw [hfiled.warned]
    decide +kernel
  · rw [hfiled.height]
    decide +kernel

end Tableaux.Copt
