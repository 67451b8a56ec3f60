import Tableaux.Proofs.Copt.Filing
import Tableaux.Proofs.Leniency

/-!
# Entries of a program in COPT notation

Of several terms of a variable the last one counts, in the objective as in every
constraint, and a variable without a term has the entry zero. Terms of variable number
zero are read as if they were not there.
-/
namespace Tableaux.Copt

open Expression (Term terms largestVariable?)
open Reading (ReadAs ReadError Recorded readReal)
open Text (Line join lines pieces)

def lastTerm? (number : Nat) (ts : List Term) : Option Term :=
  (ts.filter (·.number = number)).getLast?

def counted (ts : List Term) : List Term := ts.filter (·.number ≠ 0)

theorem lastTerm_append (number : Nat) (ts : List Term) (t : Term) :
    lastTerm? number (ts ++ [t]) = if t.number = number then some t else lastTerm? number ts := by
  rw [lastTerm?, getLast_filter_append]
  simp only [decide_eq_true_eq, lastTerm?]

theorem lastTerm_mem {number : Nat} {ts : List Term} {t : Term} (h : lastTerm? number ts = some t) :
    t ∈ ts ∧ t.number = number := by
  have hmem := List.mem_filter.mp (List.mem_of_getLast? h)
  exact ⟨hmem.1, by simpa using hmem.2⟩

theorem column_succ {t : Term} {j : Nat} : t.column? = some j ↔ t.number = j + 1 := by
  unfold Term.column?
  split
  · simp only [reduceCtorEq, false_iff]
    omega
  · simp only [Option.some.injEq]
    omega

theorem column_none {t : Term} : t.column? = none ↔ t.number = 0 := by
  unfold Term.column?
  split
  · simp [*]
  · simp [*]

theorem lastGiven_terms {β : Type} (f : Term → β) (ts : List Term) (j : Nat) :
    lastGiven? (ts.filterMap fun t => t.column?.map fun column => (column, f t)) j =
      (lastTerm? (j + 1) ts).map f := by
  induction ts using List.reverseRecOn with
  | nil => rfl
  | append_singleton ts t ih =>
    rw [List.filterMap_append, lastTerm_append]
    cases hcol : t.column? with
    | none =>
      have hzero : t.number = 0 := column_none.mp hcol
      have hother : t.number ≠ j + 1 := by omega
      rw [if_neg hother, List.filterMap_cons_none (by rw [hcol]; rfl), List.filterMap_nil,
        List.append_nil, ih]
    | some column =>
      have hnumber : t.number = column + 1 := column_succ.mp hcol
      rw [List.filterMap_cons_some (by rw [hcol]; rfl), List.filterMap_nil, lastGiven_append, ih]
      by_cases hj : column = j
      · rw [if_pos hj, if_pos (by omega)]
        rfl
      · rw [if_neg hj, if_neg (by omega)]

theorem getElem_costRow (width : Nat) (expression : List Char) (j : Nat) (hj : j < width) :
    (costRow width expression)[j]? = some (match lastTerm? (j + 1) (terms expression) with
      | some t => String.ofList t.coefficient
      | none => "0") := by
  rw [costRow, costEntries, getElem_row, if_pos hj, lastGiven_terms fun t => String.ofList t.coefficient]
  cases lastTerm? (j + 1) (terms expression) <;> rfl

theorem costRow_counted (width : Nat) (expression : List Char) :
    costRow width expression = row width "0" ((counted (terms expression)).filterMap fun t =>
      t.column?.map fun column => (column, String.ofList t.coefficient)) := by
  rw [costRow, costEntries, counted, List.filterMap_filter]
  congr 2
  funext t
  by_cases ht : t.number = 0
  · simp [ht, column_none.mpr ht]
  · simp [ht]

def leftSide (line : Line) : List Char := (afterLabel line.text).takeWhile (· != '=')

/-- The text between the first `=` of a constraint and the second one, or the end. -/
def rightSide (line : Line) : List Char :=
  (((afterLabel line.text).dropWhile (· != '=')).drop 1).takeWhile (· != '=')

theorem pieces_sides {line : Line} (h : HasRelation line) :
    ∃ others, pieces '=' (afterLabel line.text) = leftSide line :: rightSide line :: others := by
  obtain ⟨left, right, others, hcut⟩ := sides_of_relation h
  have hleft := Text.pieces_eq_cons '=' (afterLabel line.text)
  rw [leftSide, rightSide, hleft]
  cases hbehind : (afterLabel line.text).dropWhile (· != '=') with
  | nil =>
    rw [hleft, hbehind] at hcut
    cases hcut
  | cons c behind =>
    exact ⟨_, congrArg _ (Text.pieces_eq_cons '=' behind)⟩

def entryOf (leniency : Leniency) (line : Line) (t : Term) : Except ReadError (Nat × Float) :=
  (readReal leniency line t.coefficient).outcome.map fun x => (t.number - 1, x)

theorem entries_counted (leniency : Leniency) (line : Line) (ts : List Term) :
    (ts.mapM fun t => (readEntry leniency line t).outcome).map (·.filterMap id) =
      (counted ts).mapM (entryOf leniency line) := by
  induction ts with
  | nil => rfl
  | cons t ts ih =>
    rw [List.mapM_cons]
    by_cases ht : t.number = 0
    · rw [readEntry_none (column_none.mpr ht), counted, List.filter_cons_of_neg (by simpa using ht)]
      refine Eq.trans ?_ ih
      cases ts.mapM fun t => (readEntry leniency line t).outcome <;> rfl
    · have hcol : t.column? = some (t.number - 1) := column_succ.mpr (by omega)
      rw [readEntry_some hcol, counted, List.filter_cons_of_pos (by simpa using ht),
        List.mapM_cons, entryOf]
      cases (readReal leniency line t.coefficient).outcome with
      | error e => rfl
      | ok x =>
        change _ = (List.mapM _ (counted ts)) >>= _
        rw [← ih]
        cases ts.mapM fun t => (readEntry leniency line t).outcome <;> rfl

theorem constraintOf_counted (leniency : Leniency) (width : Nat) (line : Line)
    (left right : List Char) :
    constraintOf leniency width line left right =
      (counted (terms left)).mapM (entryOf leniency line) >>= fun entries =>
        (readReal leniency line right).outcome.map fun rhs => some ⟨row width 0 entries, rhs⟩ := by
  rw [← entries_counted, constraintOf]
  cases (terms left).mapM fun t => (readEntry leniency line t).outcome with
  | error e => rfl
  | ok entries => rfl

theorem readAs_lenientValue {leniency : Leniency} {line : Line} {text : List Char} {x : Float}
    (h : (readReal leniency line text).outcome = .ok x) :
    ReadAs leniency text (lenientValue text) := by
  have hvalue : (readReal .lenient line text).outcome = .ok x := by
    cases leniency with
    | lenient => exact h
    | strict => exact (Reading.readReal_refines line text).ok h
  rw [Reading.readReal_lenient] at hvalue
  obtain rfl : lenientValue text = x := Except.ok.inj hvalue
  exact Reading.readAs_of_readReal h

/-- All numbers of a constraint that is read, except those of terms without column. -/
theorem readConstraint_numbers {leniency : Leniency} {width : Nat} {line : Line}
    {c : Option Constraint} (hrel : HasRelation line)
    (h : (readConstraint leniency width line).outcome = .ok c) :
    (∀ t ∈ terms (leftSide line), t.number ≠ 0 →
      ReadAs leniency t.coefficient (lenientValue t.coefficient)) ∧
    ReadAs leniency (rightSide line) (lenientValue (rightSide line)) := by
  obtain ⟨others, hcut⟩ := pieces_sides hrel
  rw [readConstraint_cut hcut, constraintOf] at h
  obtain ⟨entries, hentries, h⟩ := Reading.bind_ok_iff.mp h
  obtain ⟨rhs, hrhs, -⟩ := Reading.bind_ok_iff.mp h
  constructor
  · intro t ht hne
    obtain ⟨entry, hentry⟩ := Reading.ok_of_mapM hentries t ht
    have hcolumn : t.column? = some (t.number - 1) := column_succ.mpr (by omega)
    rw [readEntry_some hcolumn] at hentry
    obtain ⟨x, hx, -⟩ := Reading.bind_ok_iff.mp hentry
    exact readAs_lenientValue hx
  · exact readAs_lenientValue hrhs

/-- The entry of a variable in a row: the number of its last term, or zero without any. -/
def EntryOf (leniency : Leniency) (last : Option Term) (x : Float) : Prop :=
  match last with
  | some t => ReadAs leniency t.coefficient x
  | none => x = 0

/-- The lines of constraints that have a relation, each of which gives a row. -/
def relationLines (text : List Char) : List Line :=
  (constraintLines (lines text)).filter fun line => HasRelation line

/-- The expressions of all lines of the objective, joined by blanks. -/
def objectiveText (text : List Char) : List Char :=
  join [' '] ((objectiveLines (lines text)).map fun line => afterLabel line.text)

/-- The last terms of the variables make up the program that is read of a text. -/
structure LastTermsCount (leniency : Leniency) (text : List Char) (p : Program) : Prop where
  width : largestVariable? text = some p.cost.length
  cost : ∀ j, j < p.cost.length →
    p.cost[j]? = some (match lastTerm? (j + 1) (terms (objectiveText text)) with
      | some t => String.ofList t.coefficient
      | none => "0")
  height : p.constraints.length = (relationLines text).length ∧
    p.rhs.length = (relationLines text).length
  entry : ∀ (k : Nat) (line : Line), (relationLines text)[k]? = some line →
    ∃ row, p.constraints[k]? = some row ∧ row.length = p.cost.length ∧
      ∀ j, j < p.cost.length → ∃ x, row[j]? = some x ∧
        EntryOf leniency (lastTerm? (j + 1) (terms (leftSide line))) x
  rhs : ∀ (k : Nat) (line : Line), (relationLines text)[k]? = some line →
    ∃ b, p.rhs[k]? = some b ∧ ReadAs leniency (rightSide line) b

theorem readBody_lenient_ok {leniency : Leniency} {width : Nat} {places : List Place} {p : Program}
    (h : (readBody leniency width places).outcome = .ok p) :
    (readBody .lenient width places).outcome = .ok p := by
  cases leniency with
  | lenient => exact h
  | strict => exact (readBody_refines width places).ok h

theorem entry_lenientRow {leniency : Leniency} {width : Nat} {text : List Char}
    (h : ∀ t ∈ terms text, t.number ≠ 0 →
      ReadAs leniency t.coefficient (lenientValue t.coefficient)) (j : Nat) (hj : j < width) :
    ∃ x, (lenientRow width text)[j]? = some x ∧
      EntryOf leniency (lastTerm? (j + 1) (terms text)) x := by
  have hrow : (lenientRow width text)[j]? = some (((lastTerm? (j + 1) (terms text)).map
      fun t => lenientValue t.coefficient).getD 0) := by
    rw [lenientRow, getElem_row, if_pos hj]
    exact congrArg (fun last => some (last.getD 0))
      (lastGiven_terms (fun t => lenientValue t.coefficient) (terms text) j)
  refine ⟨_, hrow, ?_⟩
  cases hlast : lastTerm? (j + 1) (terms text) with
  | none => rfl
  | some t =>
    obtain ⟨hmem, hnumber⟩ := lastTerm_mem hlast
    exact h t hmem (by omega)

theorem lastTermsCount_of_body {leniency : Leniency} {width : Nat} {text : List Char}
    {p : Program} (hwidth : largestVariable? text = some width)
    (h : (readBody leniency width (outline text)).outcome = .ok p) :
    LastTermsCount leniency text p := by
  obtain ⟨read, hread, hcost, -, -, -⟩ := readBody_ok h
  obtain ⟨hlength, -, hconstraints, hrhs⟩ := readBody_lenient (readBody_lenient_ok h)
  rw [outline, objectiveFragments_lines] at hcost
  rw [outline, linesOf_constraints] at hread hconstraints hrhs
  have hcount : ((constraintLines (lines text)).filterMap (lenientConstraint? width)).length =
      (relationLines text).length := by
    have hboth := congrArg List.length
      (constraints_of_relations width (constraintLines (lines text)))
    simpa [relationLines] using hboth
  have hnumbers : ∀ (k : Nat) (line : Line), (relationLines text)[k]? = some line →
      HasRelation line ∧ ∃ c, (readConstraint leniency width line).outcome = .ok c := by
    intro k line hline
    obtain ⟨hmem, hrel⟩ := List.mem_filter.mp (List.mem_of_getElem? hline)
    exact ⟨by simpa using hrel, Reading.ok_of_mapM hread line hmem⟩
  subst hlength
  refine ⟨hwidth, ?_, ?_, ?_, ?_⟩
  · intro j hj
    rw [hcost]
    exact getElem_costRow _ _ j hj
  · rw [hconstraints, hrhs, List.length_map, List.length_map]
    exact ⟨hcount, hcount⟩
  · intro k line hline
    obtain ⟨hrel, c, hc⟩ := hnumbers k line hline
    obtain ⟨others, hcut⟩ := pieces_sides hrel
    refine ⟨lenientRow p.cost.length (leftSide line), ?_, length_row _ _ _, ?_⟩
    · rw [hconstraints, List.getElem?_map, getElem_constraints hline hcut, Option.map_some]
    · exact entry_lenientRow (readConstraint_numbers hrel hc).1
  · intro k line hline
    obtain ⟨hrel, c, hc⟩ := hnumbers k line hline
    obtain ⟨others, hcut⟩ := pieces_sides hrel
    refine ⟨lenientValue (rightSide line), ?_, (readConstraint_numbers hrel hc).2⟩
    rw [hrhs, List.getElem?_map, getElem_constraints hline hcut, Option.map_some]

theorem readConstraint_sides (leniency : Leniency) (width : Nat) {line : Line}
    (h : HasRelation line) : (readConstraint leniency width line).outcome =
      constraintOf leniency width line (leftSide line) (rightSide line) := by
  obtain ⟨others, hcut⟩ := pieces_sides h
  exact readConstraint_cut hcut

/-- Of several terms of a variable the last one counts, in the objective and in every row.
Terms of variable number zero change nothing, not even whether a constraint can be read:
expressions that differ only in such terms are read alike. -/
theorem last_terms_count (leniency : Leniency) (text : List Char) (p : Program)
    (h : (read leniency text).outcome = .ok p) :
    LastTermsCount leniency text p ∧
    (∀ line ∈ relationLines text, (readConstraint leniency p.cost.length line).outcome =
      constraintOf leniency p.cost.length line (leftSide line) (rightSide line)) ∧
    ∀ (width : Nat) (e e' : List Char), counted (terms e) = counted (terms e') →
      (readObjective width e).outcome = (readObjective width e').outcome ∧
      ∀ line right, constraintOf leniency width line e right =
        constraintOf leniency width line e' right := by
  refine ⟨?_, ?_, ?_⟩
  · rcases read_cases leniency text with ⟨width, hw, -, -, hr⟩ | ⟨width, -, -, hr⟩ | ⟨-, hr⟩
    · rw [hr] at h
      exact lastTermsCount_of_body hw h
    · rw [hr] at h
      cases h
    · rw [hr] at h
      cases h
  · intro line hline
    exact readConstraint_sides leniency _ (by simpa using (List.mem_filter.mp hline).2)
  · intro width e e' hsame
    constructor
    · rw [readObjective_outcome, readObjective_outcome, costRow_counted, costRow_counted, hsame]
    · intro line right
      rw [constraintOf_counted, constraintOf_counted, hsame]

/-- Variables are given twice and not at all, the objective has two sections, and number zero
has an unreadable coefficient. -/
def repeatedText : List Char :=
  "min: 2 x1 + 3 x1
M x0
sub
c1: 5 x3 - 4 x1 + M x0 + 2 x3 = 7 = 8
max: - x2".toList

def repeatedLine : Line := ⟨4, "c1: 5 x3 - 4 x1 + M x0 + 2 x3 = 7 = 8".toList⟩

theorem repeatedText_accepted :
    (read .strict repeatedText).outcome.map (·.cost) = .ok ["3", "-1", "0"] := by
  decide +kernel

theorem repeatedText_read :
    ∃ p, (read .strict repeatedText).outcome = .ok p ∧ p.cost[0]? = some "3" ∧
      (∃ row x, p.constraints[0]? = some row ∧ row[2]? = some x ∧ ReadAs .strict ['2'] x) ∧
      ∃ b, p.rhs[0]? = some b ∧ ReadAs .strict [' ', '7', ' '] b := by
  have haccepted := repeatedText_accepted
  cases hp : (read .strict repeatedText).outcome with
  | error e => rw [hp] at haccepted; cases haccepted
  | ok p =>
    rw [hp] at haccepted
    have hcost : p.cost = ["3", "-1", "0"] := Except.ok.inj haccepted
    obtain ⟨hcounts, -, -⟩ := last_terms_count .strict repeatedText p hp
    have hline : (relationLines repeatedText)[0]? = some repeatedLine := by decide +kernel
    have hlast : lastTerm? 3 (terms (leftSide repeatedLine)) = some ⟨['2'], 3⟩ := by decide +kernel
    refine ⟨p, rfl, ?_, ?_, ?_⟩
    · rw [hcounts.cost 0 (by rw [hcost]; decide)]
      decide +kernel
    · obtain ⟨row, hrow, -, hentries⟩ := hcounts.entry 0 _ hline
      obtain ⟨x, hx, hread⟩ := hentries 2 (by rw [hcost]; decide)
      rw [hlast] at hread
      exact ⟨row, x, hrow, hx, hread⟩
    · exact hcounts.rhs 0 _ hline

end Tableaux.Copt
