import Tableaux.Proofs.Copt.Outline
import Tableaux.Proofs.Copt.Reader
import Tableaux.Proofs.Notation.Linear
import Tableaux.Proofs.Row

/-!
# Sheets in COPT notation

A sheet is written as a header with its direction, the cost tokens in front of their
variables, and a labelled equation for every constraint. The text has as many variables
as the sheet has columns, so reading it back gives rows without gaps.
-/
namespace Tableaux.Notation

open Copt (Constraint Header Inert Place outline outlineBelow readConstraint readEntry)
open Decimal (digits_toDigits isDigit)
open Expression (Coefficient Term largestVariable? numberLimit terms termsAfter variableNumbers)
open Reading (readReal)
open Text (Line Tight join numbered pieces)

def directionHeader : Direction → List Char
  | .minimize => ['M', 'i', 'n', 'i', 'm', 'i', 'z', 'e']
  | .maximize => ['M', 'a', 'x', 'i', 'm', 'i', 'z', 'e']

def constraintsHeader : List Char := ['S', 'u', 'b', 'j', 'e', 'c', 't', ' ', 'T', 'o']

def finishHeader : List Char := ['E', 'n', 'd']

def constraintText (number : Nat) (row : List Numeral) (rhs : Numeral) : List Char :=
  labelled ('c' :: Nat.toDigits 10 number)
    (expression (row.map Numeral.toToken) ++ [' ', '=', ' '] ++ rhs.text)

def constraintTexts (first : Nat) (constraints : List (List Numeral × Numeral)) :
    List (List Char) :=
  (constraints.zipIdx first).map fun (c, number) => constraintText number c.1 c.2

def Sheet.coptLines (s : Sheet) : List (List Char) :=
  directionHeader s.direction :: labelled ['o', 'b', 'j'] (expression s.cost) ::
    constraintsHeader :: (constraintTexts 1 (s.rows.zip s.rhs) ++ [finishHeader])

def Sheet.copt (s : Sheet) : List Char := join ['\n'] s.coptLines

theorem mem_constraintTexts {first : Nat} {constraints : List (List Numeral × Numeral)}
    {line : List Char} (h : line ∈ constraintTexts first constraints) :
    ∃ number row rhs, (row, rhs) ∈ constraints ∧ line = constraintText number row rhs := by
  obtain ⟨⟨⟨row, rhs⟩, number⟩, hm, rfl⟩ := List.mem_map.mp h
  exact ⟨number, row, rhs, List.fst_mem_of_mem_zipIdx hm, rfl⟩

theorem label_tight (number : Nat) : Tight ('c' :: Nat.toDigits 10 number) := by
  refine Text.tight_token (List.cons_ne_nil _ _) ?_
  intro c hc
  rcases List.mem_cons.mp hc with rfl | hc
  · decide
  · exact not_blank_of_typed (typed_of_digit (digits_toDigits number c hc))

theorem not_mem_label {c : Char} (hc : isTyped c = false) (h : c ≠ 'c') (number : Nat) :
    c ∉ 'c' :: Nat.toDigits 10 number := by
  intro hm
  rcases List.mem_cons.mp hm with hm | hm
  · exact h hm
  · rw [typed_of_digit (digits_toDigits number c hm)] at hc
    cases hc

theorem constraintText_tight (number : Nat) {row : List Numeral} (hne : row ≠ [])
    (rhs : Numeral) : Tight (constraintText number row rhs) :=
  labelled_tight (label_tight number)
    ((expression_tight (by simpa using hne)).append rhs.tight [' ', '=', ' '])

theorem unbroken_constraintText (number : Nat) (row : List Numeral) (rhs : Numeral) :
    '\n' ∉ constraintText number row rhs := by
  have hexpression : '\n' ∉ expression (row.map Numeral.toToken) :=
    not_mem_expression (by decide) (by decide) _
  have hrhs : '\n' ∉ rhs.text := rhs.not_mem_text (by decide)
  apply not_mem_labelled (not_mem_label (by decide) (by decide) number) (by decide)
  simp [hexpression, hrhs]

theorem directionHeader_tight (direction : Direction) : Tight (directionHeader direction) := by
  cases direction <;> exact Text.tight_ends (by decide) (by decide)

theorem tight_coptLines (s : Sheet) : ∀ l ∈ s.coptLines, Tight l := by
  have hobjective : Tight (labelled ['o', 'b', 'j'] (expression s.cost)) :=
    labelled_tight (Text.tight_ends (by decide) (by decide)) (expression_tight s.cost_filled)
  have hconstraints : Tight constraintsHeader :=
    Text.tight_ends (by decide) (by decide)
  have hfinish : Tight finishHeader := Text.tight_ends (by decide) (by decide)
  intro l hl
  simp only [Sheet.coptLines, List.mem_cons, List.mem_append, List.not_mem_nil, or_false] at hl
  rcases hl with rfl | rfl | rfl | hl | rfl
  · exact directionHeader_tight s.direction
  · exact hobjective
  · exact hconstraints
  · obtain ⟨number, row, rhs, hm, rfl⟩ := mem_constraintTexts hl
    exact constraintText_tight number (s.row_filled (List.of_mem_zip hm).1) rhs
  · exact hfinish

theorem unbroken_coptLines (s : Sheet) : ∀ l ∈ s.coptLines, '\n' ∉ l := by
  have hdirection : '\n' ∉ directionHeader s.direction := by
    cases s.direction <;> decide
  have hobjective : '\n' ∉ labelled ['o', 'b', 'j'] (expression s.cost) :=
    not_mem_labelled (by decide) (by decide) (not_mem_expression (by decide) (by decide) _)
  intro l hl
  simp only [Sheet.coptLines, List.mem_cons, List.mem_append, List.not_mem_nil, or_false] at hl
  rcases hl with rfl | rfl | rfl | hl | rfl
  · exact hdirection
  · exact hobjective
  · decide
  · obtain ⟨number, row, rhs, -, rfl⟩ := mem_constraintTexts hl
    exact unbroken_constraintText number row rhs
  · decide

theorem header_direction (direction : Direction) (number : Nat) :
    Header.ofLine? ⟨number, directionHeader direction⟩ = some (.objective direction) := by
  cases direction
  · exact (by decide +kernel :
      Header.ofLine? ⟨0, ['M', 'i', 'n', 'i', 'm', 'i', 'z', 'e']⟩ = some (.objective .minimize))
  · exact (by decide +kernel :
      Header.ofLine? ⟨0, ['M', 'a', 'x', 'i', 'm', 'i', 'z', 'e']⟩ = some (.objective .maximize))

theorem header_constraints (number : Nat) :
    Header.ofLine? ⟨number, constraintsHeader⟩ = some .constraints :=
  (by decide +kernel : Header.ofLine? ⟨0, constraintsHeader⟩ = some .constraints)

theorem header_finish (number : Nat) : Header.ofLine? ⟨number, finishHeader⟩ = some .finish :=
  (by decide +kernel : Header.ofLine? ⟨0, finishHeader⟩ = some .finish)

theorem header_constraintText {line : Line} {first start : Nat}
    {constraints : List (List Numeral × Numeral)}
    (h : line ∈ numbered start (constraintTexts first constraints)) :
    Header.ofLine? line = none := by
  obtain ⟨⟨l, number⟩, hm, rfl⟩ := List.mem_map.mp h
  obtain ⟨label, row, rhs, -, rfl⟩ := mem_constraintTexts (List.fst_mem_of_mem_zipIdx hm)
  exact Copt.header_of_inert (show Inert 'c' by decide +kernel) number _

theorem outline_copt (s : Sheet) :
    outline s.copt =
      ⟨⟨1, directionHeader s.direction⟩, some (.objective s.direction), .objective⟩ ::
      ⟨⟨2, labelled ['o', 'b', 'j'] (expression s.cost)⟩, none, .objective⟩ ::
      ⟨⟨3, constraintsHeader⟩, some .constraints, .constraints⟩ ::
      ((numbered 4 (constraintTexts 1 (s.rows.zip s.rhs))).map
          (fun line => ⟨line, none, .constraints⟩) ++
        [⟨⟨4 + (constraintTexts 1 (s.rows.zip s.rhs)).length, finishHeader⟩, some .finish,
          .skipped⟩]) := by
  have hobjective : Header.ofLine? ⟨2, labelled ['o', 'b', 'j'] (expression s.cost)⟩ = none :=
    Copt.header_of_inert (show Inert 'o' by decide +kernel) 2 _
  rw [outline, Sheet.copt, Text.lines_join (unbroken_coptLines s) (tight_coptLines s),
    Sheet.coptLines, Text.numbered_cons, Text.numbered_cons, Text.numbered_cons,
    Text.numbered_append, Copt.outlineBelow_header _ (header_direction s.direction 1),
    outlineBelow, hobjective, Copt.outlineBelow_header _ (header_constraints _),
    Copt.outlineBelow_body _ fun line hl => header_constraintText hl, Text.numbered_cons,
    Copt.outlineBelow_header _ (header_finish _)]
  rfl

theorem afterLabel_labelled {name : List Char} (h : ':' ∉ name) (body : List Char) :
    Copt.afterLabel (labelled name body) = ' ' :: body := by
  rw [Copt.afterLabel, labelled, Text.cut_append h]

theorem terms_padded (tokens : List Token) (h : tokens.length < numberLimit)
    {after : List Char} (ha : ∀ c ∈ after.head?, isDigit c = false) (hx : 'x' ∉ after) :
    terms (' ' :: (expression tokens ++ after)) = termsOf 1 tokens := by
  have hskip := Expression.termsAfter_skip (show 'x' ∉ [' '] by decide) .start
    (expression tokens ++ after)
  calc terms (' ' :: (expression tokens ++ after))
      = terms (expression tokens ++ after) := hskip
    _ = termsOf 1 tokens := terms_expression tokens h ha hx

theorem pieces_constraintText (label : Nat) (row : List Numeral) (rhs : Numeral) :
    pieces '=' (Copt.afterLabel (constraintText label row rhs)) =
      [' ' :: (expression (row.map Numeral.toToken) ++ [' ']), ' ' :: rhs.text] := by
  have hlabel : ':' ∉ 'c' :: Nat.toDigits 10 label := not_mem_label (by decide) (by decide) label
  have hleft : '=' ∉ ' ' :: (expression (row.map Numeral.toToken) ++ [' ']) := by
    simp [not_mem_expression (show isTyped '=' = false by decide) (by decide)]
  have hright : '=' ∉ ' ' :: rhs.text := by
    simp [rhs.not_mem_text (show isTyped '=' = false by decide)]
  have hsplit : Copt.afterLabel (constraintText label row rhs) =
      (' ' :: (expression (row.map Numeral.toToken) ++ [' '])) ++ '=' :: ' ' :: rhs.text := by
    rw [constraintText, afterLabel_labelled hlabel]
    simp
  rw [hsplit, Text.pieces_append_cons hleft, Text.pieces_of_not_mem hright]

theorem readEntry_numeral (leniency : Leniency) (line : Line) (n : Numeral) (column : Nat) :
    (readEntry leniency line ⟨n.text, column + 1⟩).outcome = .ok (some (column, n.value)) := by
  have hcolumn : Term.column? ⟨n.text, column + 1⟩ = some column := by simp [Term.column?]
  rw [Copt.readEntry_some hcolumn, readReal_numeral]
  rfl

theorem readConstraint_text (leniency : Leniency) (number label : Nat) {row : List Numeral}
    (h : row.length < numberLimit) (rhs : Numeral) :
    (readConstraint leniency row.length ⟨number, constraintText label row rhs⟩).outcome
      = .ok (some ⟨row.map Numeral.value, rhs.value⟩) := by
  have hterms : terms (' ' :: (expression (row.map Numeral.toToken) ++ [' ']))
      = row.zipIdx.map fun (n, column) => ⟨n.text, column + 1⟩ := by
    rw [terms_padded _ (by simpa using h) (Expression.head_not_digit (by decide) [])
      (by decide), termsOf_one]
  have hentries (line : Line) :
      (row.zipIdx.map fun (n, column) => (⟨n.text, column + 1⟩ : Term)).mapM
        (fun t => (readEntry leniency line t).outcome)
      = .ok (row.zipIdx.map fun (n, column) => some (column, n.value)) := by
    rw [List.mapM_map]
    exact Reading.mapM_ok fun (n, column) _ => readEntry_numeral leniency line n column
  have hrhs (line : Line) : (readReal leniency line (' ' :: rhs.text)).outcome = .ok rhs.value := by
    rw [← Reading.readReal_trim, Text.trim_cons (by decide), Reading.readReal_trim,
      readReal_numeral]
  rw [Copt.readConstraint_cut (pieces_constraintText label row rhs), Copt.constraintOf, hterms,
    hentries, hrhs]
  change Except.ok (some (Constraint.mk (Tableaux.row row.length 0 (List.filterMap id _)) _)) = _
  rw [filterMap_id_some, row_map_zipIdx]

theorem readConstraints_texts (leniency : Leniency) {width : Nat} (hw : width < numberLimit)
    {constraints : List (List Numeral × Numeral)} (h : ∀ c ∈ constraints, c.1.length = width)
    (first start : Nat) :
    (numbered start (constraintTexts first constraints)).mapM
        (fun line => (readConstraint leniency width line).outcome)
      = .ok (constraints.map fun c => some ⟨c.1.map Numeral.value, c.2.value⟩) := by
  induction constraints generalizing first start with
  | nil => rfl
  | cons c others ih =>
    have hc : c.1.length = width := h c List.mem_cons_self
    have hread := readConstraint_text leniency start first (hc ▸ hw) c.2
    rw [hc] at hread
    have hcons : constraintTexts first (c :: others)
        = constraintText first c.1 c.2 :: constraintTexts (first + 1) others := rfl
    rw [hcons, Text.numbered_cons, List.mapM_cons, hread,
      ih (fun d hd => h d (List.mem_cons_of_mem _ hd))]
    rfl

theorem variableNumbers_labelled {name : List Char} (h : 'x' ∉ name)
    (body : List Char) : variableNumbers (labelled name body) = variableNumbers body := by
  have hname : 'x' ∉ name ++ [':', ' '] := by simp [h]
  have hsplit : labelled name body = (name ++ [':', ' ']) ++ body := by simp [labelled]
  rw [hsplit, Expression.variableNumbers_skip hname]

theorem variableNumbers_constraintText (label : Nat) {row : List Numeral}
    (h : row.length < numberLimit) (rhs : Numeral) :
    variableNumbers (constraintText label row rhs) = List.range' 1 row.length := by
  have hlabel : 'x' ∉ 'c' :: Nat.toDigits 10 label := not_mem_label (by decide) (by decide) label
  have hrhs : 'x' ∉ [' ', '=', ' '] ++ rhs.text := by
    simp [rhs.not_mem_text (show isTyped 'x' = false by decide)]
  have hhead : ∀ c ∈ ([' ', '=', ' '] ++ rhs.text).head?, isDigit c = false :=
    Expression.head_not_digit (by decide) _
  rw [constraintText, variableNumbers_labelled hlabel, List.append_assoc,
    Expression.variableNumbers_append _ hhead,
    Expression.variableNumbers_empty hrhs, List.append_nil,
    variableNumbers_expression _ (by simpa using h), List.length_map]

theorem limit_below_numbers (s : Sheet) : s.cost.length < numberLimit :=
  Nat.lt_of_le_of_lt s.limited (by decide)

theorem variableNumbers_objective (s : Sheet) :
    variableNumbers (labelled ['o', 'b', 'j'] (expression s.cost))
      = List.range' 1 s.cost.length := by
  rw [variableNumbers_labelled (by decide), variableNumbers_expression _ (limit_below_numbers s)]

theorem variableNumbers_coptLines (s : Sheet) :
    ∀ l ∈ s.coptLines, variableNumbers l ⊆ List.range' 1 s.cost.length := by
  have hdirection : variableNumbers (directionHeader s.direction) = [] := by
    cases s.direction <;> decide +kernel
  have hconstraints : variableNumbers constraintsHeader = [] := by decide +kernel
  have hfinish : variableNumbers finishHeader = [] := by decide +kernel
  intro l hl
  simp only [Sheet.coptLines, List.mem_cons, List.mem_append, List.not_mem_nil, or_false] at hl
  rcases hl with rfl | rfl | rfl | hl | rfl
  · rw [hdirection]
    exact List.nil_subset _
  · rw [variableNumbers_objective]
    exact List.Subset.refl _
  · rw [hconstraints]
    exact List.nil_subset _
  · obtain ⟨number, row, rhs, hm, rfl⟩ := mem_constraintTexts hl
    have hw : row.length = s.cost.length := s.width_eq row (List.of_mem_zip hm).1
    rw [variableNumbers_constraintText _ (hw ▸ limit_below_numbers s), hw]
    exact List.Subset.refl _
  · rw [hfinish]
    exact List.nil_subset _

theorem largestVariable_copt (s : Sheet) :
    largestVariable? s.copt = some s.cost.length := by
  have hlines : variableNumbers s.copt = s.coptLines.flatMap variableNumbers :=
    Expression.variableNumbers_join (by decide) _
  have hwide := s.wide
  rw [largestVariable?, hlines, List.max?_eq_some_iff]
  constructor
  · refine List.mem_flatMap.mpr ⟨labelled ['o', 'b', 'j'] (expression s.cost), ?_, ?_⟩
    · exact List.mem_cons_of_mem _ List.mem_cons_self
    · rw [variableNumbers_objective, List.mem_range'_1]
      omega
  · intro n hn
    obtain ⟨l, hl, hnl⟩ := List.mem_flatMap.mp hn
    have hrange := List.mem_range'_1.mp (variableNumbers_coptLines s l hl hnl)
    omega

theorem terms_header (direction : Direction) (rest : List Char) :
    terms (directionHeader direction ++ ' ' :: rest) = terms rest := by
  have hgap : Expression.Gap (directionHeader direction) := by cases direction <;> decide
  have hblank : ∀ c ∈ (' ' :: rest).head?, isDigit c = false :=
    Expression.head_not_digit (by decide) rest
  have hstart : (directionHeader direction).foldl Coefficient.next .start = .start := by
    cases direction <;> decide
  calc terms (directionHeader direction ++ ' ' :: rest)
      = termsAfter .start ([' '] ++ rest) := by
        rw [terms, Expression.termsAfter_gap hgap hblank, hstart, List.singleton_append]
    _ = terms rest := Expression.termsAfter_skip (by decide) .start rest

theorem objectiveFragments_copt (s : Sheet) :
    Copt.objectiveFragments (outline s.copt)
      = [directionHeader s.direction, ' ' :: expression s.cost] := by
  have hobjective : Copt.afterLabel (labelled ['o', 'b', 'j'] (expression s.cost))
      = ' ' :: expression s.cost := afterLabel_labelled (by decide) _
  have hheader : Copt.afterLabel (directionHeader s.direction) = directionHeader s.direction := by
    cases s.direction <;> decide
  rw [Copt.objectiveFragments, outline_copt]
  simp [List.filter_map, hobjective, hheader]

theorem terms_objective (s : Sheet) :
    terms (join [' '] (Copt.objectiveFragments (outline s.copt))) = termsOf 1 s.cost := by
  have hpadded : terms (' ' :: (expression s.cost ++ [])) = termsOf 1 s.cost :=
    terms_padded s.cost (limit_below_numbers s) (by simp) List.not_mem_nil
  have hjoin : join [' '] (Copt.objectiveFragments (outline s.copt))
      = directionHeader s.direction ++ ' ' :: ' ' :: (expression s.cost ++ []) := by
    rw [objectiveFragments_copt, List.append_nil]
    change directionHeader s.direction ++ [' '] ++ _ = _
    rw [List.append_assoc]
    rfl
  rw [hjoin, terms_header, hpadded]

theorem costRow_copt (s : Sheet) :
    Copt.costRow s.cost.length (join [' '] (Copt.objectiveFragments (outline s.copt)))
      = s.cost.map Token.cell := by
  have hterms : termsOf 1 s.cost = s.cost.zipIdx.map fun e => ⟨e.1.text, e.2 + 1⟩ := by
    have hone := termsOf_one id s.cost
    rw [List.map_id] at hone
    exact hone
  have hentries : (termsOf 1 s.cost).filterMap
      (fun t => t.column?.map fun column => (column, String.ofList t.coefficient))
      = s.cost.zipIdx.map fun e => (e.2, e.1.cell) := by
    rw [hterms, List.filterMap_map, ← List.filterMap_eq_map]
    apply List.filterMap_congr
    intro e _
    simp [Term.column?, Token.cell]
  rw [Copt.costRow, Copt.costEntries, terms_objective, hentries]
  exact row_map_zipIdx "0" Token.cell s.cost

theorem linesOf_copt (s : Sheet) :
    Copt.linesOf .constraints (outline s.copt)
      = numbered 4 (constraintTexts 1 (s.rows.zip s.rhs)) := by
  rw [Copt.linesOf, outline_copt]
  simp [List.filter_map, Function.comp_def]

theorem direction_copt (s : Sheet) : Copt.direction (outline s.copt) = s.direction := by
  have hbody (body : List Line) :
      (body.map (fun line => (⟨line, none, .constraints⟩ : Place))).filterMap Place.direction?
        = [] := by
    rw [List.filterMap_map]
    exact List.filterMap_eq_nil_iff.mpr fun line _ => rfl
  have hgiven : (outline s.copt).filterMap Place.direction? = [s.direction] := by
    rw [outline_copt]
    change s.direction :: List.filterMap Place.direction? (List.map _ _ ++ [_]) = _
    rw [List.filterMap_append, hbody]
    rfl
  rw [Copt.direction, hgiven]
  rfl

theorem read_copt (leniency : Leniency) (s : Sheet) :
    (Copt.read leniency s.copt).outcome = .ok (s.program Numeral.value) := by
  have hwide := s.wide
  have hwidth : ∀ c ∈ s.rows.zip s.rhs, c.1.length = s.cost.length := fun c hc =>
    s.width_eq c.1 (List.of_mem_zip hc).1
  have hbody : Copt.read leniency s.copt
      = Copt.readBody leniency s.cost.length (outline s.copt) := by
    rcases Copt.read_cases leniency s.copt with ⟨w, hw, -, -, hr⟩ | ⟨w, hw, hlarge, -⟩ | ⟨hzero, -⟩
    · rw [largestVariable_copt] at hw
      cases hw
      exact hr
    · rw [largestVariable_copt] at hw
      cases hw
      exact absurd s.limited (Nat.not_le.mpr hlarge)
    · have h := hzero _ (largestVariable_copt s)
      omega
  have hread : (Copt.linesOf .constraints (outline s.copt)).mapM
      (fun line => (readConstraint leniency s.cost.length line).outcome)
      = .ok ((s.rows.zip s.rhs).map fun c => some ⟨c.1.map Numeral.value, c.2.value⟩) := by
    rw [linesOf_copt]
    exact readConstraints_texts leniency (limit_below_numbers s) hwidth 1 4
  have hrows : ((s.rows.zip s.rhs).map fun c =>
      Constraint.mk (c.1.map Numeral.value) c.2.value).map (·.row)
      = s.rows.map (·.map Numeral.value) := by
    have hfst : (s.rows.zip s.rhs).map Prod.fst = s.rows :=
      List.map_fst_zip (Nat.le_of_eq s.height_eq)
    rw [List.map_map, ← hfst, List.map_map, hfst]
    rfl
  have hrhs : ((s.rows.zip s.rhs).map fun c =>
      Constraint.mk (c.1.map Numeral.value) c.2.value).map (·.rhs)
      = s.rhs.map Numeral.value := by
    have hsnd : (s.rows.zip s.rhs).map Prod.snd = s.rhs :=
      List.map_snd_zip (Nat.le_of_eq s.height_eq.symm)
    rw [List.map_map, ← hsnd, List.map_map, hsnd]
    rfl
  rw [hbody, Copt.readBody_outcome, hread, costRow_copt, direction_copt]
  change (Program.make _ (((List.filterMap id _)).map _) ((List.filterMap id _).map _) _
    _).mapError _ = _
  rw [filterMap_id_some, hrows, hrhs, s.make_program]
  rfl

end Tableaux.Notation
