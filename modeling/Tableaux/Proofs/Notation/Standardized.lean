import Tableaux.Proofs.Notation.Sheet
import Tableaux.Proofs.Standardized.Reader

/-!
# Sheets in standardized notation

A sheet is written as five keyed lines. Reading them back fills the draft line by line
with the cost tokens and the values of the numerals, with either leniency.
-/
namespace Tableaux.Notation

open Reading (readReal)
open Standardized (Draft Key readLine readNumbers readValue)
open Text (Line Tight isBlank join pieces trim lowercase)

def listed (tokens : List Token) : List Char := join [',', ' '] (tokens.map Token.text)

def listedRow (row : List Numeral) : List Char := listed (row.map Numeral.toToken)

def directionWord : Direction → List Char
  | .minimize => ['m', 'i', 'n']
  | .maximize => ['m', 'a', 'x']

def Sheet.standardizedLines (s : Sheet) : List (List Char) :=
  [labelled ['c'] (listed s.cost), labelled ['A'] (join [';', ' '] (s.rows.map listedRow)),
    labelled ['b'] (listedRow s.rhs), labelled ['o', 'b', 'j'] (directionWord s.direction),
    labelled ['r', 'u', 'l', 'e'] ['b', 'l', 'a', 'n', 'd']]

def Sheet.standardized (s : Sheet) : List Char := join ['\n'] s.standardizedLines

theorem not_mem_listed {c : Char} (hc : isTyped c = false) (hsep : c ∉ [',', ' '])
    (tokens : List Token) : c ∉ listed tokens := by
  apply Text.not_mem_join hsep
  intro p hp
  obtain ⟨t, -, rfl⟩ := List.mem_map.mp hp
  exact t.not_mem_text hc

theorem listed_tight {tokens : List Token} (hne : tokens ≠ []) : Tight (listed tokens) := by
  refine Tight.join (by simpa using hne) ?_ _
  intro p hp
  obtain ⟨t, -, rfl⟩ := List.mem_map.mp hp
  exact t.tight

theorem listedRow_tight {row : List Numeral} (hne : row ≠ []) : Tight (listedRow row) :=
  listed_tight (by simpa using hne)

theorem trim_pieces_listed (lead : List Char) (hlead : lead.all isBlank = true)
    {tokens : List Token} (hne : tokens ≠ []) :
    (pieces ',' (lead ++ listed tokens)).map trim = tokens.map Token.text := by
  have hcomma : ∀ p ∈ tokens.map Token.text, ',' ∉ p := by
    intro p hp
    obtain ⟨t, -, rfl⟩ := List.mem_map.mp hp
    exact t.not_mem_text (by decide)
  have htrim : (tokens.map Token.text).map trim = tokens.map Token.text := by
    rw [List.map_map]
    exact List.map_congr_left fun t _ => t.tight.trim
  exact (Text.trim_pieces_join (by decide) lead hlead (by simpa using hne) hcomma).trans htrim

theorem readNumbers_listed (leniency : Leniency) (line : Line) (lead : List Char)
    (hlead : lead.all isBlank = true) {row : List Numeral} (hne : row ≠ []) :
    (readNumbers leniency line (lead ++ listedRow row)).outcome
      = .ok (row.map Numeral.value) := by
  let real (text : List Char) := (readReal leniency line text).outcome
  -- Numbers are trimmed when they are read, so pieces may be compared trimmed.
  have htrim : real ∘ trim = real := funext fun text => by
    simp only [real, Function.comp_apply, Reading.readReal_trim]
  have hpieces : (pieces ',' (lead ++ listedRow row)).map trim
      = (row.map Numeral.toToken).map Token.text :=
    trim_pieces_listed lead hlead (by simpa using hne)
  calc (readNumbers leniency line (lead ++ listedRow row)).outcome
      = (pieces ',' (lead ++ listedRow row)).mapM real :=
        Standardized.readNumbers_outcome leniency line _
    _ = ((pieces ',' (lead ++ listedRow row)).map trim).mapM real := by
        rw [List.mapM_map, htrim]
    _ = row.mapM (fun n => real n.text) := by
        rw [hpieces, List.mapM_map, List.mapM_map]
        rfl
    _ = .ok (row.map Numeral.value) :=
        Reading.mapM_ok fun n _ => readReal_numeral leniency line n

theorem readLine_labelled {name body : List Char} (key : Key) (hname : ':' ∉ name)
    (hkey : Key.ofName? (String.ofList (lowercase (trim name))) = some key) (hb : Tight body)
    (leniency : Leniency) (draft : Draft) (number : Nat) :
    readLine leniency draft ⟨number, labelled name body⟩
      = readValue leniency ⟨number, labelled name body⟩ draft body key := by
  have hbody : trim (' ' :: body) = body := by
    rw [Text.trim_cons (by decide), hb.trim]
  have hcut : Text.cut? ':' (labelled name body) = some (name, ' ' :: body) :=
    Text.cut_append hname _
  simp only [readLine, hcut, hkey, hbody]

theorem readValue_rows (leniency : Leniency) (line : Line) (draft : Draft)
    {rows : List (List Numeral)} (hne : rows ≠ []) (hrows : ∀ row ∈ rows, row ≠ []) :
    (readValue leniency line draft (join [';', ' '] (rows.map listedRow)) .constraints).outcome
      = .ok { draft with constraints := some (rows.map (·.map Numeral.value)) } := by
  obtain ⟨row, others, rfl⟩ := List.exists_cons_of_ne_nil hne
  have hsemi : ∀ p ∈ listedRow row :: others.map listedRow, ';' ∉ p := by
    intro p hp
    rw [← List.map_cons] at hp
    obtain ⟨r, -, rfl⟩ := List.mem_map.mp hp
    exact not_mem_listed (by decide) (by decide) _
  have hpieces : pieces ';' (join [';', ' '] ((row :: others).map listedRow))
      = listedRow row :: (others.map listedRow).map ([' '] ++ ·) :=
    Text.pieces_join (show ';' ∉ [' '] by decide) [] (by decide) _ _ hsemi
  have hfirst : (readNumbers leniency line (listedRow row)).outcome
      = .ok (row.map Numeral.value) :=
    readNumbers_listed leniency line [] (by decide) (hrows row List.mem_cons_self)
  have hothers : ((others.map listedRow).map ([' '] ++ ·)).mapM
      (fun piece => (readNumbers leniency line piece).outcome)
      = .ok (others.map (·.map Numeral.value)) := by
    rw [List.mapM_map, List.mapM_map]
    exact Reading.mapM_ok fun r hr => readNumbers_listed leniency line [' '] (by decide)
      (hrows r (List.mem_cons_of_mem _ hr))
  rw [Standardized.readConstraints_outcome, hpieces, List.mapM_cons, hfirst, hothers]
  rfl

theorem readValue_cost (leniency : Leniency) (line : Line) (draft : Draft) {cost : List Token}
    (hne : cost ≠ []) :
    readValue leniency line draft (listed cost) .cost
      = pure { draft with cost := some (cost.map Token.cell) } := by
  have hpieces : (pieces ',' (listed cost)).map trim = cost.map Token.text :=
    trim_pieces_listed [] (by decide) hne
  have hcells : (pieces ',' (listed cost)).map (fun t => String.ofList (trim t))
      = cost.map Token.cell := by
    calc (pieces ',' (listed cost)).map (fun t => String.ofList (trim t))
        = ((pieces ',' (listed cost)).map trim).map String.ofList := by rw [List.map_map]; rfl
      _ = cost.map Token.cell := by rw [hpieces, List.map_map]; rfl
  rw [readValue, hcells]

theorem readDirection_word (direction : Direction) :
    Standardized.readDirection (directionWord direction) = direction := by
  cases direction <;> decide +kernel

theorem directionWord_tight (direction : Direction) : Tight (directionWord direction) := by
  cases direction <;> exact Text.tight_ends (by decide) (by decide)

theorem rows_tight (s : Sheet) : Tight (join [';', ' '] (s.rows.map listedRow)) := by
  refine Tight.join (by simpa using s.rows_filled) ?_ _
  intro p hp
  obtain ⟨row, hrow, rfl⟩ := List.mem_map.mp hp
  exact listedRow_tight (s.row_filled hrow)

theorem tight_standardizedLines (s : Sheet) : ∀ l ∈ s.standardizedLines, Tight l := by
  have hrhs : Tight (listedRow s.rhs) := listedRow_tight s.rhs_filled
  have hrule : Tight ['b', 'l', 'a', 'n', 'd'] := Text.tight_ends (by decide) (by decide)
  intro l hl
  simp only [Sheet.standardizedLines, List.mem_cons, List.not_mem_nil, or_false] at hl
  rcases hl with rfl | rfl | rfl | rfl | rfl
  · exact labelled_tight (Text.tight_ends (by decide) (by decide)) (listed_tight s.cost_filled)
  · exact labelled_tight (Text.tight_ends (by decide) (by decide)) (rows_tight s)
  · exact labelled_tight (Text.tight_ends (by decide) (by decide)) hrhs
  · exact labelled_tight (Text.tight_ends (by decide) (by decide)) (directionWord_tight s.direction)
  · exact labelled_tight (Text.tight_ends (by decide) (by decide)) hrule

theorem unbroken_standardizedLines (s : Sheet) : ∀ l ∈ s.standardizedLines, '\n' ∉ l := by
  have hlisted (tokens : List Token) : '\n' ∉ listed tokens :=
    not_mem_listed (by decide) (by decide) tokens
  have hrows : '\n' ∉ join [';', ' '] (s.rows.map listedRow) := by
    apply Text.not_mem_join (by decide)
    intro p hp
    obtain ⟨row, -, rfl⟩ := List.mem_map.mp hp
    exact hlisted _
  have hdirection : '\n' ∉ directionWord s.direction := by
    cases s.direction <;> decide
  intro l hl
  simp only [Sheet.standardizedLines, List.mem_cons, List.not_mem_nil, or_false] at hl
  rcases hl with rfl | rfl | rfl | rfl | rfl
  · exact not_mem_labelled (by decide) (by decide) (hlisted s.cost)
  · exact not_mem_labelled (by decide) (by decide) hrows
  · exact not_mem_labelled (by decide) (by decide) (hlisted _)
  · exact not_mem_labelled (by decide) (by decide) hdirection
  · exact not_mem_labelled (by decide) (by decide) (by decide)

theorem draft_of_lines (leniency : Leniency) (s : Sheet) :
    (Text.lines s.standardized).foldlM
        (fun draft line => (readLine leniency draft line).outcome) Draft.empty
      = .ok ⟨some (s.cost.map Token.cell), some (s.rows.map (·.map Numeral.value)),
          some (s.rhs.map Numeral.value), s.direction, .bland⟩ := by
  have hstep {draft draft' : Draft} {line : Line}
      (h : (readLine leniency draft line).outcome = .ok draft') (rest : List Line) :
      (line :: rest).foldlM (fun draft line => (readLine leniency draft line).outcome) draft
        = rest.foldlM (fun draft line => (readLine leniency draft line).outcome) draft' :=
    Reading.foldlM_step h rest
  have hcost (draft : Draft) (number : Nat) : (readLine leniency draft
      ⟨number, labelled ['c'] (listed s.cost)⟩).outcome
      = .ok { draft with cost := some (s.cost.map Token.cell) } := by
    rw [readLine_labelled .cost (by decide) (by decide +kernel) (listed_tight s.cost_filled),
      readValue_cost leniency _ draft s.cost_filled]
    rfl
  have hrows (draft : Draft) (number : Nat) : (readLine leniency draft
      ⟨number, labelled ['A'] (join [';', ' '] (s.rows.map listedRow))⟩).outcome
      = .ok { draft with constraints := some (s.rows.map (·.map Numeral.value)) } := by
    rw [readLine_labelled .constraints (by decide) (by decide +kernel) (rows_tight s)]
    exact readValue_rows leniency _ draft s.rows_filled fun row hrow => s.row_filled hrow
  have hrhs (draft : Draft) (number : Nat) : (readLine leniency draft
      ⟨number, labelled ['b'] (listedRow s.rhs)⟩).outcome
      = .ok { draft with rhs := some (s.rhs.map Numeral.value) } := by
    have hread := readNumbers_listed leniency ⟨number, labelled ['b'] (listedRow s.rhs)⟩
      [] (by decide) s.rhs_filled
    rw [List.nil_append] at hread
    rw [readLine_labelled .rhs (by decide) (by decide +kernel)
      (listedRow_tight s.rhs_filled), Standardized.readRhs_outcome, hread]
    rfl
  have hdirection (draft : Draft) (number : Nat) : (readLine leniency draft
      ⟨number, labelled ['o', 'b', 'j'] (directionWord s.direction)⟩).outcome
      = .ok { draft with direction := s.direction } := by
    rw [readLine_labelled .direction (by decide) (by decide +kernel)
      (directionWord_tight s.direction), readValue, readDirection_word]
    rfl
  have hrule (draft : Draft) (number : Nat) : (readLine leniency draft
      ⟨number, labelled ['r', 'u', 'l', 'e'] ['b', 'l', 'a', 'n', 'd']⟩).outcome
      = .ok { draft with pivotRule := .bland } := by
    rw [readLine_labelled .pivotRule (by decide) (by decide +kernel)
      (Text.tight_ends (by decide) (by decide))]
    rfl
  rw [Sheet.standardized,
    Text.lines_join (unbroken_standardizedLines s) (tight_standardizedLines s)]
  simp only [Sheet.standardizedLines, Text.numbered_cons]
  rw [hstep (hcost _ _), hstep (hrows _ _), hstep (hrhs _ _), hstep (hdirection _ _),
    hstep (hrule _ _)]
  rfl

theorem read_standardized (leniency : Leniency) (s : Sheet) :
    (Standardized.read leniency s.standardized).outcome = .ok (s.program Numeral.value) := by
  rw [Standardized.read_outcome, draft_of_lines]
  change (Program.make _ _ _ _ _).mapError _ = _
  rw [s.make_program]
  rfl

end Tableaux.Notation
