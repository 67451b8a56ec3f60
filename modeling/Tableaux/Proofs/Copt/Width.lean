import Tableaux.Proofs.Copt.Reader
import Tableaux.Proofs.Expression.Variable

/-!
# The width of a program in COPT notation

Rows are as wide as the largest variable of the whole text demands. Every term that
is scanned from the objective or from a constraint belongs to a variable of the text,
so it has a place in its row, and the parts always fit together: reading leniently
fails only if there are no variables or too many of them.
-/
namespace Tableaux.Copt

open Expression (terms Term largestVariable? variableNumbers variableNumber?)
open Text (Line lines pieces join)

theorem lines_outlineBelow (part : Part) (ls : List Line) :
    (outlineBelow part ls).map Place.line = ls := by
  induction ls generalizing part with
  | nil => rfl
  | cons line rest ih => rw [outlineBelow, List.map_cons, ih]

theorem lines_outline (text : List Char) : (outline text).map Place.line = lines text :=
  lines_outlineBelow .skipped (lines text)

theorem line_mem_of_mem_outline {text : List Char} {p : Place} (h : p ∈ outline text) :
    p.line ∈ lines text := by
  rw [← lines_outline]
  exact List.mem_map_of_mem h

theorem line_mem_of_mem_linesOf {text : List Char} {part : Part} {line : Line}
    (h : line ∈ linesOf part (outline text)) : line ∈ lines text := by
  obtain ⟨p, hp, rfl⟩ := List.mem_map.mp h
  exact line_mem_of_mem_outline (List.mem_filter.mp hp).1

theorem variableNumbers_afterLabel (text : List Char) :
    variableNumbers (afterLabel text) ⊆ variableNumbers text := by
  unfold afterLabel
  split
  · rename_i name body hcut
    obtain ⟨htext, -⟩ := Text.cut_eq_some hcut
    rw [htext, Expression.variableNumbers_cut (by decide)]
    exact List.subset_append_right _ _
  · exact List.Subset.refl _

theorem variableNumbers_line {text : List Char} {line : Line} (h : line ∈ lines text) :
    variableNumbers line.text ⊆ variableNumbers text := by
  intro n hn
  rw [← Expression.variableNumbers_lines]
  exact List.mem_flatMap.mpr ⟨line, h, hn⟩

/-- A term that is scanned when a text is read: one of the joined objective, or one in
front of the relation of a constraint. -/
inductive Scanned (text : List Char) (t : Term) : Prop where
  | objective (h : t ∈ terms (join [' '] (objectiveFragments (outline text))))
  | constraint (line : Line) (left right : List Char) (others : List (List Char))
      (hline : line ∈ linesOf .constraints (outline text))
      (hcut : pieces '=' (afterLabel line.text) = left :: right :: others)
      (h : t ∈ terms left)

theorem scanned_variable {text : List Char} {t : Term} (h : Scanned text t) :
    t.number ∈ variableNumbers text := by
  cases h with
  | objective h =>
    have hn := Expression.number_mem_of_mem_terms h
    rw [Expression.variableNumbers_join (by decide), List.mem_flatMap] at hn
    obtain ⟨fragment, hf, hn⟩ := hn
    obtain ⟨p, hp, rfl⟩ := List.mem_map.mp hf
    have hline := line_mem_of_mem_outline (List.mem_filter.mp hp).1
    exact variableNumbers_line hline (variableNumbers_afterLabel _ hn)
  | constraint line left right others hline hcut h =>
    have hn : t.number ∈ variableNumbers (afterLabel line.text) := by
      rw [← Expression.variableNumbers_pieces (c := '=') (by decide), hcut]
      exact List.mem_append_left _ (Expression.number_mem_of_mem_terms h)
    exact variableNumbers_line (line_mem_of_mem_linesOf hline) (variableNumbers_afterLabel _ hn)

/-- A column that is written when a text is read: that of a cost, or that of a coefficient in front
of the relation of a constraint. -/
inductive Written (leniency : Leniency) (text : List Char) (column : Nat) : Prop where
  | cost (term : String)
      (h : (column, term) ∈ costEntries (join [' '] (objectiveFragments (outline text))))
  | coefficient (line : Line) (left right : List Char) (others : List (List Char)) (t : Term)
      (x : Float) (hline : line ∈ linesOf .constraints (outline text))
      (hcut : pieces '=' (afterLabel line.text) = left :: right :: others) (ht : t ∈ terms left)
      (h : (readEntry leniency line t).outcome = .ok (some (column, x)))

theorem scanned_of_written {leniency : Leniency} {text : List Char} {column : Nat}
    (h : Written leniency text column) : ∃ t, Scanned text t ∧ t.column? = some column := by
  cases h with
  | cost term h =>
    obtain ⟨t, ht, hentry⟩ := List.mem_filterMap.mp h
    obtain ⟨c, hcolumn, hpair⟩ := Option.map_eq_some_iff.mp hentry
    obtain ⟨rfl, -⟩ := Prod.mk.inj hpair
    exact ⟨t, .objective ht, hcolumn⟩
  | coefficient line left right others t x hline hcut ht h =>
    refine ⟨t, .constraint line left right others hline hcut ht, ?_⟩
    cases hcolumn : t.column? with
    | none =>
      rw [readEntry_none hcolumn] at h
      cases h
    | some c =>
      rw [readEntry_some hcolumn] at h
      obtain ⟨y, -, hy⟩ := Reading.bind_ok_iff.mp h
      obtain ⟨rfl, -⟩ := Prod.mk.inj (Option.some.inj (Except.ok.inj hy))
      rfl

theorem column_lt {t : Term} {width column : Nat} (h : t.number ≤ width)
    (hc : t.column? = some column) : column < width := by
  unfold Term.column? at hc
  split at hc
  · cases hc
  · cases hc
    omega

theorem read_not_inconsistent (leniency : Leniency) (text : List Char) (s : ShapeError) :
    (read leniency text).outcome ≠ .error (.inconsistent s) := by
  intro hs
  rcases read_cases leniency text with ⟨width, -, -, -, hr⟩ | ⟨width, -, -, hr⟩ | ⟨-, hr⟩
  · rw [hr] at hs
    exact (readBody_yields (Reading.refusing_reads leniency) width (outline text)).error hs
  · rw [hr] at hs; cases hs
  · rw [hr] at hs; cases hs

theorem read_lenient_ok_iff (text : List Char) :
    (∃ p, (read .lenient text).outcome = .ok p) ↔
      ∃ width, largestVariable? text = some width ∧ 1 ≤ width ∧ width ≤ maxVariables := by
  constructor
  · rintro ⟨p, hp⟩
    rcases read_cases .lenient text with ⟨width, hw, h1, h2, -⟩ | ⟨width, -, -, hr⟩ | ⟨-, hr⟩
    · exact ⟨width, hw, h1, h2⟩
    · rw [hr] at hp; cases hp
    · rw [hr] at hp; cases hp
  · rintro ⟨width, hw, h1, h2⟩
    rcases read_cases .lenient text with ⟨w, -, -, -, hr⟩ | ⟨w, hw', hlarge, -⟩ | ⟨hzero, -⟩
    · have htotal := readBody_yields Reading.lenient_reads w (outline text)
      rw [← hr] at htotal
      cases ho : (read .lenient text).outcome with
      | ok p => exact ⟨p, rfl⟩
      | error e => exact (htotal.error ho).elim
    · rw [hw] at hw'
      cases hw'
      exact absurd hlarge (Nat.not_lt.mpr h2)
    · have := hzero width hw
      omega

/-- Every scanned term has a place in its row, and so has every entry that is written. The parts of
the program fit together, rows and costs are as wide as the largest variable, and this variable alone
decides whether a text can be read leniently. -/
theorem read_is_dense (leniency : Leniency) (text : List Char) :
    (∀ t, Scanned text t → ∃ width, largestVariable? text = some width ∧ t.number ≤ width ∧
      ∀ column, t.column? = some column → column < width) ∧
    (∀ column, Written leniency text column →
      ∃ width, largestVariable? text = some width ∧ column < width) ∧
    (∀ s, (read leniency text).outcome ≠ .error (.inconsistent s)) ∧
    (∀ p, (read leniency text).outcome = .ok p →
      largestVariable? text = some p.cost.length ∧
      ∀ row ∈ p.constraints, largestVariable? text = some row.length) ∧
    ((∃ p, (read .lenient text).outcome = .ok p) ↔
      ∃ width, largestVariable? text = some width ∧ 1 ≤ width ∧ width ≤ 65536) := by
  have hscanned : ∀ t, Scanned text t → ∃ width, largestVariable? text = some width ∧
      t.number ≤ width ∧ ∀ column, t.column? = some column → column < width := by
    intro t ht
    obtain ⟨width, hw, hle⟩ := Expression.le_largestVariable (scanned_variable ht)
    exact ⟨width, hw, hle, fun column hc => column_lt hle hc⟩
  refine ⟨hscanned, ?_, ?_, ?_, ?_⟩
  · intro column hwritten
    obtain ⟨t, ht, hcolumn⟩ := scanned_of_written hwritten
    obtain ⟨width, hw, -, hplace⟩ := hscanned t ht
    exact ⟨width, hw, hplace column hcolumn⟩
  · exact read_not_inconsistent leniency text
  · intro p hp
    rcases read_cases leniency text with ⟨width, hw, -, -, hr⟩ | ⟨width, -, -, hr⟩ | ⟨-, hr⟩
    · rw [hr] at hp
      obtain ⟨hcost, -⟩ :=
        (readBody_yields (Reading.refusing_reads leniency) width (outline text)).ok hp
      rw [hw, ← hcost]
      exact ⟨rfl, fun row hrow => congrArg some (p.width_eq row hrow).symm⟩
    · rw [hr] at hp; cases hp
    · rw [hr] at hp; cases hp
  · exact read_lenient_ok_iff text

end Tableaux.Copt
