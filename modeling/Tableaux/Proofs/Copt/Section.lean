import Mathlib.Data.List.Induction
import Tableaux.Proofs.Copt.Outline

/-!
# Sections told from the headers above

No text starts with two different header words. So a line is a header of one kind, and
what another line belongs to is decided by the nearest header above it, however often
sections were left and entered again.
-/
namespace Tableaux.Copt

open Text (Line lowercase)

/-- The lowercase text of a line starts with a word. -/
def Starts (word : String) (line : Line) : Prop := word.toList <+: lowercase line.text

instance (word : String) (line : Line) : Decidable (Starts word line) :=
  inferInstanceAs (Decidable (_ <+: _))

def IsHeader (line : Line) : Prop :=
  ∃ word ∈ ["min", "max", "sub", "bound", "end"], Starts word line

instance (line : Line) : Decidable (IsHeader line) :=
  inferInstanceAs (Decidable (∃ word ∈ _, _))

theorem words_incomparable : ∀ a ∈ Header.words, ∀ b ∈ Header.words, a.1 <+: b.1 → a = b := by
  decide

theorem words_distinct : ∀ a ∈ Header.words, ∀ b ∈ Header.words, a.2 = b.2 → a = b := by
  decide

theorem header_iff_starts {word : String} {header : Header}
    (h : (word.toList, header) ∈ Header.words) (line : Line) :
    Header.ofLine? line = some header ↔ Starts word line := by
  rw [Header.ofLine?, Option.map_eq_some_iff]
  constructor
  · rintro ⟨found, hfind, hsame⟩
    have hmem := List.mem_of_find?_eq_some hfind
    have hfound := List.find?_some hfind
    rw [words_distinct found hmem _ h hsame] at hfound
    exact List.isPrefixOf_iff_prefix.mp hfound
  · intro hstarts
    have hword : (word.toList.isPrefixOf (lowercase line.text)) = true :=
      List.isPrefixOf_iff_prefix.mpr hstarts
    obtain ⟨found, hfind⟩ := Option.isSome_iff_exists.mp
      (List.find?_isSome (p := fun w : List Char × Header =>
        w.1.isPrefixOf (lowercase line.text)) |>.mpr ⟨_, h, hword⟩)
    refine ⟨found, hfind, ?_⟩
    have hmem := List.mem_of_find?_eq_some hfind
    have hprefix := List.find?_some hfind
    have hfound : found.1 <+: lowercase line.text := List.isPrefixOf_iff_prefix.mp hprefix
    -- Two prefixes of one text are comparable, and no two header words are.
    rcases List.prefix_or_prefix_of_prefix hfound hstarts with hle | hle
    · rw [words_incomparable found hmem _ h hle]
    · rw [← words_incomparable _ h found hmem hle]

theorem starts_sub_iff (line : Line) :
    Header.ofLine? line = some .constraints ↔ Starts "sub" line :=
  header_iff_starts (by decide) line

theorem starts_min_iff (line : Line) :
    Header.ofLine? line = some (.objective .minimize) ↔ Starts "min" line :=
  header_iff_starts (by decide) line

theorem starts_max_iff (line : Line) :
    Header.ofLine? line = some (.objective .maximize) ↔ Starts "max" line :=
  header_iff_starts (by decide) line

theorem header_none_iff (line : Line) : Header.ofLine? line = none ↔ ¬ IsHeader line := by
  rw [Header.ofLine?, Option.map_eq_none_iff, List.find?_eq_none]
  simp [Header.words, IsHeader, Starts, List.isPrefixOf_iff_prefix]

theorem isHeader_of_some {line : Line} {header : Header} (h : Header.ofLine? line = some header) :
    IsHeader line := by
  by_contra hn
  rw [(header_none_iff line).mpr hn] at h
  cases h

theorem getLast_filter_append {α : Type} (p : α → Bool) (xs : List α) (x : α) :
    ((xs ++ [x]).filter p).getLast? = if p x then some x else (xs.filter p).getLast? := by
  cases h : p x with
  | true => simp [List.filter_append, h]
  | false => simp [List.filter_append, h]

/-- The last one of the headers among the lines above. -/
def nearestHeader? (above : List Line) : Option Line :=
  (above.filter fun line => IsHeader line).getLast?

theorem nearestHeader_append (above : List Line) (line : Line) :
    nearestHeader? (above ++ [line]) =
      if IsHeader line then some line else nearestHeader? above := by
  rw [nearestHeader?, getLast_filter_append]
  simp only [decide_eq_true_eq, nearestHeader?]

/-- What the lines are below some others, the first of which are of the given part. -/
def partBelow (part : Part) (above : List Line) : Part :=
  (((above.filterMap Header.ofLine?).getLast?).map Header.part).getD part

theorem partBelow_cons (part : Part) (line : Line) (above : List Line) :
    partBelow part (line :: above) =
      partBelow (((Header.ofLine? line).map Header.part).getD part) above := by
  cases h : Header.ofLine? line with
  | none => rw [partBelow, List.filterMap_cons_none h]; rfl
  | some header =>
    rw [partBelow, List.filterMap_cons_some h, List.getLast?_cons, partBelow]
    cases (above.filterMap Header.ofLine?).getLast? <;> rfl

theorem partBelow_append (part : Part) (above : List Line) (line : Line) :
    partBelow part (above ++ [line]) =
      ((Header.ofLine? line).map Header.part).getD (partBelow part above) := by
  cases h : Header.ofLine? line with
  | none => simp [partBelow, List.filterMap_append, h]
  | some header => simp [partBelow, List.filterMap_append, h]

theorem outlineBelow_append (part : Part) (ls : List Line) (line : Line) :
    outlineBelow part (ls ++ [line]) = outlineBelow part ls ++
      [⟨line, Header.ofLine? line, partBelow part (ls ++ [line])⟩] := by
  induction ls generalizing part with
  | nil => rw [List.nil_append, partBelow_cons]; rfl
  | cons first ls ih =>
    rw [List.cons_append, outlineBelow, ih, outlineBelow, List.cons_append, partBelow_cons]

/-- Each line is placed by itself and by what stands above it. -/
theorem outlineBelow_eq (part : Part) (ls : List Line) :
    outlineBelow part ls = ls.zipIdx.map fun (line, k) =>
      ⟨line, Header.ofLine? line, partBelow part (ls.take k ++ [line])⟩ := by
  -- Lines are added at the end, where they change nothing for the lines in front.
  induction ls using List.reverseRecOn with
  | nil => rfl
  | append_singleton ls line ih =>
    rw [outlineBelow_append, ih, List.zipIdx_append, List.map_append]
    congr 1
    · apply List.map_congr_left
      rintro ⟨l, k⟩ hmem
      have hk : k < ls.length := by simpa using (List.mem_zipIdx hmem).2.1
      simp only [List.take_append_of_le_length (Nat.le_of_lt hk)]
    · simp

theorem filter_outline {q : Place → Bool} {P : List Line → Line → Prop}
    [∀ above line, Decidable (P above line)]
    (h : ∀ above line, q ⟨line, Header.ofLine? line, partBelow .skipped (above ++ [line])⟩ =
      decide (P above line)) (ls : List Line) :
    ((outlineBelow .skipped ls).filter q).map (·.line) =
      (ls.zipIdx.filter fun (line, k) => P (ls.take k) line).map (·.1) := by
  have hq : (q ∘ fun (line, k) =>
      (⟨line, Header.ofLine? line, partBelow .skipped (ls.take k ++ [line])⟩ : Place))
      = fun (line, k) => decide (P (ls.take k) line) := by
    funext ⟨line, k⟩
    exact h (ls.take k) line
  rw [outlineBelow_eq, List.filter_map, List.map_map, hq]
  rfl

def Opens (part : Part) (line : Line) : Prop :=
  ∃ header, Header.ofLine? line = some header ∧ header.part = part

theorem partBelow_iff {part : Part} (hpart : part ≠ .skipped) (above : List Line) :
    partBelow .skipped above = part ↔
      ∃ header, nearestHeader? above = some header ∧ Opens part header := by
  induction above using List.reverseRecOn with
  | nil => simpa [partBelow, nearestHeader?] using hpart.symm
  | append_singleton above line ih =>
    rw [partBelow_append, nearestHeader_append]
    cases h : Header.ofLine? line with
    | none =>
      rw [if_neg ((header_none_iff line).mp h)]
      exact ih
    | some header =>
      rw [if_pos (isHeader_of_some h)]
      simp [Opens, h]

theorem opens_constraints_iff (line : Line) : Opens .constraints line ↔ Starts "sub" line := by
  rw [← starts_sub_iff]
  constructor
  · rintro ⟨header, hheader, hpart⟩
    cases header with
    | objective direction => cases hpart
    | constraints => exact hheader
    | bounds => cases hpart
    | finish => cases hpart
  · intro h
    exact ⟨.constraints, h, rfl⟩

theorem opens_objective_iff (line : Line) :
    Opens .objective line ↔ Starts "min" line ∨ Starts "max" line := by
  rw [← starts_min_iff, ← starts_max_iff]
  constructor
  · rintro ⟨header, hheader, hpart⟩
    rw [hheader]
    cases header with
    | objective direction => cases direction <;> simp
    | constraints => cases hpart
    | bounds => cases hpart
    | finish => cases hpart
  · rintro (h | h)
    · exact ⟨_, h, rfl⟩
    · exact ⟨_, h, rfl⟩

/-- A line that is no header, and whose nearest header above starts with `sub`. -/
def IsConstraint (above : List Line) (line : Line) : Prop :=
  ¬ IsHeader line ∧ ∃ header, nearestHeader? above = some header ∧ Starts "sub" header

instance (above : List Line) (line : Line) : Decidable (IsConstraint above line) :=
  decidable_of_iff
    (¬ IsHeader line ∧ (nearestHeader? above).any (fun header => Starts "sub" header) = true)
    (by simp [IsConstraint, Option.any_eq_true])

def constraintLines (ls : List Line) : List Line :=
  (ls.zipIdx.filter fun (line, k) => IsConstraint (ls.take k) line).map (·.1)

theorem isConstraint_iff (above : List Line) (line : Line) :
    (partBelow .skipped (above ++ [line]) = .constraints ∧ Header.ofLine? line = none) ↔
      IsConstraint above line := by
  simp only [IsConstraint, ← opens_constraints_iff, ← header_none_iff]
  rw [← partBelow_iff (by decide), partBelow_append, and_comm]
  apply and_congr_right
  intro hnone
  rw [hnone]
  rfl

theorem linesOf_constraints (ls : List Line) :
    linesOf .constraints (outlineBelow .skipped ls) = constraintLines ls :=
  filter_outline (fun above line => decide_eq_decide.mpr (isConstraint_iff above line)) ls

/-- A header with a direction, or a line that is no header and whose nearest header above has
one. -/
def IsObjective (above : List Line) (line : Line) : Prop :=
  (Starts "min" line ∨ Starts "max" line) ∨
    ¬ IsHeader line ∧ ∃ header, nearestHeader? above = some header ∧
      (Starts "min" header ∨ Starts "max" header)

instance (above : List Line) (line : Line) : Decidable (IsObjective above line) :=
  decidable_of_iff
    ((Starts "min" line ∨ Starts "max" line) ∨ ¬ IsHeader line ∧ (nearestHeader? above).any
      (fun header => Starts "min" header ∨ Starts "max" header) = true)
    (by simp [IsObjective, Option.any_eq_true])

def objectiveLines (ls : List Line) : List Line :=
  (ls.zipIdx.filter fun (line, k) => IsObjective (ls.take k) line).map (·.1)

theorem isObjective_iff (above : List Line) (line : Line) :
    partBelow .skipped (above ++ [line]) = .objective ↔ IsObjective above line := by
  simp only [IsObjective, ← opens_objective_iff]
  rw [← partBelow_iff (by decide), partBelow_append]
  cases h : Header.ofLine? line with
  | none =>
    have hopens : ¬ Opens .objective line := by
      rintro ⟨header, hheader, -⟩
      rw [h] at hheader
      cases hheader
    simp [hopens, (header_none_iff line).mp h]
  | some header => simp [Opens, h, isHeader_of_some h]

theorem objectiveFragments_lines (ls : List Line) :
    objectiveFragments (outlineBelow .skipped ls) =
      (objectiveLines ls).map fun line => afterLabel line.text := by
  rw [objectiveLines, ← filter_outline (q := fun place => place.part = .objective)
    (fun above line => decide_eq_decide.mpr (isObjective_iff above line)), List.map_map]
  rfl

/-- The last line that starts with `min` or `max`. -/
def directionLine? (ls : List Line) : Option Line :=
  (ls.filter fun line => Starts "min" line ∨ Starts "max" line).getLast?

theorem directionLine_append (ls : List Line) (line : Line) :
    directionLine? (ls ++ [line]) =
      if Starts "min" line ∨ Starts "max" line then some line else directionLine? ls := by
  rw [directionLine?, getLast_filter_append]
  simp only [decide_eq_true_eq, directionLine?]

theorem direction_append (places : List Place) (place : Place) :
    direction (places ++ [place]) = place.direction?.getD (direction places) := by
  cases h : place.direction? with
  | none => simp [direction, List.filterMap_append, h]
  | some d => simp [direction, List.filterMap_append, h]

theorem direction_of_line (line : Line) (part : Part) :
    Place.direction? ⟨line, Header.ofLine? line, part⟩ =
      if Starts "min" line then some .minimize
      else if Starts "max" line then some .maximize else none := by
  simp only [← starts_min_iff, ← starts_max_iff]
  cases h : Header.ofLine? line with
  | none => rfl
  | some header =>
    cases header with
    | objective d => cases d <;> rfl
    | constraints => rfl
    | bounds => rfl
    | finish => rfl

theorem direction_outline (part : Part) (ls : List Line) :
    direction (outlineBelow part ls) = match directionLine? ls with
      | none => .minimize
      | some line => if Starts "min" line then .minimize else .maximize := by
  induction ls using List.reverseRecOn with
  | nil => rfl
  | append_singleton ls line ih =>
    rw [outlineBelow_append, direction_append, directionLine_append, direction_of_line, ih]
    by_cases hmin : Starts "min" line
    · simp [hmin]
    · by_cases hmax : Starts "max" line
      · simp [hmin, hmax]
      · simp [hmin, hmax]

end Tableaux.Copt
