import Tableaux.Proofs.Copt.Entry
import Tableaux.Proofs.Standardized.Draft

/-!
# The first culprit

Strict reading refuses a text for the first line that offends: a constraint without relation, or
a line with a token that does not read as a finite number. Of several such tokens the first one
is named.
-/
namespace Tableaux

open Reading (Legible ReadError readReal)
open Text (Line lines pieces trim)

/-- A token that does not read as a finite number. -/
def Bad (token : List Char) : Prop :=
  ∀ x, Decimal.read (trim token) = some x → x.isFinite = false

theorem bad_iff {token : List Char} : Bad token ↔ ¬ Legible .strict token := by
  constructor
  · intro h hlegible
    obtain ⟨x, hx, hfinite⟩ := hlegible rfl
    rw [h x hx] at hfinite
    cases hfinite
  · intro h x hx
    by_contra hfinite
    exact h fun _ => ⟨x, hx, by simpa using hfinite⟩

def FirstBad (tokens : List (List Char)) (token : List Char) : Prop :=
  ∃ before after, tokens = before ++ token :: after ∧ Bad token ∧ ∀ t ∈ before, ¬ Bad t

theorem FirstBad.mem {tokens : List (List Char)} {token : List Char} (h : FirstBad tokens token) :
    ∃ t ∈ tokens, Bad t := by
  obtain ⟨before, after, rfl, hbad, -⟩ := h
  exact ⟨token, by simp, hbad⟩

theorem FirstBad.extend {front tokens : List (List Char)} {token : List Char}
    (h : FirstBad tokens token) (hfront : ∀ t ∈ front, ¬ Bad t) (back : List (List Char)) :
    FirstBad (front ++ tokens ++ back) token := by
  obtain ⟨before, after, rfl, hbad, hbefore⟩ := h
  refine ⟨front ++ before, after ++ back, by simp, hbad, ?_⟩
  intro t ht
  rcases List.mem_append.mp ht with ht | ht
  · exact hfront t ht
  · exact hbefore t ht

theorem firstBad_of_mapM {α β : Type} {f : α → Except ReadError β} (token : α → List Char)
    {line : Line} (hok : ∀ a b, f a = .ok b → Legible .strict (token a))
    (herror : ∀ a e, f a = .error e →
      ¬ Legible .strict (token a) ∧ e = .malformedNumber (trim (token a)) line)
    {xs : List α} {e : ReadError} (h : xs.mapM f = .error e) :
    ∃ t, FirstBad (xs.map token) t ∧ e = .malformedNumber (trim t) line := by
  obtain ⟨before, x, after, rfl, hbefore, hx⟩ := Reading.mapM_error h
  obtain ⟨hbad, he⟩ := herror x e hx
  refine ⟨token x, ⟨before.map token, after.map token, by simp, bad_iff.mpr hbad, ?_⟩, he⟩
  intro t ht hbadt
  obtain ⟨a, ha, rfl⟩ := List.mem_map.mp ht
  obtain ⟨b, hb⟩ := hbefore a ha
  exact bad_iff.mp hbadt (hok a b hb)

namespace Standardized

theorem readNumbers_error {line : Line} {value : List Char} {e : ReadError}
    (h : (readNumbers .strict line value).outcome = .error e) :
    ∃ t, FirstBad (pieces ',' value) t ∧ e = .malformedNumber (trim t) line := by
  rw [readNumbers_outcome] at h
  have hfirst := firstBad_of_mapM id (fun _ _ => Reading.legible_of_readReal)
    (fun _ _ => Reading.readReal_strict_error) h
  simpa using hfirst

theorem readLine_error {draft : Draft} {line : Line} {e : ReadError}
    (h : (readLine .strict draft line).outcome = .error e) :
    ∃ t, FirstBad (numberTokens line) t ∧ e = .malformedNumber (trim t) line := by
  rw [readLine_outcome] at h
  unfold numberTokens
  cases hkey : keyed? line with
  | none =>
    rw [hkey] at h
    cases h
  | some entry =>
    obtain ⟨key, value⟩ := entry
    rw [hkey] at h
    cases key with
    | constraints =>
      dsimp only at h
      rw [readConstraints_outcome] at h
      rcases Reading.bind_error_iff.mp h with h | ⟨rows, -, h⟩
      · obtain ⟨before, row, after, hpieces, hbefore, hrow⟩ := Reading.mapM_error h
        obtain ⟨t, hfirst, he⟩ := readNumbers_error hrow
        refine ⟨t, ?_, he⟩
        have hfront : ∀ t ∈ before.flatMap (pieces ','), ¬ Bad t := by
          intro t ht hbad
          obtain ⟨piece, hpiece, ht⟩ := List.mem_flatMap.mp ht
          obtain ⟨xs, hxs⟩ := hbefore piece hpiece
          exact bad_iff.mp hbad (legible_of_readNumbers hxs t ht)
        have hsplit : (pieces ';' value).flatMap (pieces ',') =
            before.flatMap (pieces ',') ++ pieces ',' row ++ after.flatMap (pieces ',') := by
          rw [hpieces, List.flatMap_append, List.flatMap_cons, List.append_assoc]
        dsimp only
        rw [hsplit]
        exact hfirst.extend hfront _
      · cases h
    | rhs =>
      dsimp only at h
      rw [readRhs_outcome] at h
      rcases Reading.bind_error_iff.mp h with h | ⟨xs, -, h⟩
      · exact readNumbers_error h
      · cases h
    | cost => cases h
    | direction => cases h
    | pivotRule => cases h

end Standardized

namespace Copt

open Expression (Term terms)

/-- The tokens of a constraint: the coefficients in front of its relation that have a column, and
its right side. -/
def constraintTokens (line : Line) : List (List Char) :=
  (counted (terms (leftSide line))).map (·.coefficient) ++ [rightSide line]

theorem entryOf_legible {line : Line} {t : Term} {entry : Nat × Float}
    (h : entryOf .strict line t = .ok entry) : Legible .strict t.coefficient := by
  unfold entryOf at h
  cases hread : (readReal .strict line t.coefficient).outcome with
  | ok x => exact Reading.legible_of_readReal hread
  | error e =>
    rw [hread] at h
    cases h

theorem entryOf_error {line : Line} {t : Term} {e : ReadError}
    (h : entryOf .strict line t = .error e) :
    ¬ Legible .strict t.coefficient ∧ e = .malformedNumber (trim t.coefficient) line := by
  unfold entryOf at h
  cases hread : (readReal .strict line t.coefficient).outcome with
  | ok x =>
    rw [hread] at h
    cases h
  | error e' =>
    rw [hread] at h
    cases h
    exact Reading.readReal_strict_error hread

theorem readConstraint_no_relation (width : Nat) {line : Line} (h : ¬ HasRelation line) :
    (readConstraint .strict width line).outcome = .error (.missingRelation line) := by
  refine (readConstraint_uncut width ?_).2
  rw [pieces_of_no_relation h]
  intro left right others heq
  cases heq

theorem readConstraint_legible {width : Nat} {line : Line} {c : Option Constraint}
    (h : (readConstraint .strict width line).outcome = .ok c) :
    HasRelation line ∧ ∀ token ∈ constraintTokens line, ¬ Bad token := by
  by_cases hrel : HasRelation line
  · refine ⟨hrel, ?_⟩
    rw [readConstraint_sides .strict width hrel, constraintOf_counted] at h
    obtain ⟨entries, hentries, h⟩ := Reading.bind_ok_iff.mp h
    intro token ht hbad
    rcases List.mem_append.mp ht with ht | ht
    · obtain ⟨t, hmem, rfl⟩ := List.mem_map.mp ht
      obtain ⟨entry, hentry⟩ := Reading.ok_of_mapM hentries t hmem
      exact bad_iff.mp hbad (entryOf_legible hentry)
    · obtain rfl := List.mem_singleton.mp ht
      cases hread : (readReal .strict line (rightSide line)).outcome with
      | ok x => exact bad_iff.mp hbad (Reading.legible_of_readReal hread)
      | error e =>
        rw [hread] at h
        cases h
  · rw [readConstraint_no_relation width hrel] at h
    cases h

theorem readConstraint_error {width : Nat} {line : Line} {e : ReadError}
    (h : (readConstraint .strict width line).outcome = .error e) :
    (¬ HasRelation line ∧ e = .missingRelation line) ∨
    (HasRelation line ∧
      ∃ t, FirstBad (constraintTokens line) t ∧ e = .malformedNumber (trim t) line) := by
  by_cases hrel : HasRelation line
  · refine Or.inr ⟨hrel, ?_⟩
    rw [readConstraint_sides .strict width hrel, constraintOf_counted] at h
    rcases Reading.bind_error_iff.mp h with h | ⟨entries, hentries, h⟩
    · obtain ⟨t, hfirst, he⟩ := firstBad_of_mapM Term.coefficient
        (fun _ _ => entryOf_legible) (fun _ _ => entryOf_error) h
      exact ⟨t, hfirst.extend (List.forall_mem_nil _) [rightSide line], he⟩
    · -- All coefficients were read, so the right side is to blame.
      cases hread : (readReal .strict line (rightSide line)).outcome with
      | ok x =>
        rw [hread] at h
        cases h
      | error e' =>
        rw [hread] at h
        cases h
        obtain ⟨hbad, he⟩ := Reading.readReal_strict_error hread
        refine ⟨rightSide line, ⟨_, [], rfl, bad_iff.mpr hbad, ?_⟩, he⟩
        intro token ht hbadt
        obtain ⟨t, hmem, rfl⟩ := List.mem_map.mp ht
        obtain ⟨entry, hentry⟩ := Reading.ok_of_mapM hentries t hmem
        exact bad_iff.mp hbadt (entryOf_legible hentry)
  · refine Or.inl ⟨hrel, ?_⟩
    rw [readConstraint_no_relation width hrel] at h
    exact (Except.error.inj h).symm

theorem constraintLines_sublist (ls : List Line) : (constraintLines ls).Sublist ls := by
  have hsub : (constraintLines ls).Sublist (ls.zipIdx.map (·.1)) := List.filter_sublist.map _
  rwa [List.zipIdx_map_fst] at hsub

end Copt

/-- The tokens of a line that are read as numbers, in the order in which they are read. -/
def Format.tokens (format : Format) (line : Line) : List (List Char) :=
  match format with
  | .standardized => Standardized.numberTokens line
  | .copt => Copt.constraintTokens line

def Format.numberLines (format : Format) (text : String) : List Line :=
  match format with
  | .standardized => lines text.toList
  | .copt => Copt.constraintLines (lines text.toList)

def LacksRelation (format : Format) (line : Line) : Prop :=
  format = .copt ∧ ¬ Copt.HasRelation line

/-- A line of a text that strict reading cannot accept. -/
def Offends (format : Format) (text : String) (line : Line) : Prop :=
  line ∈ format.numberLines text ∧
    (LacksRelation format line ∨ ∃ token ∈ format.tokens line, Bad token)

/-- The first line of a text that offends, with the number that it has in the text. -/
structure Culprit (format : Format) (text : String) (line : Line) : Prop where
  offends : Offends format text line
  placed : ∃ i piece, (pieces '\n' text.toList)[i]? = some piece ∧ line = ⟨i + 1, trim piece⟩
  first : ∀ other, Offends format text other → line.number ≤ other.number

/-- The error that names what is wrong with a line. -/
inductive Blames (format : Format) (line : Line) : ReadError → Prop
  | relation (h : LacksRelation format line) : Blames format line (.missingRelation line)
  | number (token : List Char) (h : ¬ LacksRelation format line)
      (hfirst : FirstBad (format.tokens line) token) :
      Blames format line (.malformedNumber (trim token) line)

variable {format : Format} {text : String} {line : Line}

theorem offends_of_blames {e : ReadError} (hline : line ∈ format.numberLines text)
    (h : Blames format line e) : Offends format text line := by
  cases h with
  | relation hlacks => exact ⟨hline, Or.inl hlacks⟩
  | number token _ hfirst => exact ⟨hline, Or.inr hfirst.mem⟩

theorem numberLines_sublist (format : Format) (text : String) :
    (format.numberLines text).Sublist (lines text.toList) := by
  cases format with
  | standardized => exact List.Sublist.refl _
  | copt => exact Copt.constraintLines_sublist _

theorem culprit_of_split {before after : List Line} {e : ReadError}
    (hsplit : format.numberLines text = before ++ line :: after)
    (hbefore : ∀ other ∈ before, ¬ Offends format text other) (h : Blames format line e) :
    Culprit format text line := by
  have hline : line ∈ format.numberLines text := by rw [hsplit]; simp
  refine ⟨offends_of_blames hline h, ?_, ?_⟩
  · obtain ⟨i, piece, hpiece, -, hplace⟩ :=
      (Text.mem_lines_iff text.toList line).mp ((numberLines_sublist format text).subset hline)
    exact ⟨i, piece, hpiece, hplace⟩
  · intro other hother
    have hascend := (Text.lines_ascend text.toList).sublist (numberLines_sublist format text)
    have hmem := hother.1
    rw [hsplit] at hascend hmem
    rcases List.mem_append.mp hmem with hmem | hmem
    · exact absurd hother (hbefore other hmem)
    · rcases List.mem_cons.mp hmem with rfl | hmem
      · exact Nat.le_refl _
      · have hbehind := (List.pairwise_append.mp hascend).2.1
        exact Nat.le_of_lt ((List.pairwise_cons.mp hbehind).1 other hmem)

theorem Standardized.culprit_of_read {e : ReadError}
    (h : (read .strict text.toList).outcome = .error e) (he : e.IsRefusal) :
    ∃ line, Culprit .standardized text line ∧ Blames .standardized line e := by
  rw [read_outcome] at h
  rcases Reading.bind_error_iff.mp h with h | ⟨draft, -, h⟩
  · obtain ⟨before, line, after, d, hsplit, hbefore, hline⟩ := Reading.foldlM_error h
    obtain ⟨t, hfirst, rfl⟩ := readLine_error hline
    have hblames : Blames .standardized line (.malformedNumber (trim t) line) :=
      .number t (fun hlacks => by cases hlacks.1) hfirst
    refine ⟨line, culprit_of_split hsplit ?_ hblames, hblames⟩
    rintro other hother ⟨-, hlacks | ⟨token, ht, hbad⟩⟩
    · cases hlacks.1
    · obtain ⟨c, d, hread⟩ := Reading.ok_of_foldlM hbefore other hother
      exact bad_iff.mp hbad (legible_of_readLine hread token ht)
  · rcases finish_cases draft with ⟨-, field, hf⟩ | ⟨parts, -, hf⟩
    · rw [hf] at h
      cases h
      exact he.elim
    · rw [hf] at h
      obtain ⟨s, -, rfl⟩ := Reading.mapError_error_iff.mp h
      exact he.elim

theorem Copt.culprit_of_read {e : ReadError} (h : (read .strict text.toList).outcome = .error e)
    (he : e.IsRefusal) : ∃ line, Culprit .copt text line ∧ Blames .copt line e := by
  rcases read_cases .strict text.toList with ⟨width, -, -, -, hr⟩ | ⟨width, -, -, hr⟩ | ⟨-, hr⟩
  · rw [hr, readBody_outcome, outline, linesOf_constraints] at h
    rcases Reading.bind_error_iff.mp h with h | ⟨read, -, h⟩
    · obtain ⟨before, line, after, hsplit, hbefore, hline⟩ := Reading.mapM_error h
      have hblames : Blames .copt line e := by
        rcases readConstraint_error hline with ⟨hrel, rfl⟩ | ⟨hrel, t, hfirst, rfl⟩
        · exact .relation ⟨rfl, hrel⟩
        · exact .number t (fun hlacks => hlacks.2 hrel) hfirst
      refine ⟨line, culprit_of_split hsplit ?_ hblames, hblames⟩
      rintro other hother ⟨-, hoffends⟩
      obtain ⟨c, hread⟩ := hbefore other hother
      obtain ⟨hrel, hlegible⟩ := readConstraint_legible hread
      rcases hoffends with hlacks | ⟨token, ht, hbad⟩
      · exact hlacks.2 hrel
      · exact hlegible token ht hbad
    · obtain ⟨s, -, rfl⟩ := Reading.mapError_error_iff.mp h
      exact he.elim
  · rw [hr] at h
    cases h
    exact he.elim
  · rw [hr] at h
    cases h
    exact he.elim

theorem Standardized.refused_of_offends (h : Offends .standardized text line) :
    ∃ e, (read .strict text.toList).outcome = .error e ∧ e.IsRefusal := by
  rw [read_outcome]
  rcases readLines_cases .strict (lines text.toList) with ⟨hlegible, -⟩ | ⟨-, e, he, hrun⟩
  · obtain ⟨hline, hlacks | ⟨token, ht, hbad⟩⟩ := h
    · cases hlacks.1
    · exact absurd (hlegible line hline token ht) (bad_iff.mp hbad)
  · rw [hrun]
    exact ⟨e, rfl, he⟩

theorem Copt.refused_of_offends (h : Offends .copt text line) {width : Nat}
    (hw : Expression.largestVariable? text.toList = some width) (h1 : 1 ≤ width)
    (h2 : width ≤ maxVariables) :
    ∃ e, (read .strict text.toList).outcome = .error e ∧ e.IsRefusal := by
  rcases read_cases .strict text.toList with ⟨w, -, -, -, hr⟩ | ⟨w, hw', hlarge, -⟩ | ⟨hzero, -⟩
  · rw [hr]
    cases ho : (readBody .strict w (outline text.toList)).outcome with
    | error e =>
      exact ⟨e, rfl, (readBody_yields (Reading.refusing_reads .strict) w _).error ho⟩
    | ok p =>
      obtain ⟨read, hread, -⟩ := readBody_ok ho
      rw [outline, linesOf_constraints] at hread
      obtain ⟨c, hc⟩ := Reading.ok_of_mapM hread line h.1
      obtain ⟨hrel, hlegible⟩ := readConstraint_legible hc
      rcases h.2 with hlacks | ⟨token, ht, hbad⟩
      · exact absurd hrel hlacks.2
      · exact absurd hbad (hlegible token ht)
  · rw [hw] at hw'
    cases hw'
    exact absurd hlarge (Nat.not_lt.mpr h2)
  · rw [hzero width hw] at h1
    cases h1

/-- What strict reading refuses, it refuses for the first line that offends, and for the first bad
token on it. If a line offends, and in COPT notation the variables allow for reading at all, the
text is refused. -/
theorem first_culprit_is_blamed (format : Format) (text : String) :
    (∀ e, (format.read .strict text).outcome = .error e → e.IsRefusal →
      ∃ line, Culprit format text line ∧ Blames format line e) ∧
    ((∃ line, Offends format text line) →
      (format = .copt → ∃ width, Expression.largestVariable? text.toList = some width ∧
        1 ≤ width ∧ width ≤ 65536) →
      ∃ e line, (format.read .strict text).outcome = .error e ∧ e.IsRefusal ∧
        Culprit format text line ∧ Blames format line e) := by
  have hblamed : ∀ e, (format.read .strict text).outcome = .error e → e.IsRefusal →
      ∃ line, Culprit format text line ∧ Blames format line e := by
    intro e h he
    cases format with
    | standardized => exact Standardized.culprit_of_read h he
    | copt => exact Copt.culprit_of_read h he
  refine ⟨hblamed, ?_⟩
  rintro ⟨line, hoffends⟩ hwidth
  have hrefused : ∃ e, (format.read .strict text).outcome = .error e ∧ e.IsRefusal := by
    cases format with
    | standardized => exact Standardized.refused_of_offends hoffends
    | copt =>
      obtain ⟨width, hw, h1, h2⟩ := hwidth rfl
      exact Copt.refused_of_offends hoffends hw h1 h2
  obtain ⟨e, h, he⟩ := hrefused
  obtain ⟨culprit, hculprit, hblames⟩ := hblamed e h he
  exact ⟨e, culprit, h, he, hculprit, hblames⟩

def faultyText : String :=
  "min: x1\n\nsubject to\n c1: x1 = 1\n\n c2: M x0 + 2 x1 - M x2 = ?\n c3: x1 4\nend"

def faultyLine : Line := ⟨6, "c2: M x0 + 2 x1 - M x2 = ?".toList⟩

theorem faultyText_blamed :
    (Format.copt.read .strict faultyText).outcome.map (·.cost)
      = .error (.malformedNumber ['-', 'M'] faultyLine) ∧
    ∃ line, Culprit .copt faultyText line ∧
      Blames .copt line (.malformedNumber ['-', 'M'] faultyLine) := by
  have hrun : (Format.copt.read .strict faultyText).outcome.map (·.cost)
      = .error (.malformedNumber ['-', 'M'] faultyLine) := by
    decide +kernel
  refine ⟨hrun, (first_culprit_is_blamed .copt faultyText).1 _ ?_ trivial⟩
  cases h : (Format.copt.read .strict faultyText).outcome with
  | ok p => rw [h] at hrun; cases hrun
  | error e =>
    rw [h] at hrun
    cases hrun
    rfl

end Tableaux
