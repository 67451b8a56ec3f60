import Tableaux.Proofs.Layout
import Tableaux.Proofs.Standardized.Draft

/-!
# The order of keys

Lines compete only with lines of the same name. As long as these keep their order, lines can be
rearranged, and lines whose name is no key can come and go: leniently the result is the same,
and strictly the same program is read or both texts are refused.
-/
namespace Tableaux.Standardized

open Reading (Legible ReadError Recorded)
open Text (Line cut? filled lines lowercase pieces trim)

/-- The text in front of the first colon of a line, trimmed and in lower case. -/
def nameOf? (line : List Char) : Option (List Char) :=
  (cut? ':' line).map fun (name, _) => lowercase (trim name)

def Key.name : Key → String
  | .cost => "c"
  | .constraints => "a"
  | .rhs => "b"
  | .direction => "obj"
  | .pivotRule => "rule"

def keyNames : List (List Char) :=
  ["c".toList, "a".toList, "b".toList, "obj".toList, "rule".toList]

def Ignored (line : List Char) : Prop := ∀ name, nameOf? line = some name → name ∉ keyNames

theorem name_mem_keyNames (key : Key) : key.name.toList ∈ keyNames := by
  cases key <;> decide

theorem ofName_iff {name : String} {key : Key} : Key.ofName? name = some key ↔ name = key.name := by
  constructor
  · intro h
    unfold Key.ofName? at h
    split at h <;> cases h <;> rfl
  · rintro rfl
    cases key <;> rfl

theorem keyed_iff {line : Line} {key : Key} :
    (∃ value, keyed? line = some (key, value)) ↔ nameOf? line.text = some key.name.toList := by
  unfold keyed? nameOf?
  cases cut? ':' line.text with
  | none => simp
  | some parts =>
    obtain ⟨name, behind⟩ := parts
    have hname : Key.ofName? (String.ofList (lowercase (trim name))) = some key ↔
        lowercase (trim name) = key.name.toList := by
      rw [ofName_iff, String.ofList_eq]
    simp [← hname]

/-- The trimmed lines of a text that have a name. -/
def named (name : List Char) (ls : List (List Char)) : List (List Char) :=
  ls.filter fun line => nameOf? line = some name

def trimmed (text : List Char) : List (List Char) := (pieces '\n' text).map trim

theorem named_trimmed (name : List Char) (text : List Char) :
    named name (trimmed text) = named name ((lines text).map (·.text)) := by
  rw [Text.lines_text, filled, named, named, List.filter_filter, trimmed]
  apply List.filter_congr
  intro line _
  by_cases hblank : line = []
  · subst hblank
    rfl
  · simp [hblank]

def unplaced (line : List Char) : Line := ⟨0, line⟩

theorem keyed_filter (key : Key) (line : Line) :
    (keyed? line).filter (·.1 = key) =
      if nameOf? line.text = some key.name.toList then keyed? line else none := by
  by_cases hname : nameOf? line.text = some key.name.toList
  · obtain ⟨value, hvalue⟩ := keyed_iff.mpr hname
    rw [if_pos hname, hvalue]
    simp
  · rw [if_neg hname]
    cases hkeyed : keyed? line with
    | none => rfl
    | some entry =>
      have hother : entry.1 ≠ key := by
        rintro rfl
        exact hname (keyed_iff.mp ⟨entry.2, hkeyed⟩)
      simp [hother]

theorem lastValue_named (key : Key) (ls : List Line) :
    lastValue? key ls = ((((named key.name.toList (ls.map (·.text))).filterMap
      fun line => keyed? (unplaced line)).getLast?).map (·.2)) := by
  have hentries : (ls.filterMap keyed?).filter (·.1 = key) =
      (named key.name.toList (ls.map (·.text))).filterMap fun line => keyed? (unplaced line) := by
    rw [named, List.filter_map, List.filterMap_map, List.filter_filterMap, List.filterMap_filter]
    apply List.filterMap_congr
    intro line _
    rw [keyed_filter]
    simp only [Function.comp_apply, decide_eq_true_eq]
    rfl
  rw [lastValue?, lastGiven?, hentries]

/-- The same lines for each key, in the same order. -/
def SameKeys (a b : List Char) : Prop :=
  ∀ name ∈ keyNames, named name (trimmed a) = named name (trimmed b)

theorem SameKeys.symm {a b : List Char} (h : SameKeys a b) : SameKeys b a :=
  fun name hname => (h name hname).symm

theorem SameKeys.draft {a b : List Char} (h : SameKeys a b) :
    draftOf (lines a) = draftOf (lines b) := by
  have hlast : ∀ key, lastValue? key (lines a) = lastValue? key (lines b) := by
    intro key
    have hnamed := h key.name.toList (name_mem_keyNames key)
    rw [named_trimmed, named_trimmed] at hnamed
    rw [lastValue_named, hnamed, lastValue_named]
  simp only [draftOf, hlast]

theorem named_of_illegible {leniency : Leniency} {line : Line} (h : ¬ LegibleLine leniency line) :
    ∃ key : Key, nameOf? line.text = some key.name.toList := by
  cases hkeyed : keyed? line with
  | none =>
    refine absurd (fun token ht => ?_) h
    rw [numberTokens, hkeyed] at ht
    exact absurd ht List.not_mem_nil
  | some entry => exact ⟨entry.1, keyed_iff.mp ⟨entry.2, hkeyed⟩⟩

theorem SameKeys.legible {leniency : Leniency} {a b : List Char} (h : SameKeys a b)
    (ha : ∀ line ∈ lines a, LegibleLine leniency line) :
    ∀ line ∈ lines b, LegibleLine leniency line := by
  intro line hline
  by_contra hillegible
  obtain ⟨key, hkey⟩ := named_of_illegible hillegible
  have hnamed := h key.name.toList (name_mem_keyNames key)
  rw [named_trimmed, named_trimmed] at hnamed
  have hmem : line.text ∈ named key.name.toList ((lines b).map (·.text)) :=
    List.mem_filter.mpr ⟨List.mem_map_of_mem hline, by simpa using hkey⟩
  rw [← hnamed] at hmem
  obtain ⟨other, hother, htext⟩ := List.mem_map.mp (List.mem_filter.mp hmem).1
  -- The line of the other text has the same tokens, only its number may differ.
  have hsame : LegibleLine leniency line ↔ LegibleLine leniency other := by
    unfold LegibleLine numberTokens keyed?
    rw [htext]
  exact hillegible (hsame.mpr (ha other hother))

theorem SameKeys.gives {leniency : Leniency} {a b : List Char} (h : SameKeys a b)
    {parts : Program.Parts} (ha : Gives leniency a parts) : Gives leniency b parts where
  legible := h.legible ha.legible
  draft := h.draft ▸ ha.draft

theorem read_lenient (text : List Char) :
    (read .lenient text).outcome = (draftOf (lines text)).finish := by
  rw [read_outcome]
  rcases readLines_cases .lenient (lines text) with ⟨-, hrun⟩ | ⟨hillegible, -⟩
  · rw [hrun]
    rfl
  · exact absurd (fun line _ token _ hstrict => by cases hstrict) hillegible

/-- Lines are rearranged such that those of one name keep their order, and ignored ones are inserted
or taken out, any number of times. -/
inductive Rearranged : List (List Char) → List (List Char) → Prop
  | moved {ls ms : List (List Char)} (h : ls.Perm ms)
      (order : ∀ name, named name ls = named name ms) : Rearranged ls ms
  | inserted (above below : List (List Char)) {line : List Char} (h : Ignored line) :
      Rearranged (above ++ below) (above ++ line :: below)
  | removed (above below : List (List Char)) {line : List Char} (h : Ignored line) :
      Rearranged (above ++ line :: below) (above ++ below)
  | trans {ls ms ns : List (List Char)} (h : Rearranged ls ms) (k : Rearranged ms ns) :
      Rearranged ls ns

theorem named_ignored {name : List Char} (hname : name ∈ keyNames) {line : List Char}
    (h : Ignored line) (above below : List (List Char)) :
    named name (above ++ line :: below) = named name (above ++ below) := by
  have hother : nameOf? line ≠ some name := fun heq => h name heq hname
  rw [named, List.filter_append, List.filter_cons_of_neg (by simpa using hother),
    ← List.filter_append, named]

theorem Rearranged.keeps_keys {ls ms : List (List Char)} (h : Rearranged ls ms) :
    ∀ name ∈ keyNames, named name ls = named name ms := by
  intro name hname
  induction h with
  | moved _ order => exact order name
  | inserted above below hline => exact (named_ignored hname hline above below).symm
  | removed above below hline => exact named_ignored hname hline above below
  | trans _ _ ih ik => exact ih.trans ik

/-- The order of lines matters only among those of one key. Leniently two texts that differ in it
give the identical result. Strictly they give the same program or are both refused. -/
theorem order_of_keys_does_not_matter (a b : List Char)
    (h : Rearranged (trimmed a) (trimmed b)) :
    (read .lenient a).outcome = (read .lenient b).outcome ∧
    ((∃ p, (read .strict a).outcome = .ok p ∧ (read .strict b).outcome = .ok p) ∨
      ∃ e f, (read .strict a).outcome = .error e ∧ (read .strict b).outcome = .error f) := by
  have hkeys : SameKeys a b := h.keeps_keys
  constructor
  · rw [read_lenient, hkeys.draft, read_lenient]
  · cases ha : (read .strict a).outcome with
    | ok p => exact Or.inl ⟨p, rfl, read_ok_iff.mpr (hkeys.gives (read_ok_iff.mp ha))⟩
    | error e =>
      cases hb : (read .strict b).outcome with
      | ok p =>
        rw [read_ok_iff.mpr (hkeys.symm.gives (read_ok_iff.mp hb))] at ha
        cases ha
      | error f => exact Or.inr ⟨e, f, rfl, rfl⟩

/-- Only names that occur can come out of order. -/
theorem order_of_listed {ls ms : List (List Char)} (h : ls.Perm ms)
    (order : ∀ name ∈ ls.filterMap nameOf?, named name ls = named name ms) (name : List Char) :
    named name ls = named name ms := by
  by_cases hname : name ∈ ls.filterMap nameOf?
  · exact order name hname
  · have hnone : named name ls = [] := by
      rw [named, List.filter_eq_nil_iff]
      intro line hline heq
      exact hname (List.mem_filterMap.mpr ⟨line, hline, by simpa using heq⟩)
    have hperm : (named name ls).Perm (named name ms) := h.filter _
    rw [hnone] at hperm
    rw [hnone, hperm.nil_eq]

def orderedText : List Char := "c: 1, 2\nA: 1, 2\nb: y\nb: 3\nobj: max".toList

def reorderedText : List Char :=
  "obj: max\n\n b: y\nname: sample\nA: 1, 2\r\nb: 3\nc: 1, 2".toList

/-- The first line of the right-hand sides cannot be read, which only strict reading minds. -/
theorem reorderedText_read :
    Rearranged (trimmed orderedText) (trimmed reorderedText) ∧
    (read .lenient orderedText).outcome = (read .lenient reorderedText).outcome ∧
    ((∃ p, (read .strict orderedText).outcome = .ok p ∧
        (read .strict reorderedText).outcome = .ok p) ∨
      ∃ e f, (read .strict orderedText).outcome = .error e ∧
        (read .strict reorderedText).outcome = .error f) := by
  have hmoved : Rearranged (trimmed orderedText)
      ["obj: max".toList, "b: y".toList, "A: 1, 2".toList, "b: 3".toList, "c: 1, 2".toList] := by
    have hperm : (trimmed orderedText).Perm
        ["obj: max".toList, "b: y".toList, "A: 1, 2".toList, "b: 3".toList, "c: 1, 2".toList] := by
      decide +kernel
    exact .moved hperm (order_of_listed hperm (by decide +kernel))
  have hname : Ignored "name: sample".toList := by
    intro name hname
    rw [show nameOf? "name: sample".toList = some "name".toList by decide +kernel] at hname
    obtain rfl := Option.some.inj hname
    decide
  have hblank : Ignored [] := by
    intro name hname
    cases hname
  have hrearranged : Rearranged (trimmed orderedText) (trimmed reorderedText) := by
    have hfirst := hmoved.trans (.inserted ["obj: max".toList] _ hblank)
    have hsecond := hfirst.trans (.inserted ["obj: max".toList, [], "b: y".toList] _ hname)
    have htrimmed : trimmed reorderedText = ["obj: max".toList, [], "b: y".toList,
        "name: sample".toList, "A: 1, 2".toList, "b: 3".toList, "c: 1, 2".toList] := by
      decide +kernel
    rw [htrimmed]
    exact hsecond
  exact ⟨hrearranged, order_of_keys_does_not_matter _ _ hrearranged⟩

end Tableaux.Standardized
