import Tableaux.Proofs.Copt.Requoted
import Tableaux.Proofs.Copt.Section
import Tableaux.Proofs.Copt.Width
import Tableaux.Proofs.Expression.Scan
import Tableaux.Proofs.Text.Replaced

/-!
# Labels

What stands in front of the first colon of a line is only a name, unless it mentions a variable,
which is counted, or makes the line a header. Other names can be given to lines without changing
what is read.
-/
namespace Tableaux.Copt

open Expression (Gap largestVariable? variableNumbers)
open Reading (ReadError)
open Text (Line cut? lines lowercase pieces trim trimEnd withLine)

/-- The label names a line with this body: it mentions no variable, and the line is no header. -/
structure IsName (label body : List Char) : Prop where
  colon : ':' ∉ label
  gap : Gap label
  header : ∀ word ∈ ["min", "max", "sub", "bound", "end"],
    ¬ word.toList <+: lowercase (trim (label ++ ':' :: body))

instance (label body : List Char) : Decidable (IsName label body) :=
  decidable_of_iff (':' ∉ label ∧ Gap label ∧ ∀ word ∈ ["min", "max", "sub", "bound", "end"],
      ¬ word.toList <+: lowercase (trim (label ++ ':' :: body)))
    ⟨fun h => ⟨h.1, h.2.1, h.2.2⟩, fun h => ⟨h.colon, h.gap, h.header⟩⟩

variable {label body : List Char}

theorem trim_label (label body : List Char) : trim (label ++ ':' :: body) ≠ [] := by
  rw [Text.trim_around (by decide)]
  simp

theorem afterLabel_trim (h : ':' ∉ label) (body : List Char) :
    afterLabel (trim (label ++ ':' :: body)) = trimEnd body := by
  have hstart : ':' ∉ Text.trimStart label := fun hm =>
    h ((List.dropWhile_suffix Text.isBlank).subset hm)
  rw [Text.trim_around (by decide), afterLabel, Text.cut_append hstart]

theorem IsName.header_none (h : IsName label body) (number : Nat) :
    Header.ofLine? ⟨number, trim (label ++ ':' :: body)⟩ = none := by
  rw [header_none_iff]
  rintro ⟨word, hword, hstarts⟩
  exact h.header word hword hstarts

theorem IsName.variableNumbers (h : IsName label body) :
    variableNumbers (label ++ ':' :: body) = variableNumbers body := by
  have hlabel : Expression.variableNumbers label = [] := by
    rw [← Expression.numbers_terms, Expression.terms_of_gap h.gap, List.map_nil]
  rw [Expression.variableNumbers_cut (by decide), hlabel, List.nil_append]

variable {text old new : List Char} {k : Nat}

theorem largestVariable_withLine (hline : (pieces '\n' text)[k]? = some (old ++ ':' :: body))
    (hold : IsName old body) (hnew : IsName new body) (hbreak : '\n' ∉ new ++ ':' :: body) :
    largestVariable? (withLine text k (new ++ ':' :: body)) = largestVariable? text := by
  obtain ⟨hk, hget⟩ := List.getElem?_eq_some_iff.mp hline
  have hmap : k < ((pieces '\n' text).map variableNumbers).length := by rwa [List.length_map]
  have hsame : variableNumbers (new ++ ':' :: body) =
      ((pieces '\n' text).map variableNumbers)[k] := by
    rw [List.getElem_map, hget, hnew.variableNumbers, hold.variableNumbers]
  -- The numbers are those of the lines, and the line in question has the same ones as before.
  have hnumbers : variableNumbers (withLine text k (new ++ ':' :: body)) =
      variableNumbers text := by
    have hbreaks : Expression.Separates '\n' := by decide
    rw [← Expression.variableNumbers_pieces hbreaks, Text.pieces_withLine text k hbreak,
      List.flatMap_def, List.map_set, hsame, List.set_getElem_self, ← List.flatMap_def,
      Expression.variableNumbers_pieces hbreaks]
  rw [largestVariable?, hnumbers, largestVariable?]

theorem readAlike_label (hline : (pieces '\n' text)[k]? = some (old ++ ':' :: body))
    (hold : IsName old body) (hnew : IsName new body) {line : Line} (h : line ∈ lines text) :
    ReadAlike (Line.replace (k + 1) (trim (new ++ ':' :: body))) line := by
  by_cases hnumber : line.number = k + 1
  · have hreplace : line.replace (k + 1) (trim (new ++ ':' :: body)) =
        ⟨line.number, trim (new ++ ':' :: body)⟩ := if_pos hnumber
    obtain ⟨number, found⟩ := line
    obtain rfl : found = trim (old ++ ':' :: body) := Text.text_of_number hline h hnumber
    constructor
    · rw [hreplace, afterLabel_trim hnew.colon, afterLabel_trim hold.colon]
    · rw [hreplace, hnew.header_none, hold.header_none]
  · have hkept : line.replace (k + 1) (trim (new ++ ':' :: body)) = line := if_neg hnumber
    exact ⟨by rw [hkept], by rw [hkept]⟩

/-- If a line gets another name, the same program is read, or the same error, which may quote the
line under its new name. -/
theorem labels_are_only_names (leniency : Leniency) (text : List Char) (k : Nat)
    (old new body : List Char) (hline : (pieces '\n' text)[k]? = some (old ++ ':' :: body))
    (hold : IsName old body) (hnew : IsName new body) (hbreak : '\n' ∉ new) :
    (read leniency (withLine text k (new ++ ':' :: body))).outcome =
      (read leniency text).outcome.mapError
        (.requote (Line.replace (k + 1) (trim (new ++ ':' :: body)))) := by
  have hbody : '\n' ∉ body := fun hm =>
    Text.not_mem_of_mem_pieces (List.mem_of_getElem? hline) (by simp [hm])
  have hwhole : '\n' ∉ new ++ ':' :: body := by simp [hbreak, hbody]
  have houtline : outline (withLine text k (new ++ ':' :: body)) =
      (outline text).map (.requote (.replace (k + 1) (trim (new ++ ':' :: body)))) := by
    rw [outline, Text.lines_withLine hline (trim_label old body) hwhole (trim_label new body),
      outlineBelow_requote (fun line hl => readAlike_label hline hold hnew hl), outline]
  have halike : ∀ place ∈ outline text,
      ReadAlike (Line.replace (k + 1) (trim (new ++ ':' :: body))) place.line := by
    intro place hplace
    apply readAlike_label hline hold hnew
    rw [← lines_outlineBelow .skipped (lines text)]
    exact List.mem_map_of_mem hplace
  rw [read, largestVariable_withLine hline hold hnew hwhole, houtline, read]
  split
  · rfl
  · rfl
  · rename_i width _ _
    split
    · rfl
    · exact readBody_requote leniency width halike

def namedText : List Char := "min\nx1\nsubject to\nlimit = 3: x1 + x2 = two".toList

theorem namedText_renamed :
    (pieces '\n' namedText)[3]? = some ("limit = 3".toList ++ ':' :: " x1 + x2 = two".toList) ∧
    IsName "limit = 3".toList " x1 + x2 = two".toList ∧
    IsName "M x".toList " x1 + x2 = two".toList ∧ '\n' ∉ "M x".toList ∧
    (read .strict (withLine namedText 3 ("M x".toList ++ ':' :: " x1 + x2 = two".toList))).outcome =
      (read .strict namedText).outcome.mapError
        (.requote (Line.replace 4 (trim ("M x".toList ++ ':' :: " x1 + x2 = two".toList)))) := by
  have hline : (pieces '\n' namedText)[3]? =
    some ("limit = 3".toList ++ ':' :: " x1 + x2 = two".toList) := by decide +kernel
  have hold : IsName "limit = 3".toList " x1 + x2 = two".toList := by decide +kernel
  have hnew : IsName "M x".toList " x1 + x2 = two".toList := by decide +kernel
  have hbreak : '\n' ∉ "M x".toList := by decide
  exact ⟨hline, hold, hnew, hbreak,
    labels_are_only_names .strict namedText 3 _ _ _ hline hold hnew hbreak⟩

end Tableaux.Copt
