import Tableaux.Proofs.Text.Line

/-!
# Texts with another line

If a line of a text is replaced by another one, neither of them blank, then the lines that are read
keep their numbers, and all but the replaced one keep their texts.
-/
namespace Tableaux.Text

theorem not_mem_of_mem_pieces {sep : Char} {text piece : List Char} (h : piece ∈ pieces sep text) :
    sep ∉ piece := by
  induction text generalizing piece with
  | nil =>
    obtain rfl := List.mem_singleton.mp h
    exact List.not_mem_nil
  | cons c rest ih =>
    by_cases hc : c = sep
    · rw [pieces, if_pos hc] at h
      rcases List.mem_cons.mp h with rfl | h
      · exact List.not_mem_nil
      · exact ih h
    · obtain ⟨first, others, hpieces⟩ := List.exists_cons_of_ne_nil (pieces_ne_nil sep rest)
      have hother : ∀ p ∈ first :: others, sep ∉ p := fun p hp => ih (hpieces ▸ hp)
      rw [pieces, if_neg hc, hpieces] at h
      rcases List.mem_cons.mp h with rfl | h
      · simpa [Ne.symm hc] using hother first List.mem_cons_self
      · exact hother piece (List.mem_cons_of_mem _ h)

/-- The text with another line at a place, counting from zero. -/
def withLine (text : List Char) (k : Nat) (line : List Char) : List Char :=
  join ['\n'] ((pieces '\n' text).set k line)

theorem pieces_withLine (text : List Char) (k : Nat) {line : List Char} (h : '\n' ∉ line) :
    pieces '\n' (withLine text k line) = (pieces '\n' text).set k line := by
  apply pieces_join_singleton
  · rw [ne_eq, List.set_eq_nil_iff]
    exact pieces_ne_nil '\n' text
  · intro p hp
    rcases List.mem_or_eq_of_mem_set hp with hp | rfl
    · exact not_mem_of_mem_pieces hp
    · exact h

def Line.replace (number : Nat) (text : List Char) (line : Line) : Line :=
  if line.number = number then { line with text := text } else line

variable {text old new : List Char} {k : Nat}

theorem lines_withLine (hold : (pieces '\n' text)[k]? = some old) (hfilled : trim old ≠ [])
    (hnew : '\n' ∉ new) (hnewFilled : trim new ≠ []) :
    lines (withLine text k new) = (lines text).map (Line.replace (k + 1) (trim new)) := by
  have hset : ((pieces '\n' text).set k new).zipIdx 1 =
      ((pieces '\n' text).zipIdx 1).map fun entry =>
        (if entry.2 = k + 1 then new else entry.1, entry.2) := by
    apply List.ext_getElem?
    intro i
    rw [List.getElem?_zipIdx, List.getElem?_set, List.getElem?_map, List.getElem?_zipIdx]
    by_cases hi : k = i
    · subst hi
      simp [(List.getElem?_eq_some_iff.mp hold).1, Nat.add_comm]
    · have hnumber : 1 + i ≠ k + 1 := by omega
      cases (pieces '\n' text)[i]? <;> simp [hi, hnumber]
  rw [lines, pieces_withLine text k hnew, hset, List.filterMap_map, lines, List.map_filterMap]
  apply List.filterMap_congr
  rintro ⟨piece, number⟩ hmem
  by_cases hnumber : number = k + 1
  · subst hnumber
    have hpiece := (List.mk_mem_zipIdx_iff_le_and_getElem?_sub.mp hmem).2
    rw [Nat.add_sub_cancel, hold] at hpiece
    obtain rfl := Option.some.inj hpiece
    simp [hfilled, hnewFilled, Line.replace]
  · by_cases hblank : trim piece = []
    · simp [hnumber, hblank]
    · simp [hnumber, hblank, Line.replace]

theorem text_of_number (hold : (pieces '\n' text)[k]? = some old) {line : Line}
    (hline : line ∈ lines text) (hnumber : line.number = k + 1) : line.text = trim old := by
  obtain ⟨i, piece, hpiece, -, rfl⟩ := (mem_lines_iff text line).mp hline
  obtain rfl : i = k := Nat.succ.inj hnumber
  rw [hold] at hpiece
  rw [Option.some.inj hpiece]

theorem trimEnd_around {c : Char} (h : isBlank c = false) (before after : List Char) :
    trimEnd (before ++ c :: after) = before ++ c :: trimEnd after := by
  have hstop : (c :: before.reverse).dropWhile isBlank = c :: before.reverse :=
    List.dropWhile_cons_of_neg (by simp [h])
  rw [trimEnd, List.reverse_append, List.reverse_cons, List.append_assoc, List.singleton_append,
    List.dropWhile_append, hstop]
  split
  · rename_i hnone
    rw [trimEnd, List.isEmpty_iff.mp hnone]
    simp
  · rw [trimEnd]
    simp

theorem trim_around {c : Char} (h : isBlank c = false) (before after : List Char) :
    trim (before ++ c :: after) = trimStart before ++ c :: trimEnd after := by
  have hstart : trimStart (before ++ c :: after) = trimStart before ++ c :: after := by
    rw [trimStart, List.dropWhile_append, trimStart]
    split
    · rename_i hnone
      rw [List.isEmpty_iff.mp hnone, List.dropWhile_cons_of_neg (by simp [h]), List.nil_append]
    · rfl
  rw [trim, hstart, trimEnd_around h]

end Tableaux.Text
