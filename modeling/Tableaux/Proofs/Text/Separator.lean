import Tableaux.Proofs.Text.Split

/-!
# Cutting at a text

A text is cut wherever a separator of several characters occurs, from left to right and without
overlap. If the separator has a character that no part has, cutting the joined parts gives the
parts back.
-/
namespace Tableaux.Text

def piecesBehind (separator : List Char) : Nat → List Char → List (List Char)
  | _, [] => [[]]
  | n + 1, _ :: rest => piecesBehind separator n rest
  | 0, c :: rest =>
    if separator.isPrefixOf (c :: rest) then
      [] :: piecesBehind separator (separator.length - 1) rest
    else match piecesBehind separator 0 rest with
      | [] => [[c]]
      | piece :: others => (c :: piece) :: others

/-- The parts of a text between the occurrences of a separator. -/
def piecesAt (separator text : List Char) : List (List Char) := piecesBehind separator 0 text

variable {front back part : List Char} {bar : Char}

theorem piecesBehind_drop (separator : List Char) (n : Nat) (text : List Char) :
    piecesBehind separator n text = piecesAt separator (text.drop n) := by
  induction text generalizing n with
  | nil => cases n <;> rfl
  | cons c rest ih =>
    cases n with
    | zero => rfl
    | succ n => exact ih n

theorem not_separator_before {c : Char} {rest : List Char} (hfront : bar ∉ front)
    (hpart : bar ∉ c :: part) :
    (front ++ bar :: back).isPrefixOf (c :: part ++ (front ++ bar :: rest)) = false := by
  rw [← Bool.not_eq_true, List.isPrefixOf_iff_prefix]
  rintro ⟨after, hafter⟩
  have hcut : cut? bar (front ++ bar :: (back ++ after)) =
      cut? bar ((c :: part ++ front) ++ bar :: rest) := by
    congr 1
    simpa using hafter
  have hbefore : bar ∉ c :: part ++ front := by
    rw [List.mem_append, not_or]
    exact ⟨hpart, hfront⟩
  rw [cut_append hfront, cut_append hbefore, Option.some.injEq, Prod.mk.injEq] at hcut
  have hlength := congrArg List.length hcut.1
  rw [List.length_append, List.length_cons] at hlength
  omega

theorem not_separator_without {text : List Char} (h : bar ∉ text) :
    (front ++ bar :: back).isPrefixOf text = false := by
  rw [← Bool.not_eq_true, List.isPrefixOf_iff_prefix]
  exact fun hstart => h (hstart.subset (by simp))

theorem piecesAt_last (h : bar ∉ part) : piecesAt (front ++ bar :: back) part = [part] := by
  induction part with
  | nil => rfl
  | cons c part ih =>
    have hrest := ih fun hmem => h (List.mem_cons_of_mem c hmem)
    rw [piecesAt] at hrest
    rw [piecesAt, piecesBehind, not_separator_without h, hrest]
    rfl

theorem piecesAt_separator (separator : List Char) (hne : separator ≠ []) (rest : List Char) :
    piecesAt separator (separator ++ rest) = [] :: piecesAt separator rest := by
  obtain ⟨c, others, rfl⟩ := List.exists_cons_of_ne_nil hne
  have hprefix : (c :: others).isPrefixOf (c :: (others ++ rest)) = true := by
    rw [List.isPrefixOf_iff_prefix]
    exact ⟨rest, rfl⟩
  rw [piecesAt, List.cons_append, piecesBehind, if_pos hprefix, piecesBehind_drop]
  simp

theorem piecesAt_append (hfront : bar ∉ front) (hpart : bar ∉ part) (rest : List Char) :
    piecesAt (front ++ bar :: back) (part ++ (front ++ bar :: back) ++ rest) =
      part :: piecesAt (front ++ bar :: back) rest := by
  induction part with
  | nil => exact piecesAt_separator _ (by simp) rest
  | cons c part ih =>
    have hrest := ih fun hmem => hpart (List.mem_cons_of_mem c hmem)
    have hno : (front ++ bar :: back).isPrefixOf
        (c :: part ++ (front ++ bar :: (back ++ rest))) = false :=
      not_separator_before hfront hpart
    rw [piecesAt] at hrest
    have htext : c :: part ++ (front ++ bar :: back) ++ rest =
        c :: (part ++ (front ++ bar :: back) ++ rest) := rfl
    have hsame : c :: part ++ (front ++ bar :: (back ++ rest)) =
        c :: (part ++ (front ++ bar :: back) ++ rest) := by simp
    rw [hsame] at hno
    rw [htext, piecesAt, piecesBehind, hno, hrest]
    rfl

theorem piecesAt_join {parts : List (List Char)} (hfront : bar ∉ front) (hne : parts ≠ [])
    (h : ∀ p ∈ parts, bar ∉ p) :
    piecesAt (front ++ bar :: back) (join (front ++ bar :: back) parts) = parts := by
  induction parts with
  | nil => exact absurd rfl hne
  | cons part others ih =>
    have hpart := h part List.mem_cons_self
    by_cases hlast : others = []
    · subst others
      exact piecesAt_last hpart
    · rw [join_cons hlast, piecesAt_append hfront hpart,
        ih hlast fun p hp => h p (List.mem_cons_of_mem part hp)]

end Tableaux.Text
