import Mathlib.Data.List.TakeWhile
import Tableaux.Text.Line

/-!
# Cut and joined texts

Joining parts that hold no separator and cutting the result gives the parts back,
also when more than the separator is written between them. Conversely the pieces of
a text, joined by the separator, are the text.
-/
namespace Tableaux.Text

theorem pieces_of_not_mem {sep : Char} {text : List Char} (h : sep ∉ text) :
    pieces sep text = [text] := by
  induction text with
  | nil => rfl
  | cons c rest ih =>
    have hc : c ≠ sep := fun e => h (e ▸ List.mem_cons_self)
    have hrest : sep ∉ rest := fun m => h (List.mem_cons_of_mem _ m)
    rw [pieces, if_neg hc, ih hrest]

theorem pieces_append_cons {sep : Char} {part : List Char} (h : sep ∉ part)
    (rest : List Char) : pieces sep (part ++ sep :: rest) = part :: pieces sep rest := by
  induction part with
  | nil => rw [List.nil_append, pieces, if_pos rfl]
  | cons c part ih =>
    have hc : c ≠ sep := fun e => h (e ▸ List.mem_cons_self)
    have hpart : sep ∉ part := fun m => h (List.mem_cons_of_mem _ m)
    rw [List.cons_append, pieces, if_neg hc, ih hpart]

theorem pieces_eq_cons (sep : Char) (text : List Char) :
    pieces sep text = text.takeWhile (· != sep) ::
      match text.dropWhile (· != sep) with
      | [] => []
      | _ :: behind => pieces sep behind := by
  induction text with
  | nil => rfl
  | cons c rest ih =>
    by_cases hc : c = sep
    · subst c
      simp [pieces]
    · rw [pieces, if_neg hc, ih]
      simp [hc]

theorem join_cons {sep part : List Char} {others : List (List Char)} (h : others ≠ []) :
    join sep (part :: others) = part ++ sep ++ join sep others := by
  cases others with
  | nil => exact absurd rfl h
  | cons next others => rfl

theorem join_eq_intercalate (sep : List Char) (parts : List (List Char)) :
    join sep parts = sep.intercalate parts := by
  induction parts with
  | nil => rfl
  | cons part others ih =>
    cases others with
    | nil => simp [join]
    | cons next others =>
      rw [join_cons (by simp), ih, List.intercalate_cons_cons, List.append_assoc]

theorem not_mem_join {c : Char} {sep : List Char} {parts : List (List Char)} (hsep : c ∉ sep)
    (h : ∀ p ∈ parts, c ∉ p) : c ∉ join sep parts := by
  induction parts with
  | nil => exact List.not_mem_nil
  | cons part others ih =>
    have hpart : c ∉ part := h part List.mem_cons_self
    by_cases hne : others = []
    · subst others
      exact hpart
    · have hothers := ih fun p hp => h p (List.mem_cons_of_mem _ hp)
      simp [join_cons hne, hpart, hsep, hothers]

theorem count_join_of_only {c : Char} {sep : List Char} (hsep : c ∉ sep)
    {parts : List (List Char)} {k : Nat} {part : List Char} (hpart : parts[k]? = some part)
    (honly : ∀ i other, parts[i]? = some other → c ∈ other → i = k) :
    (join sep parts).count c = part.count c := by
  -- The part moves one place to the front with every part that is taken away.
  induction parts generalizing k with
  | nil => cases hpart
  | cons first others ih =>
    cases k with
    | zero =>
      obtain rfl : first = part := Option.some.inj hpart
      have hothers : ∀ p ∈ others, c ∉ p := by
        intro p hp hc
        obtain ⟨i, hi⟩ := List.mem_iff_getElem?.mp hp
        exact absurd (honly (i + 1) p hi hc) (Nat.succ_ne_zero i)
      by_cases hne : others = []
      · subst others
        rfl
      · rw [join_cons hne, List.count_append, List.count_append, List.count_eq_zero_of_not_mem hsep,
          List.count_eq_zero_of_not_mem (not_mem_join hsep hothers)]
        rfl
    | succ k =>
      rw [List.getElem?_cons_succ] at hpart
      have hne : others ≠ [] := List.ne_nil_of_mem (List.mem_of_getElem? hpart)
      have hfirst : c ∉ first := fun hc => absurd (honly 0 first rfl hc) (Nat.succ_ne_zero k).symm
      have hothers := ih hpart fun i other hi hc =>
        Nat.succ.inj (honly (i + 1) other hi hc)
      rw [join_cons hne, List.count_append, List.count_append, List.count_eq_zero_of_not_mem hsep,
        List.count_eq_zero_of_not_mem hfirst, hothers, Nat.zero_add]

/-- What follows the separator stays in front of every piece but the first one. -/
theorem pieces_join {sep : Char} {pad : List Char} (hpad : sep ∉ pad) (lead : List Char)
    (hlead : sep ∉ lead) (part : List Char) (others : List (List Char))
    (h : ∀ p ∈ part :: others, sep ∉ p) :
    pieces sep (lead ++ join (sep :: pad) (part :: others))
      = (lead ++ part) :: others.map (pad ++ ·) := by
  induction others generalizing part lead with
  | nil =>
    have hpart : sep ∉ lead ++ part := by simpa [hlead] using h part List.mem_cons_self
    simp [join, pieces_of_not_mem hpart]
  | cons next others ih =>
    have hpart : sep ∉ lead ++ part := by simpa [hlead] using h part List.mem_cons_self
    have hrest : ∀ p ∈ next :: others, sep ∉ p := fun p hp => h p (List.mem_cons_of_mem _ hp)
    have hcut : lead ++ join (sep :: pad) (part :: next :: others)
        = (lead ++ part) ++ sep :: (pad ++ join (sep :: pad) (next :: others)) := by
      simp [join_cons]
    rw [hcut, pieces_append_cons hpart, ih pad hpad next hrest, List.map_cons]

theorem pieces_join_singleton {sep : Char} {parts : List (List Char)} (hne : parts ≠ [])
    (h : ∀ p ∈ parts, sep ∉ p) : pieces sep (join [sep] parts) = parts := by
  cases parts with
  | nil => exact absurd rfl hne
  | cons part others =>
    have hp := pieces_join (List.not_mem_nil (a := sep)) [] (by simp) part others h
    simpa using hp

theorem join_pieces (sep : Char) (text : List Char) : join [sep] (pieces sep text) = text := by
  induction text with
  | nil => rfl
  | cons c rest ih =>
    by_cases hc : c = sep
    · rw [pieces, if_pos hc, join_cons (pieces_ne_nil sep rest), ih, hc]
      rfl
    · obtain ⟨first, others, hp⟩ := List.exists_cons_of_ne_nil (pieces_ne_nil sep rest)
      rw [hp] at ih
      rw [pieces, if_neg hc, hp, ← ih]
      cases others <;> rfl

theorem cut_append {sep : Char} {name : List Char} (h : sep ∉ name) (rest : List Char) :
    cut? sep (name ++ sep :: rest) = some (name, rest) := by
  have hname : ∀ c ∈ name, (c != sep) = true := by
    intro c hc
    simpa using fun e : c = sep => h (e ▸ hc)
  simp [cut?, List.dropWhile_append_of_pos hname, List.takeWhile_append_of_pos hname]

theorem cut_eq_some {sep : Char} {text name rest : List Char}
    (h : cut? sep text = some (name, rest)) : text = name ++ sep :: rest ∧ sep ∉ name := by
  unfold cut? at h
  cases hd : text.dropWhile (· != sep) with
  | nil => simp [hd] at h
  | cons c behind =>
    obtain ⟨rfl, rfl⟩ : text.takeWhile (· != sep) = name ∧ behind = rest := by simpa [hd] using h
    have hc : c = sep := by
      have hhead := List.head?_dropWhile_not (p := (· != sep)) text
      simpa [hd] using hhead
    subst c
    refine ⟨?_, fun hm => ?_⟩
    · rw [← hd, List.takeWhile_append_dropWhile]
    · simpa using List.mem_takeWhile_imp hm

end Tableaux.Text
