import Tableaux.Grid
import Tableaux.Proofs.Decimal.Reader
import Tableaux.Proofs.Expression.Pattern
import Tableaux.Proofs.Text.Form

/-!
# The number in front of a text

The form of a number is an optional sign and then a word or a decimal with an optional exponent.
The scan of a cell takes the longest part at the start of a text that has this form, and it is what
backtracking finds first.
-/
namespace Tableaux.Grid

open Decimal (Denotes Exponent Mantissa Signed isDigit takeWhile_digits dropWhile_digits)
open Expression (Numbered fits_many fits_number fits_sign isSign numbered_takeWhile)
open Text (Form)

variable {text rest sign digits whole fraction exponent other : List Char} {n : Int}

def signForm : Form := .repeated ⟨isSign, 0, some 1⟩

def digitsForm : Form := .repeated ⟨isDigit, 1, none⟩

def markForm : Form := .repeated ⟨fun c => c == 'e' || c == 'E', 1, some 1⟩

def mantissaForm : Form :=
  .either
    (.behind digitsForm (.behind (.repeated ⟨(· == '.'), 0, some 1⟩) (.repeated ⟨isDigit, 0, none⟩)))
    (.behind (.char '.') digitsForm)

def exponentForm : Form := .behind markForm (.behind signForm digitsForm)

def decimalForm : Form := .behind mantissaForm exponentForm.optional

def numberForm : Form := .behind signForm (.either (.word "Infinity".toList) decimalForm)

theorem fits_signForm : signForm.Fits sign ↔ ∃ negative, Signed sign negative := by
  rw [signForm, Form.Fits, fits_sign]
  constructor
  · rintro (rfl | rfl | rfl)
    · exact ⟨_, .unsigned⟩
    · exact ⟨_, .plus⟩
    · exact ⟨_, .minus⟩
  · rintro ⟨_, h⟩
    cases h with
    | unsigned => exact Or.inl rfl
    | plus => exact Or.inr (Or.inl rfl)
    | minus => exact Or.inr (Or.inr rfl)

theorem fits_digitsForm :
    digitsForm.Fits digits ↔ digits ≠ [] ∧ ∀ c ∈ digits, isDigit c = true := by
  rw [digitsForm, Form.Fits, fits_number]

theorem fits_markForm {part : List Char} :
    markForm.Fits part ↔ ∃ mark, part = [mark] ∧ (mark = 'e' ∨ mark = 'E') := by
  constructor
  · rintro ⟨hall, hleast, hmost⟩
    match part with
    | [c] => exact ⟨c, rfl, by simpa using hall⟩
    | c :: d :: others => simpa using hmost 1 rfl
  · rintro ⟨mark, rfl, hmark⟩
    exact ⟨by simpa using hmark, by simp, by simp⟩

theorem fits_point {point : List Char} :
    (Form.repeated ⟨(· == '.'), 0, some 1⟩).Fits point ↔ point = [] ∨ point = ['.'] := by
  constructor
  · rintro ⟨hall, -, hmost⟩
    match point with
    | [] => exact Or.inl rfl
    | [c] => simpa using hall
    | c :: d :: others => simpa using hmost 1 rfl
  · rintro (rfl | rfl) <;> exact ⟨by simp, by simp, by simp⟩

theorem fits_mantissaForm {mantissa : List Char} :
    mantissaForm.Fits mantissa ↔ ∃ whole fraction, Mantissa mantissa whole fraction := by
  have hmany : ∀ part, (Form.repeated ⟨isDigit, 0, none⟩).Fits part ↔
      ∀ c ∈ part, isDigit c = true := fun part => fits_many
  simp only [mantissaForm, Form.Fits, fits_digitsForm, Form.fits_char]
  constructor
  · rintro (⟨whole, _, rfl, ⟨hfilled, hw⟩, point, fraction, rfl, hpoint, hf⟩ |
      ⟨_, fraction, rfl, rfl, hfilled, hf⟩)
    · rcases fits_point.mp hpoint with rfl | rfl
      · refine ⟨whole ++ fraction, [], .integer (List.append_ne_nil_of_left_ne_nil hfilled _) ?_⟩
        intro c hc
        rcases List.mem_append.mp hc with hc | hc
        · exact hw c hc
        · exact (hmany _).mp hf c hc
      · exact ⟨whole, fraction, .pointed (Or.inl hfilled) hw ((hmany _).mp hf)⟩
    · have hm := Mantissa.pointed (Or.inr hfilled) (List.forall_mem_nil _) hf
      exact ⟨[], fraction, hm⟩
  · rintro ⟨whole, fraction, h⟩
    cases h with
    | integer hfilled hw =>
      exact Or.inl ⟨mantissa, [], by simp, ⟨hfilled, hw⟩, [], [], rfl, fits_point.mpr (Or.inl rfl),
        (hmany _).mpr (by simp)⟩
    | pointed hfilled hw hf =>
      by_cases hwhole : whole = []
      · subst hwhole
        exact Or.inr ⟨['.'], fraction, rfl, rfl, hfilled.resolve_left (absurd rfl), hf⟩
      · exact Or.inl ⟨whole, '.' :: fraction, rfl, ⟨hwhole, hw⟩, ['.'], fraction, rfl,
          fits_point.mpr (Or.inr rfl), (hmany _).mpr hf⟩

theorem fits_exponentForm :
    exponentForm.optional.Fits exponent ↔ ∃ n, Exponent exponent n := by
  rw [Form.fits_optional]
  simp only [exponentForm, Form.Fits, fits_markForm, fits_signForm, fits_digitsForm]
  constructor
  · rintro (⟨_, _, rfl, ⟨mark, rfl, hmark⟩, sign, digits, rfl, ⟨negative, hsign⟩, hfilled, hd⟩ | rfl)
    · have he := Exponent.written hmark hsign hfilled hd
      exact ⟨_, he⟩
    · exact ⟨0, .missing⟩
  · rintro ⟨n, h⟩
    cases h with
    | missing => exact Or.inr rfl
    | @written mark sign digits negative hmark hsign hfilled hd =>
      exact Or.inl ⟨[mark], sign ++ digits, rfl, ⟨mark, rfl, hmark⟩, sign, digits, rfl,
        ⟨negative, hsign⟩, hfilled, hd⟩

theorem fits_decimalForm :
    decimalForm.Fits other ↔ ∃ mantissa whole fraction exponent n,
      other = mantissa ++ exponent ∧ Mantissa mantissa whole fraction ∧ Exponent exponent n := by
  simp only [decimalForm, Form.Fits, fits_mantissaForm, fits_exponentForm]
  constructor
  · rintro ⟨mantissa, exponent, rfl, ⟨whole, fraction, hm⟩, n, he⟩
    exact ⟨mantissa, whole, fraction, exponent, n, rfl, hm, he⟩
  · rintro ⟨mantissa, whole, fraction, exponent, n, rfl, hm, he⟩
    exact ⟨mantissa, exponent, rfl, ⟨whole, fraction, hm⟩, n, he⟩

/-- A text has the form of a number exactly if it denotes one. -/
theorem fits_numberForm : numberForm.Fits text ↔ ∃ x, Denotes text x := by
  simp only [numberForm, Form.Fits, fits_signForm, Form.fits_word, fits_decimalForm]
  constructor
  · rintro ⟨sign, _, rfl, ⟨negative, hsign⟩,
      rfl | ⟨mantissa, whole, fraction, exponent, n, rfl, hm, he⟩⟩
    · exact ⟨_, .infinite hsign⟩
    · exact ⟨_, .decimal hsign hm he⟩
  · rintro ⟨x, h⟩
    cases h with
    | infinite hsign => exact ⟨_, _, rfl, ⟨_, hsign⟩, Or.inl rfl⟩
    | decimal hsign hm he =>
      exact ⟨_, _, rfl, ⟨_, hsign⟩, Or.inr ⟨_, _, _, _, _, rfl, hm, he⟩⟩

/-- The part at the start of a text is the longest one that has a form, and backtracking comes to it
first. -/
structure Leads (f : Form) (part rest : List Char) : Prop where
  longest : f.Longest (part ++ rest) part
  finds : f.Finds part rest

inductive Leading (f : Form) (text : List Char) : Option (List Char) → Prop where
  | found {part rest : List Char} (htext : text = part ++ rest) (hleads : Leads f part rest) :
      Leading f text (some part)
  | missing (h : ∀ other, other <+: text → ¬ f.Fits other) : Leading f text none

theorem leads_repeated {r : Text.Repetition} {part rest : List Char} (hfits : r.Fits part)
    (hend : (∀ c ∈ rest.head?, r.holds c = false) ∨ r.most = some part.length) :
    Leads (.repeated r) part rest :=
  ⟨Form.longest_repeated hfits hend, Form.finds_repeated (Form.longest_repeated hfits hend)⟩

theorem leads_of_finds {f : Form} {part rest : List Char} (h : f.Finds part rest)
    (hmost : ∀ other, other <+: part ++ rest → f.Fits other → other.length ≤ part.length) :
    Leads f part rest :=
  ⟨⟨h.fits, List.prefix_append part rest, hmost⟩, h⟩

theorem leadingSign_append_drop (text : List Char) :
    leadingSign text ++ text.drop (leadingSign text).length = text := by
  unfold leadingSign
  split <;> rfl

theorem leadingSign_eq {negative : Bool} (h : Signed sign negative) {c : Char}
    (hplus : c ≠ '+') (hminus : c ≠ '-') (hstart : sign ++ c :: other <+: text) :
    leadingSign text = sign := by
  obtain ⟨rest, rfl⟩ := hstart
  cases h with
  | plus | minus => rfl
  | unsigned => simp [leadingSign, hplus, hminus]

theorem leads_sign (text : List Char) :
    Leads signForm (leadingSign text) (text.drop (leadingSign text).length) := by
  unfold leadingSign
  split
  · exact leads_repeated (fits_sign.mpr (Or.inr (Or.inl rfl))) (Or.inr rfl)
  · exact leads_repeated (fits_sign.mpr (Or.inr (Or.inr rfl))) (Or.inr rfl)
  · rename_i hplus hminus
    refine leads_repeated (fits_sign.mpr (Or.inl rfl)) (Or.inl fun c hc => ?_)
    obtain ⟨others, rfl⟩ := List.head?_eq_some_iff.mp hc
    simp only [isSign, Bool.or_eq_false_iff, beq_eq_false_iff_ne]
    exact ⟨fun h => hplus others (by rw [h]), fun h => hminus others (by rw [h])⟩

theorem leads_digits (h : Numbered digits rest) : Leads digitsForm digits rest :=
  leads_repeated (fits_number.mpr ⟨h.filled, h.digit⟩) (Or.inl h.ends)

theorem digits_split (text : List Char) :
    ∃ digits rest, text = digits ++ rest ∧ (∀ c ∈ digits, isDigit c = true) ∧
      ∀ c ∈ rest.head?, isDigit c = false := by
  refine ⟨text.takeWhile isDigit, text.dropWhile isDigit, List.takeWhile_append_dropWhile.symm,
    fun c hc => List.mem_takeWhile_imp hc, fun c hc => ?_⟩
  have hhead := List.head?_dropWhile_not isDigit text
  rw [hc] at hhead
  exact hhead

theorem digits_start {behind : List Char} (hd : ∀ c ∈ digits, isDigit c = true)
    (hw : ∀ c ∈ whole, isDigit c = true) (hrest : ∀ c ∈ rest.head?, isDigit c = false)
    (hbehind : ∀ c ∈ behind.head?, isDigit c = false)
    (hstart : digits ++ behind <+: whole ++ rest) :
    digits <+: whole ∧ (behind = [] ∨ digits = whole ∧ behind <+: rest) := by
  obtain ⟨after, hafter⟩ := hstart
  rw [List.append_assoc] at hafter
  have hwhole : (whole ++ rest).takeWhile isDigit = digits ++ (behind ++ after).takeWhile isDigit := by
    rw [← hafter, List.takeWhile_append_of_pos hd]
  rw [takeWhile_digits hw hrest] at hwhole
  refine ⟨hwhole ▸ List.prefix_append _ _, ?_⟩
  cases behind with
  | nil => exact Or.inl rfl
  | cons c others =>
    have hnone : (c :: others ++ after).takeWhile isDigit = [] :=
      List.takeWhile_cons_of_neg (by simp [hbehind c rfl])
    rw [hnone, List.append_nil] at hwhole
    subst hwhole
    rw [List.append_cancel_left_eq] at hafter
    exact Or.inr ⟨rfl, after, hafter⟩

theorem exponent_start {mark c : Char} {negative : Bool} (hsign : Signed sign negative)
    (hfilled : digits ≠ []) (hd : ∀ c ∈ digits, isDigit c = true)
    (hstart : mark :: (sign ++ digits) <+: c :: rest) :
    mark = c ∧ leadingSign rest = sign ∧
      digits <+: (rest.drop sign.length).takeWhile isDigit := by
  obtain ⟨rfl, hrest⟩ := List.cons_prefix_cons.mp hstart
  obtain ⟨d, others, rfl⟩ := List.exists_cons_of_ne_nil hfilled
  obtain ⟨hplus, hminus⟩ := Decimal.digit_not_sign (hd d List.mem_cons_self)
  refine ⟨rfl, leadingSign_eq hsign hplus hminus hrest, ?_⟩
  obtain ⟨after, rfl⟩ := hrest
  rw [List.append_assoc, List.drop_left, List.takeWhile_append_of_pos hd]
  exact List.prefix_append _ _

theorem length_exponent (h : exponentForm.Fits exponent) (hstart : exponent <+: text) :
    0 < exponent.length ∧ exponent.length ≤ (leadingExponent text).length := by
  simp only [exponentForm, Form.Fits, fits_markForm, fits_signForm, fits_digitsForm] at h
  obtain ⟨_, _, rfl, ⟨mark, rfl, he⟩, sign, digits, rfl, ⟨negative, hsign⟩, hfilled, hd⟩ := h
  cases text with
  | nil => simp at hstart
  | cons c rest =>
    obtain ⟨rfl, hsame, hmore⟩ := exponent_start hsign hfilled hd hstart
    have hlength := hmore.length_le
    have hfound : (rest.drop sign.length).takeWhile isDigit ≠ [] := by
      intro hnil
      rw [hnil] at hmore
      exact hfilled (List.prefix_nil.mp hmore)
    simp only [leadingExponent, hsame]
    rw [if_pos ⟨he, hfound⟩]
    simp only [List.length_append, List.length_cons, List.length_nil] at hlength ⊢
    omega

theorem leadingExponent_cases (text : List Char) :
    leadingExponent text = [] ∨ ∃ mark sign digits after,
      text = mark :: (sign ++ digits) ++ after ∧ (mark = 'e' ∨ mark = 'E') ∧
      Leads signForm sign (digits ++ after) ∧ Numbered digits after ∧
      leadingExponent text = mark :: (sign ++ digits) := by
  cases text with
  | nil => exact Or.inl rfl
  | cons c rest =>
    have hsign := leads_sign rest
    have hsplit := leadingSign_append_drop rest
    simp only [leadingExponent]
    by_cases hwritten : (c = 'e' ∨ c = 'E') ∧
        (rest.drop (leadingSign rest).length).takeWhile isDigit ≠ []
    · rw [if_pos hwritten]
      generalize rest.drop (leadingSign rest).length = more at hwritten hsign hsplit ⊢
      have hmore : more.takeWhile isDigit ++ more.dropWhile isDigit = more :=
        List.takeWhile_append_dropWhile
      refine Or.inr ⟨c, leadingSign rest, more.takeWhile isDigit, more.dropWhile isDigit, ?_,
        hwritten.1, ?_, numbered_takeWhile hwritten.2, rfl⟩
      · rw [List.cons_append, List.append_assoc, hmore, hsplit]
      · rw [hmore]
        exact hsign
    · exact Or.inl (if_neg hwritten)

theorem leads_exponent (text : List Char) :
    ∃ after, text = leadingExponent text ++ after ∧
      Leads exponentForm.optional (leadingExponent text) after := by
  have hmost : ∀ other, other <+: text → exponentForm.optional.Fits other →
      other.length ≤ (leadingExponent text).length := by
    intro other hstart hfits
    rcases Form.fits_optional.mp hfits with hfits | rfl
    · exact (length_exponent hfits hstart).2
    · exact Nat.zero_le _
  rcases leadingExponent_cases text with hnone | ⟨mark, sign, digits, after, htext, hmark, hsign,
    hdigits, hsome⟩
  · rw [hnone] at hmost ⊢
    refine ⟨text, rfl, leads_of_finds (Form.finds_second ?_ (Form.finds_empty text)) hmost⟩
    intro other hstart hfits
    have hlength := length_exponent hfits hstart
    rw [List.nil_append, hnone] at hlength
    exact absurd hlength.2 (Nat.not_le_of_lt hlength.1)
  · rw [hsome] at hmost ⊢
    refine ⟨after, htext, leads_of_finds (Form.finds_first ?_) (htext ▸ hmost)⟩
    have hfirst : markForm.Finds [mark] (sign ++ digits ++ after) :=
      (leads_repeated (fits_markForm.mpr ⟨mark, rfl, hmark⟩) (Or.inr rfl)).finds
    exact Form.finds_behind hfirst (Form.finds_behind hsign.finds (leads_digits hdigits).finds)

theorem exponent_eq_nil {c : Char} (he : Exponent exponent n) (hc : isDigit c = true ∨ c = '.')
    (hstart : exponent <+: c :: rest) : exponent = [] := by
  cases exponent with
  | nil => rfl
  | cons d others =>
    obtain ⟨rfl, -⟩ := List.cons_prefix_cons.mp hstart
    obtain ⟨hdigit, hpoint⟩ := he.head d rfl
    rcases hc with hc | hc
    · rw [hdigit] at hc
      cases hc
    · exact absurd hc hpoint

theorem length_digits_exponent (hd : ∀ c ∈ digits, isDigit c = true)
    (hw : ∀ c ∈ whole, isDigit c = true) (hrest : ∀ c ∈ rest.head?, isDigit c = false)
    (he : Exponent exponent n) (hstart : digits ++ exponent <+: whole ++ rest) :
    (digits ++ exponent).length ≤ (whole ++ leadingExponent rest).length := by
  obtain ⟨hmore, hnil | ⟨rfl, hbehind⟩⟩ :=
    digits_start hd hw hrest (fun c hc => (he.head c hc).1) hstart
  · have hle := hmore.length_le
    rw [hnil, List.append_nil, List.length_append]
    omega
  · obtain ⟨after, hsplit, hleads⟩ := leads_exponent rest
    have hle := hleads.longest.most exponent (hsplit ▸ hbehind) (fits_exponentForm.mpr ⟨n, he⟩)
    rw [List.length_append, List.length_append]
    omega

theorem leadingDecimal_integer (hw : ∀ c ∈ whole, isDigit c = true)
    (hrest : ∀ c ∈ rest.head?, isDigit c = false) (hpoint : '.' ∉ rest.head?) :
    leadingDecimal? (whole ++ rest) =
      if whole = [] then none else some (whole ++ leadingExponent rest) := by
  have hnone : rest.take 1 ≠ ['.'] := by
    intro h
    cases rest with
    | nil => cases h
    | cons c others => exact hpoint (congrArg some (List.cons.inj h).1)
  rw [leadingDecimal?]
  simp only [takeWhile_digits hw hrest, List.drop_left, if_neg hnone]

theorem leadingDecimal_pointed (hw : ∀ c ∈ whole, isDigit c = true)
    (hf : ∀ c ∈ fraction, isDigit c = true) (hrest : ∀ c ∈ rest.head?, isDigit c = false) :
    leadingDecimal? (whole ++ '.' :: (fraction ++ rest)) =
      if whole = [] ∧ fraction = [] then none
      else some (whole ++ '.' :: fraction ++ leadingExponent rest) := by
  have hend : ∀ c ∈ ('.' :: (fraction ++ rest)).head?, isDigit c = false :=
    Expression.head_not_digit (by decide) _
  have hbehind : (whole ++ '.' :: (fraction ++ rest)).drop (whole.length + 1) =
      fraction ++ rest := by
    rw [← List.drop_drop, List.drop_left]
    rfl
  have hmantissa : (whole ++ '.' :: (fraction ++ rest)).drop (whole ++ '.' :: fraction).length =
      rest := by
    have hsplit : whole ++ '.' :: (fraction ++ rest) = (whole ++ '.' :: fraction) ++ rest := by simp
    rw [hsplit, List.drop_left]
  rw [leadingDecimal?]
  simp only [takeWhile_digits hw hend, List.drop_left, hbehind, takeWhile_digits hf hrest,
    hmantissa, List.take_succ_cons, List.take_zero, if_true]

theorem finds_integer (h : Numbered whole rest) (hpoint : '.' ∉ rest.head?) :
    mantissaForm.Finds whole rest := by
  have hnone : (Form.repeated ⟨(· == '.'), 0, some 1⟩).Finds [] rest := by
    refine Form.finds_repeated (Form.longest_repeated (by simp [Text.Repetition.Fits]) (Or.inl ?_))
    intro c hc
    rw [beq_eq_false_iff_ne]
    rintro rfl
    exact hpoint hc
  have hmany : (Form.repeated ⟨isDigit, 0, none⟩).Finds [] rest :=
    Form.finds_repeated (Form.longest_repeated (by simp [Text.Repetition.Fits]) (Or.inl h.ends))
  have hfinds := Form.finds_behind (leads_digits h).finds (Form.finds_behind hnone hmany)
  rw [List.append_nil, List.append_nil] at hfinds
  exact Form.finds_first hfinds

theorem finds_pointed (hfilled : whole ≠ [] ∨ fraction ≠ []) (hw : ∀ c ∈ whole, isDigit c = true)
    (hf : ∀ c ∈ fraction, isDigit c = true) (hrest : ∀ c ∈ rest.head?, isDigit c = false) :
    mantissaForm.Finds (whole ++ '.' :: fraction) rest := by
  by_cases hwhole : whole = []
  · subst hwhole
    have hnumbered : Numbered fraction rest := ⟨hfilled.resolve_left (absurd rfl), hf, hrest⟩
    have hfinds := Form.finds_behind (Form.finds_char '.' (fraction ++ rest))
      (leads_digits hnumbered).finds
    refine Form.finds_second ?_ hfinds
    rintro other hstart ⟨digits, behind, rfl, hdigits, -⟩
    obtain ⟨hne, hd⟩ := fits_digitsForm.mp hdigits
    obtain ⟨d, others, rfl⟩ := List.exists_cons_of_ne_nil hne
    obtain ⟨rfl, -⟩ := List.cons_prefix_cons.mp hstart
    exact absurd (hd '.' List.mem_cons_self) (by decide)
  · have hnumbered : Numbered whole ('.' :: fraction ++ rest) :=
      ⟨hwhole, hw, Expression.head_not_digit (by decide) _⟩
    have hpoint : (Form.repeated ⟨(· == '.'), 0, some 1⟩).Finds ['.'] (fraction ++ rest) :=
      Form.finds_repeated
        (Form.longest_repeated (fits_point.mpr (Or.inr rfl)) (Or.inr rfl))
    have hmany : (Form.repeated ⟨isDigit, 0, none⟩).Finds fraction rest :=
      Form.finds_repeated (Form.longest_repeated (fits_many.mpr hf) (Or.inl hrest))
    exact Form.finds_first
      (Form.finds_behind (leads_digits hnumbered).finds (Form.finds_behind hpoint hmany))

theorem length_decimal_integer (h : decimalForm.Fits other) (hw : ∀ c ∈ whole, isDigit c = true)
    (hrest : ∀ c ∈ rest.head?, isDigit c = false) (hpoint : '.' ∉ rest.head?)
    (hstart : other <+: whole ++ rest) :
    whole ≠ [] ∧ other.length ≤ (whole ++ leadingExponent rest).length := by
  obtain ⟨mantissa, digits, fraction, exponent, n, rfl, hm, he⟩ := fits_decimalForm.mp h
  cases hm with
  | integer hfilled hd =>
    have hmore := (digits_start hd hw hrest (fun c hc => (he.head c hc).1) hstart).1
    refine ⟨?_, length_digits_exponent hd hw hrest he hstart⟩
    rintro rfl
    exact hfilled (List.prefix_nil.mp hmore)
  | pointed _ hd _ =>
    -- Behind the digits stands no point.
    rw [List.append_assoc, List.cons_append] at hstart
    obtain ⟨-, hnil | ⟨-, after, hbehind⟩⟩ :=
      digits_start hd hw hrest (Expression.head_not_digit (by decide) _) hstart
    · cases hnil
    · rw [← hbehind] at hpoint
      exact absurd rfl hpoint

theorem length_decimal_pointed (h : decimalForm.Fits other) (hw : ∀ c ∈ whole, isDigit c = true)
    (hf : ∀ c ∈ fraction, isDigit c = true) (hrest : ∀ c ∈ rest.head?, isDigit c = false)
    (hstart : other <+: whole ++ '.' :: (fraction ++ rest)) :
    ¬ (whole = [] ∧ fraction = []) ∧
      other.length ≤ (whole ++ '.' :: fraction ++ leadingExponent rest).length := by
  have hend : ∀ c ∈ ('.' :: (fraction ++ rest)).head?, isDigit c = false :=
    Expression.head_not_digit (by decide) _
  obtain ⟨mantissa, digits, places, exponent, n, rfl, hm, he⟩ := fits_decimalForm.mp h
  cases hm with
  | integer hfilled hd =>
    obtain ⟨hmore, hnil⟩ := digits_start hd hw hend (fun c hc => (he.head c hc).1) hstart
    have hnone : exponent = [] := by
      rcases hnil with hnil | ⟨-, hbehind⟩
      · exact hnil
      · exact exponent_eq_nil he (Or.inr rfl) hbehind
    refine ⟨fun hempty => hfilled (List.prefix_nil.mp (hempty.1 ▸ hmore)), ?_⟩
    have hle := hmore.length_le
    rw [hnone]
    simp only [List.length_append, List.length_nil, List.length_cons]
    omega
  | pointed hfilled hd hp =>
    rw [List.append_assoc, List.cons_append] at hstart
    obtain ⟨-, hnil | ⟨rfl, hbehind⟩⟩ :=
      digits_start hd hw hend (Expression.head_not_digit (by decide) _) hstart
    · cases hnil
    · have hbehind := (List.cons_prefix_cons.mp hbehind).2
      have hle := length_digits_exponent hp hf hrest he hbehind
      have hmore := (digits_start hp hf hrest (fun c hc => (he.head c hc).1) hbehind).1
      constructor
      · rintro ⟨rfl, rfl⟩
        exact hfilled.elim (absurd rfl) (absurd (List.prefix_nil.mp hmore))
      · simp only [List.length_append, List.length_cons] at hle ⊢
        omega

theorem leads_decimal (text : List Char) : Leading decimalForm text (leadingDecimal? text) := by
  obtain ⟨whole, rest, rfl, hw, hend⟩ := digits_split text
  by_cases hpoint : '.' ∈ rest.head?
  · obtain ⟨behind, rfl⟩ := List.head?_eq_some_iff.mp hpoint
    obtain ⟨fraction, rest, rfl, hf, hrest⟩ := digits_split behind
    have hmost := fun other hstart (h : decimalForm.Fits other) =>
      length_decimal_pointed h hw hf hrest hstart
    rw [leadingDecimal_pointed hw hf hrest]
    by_cases hempty : whole = [] ∧ fraction = []
    · rw [if_pos hempty]
      exact .missing fun other hstart hfits => (hmost other hstart hfits).1 hempty
    · rw [if_neg hempty]
      obtain ⟨after, hsplit, hexponent⟩ := leads_exponent rest
      have htext : whole ++ '.' :: (fraction ++ rest) =
          (whole ++ '.' :: fraction ++ leadingExponent rest) ++ after := by
        rw [List.append_assoc, ← hsplit]
        simp
      have hmantissa := finds_pointed (not_and_or.mp hempty) hw hf hrest
      rw [hsplit] at hmantissa
      exact .found htext (leads_of_finds (Form.finds_behind hmantissa hexponent.finds)
        fun other hstart hfits => (hmost other (htext ▸ hstart) hfits).2)
  · have hmost := fun other hstart (h : decimalForm.Fits other) =>
      length_decimal_integer h hw hend hpoint hstart
    rw [leadingDecimal_integer hw hend hpoint]
    by_cases hempty : whole = []
    · rw [if_pos hempty]
      exact .missing fun other hstart hfits => (hmost other hstart hfits).1 hempty
    · rw [if_neg hempty]
      obtain ⟨after, hsplit, hexponent⟩ := leads_exponent rest
      have htext : whole ++ rest = (whole ++ leadingExponent rest) ++ after := by
        rw [List.append_assoc, ← hsplit]
      have hmantissa := finds_integer ⟨hempty, hw, hend⟩ hpoint
      rw [hsplit] at hmantissa
      exact .found htext (leads_of_finds (Form.finds_behind hmantissa hexponent.finds)
        fun other hstart hfits => (hmost other (htext ▸ hstart) hfits).2)

theorem decimal_head (h : decimalForm.Fits text) :
    ∃ c others, text = c :: others ∧ (isDigit c = true ∨ c = '.') := by
  obtain ⟨mantissa, whole, fraction, exponent, n, rfl, hm, -⟩ := fits_decimalForm.mp h
  obtain ⟨c, others, rfl, hc⟩ := hm.head
  exact ⟨c, others ++ exponent, rfl, hc⟩

theorem number_start (h : numberForm.Fits other) (hstart : other <+: text) :
    ∃ behind, other = leadingSign text ++ behind ∧
      behind <+: text.drop (leadingSign text).length ∧
      (behind = "Infinity".toList ∨ decimalForm.Fits behind) := by
  obtain ⟨sign, behind, rfl, hfits, hbehind⟩ := h
  obtain ⟨negative, hsign⟩ := fits_signForm.mp hfits
  have hsame : leadingSign text = sign := by
    rcases hbehind with hword | hdecimal
    · rw [Form.fits_word.mp hword] at hstart
      exact leadingSign_eq hsign (by decide) (by decide) hstart
    · obtain ⟨c, others, rfl, hc⟩ := decimal_head hdecimal
      rcases hc with hc | rfl
      · obtain ⟨hplus, hminus⟩ := Decimal.digit_not_sign hc
        exact leadingSign_eq hsign hplus hminus hstart
      · exact leadingSign_eq hsign (by decide) (by decide) hstart
  rw [hsame]
  refine ⟨behind, rfl, ?_, hbehind.imp_left Form.fits_word.mp⟩
  obtain ⟨after, rfl⟩ := hstart
  rw [List.append_assoc, List.drop_left]
  exact List.prefix_append behind after

theorem leads_number (text : List Char) : Leading numberForm text (leadingNumber? text) := by
  have hsign := leads_sign text
  have hsplit := leadingSign_append_drop text
  have hstart := fun (other : List Char) (h : other <+: text) (hfits : numberForm.Fits other) =>
    number_start hfits h
  rw [leadingNumber?]
  generalize leadingSign text = sign at hsign hsplit hstart ⊢
  generalize text.drop sign.length = rest at hsign hsplit hstart ⊢
  by_cases hword : "Infinity".toList.isPrefixOf rest = true
  · rw [if_pos hword]
    obtain ⟨after, rfl⟩ := List.isPrefixOf_iff_prefix.mp hword
    have hfinds : numberForm.Finds (sign ++ "Infinity".toList) after :=
      Form.finds_behind hsign.finds (Form.finds_first (Form.finds_word _ after))
    have htext : text = sign ++ "Infinity".toList ++ after := by rw [← hsplit, List.append_assoc]
    refine .found htext (leads_of_finds hfinds fun other hother hfits => ?_)
    obtain ⟨behind, rfl, hbehind, hcases⟩ := hstart other (htext ▸ hother) hfits
    rcases hcases with rfl | hdecimal
    · exact Nat.le_refl _
    · obtain ⟨c, others, rfl, hc⟩ := decimal_head hdecimal
      obtain ⟨rfl, -⟩ := List.cons_prefix_cons.mp hbehind
      exact absurd hc (by decide)
  · rw [if_neg hword]
    have hnoword : ∀ other, other <+: rest → ¬ (Form.word "Infinity".toList).Fits other := by
      intro other hother hfits
      rw [Form.fits_word.mp hfits] at hother
      exact hword (List.isPrefixOf_iff_prefix.mpr hother)
    have hdecimal := leads_decimal rest
    generalize leadingDecimal? rest = found at hdecimal ⊢
    cases hdecimal with
    | @found part after hrest hleads =>
      subst hrest
      have hfinds : numberForm.Finds (sign ++ part) after :=
        Form.finds_behind hsign.finds (Form.finds_second hnoword hleads.finds)
      have htext : text = sign ++ part ++ after := by rw [← hsplit, List.append_assoc]
      refine .found htext (leads_of_finds hfinds fun other hother hfits => ?_)
      obtain ⟨behind, rfl, hbehind, hcases⟩ := hstart other (htext ▸ hother) hfits
      have hdecimal : decimalForm.Fits behind := hcases.resolve_left fun h =>
        hnoword behind hbehind (Form.fits_word.mpr h)
      have hle := hleads.longest.most behind hbehind hdecimal
      rw [List.length_append, List.length_append]
      omega
    | missing hnone =>
      refine .missing fun other hother hfits => ?_
      obtain ⟨behind, rfl, hbehind, hcases⟩ := hstart other hother hfits
      rcases hcases with hcase | hdecimal
      · exact hnoword behind hbehind (Form.fits_word.mpr hcase)
      · exact hnone behind hbehind hdecimal

end Tableaux.Grid
