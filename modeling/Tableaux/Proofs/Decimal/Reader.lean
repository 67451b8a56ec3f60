import Tableaux.Decimal.Reader
import Tableaux.Proofs.Decimal.Digits
import Tableaux.Proofs.Decimal.Number

/-!
# Decimals and what is read from them

A number is written with an optional sign, and is infinite or a decimal: digits, digits with a
point and optional further digits, or a point with digits, and then an optional exponent. Each such
text is read, as the number that it denotes.
-/
namespace Tableaux.Decimal

variable {text sign mantissa whole fraction exponent : List Char} {negative : Bool} {n : Int}
  {x : Float}

/-- A text that is an optional sign, and whether it is a minus. -/
inductive Signed : List Char → Bool → Prop where
  | unsigned : Signed [] false
  | plus : Signed ['+'] false
  | minus : Signed ['-'] true

/-- A text that consists of the digits in front of the point and those behind it. -/
inductive Mantissa : List Char → List Char → List Char → Prop where
  | integer {whole : List Char} (hfilled : whole ≠ []) (hw : ∀ c ∈ whole, isDigit c = true) :
      Mantissa whole whole []
  | pointed {whole fraction : List Char} (hfilled : whole ≠ [] ∨ fraction ≠ [])
      (hw : ∀ c ∈ whole, isDigit c = true) (hf : ∀ c ∈ fraction, isDigit c = true) :
      Mantissa (whole ++ '.' :: fraction) whole fraction

/-- A text that is an optional exponent, and the power of ten that it stands for. -/
inductive Exponent : List Char → Int → Prop where
  | missing : Exponent [] 0
  | written {mark : Char} {sign digits : List Char} {negative : Bool}
      (hmark : mark = 'e' ∨ mark = 'E') (hsign : Signed sign negative) (hfilled : digits ≠ [])
      (hd : ∀ c ∈ digits, isDigit c = true) :
      Exponent (mark :: (sign ++ digits))
        (if negative then -(Nat.ofDigitChars 10 digits 0 : Int) else Nat.ofDigitChars 10 digits 0)

/-- The number that a text is the name of. -/
inductive Denotes : List Char → Float → Prop where
  | infinite {sign : List Char} {negative : Bool} (hsign : Signed sign negative) :
      Denotes (sign ++ "Infinity".toList) (if negative then -(1.0 / 0.0) else 1.0 / 0.0)
  | decimal {sign mantissa whole fraction exponent : List Char} {negative : Bool} {n : Int}
      (hsign : Signed sign negative) (hmantissa : Mantissa mantissa whole fraction)
      (hexponent : Exponent exponent n) :
      Denotes (sign ++ (mantissa ++ exponent))
        (if negative then -ofDigits (whole ++ fraction) (n - fraction.length)
          else ofDigits (whole ++ fraction) (n - fraction.length))

theorem splitSign_signed (h : Signed sign negative)
    (hrest : ∀ c ∈ text.head?, c ≠ '+' ∧ c ≠ '-') :
    splitSign (sign ++ text) = (negative, text) := by
  cases h with
  | plus | minus => rfl
  | unsigned =>
    cases text with
    | nil => rfl
    | cons c rest =>
      obtain ⟨hplus, hminus⟩ := hrest c rfl
      simp [splitSign, hplus, hminus]

theorem digit_not_sign {c : Char} (h : isDigit c = true) : c ≠ '+' ∧ c ≠ '-' := by
  constructor <;> (rintro rfl; exact absurd h (by decide))

theorem readExponent_written {digits : List Char} (hsign : Signed sign negative)
    (hfilled : digits ≠ []) (hd : ∀ c ∈ digits, isDigit c = true) :
    readExponent (sign ++ digits) = some
      (if negative then -(Nat.ofDigitChars 10 digits 0 : Int)
        else Nat.ofDigitChars 10 digits 0) := by
  have hrest : ∀ c ∈ digits.head?, c ≠ '+' ∧ c ≠ '-' := by
    intro c hc
    exact digit_not_sign (hd c (List.mem_of_mem_head? hc))
  have hall : digits ≠ [] ∧ digits.all isDigit = true := ⟨hfilled, List.all_eq_true.mpr hd⟩
  rw [readExponent, splitSign_signed hsign hrest]
  dsimp only
  rw [if_pos hall]

theorem Exponent.head (h : Exponent exponent n) :
    ∀ c ∈ exponent.head?, isDigit c = false ∧ c ≠ '.' := by
  cases h with
  | missing => simp
  | written hmark _ _ _ =>
    intro c hc
    obtain rfl := Option.some.inj hc
    rcases hmark with rfl | rfl <;> decide

theorem splitMantissa_append (hm : Mantissa mantissa whole fraction)
    (hrest : ∀ c ∈ text.head?, isDigit c = false ∧ c ≠ '.') :
    splitMantissa (mantissa ++ text) = (whole, fraction, text) := by
  have hend : ∀ c ∈ text.head?, isDigit c = false := fun c hc => (hrest c hc).1
  cases hm with
  | integer hfilled hw =>
    rw [splitMantissa, takeWhile_digits hw hend, dropWhile_digits hw hend]
    cases text with
    | nil => rfl
    | cons c rest =>
      have hpoint := (hrest c rfl).2
      simp [hpoint]
  | pointed hfilled hw hf =>
    have hpoint : ∀ c ∈ ('.' :: (fraction ++ text)).head?, isDigit c = false := by
      intro c hc
      obtain rfl := Option.some.inj hc
      decide
    rw [splitMantissa, List.append_assoc, List.cons_append, takeWhile_digits hw hpoint,
      dropWhile_digits hw hpoint]
    simp only
    rw [takeWhile_digits hf hend, dropWhile_digits hf hend]

theorem Mantissa.filled (h : Mantissa mantissa whole fraction) :
    ¬ (whole = [] ∧ fraction = []) := by
  rintro ⟨rfl, rfl⟩
  cases h with
  | integer hfilled hw => exact hfilled rfl
  | pointed hfilled hw hf => rcases hfilled with h | h <;> exact h rfl

theorem readMagnitude_decimal (hm : Mantissa mantissa whole fraction) (he : Exponent exponent n) :
    readMagnitude (mantissa ++ exponent) =
      some (ofDigits (whole ++ fraction) (n - fraction.length)) := by
  rw [readMagnitude, splitMantissa_append hm he.head]
  dsimp only
  rw [if_neg hm.filled]
  cases he with
  | missing => rfl
  | written hmark hsign hfilled hd =>
    have hread := readExponent_written hsign hfilled hd
    rcases hmark with rfl | rfl <;> simp only [hread, Option.map_some]

theorem Mantissa.head (h : Mantissa mantissa whole fraction) :
    ∃ c rest, mantissa = c :: rest ∧ (isDigit c = true ∨ c = '.') := by
  cases h with
  | integer hfilled hw =>
    obtain ⟨c, rest, rfl⟩ := List.exists_cons_of_ne_nil hfilled
    exact ⟨c, rest, rfl, Or.inl (hw c List.mem_cons_self)⟩
  | pointed hfilled hw hf =>
    cases whole with
    | nil => exact ⟨'.', fraction, rfl, Or.inr rfl⟩
    | cons c rest => exact ⟨c, _, rfl, Or.inl (hw c List.mem_cons_self)⟩

theorem toLower_figure {c : Char} (h : isDigit c = true ∨ c = '.') : c.toLower = c := by
  rcases h with h | rfl
  · have hrange := (digit_iff_range c).mp h
    rw [Char.toLower, dif_neg]
    rintro ⟨hlow, -⟩
    have hle : 65 ≤ c.toNat := hlow
    omega
  · decide

theorem readUnsigned_decimal (hm : Mantissa mantissa whole fraction) (he : Exponent exponent n) :
    readUnsigned (mantissa ++ exponent) =
      some (ofDigits (whole ++ fraction) (n - fraction.length)) := by
  obtain ⟨c, rest, hcons, hc⟩ := hm.head
  have hword : ∀ d letters, isDigit d = false → d ≠ '.' →
      String.ofList ((mantissa ++ exponent).map Char.toLower) ≠ String.ofList (d :: letters) := by
    intro d letters hdigit hpoint heq
    rw [String.ofList_inj, hcons, List.cons_append, List.map_cons, List.cons.injEq,
      toLower_figure hc] at heq
    obtain rfl := heq.1
    rcases hc with hc | hc
    · rw [hc] at hdigit
      cases hdigit
    · exact hpoint hc
  have hinf := hword 'i' ['n', 'f'] (by decide) (by decide)
  have hinfinity := hword 'i' ['n', 'f', 'i', 'n', 'i', 't', 'y'] (by decide) (by decide)
  have hnan := hword 'n' ['a', 'n'] (by decide) (by decide)
  rw [readUnsigned, if_neg (not_or.mpr ⟨hinf, hinfinity⟩), if_neg hnan, readMagnitude_decimal hm he]

/-- What denotes a number is read as it, and it is a number. -/
theorem read_of_denotes (h : Denotes text x) : read text = some x ∧ x.isNaN = false := by
  cases h with
  | infinite hsign =>
    cases hsign <;> exact ⟨rfl, by decide⟩
  | @decimal sign mantissa whole fraction exponent negative n hsign hm he =>
    have hrest : ∀ c ∈ (mantissa ++ exponent).head?, c ≠ '+' ∧ c ≠ '-' := by
      obtain ⟨c, rest, rfl, hc⟩ := hm.head
      intro d hd
      obtain rfl : c = d := Option.some.inj hd
      rcases hc with hc | rfl
      · exact digit_not_sign hc
      · decide
    have hnumber : (ofDigits (whole ++ fraction) (n - fraction.length)).isNaN = false :=
      isNaN_ofScientific _ _ _
    rw [read, splitSign_signed hsign hrest]
    dsimp only
    rw [readUnsigned_decimal hm he]
    cases negative with
    | true => exact ⟨rfl, isNaN_neg hnumber⟩
    | false => exact ⟨rfl, hnumber⟩

end Tableaux.Decimal
