import Tableaux.Decimal.Reader
import Tableaux.Json.Value

/-! # JSON tokens

The words of JSON: how they are written, and how a text is taken apart into them.
-/
namespace Tableaux.Json

open Decimal (Numeral isDigit)

inductive Token where
  | objectStart
  | objectEnd
  | arrayStart
  | arrayEnd
  | comma
  | colon
  | null
  | bool (b : Bool)
  | number (n : Numeral)
  | string (s : List CodePoint)
deriving DecidableEq, Repr

def hexDigit (n : Nat) : Char := Nat.digitChar n

def unicodeEscape (n : Nat) : List Char :=
  ['\\', 'u', hexDigit (n / 4096 % 16), hexDigit (n / 256 % 16), hexDigit (n / 16 % 16),
    hexDigit (n % 16)]

/-- A character in a string: quotation marks, backslashes and controls are escaped, nothing
else. -/
def escapeChar (c : Char) : List Char :=
  match c with
  | '"' => ['\\', '"']
  | '\\' => ['\\', '\\']
  | '\x08' => ['\\', 'b']
  | '\x0c' => ['\\', 'f']
  | '\n' => ['\\', 'n']
  | '\r' => ['\\', 'r']
  | '\t' => ['\\', 't']
  | c => if c.toNat < 0x20 then unicodeEscape c.toNat else [c]

def CodePoint.escape : CodePoint → List Char
  | .scalar c => escapeChar c
  | .surrogate unit => unicodeEscape unit

def hexValue? (c : Char) : Option Nat :=
  if '0' ≤ c ∧ c ≤ '9' then some (c.toNat - '0'.toNat)
  else if 'a' ≤ c ∧ c ≤ 'f' then some (c.toNat - 'a'.toNat + 10)
  else if 'A' ≤ c ∧ c ≤ 'F' then some (c.toNat - 'A'.toNat + 10)
  else none

def hexValues? (a b c d : Char) : Option Nat := do
  return ((← hexValue? a) * 16 + (← hexValue? b)) * 256 + (← hexValue? c) * 16 + (← hexValue? d)

/-- Puts the unit of an escape in front of a string. The two halves of a surrogate pair become one
character. -/
def consUnit (unit : Nat) (rest : List CodePoint) : List CodePoint :=
  if 0xD800 ≤ unit ∧ unit < 0xE000 then
    match rest with
    | .surrogate low :: others =>
      if unit < 0xDC00 ∧ 0xDC00 ≤ low then
        .scalar (Char.ofNat (0x10000 + (unit - 0xD800) * 0x400 + (low - 0xDC00))) :: others
      else .surrogate unit :: rest
    | _ => .surrogate unit :: rest
  else .scalar (Char.ofNat unit) :: rest

def shortEscape? (c : Char) : Option Char :=
  match c with
  | '"' => some '"'
  | '\\' => some '\\'
  | '/' => some '/'
  | 'b' => some '\x08'
  | 'f' => some '\x0c'
  | 'n' => some '\n'
  | 'r' => some '\r'
  | 't' => some '\t'
  | _ => none

/-- Reads a string behind its opening quotation mark, and what follows the closing one. Controls
must be escaped. -/
def readString : List Char → Option (List CodePoint × List Char)
  | [] => none
  | '"' :: rest => some ([], rest)
  | '\\' :: 'u' :: a :: b :: c :: d :: rest =>
    match hexValues? a b c d, readString rest with
    | some unit, some (s, behind) => some (consUnit unit s, behind)
    | _, _ => none
  | '\\' :: e :: rest =>
    match shortEscape? e, readString rest with
    | some c, some (s, behind) => some (.scalar c :: s, behind)
    | _, _ => none
  | c :: rest =>
    if c = '\\' ∨ c.toNat < 0x20 then none
    else (readString rest).map fun (s, behind) => (.scalar c :: s, behind)

def readFraction (text : List Char) : Option (List Char × List Char) :=
  match text with
  | '.' :: rest =>
    if rest.takeWhile isDigit = [] then none
    else some (rest.takeWhile isDigit, rest.dropWhile isDigit)
  | _ => some ([], text)

def startsExponent : List Char → Bool
  | c :: _ => c == 'e' || c == 'E'
  | [] => false

def readExponent (text : List Char) : Option (Option Int × List Char) :=
  if startsExponent text then
    let (negative, rest) := Decimal.splitSign (text.drop 1)
    let digits := rest.takeWhile isDigit
    if digits = [] then none
    else
      let magnitude : Int := Nat.ofDigitChars 10 digits 0
      some (some (if negative then -magnitude else magnitude), rest.dropWhile isDigit)
  else some (none, text)

/-- Reads an unsigned number. An integer part of several digits does not start with zero. -/
def readUnsigned (negative : Bool) (text : List Char) : Option (Numeral × List Char) := do
  let whole := text.takeWhile isDigit
  if whole = [] ∨ (whole.head? = some '0' ∧ whole.length ≠ 1) then none
  else
    let (fraction, rest) ← readFraction (text.dropWhile isDigit)
    let (exponent, rest) ← readExponent rest
    some (⟨negative, whole, fraction, exponent⟩, rest)

def readNumber (text : List Char) : Option (Numeral × List Char) :=
  match text with
  | '-' :: rest => readUnsigned true rest
  | _ => readUnsigned false text

def Token.text : Token → List Char
  | .objectStart => ['\x7b']
  | .objectEnd => ['\x7d']
  | .arrayStart => ['[']
  | .arrayEnd => [']']
  | .comma => [',']
  | .colon => [':']
  | .null => "null".toList
  | .bool true => "true".toList
  | .bool false => "false".toList
  | .number n => layout.spell n
  | .string s => '"' :: s.flatMap CodePoint.escape ++ ['"']

/-- JSON allows only these four blanks between tokens. -/
def isSpace (c : Char) : Bool := c == ' ' || c == '\n' || c == '\t' || c == '\r'

def readToken (text : List Char) : Option (Token × List Char) :=
  match text with
  | '\x7b' :: rest => some (.objectStart, rest)
  | '\x7d' :: rest => some (.objectEnd, rest)
  | '[' :: rest => some (.arrayStart, rest)
  | ']' :: rest => some (.arrayEnd, rest)
  | ',' :: rest => some (.comma, rest)
  | ':' :: rest => some (.colon, rest)
  | 'n' :: 'u' :: 'l' :: 'l' :: rest => some (.null, rest)
  | 't' :: 'r' :: 'u' :: 'e' :: rest => some (.bool true, rest)
  | 'f' :: 'a' :: 'l' :: 's' :: 'e' :: rest => some (.bool false, rest)
  | '"' :: rest => (readString rest).map fun (s, behind) => (.string s, behind)
  | _ => (readNumber text).map fun (n, behind) => (.number n, behind)

theorem length_dropWhile_le (p : Char → Bool) (text : List Char) :
    (text.dropWhile p).length ≤ text.length :=
  (List.dropWhile_sublist p).length_le

theorem length_dropWhile_lt {p : Char → Bool} {text : List Char} (h : text.takeWhile p ≠ []) :
    (text.dropWhile p).length < text.length := by
  have parts := congrArg List.length (List.takeWhile_append_dropWhile (p := p) (l := text))
  have := List.length_pos_iff.2 h
  simp only [List.length_append] at parts
  omega

theorem length_readString {text behind : List Char} {s : List CodePoint}
    (h : readString text = some (s, behind)) : behind.length < text.length := by
  fun_induction readString text generalizing s with
  | case1 | case4 | case6 | case7 => simp at h
  | case2 => simp_all
  | case3 _ _ _ _ _ _ _ _ read _ ih | case5 _ _ _ _ _ _ read _ ih =>
    simp only [Option.some.injEq, Prod.mk.injEq] at h
    have := ih (h.2 ▸ read)
    simp only [List.length_cons]
    omega
  | case8 _ _ _ _ _ _ ih =>
    obtain ⟨⟨_, _⟩, read, same⟩ := Option.map_eq_some_iff.1 h
    simp only [Prod.mk.injEq] at same
    have := ih (same.2 ▸ read)
    simp only [List.length_cons]
    omega

theorem length_readFraction {text digits behind : List Char}
    (h : readFraction text = some (digits, behind)) : behind.length ≤ text.length := by
  unfold readFraction at h
  split at h
  · have := length_dropWhile_le isDigit
    grind
  · grind

theorem length_splitSign (text : List Char) : (Decimal.splitSign text).2.length ≤ text.length := by
  unfold Decimal.splitSign
  grind

theorem length_readExponent {text behind : List Char} {exponent : Option Int}
    (h : readExponent text = some (exponent, behind)) : behind.length ≤ text.length := by
  unfold readExponent at h
  have := length_splitSign (text.drop 1)
  have := length_dropWhile_le isDigit (Decimal.splitSign (text.drop 1)).2
  grind

theorem length_readUnsigned {negative : Bool} {text behind : List Char} {n : Numeral}
    (h : readUnsigned negative text = some (n, behind)) : behind.length < text.length := by
  simp only [readUnsigned, Option.bind_eq_bind, Option.ite_none_left_eq_some,
    Option.bind_eq_some_iff, Option.some.injEq, Prod.mk.injEq, Prod.exists] at h
  obtain ⟨whole, _, _, fraction, _, _, exponent, _, rfl⟩ := h
  have := length_dropWhile_lt fun empty => whole (.inl empty)
  have := length_readFraction fraction
  have := length_readExponent exponent
  omega

theorem length_readNumber {text behind : List Char} {n : Numeral}
    (h : readNumber text = some (n, behind)) : behind.length < text.length := by
  unfold readNumber at h
  split at h
  · exact Nat.lt_succ_of_lt (length_readUnsigned h)
  · exact length_readUnsigned h

theorem length_readToken {text behind : List Char} {token : Token}
    (h : readToken text = some (token, behind)) : behind.length < text.length := by
  unfold readToken at h
  split at h
  case h_10 =>
    obtain ⟨⟨_, _⟩, read, same⟩ := Option.map_eq_some_iff.1 h
    simp only [Prod.mk.injEq] at same
    exact Nat.lt_succ_of_lt (length_readString (same.2 ▸ read))
  case h_11 =>
    obtain ⟨⟨_, _⟩, read, same⟩ := Option.map_eq_some_iff.1 h
    simp only [Prod.mk.injEq] at same
    exact length_readNumber (same.2 ▸ read)
  all_goals
    simp only [Option.some.injEq, Prod.mk.injEq] at h
    simp only [List.length_cons, h.2]
    omega

def tokens? (text : List Char) : Option (List Token) :=
  match text with
  | [] => some []
  | c :: rest =>
    if isSpace c then tokens? rest
    else
      match h : readToken (c :: rest) with
      | none => none
      | some (token, behind) =>
        have := length_readToken h
        (tokens? behind).map (token :: ·)
termination_by text.length
decreasing_by
  · simp only [List.length_cons]; omega
  · assumption

end Tableaux.Json
