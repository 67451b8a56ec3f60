import Mathlib.Data.List.Basic
import Tableaux.Json.Decode
import Tableaux.Json.Token

/-!
# Strings of JSON are read back

Whatever a text holds, its quotation marks, backslashes and controls are escaped, and
reading the string up to its closing quotation mark undoes this.
-/
namespace Tableaux.Json

theorem hexValue_hexDigit : ∀ n < 16, hexValue? (hexDigit n) = some n := by
  decide

theorem hexValues_hexDigits {n : Nat} (h : n < 65536) :
    hexValues? (hexDigit (n / 4096 % 16)) (hexDigit (n / 256 % 16)) (hexDigit (n / 16 % 16))
      (hexDigit (n % 16)) = some n := by
  have hdigit (k : Nat) : hexValue? (hexDigit (k % 16)) = some (k % 16) :=
    hexValue_hexDigit _ (Nat.mod_lt k (by decide))
  have hlast := hexValue_hexDigit (n % 16) (Nat.mod_lt n (by decide))
  have hsum : (n / 4096 % 16 * 16 + n / 256 % 16) * 256 + n / 16 % 16 * 16 + n % 16 = n := by
    omega
  simp only [hexValues?, hdigit, bind, Option.bind, pure, hsum]

theorem readString_unicodeEscape {n : Nat} (h : n < 65536) (rest : List Char) :
    readString (unicodeEscape n ++ rest) =
      (readString rest).map fun (s, behind) => (consUnit n s, behind) := by
  simp only [unicodeEscape, List.cons_append, List.nil_append]
  rw [readString, hexValues_hexDigits h]
  cases readString rest <;> rfl

theorem consUnit_control {c : Char} (h : c.toNat < 0x20) (rest : List CodePoint) :
    consUnit c.toNat rest = .scalar c :: rest := by
  unfold consUnit
  rw [if_neg (by omega), Char.ofNat_toNat]

theorem readString_escapeChar (c : Char) (rest : List Char) :
    readString (escapeChar c ++ rest) =
      (readString rest).map fun (s, behind) => (.scalar c :: s, behind) := by
  unfold escapeChar
  split
  case h_8 hquote hbackslash _ _ _ _ _ =>
    by_cases hc : c.toNat < 0x20
    · rw [if_pos hc, readString_unicodeEscape (by omega)]
      simp only [consUnit_control hc]
    · rw [if_neg hc, List.singleton_append, readString]
      · rw [if_neg (by simpa [hc] using hbackslash)]
      · exact hquote
      · exact fun _ _ _ _ _ heq _ => hbackslash heq
      · exact fun _ _ heq _ => hbackslash heq
  -- The escapes of one letter.
  all_goals
    simp only [List.cons_append, List.nil_append]
    rw [readString] <;> simp [shortEscape?]
    cases readString rest <;> rfl

theorem readString_codePoints (chars rest : List Char) :
    readString ((chars.map CodePoint.scalar).flatMap CodePoint.escape ++ '"' :: rest)
      = some (chars.map .scalar, rest) := by
  induction chars with
  | nil => rw [List.map_nil, List.flatMap_nil, List.nil_append, readString]
  | cons c chars ih =>
    rw [List.map_cons, List.flatMap_cons, List.append_assoc, CodePoint.escape,
      readString_escapeChar, ih]
    rfl

theorem text_codePoints (s : String) : text? (codePoints s) = some s := by
  have hchars : ∀ chars : List Char,
      (chars.map CodePoint.scalar).mapM CodePoint.char? = some chars := by
    intro chars
    induction chars with
    | nil => rfl
    | cons c chars ih =>
      rw [List.map_cons, List.mapM_cons, ih]
      rfl
  rw [text?, codePoints, hchars, Option.map_some, String.ofList_toList]

end Tableaux.Json
