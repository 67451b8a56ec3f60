import Tableaux.Text.Printable
import Tableaux.Text.Utf8

/-! # Quoted text

A sequence of bytes is shown between quotation marks. What has no shape of its own is escaped, so
that the shown text is printable and tells all sequences apart.
-/
namespace Tableaux.Text

def hexadecimal (upper : Bool) (width n : Nat) : List Char :=
  let digits := (Nat.toDigits 16 n).map fun c => if upper then c.toUpper else c
  List.replicate (width - digits.length) '0' ++ digits

/-- The written form of an element: `\u{301}` for a character that is not printable and
`\xFF` for a stray byte. -/
def Element.escape : Element → List Char
  | .byte b => ['\\', 'x'] ++ hexadecimal true 2 b.toNat
  | .char c =>
    match c with
    | '\x00' => ['\\', '0']
    | '\t' => ['\\', 't']
    | '\r' => ['\\', 'r']
    | '\n' => ['\\', 'n']
    | '"' => ['\\', '"']
    | '\\' => ['\\', '\\']
    | c =>
      if isPrintable c then [c]
      else ['\\', 'u', '\x7b'] ++ hexadecimal false 1 c.toNat ++ ['\x7d']

def quote (bytes : List UInt8) : String :=
  String.ofList ('"' :: (elements bytes).flatMap Element.escape ++ ['"'])

end Tableaux.Text
