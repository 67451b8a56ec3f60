import Tableaux.Decimal.Layout

/-! # JSON values

Numbers keep the digits they are written with, since how they are read depends on what is expected.
A string may hold half of a surrogate pair, which an escape can write but no text can hold.
-/
namespace Tableaux.Json

open Decimal (Numeral Layout)

inductive CodePoint where
  | scalar (c : Char)
  | surrogate (unit : Nat)
deriving DecidableEq, Repr

inductive Value where
  | null
  | bool (b : Bool)
  | number (n : Numeral)
  | string (s : List CodePoint)
  | array (items : List Value)
  | object (fields : List (List CodePoint × Value))
deriving Repr

/-- Numbers in JSON: positional from `0.00001` to below `10 ^ 16`, integers with `.0`, and
exponents with their sign. -/
def layout : Layout := ⟨.even, some (-5), some 16, true, true⟩

def ofNat (n : Nat) : Value := .number ⟨false, Nat.toDigits 10 n, [], none⟩

def ofInt (n : Int) : Value := .number ⟨decide (n < 0), Nat.toDigits 10 n.natAbs, [], none⟩

def codePoints (text : String) : List CodePoint := text.toList.map .scalar

def ofString (text : String) : Value := .string (codePoints text)

/-- The number for a float. JSON has none for infinities and NaN. -/
def ofFloat (x : Float) : Value :=
  match Decimal.Value.ofFloat x with
  | .finite v => .number (layout.numeral v)
  | _ => .null

def ofList {α : Type} (f : α → Value) (items : List α) : Value := .array (items.map f)

def record (fields : List (String × Value)) : Value :=
  .object (fields.map fun (name, value) => (codePoints name, value))

end Tableaux.Json
