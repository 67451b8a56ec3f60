/-! # Bytes as text

A sequence of bytes is read as UTF-8. A byte that belongs to no character stays a byte.
-/
namespace Tableaux.Text

inductive Element where
  | char (c : Char)
  | byte (b : UInt8)
deriving DecidableEq, Repr

def continuation? (b : UInt8) : Option Nat :=
  if 0x80 ≤ b.toNat ∧ b.toNat < 0xC0 then some (b.toNat - 0x80) else none

/-- The character with a code point that is at least `smallest`: what could be written with fewer
bytes is not valid. -/
def charFrom? (smallest code : Nat) : Option Char :=
  if smallest ≤ code ∧ code.isValidChar then some (Char.ofNat code) else none

/-- The character that starts with a byte, and the number of further bytes that it takes. -/
def char? (b : UInt8) (rest : List UInt8) : Option (Char × Nat) :=
  let n := b.toNat
  let bits := (rest.take 3).map continuation?
  if n < 0x80 then some (Char.ofNat n, 0)
  else if n < 0xC0 then none
  else if n < 0xE0 then
    match bits with
    | some x :: _ => (charFrom? 0x80 ((n - 0xC0) * 64 + x)).map (·, 1)
    | _ => none
  else if n < 0xF0 then
    match bits with
    | some x :: some y :: _ => (charFrom? 0x800 (((n - 0xE0) * 64 + x) * 64 + y)).map (·, 2)
    | _ => none
  else if n < 0xF8 then
    match bits with
    | [some x, some y, some z] =>
      (charFrom? 0x10000 ((((n - 0xF0) * 64 + x) * 64 + y) * 64 + z)).map (·, 3)
    | _ => none
  else none

def elements : List UInt8 → List Element
  | [] => []
  | b :: rest =>
    match char? b rest with
    | some (c, more) => .char c :: elements (rest.drop more)
    | none => .byte b :: elements rest
termination_by bytes => bytes.length
decreasing_by all_goals (simp only [List.length_cons, List.length_drop]; omega)

def chars? (bytes : List UInt8) : Option (List Char) :=
  (elements bytes).mapM fun
    | .char c => some c
    | .byte _ => none

end Tableaux.Text
