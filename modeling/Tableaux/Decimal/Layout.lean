import Tableaux.Decimal.Shortest

/-! # Laying out a number

The same digits are written positionally or with an exponent, depending on where they are shown.
-/
namespace Tableaux.Decimal

structure Layout where
  tie : Tie
  positionalFrom : Option Int
  positionalBelow : Option Int
  keepsPoint : Bool
  exponentPlus : Bool
deriving DecidableEq, Repr

/-- Values in answers: always positional, integers without a point. -/
def Layout.plain : Layout := ⟨.up, none, none, false, false⟩

/-- Values in the journal: at least one decimal, and an exponent outside `0.0001` to `10 ^ 16`. -/
def Layout.journal : Layout := ⟨.up, some (-4), some 16, true, false⟩

/-- A decimal number as it is written: digits, digits behind a point if there are any, and an
exponent if there is one. -/
structure Numeral where
  negative : Bool
  whole : List Char
  fraction : List Char
  exponent : Option Int
deriving DecidableEq, Repr

def Digits.positional (d : Digits) : List Char × List Char :=
  if d.digits = [] then (['0'], [])
  else if d.point ≤ 0 then (['0'], List.replicate (-d.point).toNat '0' ++ d.digits)
  else
    let places := d.point.toNat
    (d.digits.take places ++ List.replicate (places - d.digits.length) '0', d.digits.drop places)

def Digits.exponent (d : Digits) : Int := if d.digits = [] then 0 else d.point - 1

namespace Layout

def isPositional (l : Layout) (d : Digits) : Bool :=
  l.positionalFrom.all (· ≤ d.exponent) && l.positionalBelow.all (d.exponent < ·)

def numeral (l : Layout) (v : Binary) : Numeral :=
  let d := v.shortest l.tie
  if l.isPositional d then
    let (whole, fraction) := d.positional
    ⟨v.negative, whole, if fraction = [] ∧ l.keepsPoint then ['0'] else fraction, none⟩
  else
    ⟨v.negative, d.digits.take 1, d.digits.drop 1, some d.exponent⟩

def spell (l : Layout) (n : Numeral) : List Char :=
  (if n.negative then ['-'] else []) ++ n.whole
    ++ (if n.fraction = [] then [] else '.' :: n.fraction)
    ++ match n.exponent with
      | none => []
      | some e =>
        'e' :: ((if e < 0 then ['-'] else if l.exponentPlus then ['+'] else [])
          ++ Nat.toDigits 10 e.natAbs)

def write (l : Layout) (x : Float) : List Char :=
  match Value.ofFloat x with
  | .notANumber => ['N', 'a', 'N']
  | .infinite negative => (if negative then ['-'] else []) ++ ['i', 'n', 'f']
  | .finite v => l.spell (l.numeral v)

end Layout

def plain (x : Float) : String := String.ofList (Layout.plain.write x)

end Tableaux.Decimal
