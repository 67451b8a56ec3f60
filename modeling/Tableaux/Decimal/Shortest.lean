import Tableaux.Decimal.Binary

/-! # The shortest decimal that reads back

All reals between the midpoints to a float's two neighbours round to that float. Its decimal is
the one with the fewest digits in that interval, and of those the nearest to the float.
-/
namespace Tableaux.Decimal

inductive Tie where
  | up
  | even
deriving DecidableEq, Repr

/-- The number `0.d₁d₂… · 10 ^ point`. There are no digits for zero; otherwise the first and the
last digit differ from `'0'`. -/
structure Digits where
  digits : List Char
  point : Int
deriving DecidableEq, Repr

/-- The interval that rounds to a float, in units of a quarter of its last binary place. The ends
belong to it if the mantissa is even. -/
structure Interval where
  low : Nat
  middle : Nat
  high : Nat
  closed : Bool
  exponent : Int
deriving Repr

/-- Below a power of two the neighbouring floats are twice as dense, except among the smallest. -/
def Interval.around (v : Binary) : Interval where
  low :=
    if v.mantissa = Nat.pow 2 52 ∧ -1074 < v.exponent then 4 * v.mantissa - 1
    else 4 * v.mantissa - 2
  middle := 4 * v.mantissa
  high := 4 * v.mantissa + 2
  closed := v.mantissa % 2 == 0
  exponent := v.exponent - 2

/-- The interval and the multiples of `10 ^ place`, all multiplied by the same factor so that they
are integers: a bound of the interval counts `binary` times, a multiple `decimal` times. -/
structure Scale where
  binary : Nat
  decimal : Nat

def Interval.scale (i : Interval) (place : Int) : Scale where
  binary := Nat.pow 2 i.exponent.toNat * Nat.pow 10 (-place).toNat
  decimal := Nat.pow 10 place.toNat * Nat.pow 2 (-i.exponent).toNat

/-- Whether `multiple · 10 ^ place` lies in the interval. -/
def Interval.holds (i : Interval) (place : Int) (multiple : Nat) : Bool :=
  let s := i.scale place
  if i.closed then
    i.low * s.binary ≤ multiple * s.decimal && multiple * s.decimal ≤ i.high * s.binary
  else
    i.low * s.binary < multiple * s.decimal && multiple * s.decimal < i.high * s.binary

/-- The multiple of `10 ^ place` that stands for the float, if its two neighbours among the
multiples are not both outside the interval. -/
def Interval.multiple? (i : Interval) (tie : Tie) (place : Int) : Option Nat :=
  let s := i.scale place
  let below := i.middle * s.binary / s.decimal
  let twice := 2 * (i.middle * s.binary % s.decimal)
  match i.holds place below, i.holds place (below + 1) with
  | false, false => none
  | true, false => some below
  | false, true => some (below + 1)
  | true, true =>
    if twice < s.decimal then some below
    else if s.decimal < twice then some (below + 1)
    else match tie with
      | .up => some (below + 1)
      | .even => some (below + below % 2)

def width (n : Nat) : Nat := (Nat.toDigits 10 n).length

/-- The exponent `k` with `10 ^ k ≤ |v| < 10 ^ (k + 1)`. -/
def Binary.magnitude (v : Binary) : Int :=
  let k : Int := width v.numerator - width v.denominator
  if v.denominator * Nat.pow 10 k.toNat ≤ v.numerator * Nat.pow 10 (-k).toNat then k
  else k - 1

def Digits.ofMultiple (multiple : Nat) (place : Int) : Digits :=
  let all := Nat.toDigits 10 multiple
  ⟨(all.reverse.dropWhile (· == '0')).reverse, all.length + place⟩

/-- The shortest digits of the magnitude of a number. Seventeen digits always suffice. -/
def Binary.shortest (v : Binary) (tie : Tie) : Digits :=
  if v.mantissa = 0 then ⟨[], 0⟩
  else
    let i := Interval.around v
    let found := (List.range 17).findSome? fun (n : Nat) =>
      let place := v.magnitude - n
      (i.multiple? tie place).map fun multiple => Digits.ofMultiple multiple place
    found.getD ⟨[], 0⟩

end Tableaux.Decimal
