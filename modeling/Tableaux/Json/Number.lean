import Tableaux.Decimal.Reader
import Tableaux.Json.Value

/-! # Numbers in JSON

A number is read as an integer if it has neither point nor exponent, and as a float otherwise. For
a float as many digits are taken as fit into 64 bits, and the integer that they write is scaled by
powers of ten in float arithmetic. So a float need not be the nearest one to the written number.
-/
namespace Tableaux.Json

open Decimal (Numeral)

def integer? (n : Numeral) : Option Nat :=
  if n.fraction = [] ∧ n.exponent = none then some (Nat.ofDigitChars 10 n.whole 0) else none

/-- Reads an integer from zero to `2 ^ 64 - 1`. There is no negative zero. -/
def index? (n : Numeral) : Option Nat :=
  match integer? n with
  | some k => if !n.negative && k < Nat.pow 2 64 then some k else none
  | none => none

def signed? (n : Numeral) : Option Int :=
  match integer? n with
  | some k =>
    if n.negative then if 0 < k ∧ k ≤ Nat.pow 2 63 then some (-(k : Int)) else none
    else if k < Nat.pow 2 63 then some k else none
  | none => none

/-- Takes digits for as long as the integer they write is below `2 ^ 64`. -/
def takeDigits (significand : Nat) : List Char → Nat × List Char
  | [] => (significand, [])
  | c :: rest =>
    let more := 10 * significand + (c.toNat - '0'.toNat)
    if more < Nat.pow 2 64 then takeDigits more rest else (significand, c :: rest)

def powerOfTen (exponent : Nat) : Float := Float.ofScientific 1 false exponent

def largestPower : Nat := 308

/-- Multiplies by a power of ten. Too large numbers have no value and too small ones are zero. -/
def scale (x : Float) (exponent : Int) : Option Float :=
  if _ : exponent < -largestPower then
    if x == 0 then some x else scale (x / powerOfTen largestPower) (exponent + largestPower)
  else if exponent < 0 then some (x / powerOfTen exponent.natAbs)
  else if exponent ≤ largestPower then
    let y := x * powerOfTen exponent.natAbs
    if y.isInf then none else some y
  else if x == 0 then some x
  else none
termination_by exponent.natAbs
decreasing_by unfold largestPower at *; omega

/-- The largest magnitude of an exponent that is taken at its word. -/
def exponentLimit : Nat := Nat.pow 2 31 - 1

def magnitude? (n : Numeral) : Option Float :=
  let (head, skipped) := takeDigits 0 n.whole
  let (significand, ignored) := takeDigits head n.fraction
  let places : Int := (skipped.length : Int) - (n.fraction.length - ignored.length : Nat)
  let x := (UInt64.ofNat significand).toFloat
  match n.exponent with
  | none => scale x places
  | some e =>
    if exponentLimit < e.natAbs then if significand ≠ 0 ∧ 0 < e then none else some 0
    else scale x (places + e)

def float? (n : Numeral) : Option Float :=
  (magnitude? n).map fun x => if n.negative then -x else x

end Tableaux.Json
