/-! # Floats as exact binary numbers

A finite float is a signed integer times a power of two. Which decimal text stands for it, and
which integer is nearest to it, is decided on these integers.
-/
namespace Tableaux.Decimal

/-- The exact number `± mantissa · 2 ^ exponent`. Zero has mantissa zero and keeps its sign. -/
structure Binary where
  negative : Bool
  mantissa : Nat
  exponent : Int
deriving DecidableEq, Repr

inductive Value where
  | notANumber
  | infinite (negative : Bool)
  | finite (value : Binary)
deriving DecidableEq, Repr

open Float.Model in
def isMinus : UnpackedFloat.Sign → Bool
  | .negative => true
  | .positive => false

def Value.ofFloat (x : Float) : Value :=
  match x.toModel.unpack with
  | .notANumber => .notANumber
  | .infinity sign => .infinite (isMinus sign)
  | .zero sign => .finite ⟨isMinus sign, 0, 0⟩
  | .finite sign mantissa exponent _ => .finite ⟨isMinus sign, mantissa, exponent⟩

namespace Binary

def numerator (v : Binary) : Nat := v.mantissa * Nat.pow 2 v.exponent.toNat

def denominator (v : Binary) : Nat := Nat.pow 2 (-v.exponent).toNat

theorem denominator_pos (v : Binary) : 0 < v.denominator := Nat.two_pow_pos _

def isIntegral (v : Binary) : Bool := v.numerator % v.denominator == 0

end Binary

/-- The integer nearest to a quotient, of two equally near ones the even one. -/
def nearestInteger (numerator denominator : Nat) : Nat :=
  let below := numerator / denominator
  let twice := 2 * (numerator % denominator)
  if twice < denominator then below
  else if twice = denominator then below + below % 2
  else below + 1

/-- The integer nearest to a float, of two equally near ones the even one. It has the float's
sign, also when it is zero. Infinities and NaN stay as they are. -/
def roundToInteger (x : Float) : Float :=
  match Value.ofFloat x with
  | .finite v =>
    if v.isIntegral then x
    else
      let rounded := Float.ofNat (nearestInteger v.numerator v.denominator)
      if v.negative then -rounded else rounded
  | _ => x

def isInteger (x : Float) : Bool :=
  match Value.ofFloat x with
  | .finite v => v.isIntegral
  | _ => false

end Tableaux.Decimal
