import Tableaux.Decimal.Reader
import Tableaux.Text.Blank

/-! # Terms of a linear expression

A variable is an `x` directly followed by its number, counting from one. In front of it may stand a
coefficient: a sign, and a magnitude of digits, points and `M`s, with blanks around the magnitude.
Whatever else stands between two variables is passed over.
-/
namespace Tableaux.Expression

open Decimal (isDigit)
open Text (isBlank)

/-- Numbers of variables are below this. A variable with a larger number is passed over. -/
def numberLimit : Nat := Nat.pow 2 64

def variableNumber? (digits : List Char) : Option Nat :=
  let number := Nat.ofDigitChars 10 digits 0
  if digits ≠ [] ∧ number < numberLimit then some number else none

def variableNumbers : List Char → List Nat
  | [] => []
  | c :: rest =>
    if c = 'x' then (variableNumber? (rest.takeWhile isDigit)).toList ++ variableNumbers rest
    else variableNumbers rest

def largestVariable? (text : List Char) : Option Nat := (variableNumbers text).max?

def isMagnitude (c : Char) : Bool := isDigit c || c == '.' || c == 'M'

/-- What has been read of a coefficient. It is closed once a blank has followed the magnitude. -/
structure Coefficient where
  negative : Bool
  magnitude : List Char
  closed : Bool
deriving DecidableEq, Repr

namespace Coefficient

def start : Coefficient := ⟨false, [], false⟩

/-- Reads one more character. A sign starts anew, and so does a magnitude behind a closed one. What
cannot be part of a coefficient discards it. -/
def next (k : Coefficient) (c : Char) : Coefficient :=
  if c = '+' then start
  else if c = '-' then { start with negative := true }
  else if isBlank c then { k with closed := k.magnitude ≠ [] }
  else if isMagnitude c then
    if k.closed then { start with magnitude := [c] } else { k with magnitude := k.magnitude ++ [c] }
  else start

/-- The coefficient without plus sign. A missing magnitude is one. -/
def text (k : Coefficient) : List Char :=
  (if k.negative then ['-'] else []) ++ if k.magnitude = [] then ['1'] else k.magnitude

end Coefficient

structure Term where
  coefficient : List Char
  number : Nat
deriving DecidableEq, Repr

/-- The column of the variable, counting from zero. Variable number zero has none. -/
def Term.column? (t : Term) : Option Nat := if t.number = 0 then none else some (t.number - 1)

def termsAfter (k : Coefficient) : List Char → List Term
  | [] => []
  | c :: rest =>
    if c = 'x' ∧ rest.takeWhile isDigit ≠ [] then
      ((variableNumber? (rest.takeWhile isDigit)).map fun number => ⟨k.text, number⟩).toList
        ++ termsAfter .start (rest.dropWhile isDigit)
    else termsAfter (k.next c) rest
termination_by text => text.length
decreasing_by
  · have := (List.dropWhile_sublist isDigit (l := rest)).length_le
    simp only [List.length_cons]; omega
  · simp only [List.length_cons]; omega

def terms (text : List Char) : List Term := termsAfter .start text

end Tableaux.Expression
