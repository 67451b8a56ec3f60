import Tableaux.Decimal.Layout

/-! # Numbers in a tableau

Every value of a tableau is shown with at most four decimals.
-/
namespace Tableaux.Decimal

/-- Magnitudes below this count as zero when it is decided what to show. -/
def negligible : Float := 1e-6

/-- One over the last decimal place that is shown. -/
def briefScale : Float := 1e4

/-- The value that is shown: integers as they are, other values scaled, rounded to the nearest
integer with ties to even, and scaled back. Adding zero turns a negative zero into zero. -/
def briefValue (x : Float) : Float :=
  (if isInteger x then x else roundToInteger (x * briefScale) / briefScale) + 0.0

def brief (x : Float) : String :=
  plain (if x.isFinite then briefValue x else x)

end Tableaux.Decimal
