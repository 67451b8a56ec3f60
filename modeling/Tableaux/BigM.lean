import Tableaux.Decimal.Brief
import Tableaux.Decimal.Reader
import Tableaux.Text.Blank

/-! # Big-M values

Artificial variables cost `M`, a symbol that is larger than every number. A value is a real part
and a multiple of `M`.
-/
namespace Tableaux

/-- The value `real + m · M`. -/
structure BigM where
  real : Float
  m : Float
deriving DecidableEq, Repr

namespace BigM

def zero : BigM := ⟨0, 0⟩

instance : Zero BigM := ⟨zero⟩
instance : Add BigM := ⟨fun v w => ⟨v.real + w.real, v.m + w.m⟩⟩
instance : Neg BigM := ⟨fun v => ⟨-v.real, -v.m⟩⟩

def isZero (v : BigM) : Bool := v.real == 0 && v.m == 0

/-- Whether the `M` part is negligible. NaN is not. -/
def isReal (v : BigM) : Bool := v.m.abs < Decimal.negligible

/-- The multiplier that is written in front of an `M`. Nothing and a lone sign stand for one, and
what is not a number stands for zero. -/
def multiplier : List Char → Float
  | [] => 1
  | ['+'] => 1
  | ['-'] => -1
  | text => (Decimal.read text).getD 0

/-- Reads a cost term. A term without `M` is a real number, zero if it is unreadable; otherwise
what remains without the first `M` is the multiplier. -/
def ofTerm (term : String) : BigM :=
  let text := Text.trim term.toList
  if 'M' ∈ text then ⟨0, multiplier (Text.trim (text.erase 'M'))⟩
  else ⟨(Decimal.read text).getD 0, 0⟩

def multipleText (v : BigM) : String :=
  if v.m == 1 then "M" else if v.m == -1 then "-M" else Decimal.brief v.m ++ "M"

/-- The value as it is shown: the `M` part first unless it is negligible, then the real part with
its sign as an operator unless that is negligible. -/
def text (v : BigM) : String :=
  if v.isReal then Decimal.brief v.real
  else if v.real.abs > Decimal.negligible then
    v.multipleText ++ (if v.real > 0 then " + " else " - ") ++ Decimal.brief v.real.abs
  else v.multipleText

end BigM
end Tableaux
