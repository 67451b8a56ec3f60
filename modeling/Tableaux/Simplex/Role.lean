import Tableaux.Simplex.Tableau

/-! # Roles of variables

At a pivot one variable enters the basis and one leaves it. The other basic variables stay.
-/
namespace Tableaux.Simplex

structure Exchange where
  row : Nat
  entering : Nat
  leaving : Nat
deriving DecidableEq, Repr

/-- The exchange at a pivot, if there is one and its row is a row of the basis. -/
def Exchange.of? (basis : List Nat) (pivot : Option Pivot) : Option Exchange :=
  match pivot with
  | none => none
  | some p => (basis[p.row]?).map fun leaving => ⟨p.row, p.column, leaving⟩

inductive Role where
  | entering
  | leaving
  | basisMember
  | uninvolved
deriving DecidableEq, Repr

def Role.name : Role → String
  | .entering => "entering"
  | .leaving => "leaving"
  | .basisMember => "basis_member"
  | .uninvolved => "none"

/-- The combining character that marks the name of a variable: a circumflex, a caron or a
macron. -/
def Role.mark? : Role → Option Char
  | .entering => some '\u0302'
  | .leaving => some '\u030C'
  | .basisMember => some '\u0304'
  | .uninvolved => none

def staysBasic (basis : List Nat) (row column : Nat) : Bool :=
  basis.zipIdx.any fun (member, i) => i != row && member == column

/-- The role of a column in an exchange. Entering takes precedence. -/
def Exchange.role (e : Exchange) (basis : List Nat) (column : Nat) : Role :=
  if column = e.entering then .entering
  else if column = e.leaving then .leaving
  else if staysBasic basis e.row column then .basisMember
  else .uninvolved

def columnRoles (basis : List Nat) (pivot : Option Pivot) (columns : Nat) : List Role :=
  match Exchange.of? basis pivot with
  | none => List.replicate columns .uninvolved
  | some e => (List.range columns).map (e.role basis)

end Tableaux.Simplex
