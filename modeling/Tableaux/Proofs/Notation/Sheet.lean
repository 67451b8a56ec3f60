import Tableaux.Copt.Reader
import Tableaux.Proofs.Expression.Character
import Tableaux.Proofs.Reading.Number
import Tableaux.Proofs.Shape

/-!
# Sheets of tokens

A sheet is a linear program as it is typed, before any notation is chosen: a cost token
for every variable, a row of numerals for every constraint, the right-hand sides and a
direction. Its parts fit together, and its numerals read as finite numbers.
-/
namespace Tableaux.Notation

open Decimal (isDigit)
open Expression (isMagnitude)
open Reading (readReal)
open Text (Line Tight isBlank)

/-- Digits, points and `M`s behind an optional minus sign. -/
structure Token where
  negative : Bool
  magnitude : List Char
  filled : magnitude ≠ []
  typed : ∀ c ∈ magnitude, isMagnitude c = true

def isTyped (c : Char) : Bool := c == '-' || isMagnitude c

namespace Token

def sign (t : Token) : List Char := if t.negative then ['-'] else []

def text (t : Token) : List Char := t.sign ++ t.magnitude

def cell (t : Token) : String := String.ofList t.text

theorem mem_text {t : Token} {c : Char} (h : c ∈ t.text) : isTyped c = true := by
  rcases List.mem_append.mp h with hs | hm
  · have hc : c = '-' := by
      unfold sign at hs
      split at hs
      · exact List.mem_singleton.mp hs
      · exact absurd hs List.not_mem_nil
    rw [hc]
    decide
  · rw [isTyped, t.typed c hm, Bool.or_true]

theorem not_mem_text (t : Token) {c : Char} (h : isTyped c = false) : c ∉ t.text := by
  intro hm
  rw [mem_text hm] at h
  cases h

theorem text_filled (t : Token) : t.text ≠ [] := by simp [text, t.filled]

end Token

theorem not_blank_of_typed {c : Char} (h : isTyped c = true) : isBlank c = false := by
  simp only [isTyped, Bool.or_eq_true, beq_iff_eq] at h
  rcases h with rfl | hm
  · decide
  · exact Expression.magnitude_not_blank hm

theorem Token.tight (t : Token) : Tight t.text :=
  Text.tight_token t.text_filled fun _ hc => not_blank_of_typed (mem_text hc)

/-- Digits without a point, or with a point in front of a digit. -/
inductive PlainDecimal : List Char → Prop where
  | whole (digits : List Char) (hne : digits ≠ []) (hd : ∀ c ∈ digits, isDigit c = true) :
      PlainDecimal digits
  | point (digits fraction : List Char) (hne : fraction ≠ [])
      (hd : ∀ c ∈ digits, isDigit c = true) (hf : ∀ c ∈ fraction, isDigit c = true) :
      PlainDecimal (digits ++ '.' :: fraction)

structure Numeral extends Token where
  plain : PlainDecimal magnitude
  value : Float
  reads : Decimal.read toToken.text = some value
  finite : value.isFinite = true

theorem readReal_numeral (leniency : Leniency) (line : Line) (n : Numeral) :
    (readReal leniency line n.text).outcome = .ok n.value :=
  Reading.readReal_finite leniency line (by rw [n.tight.trim, n.reads]) n.finite

structure Sheet where
  direction : Direction
  cost : List Token
  rows : List (List Numeral)
  rhs : List Numeral
  wide : 1 ≤ cost.length
  limited : cost.length ≤ Copt.maxVariables
  tall : 1 ≤ rows.length
  width_eq : ∀ row ∈ rows, row.length = cost.length
  height_eq : rows.length = rhs.length

theorem beq_map {α β : Type} [BEq β] {f g : α → β} {xs : List α}
    (h : ∀ x ∈ xs, (f x == g x) = true) :
    (xs.map f == xs.map g) = true := by
  induction xs with
  | nil => rfl
  | cons x xs ih =>
    rw [List.map_cons, List.map_cons, List.cons_beq_cons, h x List.mem_cons_self,
      ih fun y hy => h y (List.mem_cons_of_mem _ hy), Bool.and_self]

namespace Sheet

theorem cost_filled (s : Sheet) : s.cost ≠ [] := by
  have h := s.wide
  intro hnil
  rw [hnil, List.length_nil] at h
  omega

theorem rows_filled (s : Sheet) : s.rows ≠ [] := by
  have h := s.tall
  intro hnil
  rw [hnil, List.length_nil] at h
  omega

theorem row_filled (s : Sheet) {row : List Numeral} (h : row ∈ s.rows) : row ≠ [] := by
  have hw := s.width_eq row h
  have hpos := s.wide
  intro hnil
  rw [hnil, List.length_nil] at hw
  omega

theorem rhs_filled (s : Sheet) : s.rhs ≠ [] := by
  have hh := s.height_eq
  have hpos := s.tall
  intro hnil
  rw [hnil, List.length_nil] at hh
  omega

/-- The program of a sheet whose numerals stand for the given numbers. -/
def program (s : Sheet) (number : Numeral → Float) : Program where
  cost := s.cost.map Token.cell
  constraints := s.rows.map (·.map number)
  rhs := s.rhs.map number
  direction := s.direction
  pivotRule := .bland
  width_eq := by
    intro row hrow
    obtain ⟨numerals, hn, rfl⟩ := List.mem_map.mp hrow
    rw [List.length_map, List.length_map, s.width_eq numerals hn]
  height_eq := by rw [List.length_map, List.length_map, s.height_eq]

theorem make_program (s : Sheet) (number : Numeral → Float) :
    Program.make (s.cost.map Token.cell) (s.rows.map (·.map number)) (s.rhs.map number)
      s.direction .bland = .ok (s.program number) :=
  Program.make_of_fits (s.program number).width_eq (s.program number).height_eq

theorem program_beq (s : Sheet) {f g : Numeral → Float} (h : ∀ n, (f n == g n) = true) :
    (s.program f == s.program g) = true := by
  have hrow : (s.rows.map (·.map f) == s.rows.map (·.map g)) = true :=
    beq_map fun row _ => beq_map fun n _ => h n
  have hrhs : (s.rhs.map f == s.rhs.map g) = true := beq_map fun n _ => h n
  change (_ && _ && _ && _ && _) = true
  simp [program, hrow, hrhs]

end Sheet

def labelled (name body : List Char) : List Char := name ++ ':' :: ' ' :: body

theorem labelled_tight {name body : List Char} (hn : Tight name) (hb : Tight body) :
    Tight (labelled name body) := by
  have h := hn.append hb [':', ' ']
  simpa [labelled] using h

theorem not_mem_labelled {c : Char} {name body : List Char} (hn : c ∉ name)
    (hc : c ∉ [':', ' ']) (hb : c ∉ body) : c ∉ labelled name body := by
  simp only [List.mem_cons, List.not_mem_nil, or_false, not_or] at hc
  simp [labelled, hn, hb, hc]

end Tableaux.Notation
