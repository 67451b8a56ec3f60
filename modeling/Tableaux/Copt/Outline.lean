import Tableaux.Program
import Tableaux.Text.Line
import Tableaux.Text.Lowercase

/-! # The outline of a program in COPT notation

A line whose lowercase text starts with `min`, `max`, `sub`, `bound` or `end` is a header. It
decides what the lines below it are, up to the next header.
-/
namespace Tableaux.Copt

open Text (Line)

inductive Part where
  | skipped
  | objective
  | constraints
deriving DecidableEq, Repr

inductive Header where
  | objective (direction : Direction)
  | constraints
  | bounds
  | finish
deriving DecidableEq, Repr

/-- What the lines below a header are. Bounds are not read: variables are nonnegative. -/
def Header.part : Header → Part
  | .objective _ => .objective
  | .constraints => .constraints
  | .bounds => .skipped
  | .finish => .skipped

def Header.words : List (List Char × Header) :=
  [("min".toList, .objective .minimize), ("max".toList, .objective .maximize),
    ("sub".toList, .constraints), ("bound".toList, .bounds), ("end".toList, .finish)]

def Header.ofLine? (line : Line) : Option Header :=
  let lower := Text.lowercase line.text
  (Header.words.find? fun (word, _) => word.isPrefixOf lower).map (·.2)

structure Place where
  line : Line
  header : Option Header
  part : Part
deriving DecidableEq, Repr

/-- Places lines below a line of the given part. A header belongs to the part that it opens. -/
def outlineBelow (part : Part) : List Line → List Place
  | [] => []
  | line :: rest =>
    let header := Header.ofLine? line
    let here := (header.map Header.part).getD part
    ⟨line, header, here⟩ :: outlineBelow here rest

/-- Places the lines of a text. What stands above the first header is skipped. -/
def outline (text : List Char) : List Place := outlineBelow .skipped (Text.lines text)

def afterLabel (text : List Char) : List Char :=
  match Text.cut? ':' text with
  | some (_, body) => body
  | none => text

def Place.direction? (p : Place) : Option Direction :=
  match p.header with
  | some (.objective direction) => some direction
  | _ => none

def direction (places : List Place) : Direction :=
  ((places.filterMap Place.direction?).getLast?).getD .minimize

/-- The expressions that together make up the objective. The header may hold one too. -/
def objectiveFragments (places : List Place) : List (List Char) :=
  (places.filter (·.part = .objective)).map fun p => afterLabel p.line.text

def linesOf (part : Part) (places : List Place) : List Line :=
  (places.filter fun p => p.part = part ∧ p.header = none).map (·.line)

end Tableaux.Copt
