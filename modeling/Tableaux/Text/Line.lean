import Tableaux.Text.Blank
import Tableaux.Text.Split

/-! # Lines

A text is read line by line. Lines keep the number they have in the text, counting from one; blank
ones are left out.
-/
namespace Tableaux.Text

structure Line where
  number : Nat
  text : List Char
deriving DecidableEq, Repr

/-- The lines of a text that are not blank. Lines end at a line feed; a carriage return in front
of it is blank. -/
def lines (text : List Char) : List Line :=
  ((pieces '\n' text).zipIdx 1).filterMap fun (piece, number) =>
    let line := trim piece
    if line = [] then none else some ⟨number, line⟩

end Tableaux.Text
