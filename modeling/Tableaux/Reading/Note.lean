import Tableaux.Program
import Tableaux.Storage.Path
import Tableaux.Text.Line

/-! # Notes

Reading a program leaves notes about what was skipped, replaced or found. They do not influence
what is read.
-/
namespace Tableaux

inductive Format where
  | standardized
  | copt
deriving DecidableEq, Repr

def Format.title : Format → String
  | .standardized => "Standardized"
  | .copt => "Copt"

inductive Level where
  | warning
  | information
  | detail
deriving DecidableEq, Repr

def Level.name : Level → String
  | .warning => "WARN"
  | .information => "INFO"
  | .detail => "DEBUG"

structure Message where
  level : Level
  text : String
deriving DecidableEq, Repr

namespace Reading

open Text (Line)

inductive Note where
  | skippedLine (line : Line)
  | zeroVariable
  | skippedConstraint (number : Nat)
  | unreadableNumber (token : List Char)
  | programRead (width height : Nat) (direction : Direction)
  | keylessLine (line : Line)
  | unknownKey (key : List Char) (number : Nat)
  | fileRead (bytes : Nat) (path : Storage.Path) (format : Format)
deriving DecidableEq, Repr

namespace Note

/-- Only a constraint that is left out is worth a warning. -/
def level : Note → Level
  | .skippedConstraint _ => .warning
  | _ => .detail

private def quoted (text : List Char) : String := "\"" ++ String.ofList text ++ "\""

def message : Note → String
  | .skippedLine line => s!"Skipping line {line.number}: " ++ quoted line.text
  | .zeroVariable => "Ignoring term of variable number 0 in the objective"
  | .skippedConstraint number => s!"Skipping constraint without \"=\" on line {number}"
  | .unreadableNumber token => "Token " ++ quoted token ++ " is not a number, reading it as NaN"
  | .programRead width height direction =>
    s!"Read {width} variables and {height} constraints, {direction.name}"
  | .keylessLine line => s!"Ignoring line {line.number} without a key: " ++ quoted line.text
  | .unknownKey key number => "Ignoring unknown key " ++ quoted key ++ s!" on line {number}"
  | .fileRead bytes path format =>
    s!"Read {bytes} bytes from {path.quoted}, parsing as {format.title}"

def logged (note : Note) : Message := ⟨note.level, note.message⟩

end Note
end Reading
end Tableaux
