import Tableaux.Text.Quoted

/-! # Paths

A path names a file by the components between its slashes. It is a sequence of bytes that need not
be text.
-/
namespace Tableaux.Storage

structure Path where
  bytes : List UInt8
deriving DecidableEq, Repr

namespace Path

def ofString (text : String) : Path := ⟨text.toUTF8.toList⟩

def slash : UInt8 := 0x2F
def dot : UInt8 := 0x2E

def parts (path : Path) : List (List UInt8) :=
  path.bytes.foldr
    (fun b parts =>
      if b = slash then [] :: parts
      else match parts with
        | [] => [[b]]
        | part :: others => (b :: part) :: others)
    [[]]

def isHere (part : List UInt8) : Bool := part = [] || part = [dot]

def isAbove (part : List UInt8) : Bool := part = [dot, dot]

/-- The name of the file: the last part that counts, if it does not lead upwards. -/
def fileName? (path : Path) : Option (List UInt8) :=
  match (path.parts.filter (!isHere ·)).getLast? with
  | some name => if isAbove name then none else some name
  | none => none

/-- What follows the last dot of the file name. A dot at the start of a name starts no
extension. -/
def extension? (path : Path) : Option (List UInt8) :=
  match path.fileName? with
  | none => none
  | some name =>
    let extension := (name.reverse.takeWhile (· != dot)).reverse
    if name.length ≤ extension.length + 1 then none else some extension

def quoted (path : Path) : String := Text.quote path.bytes

/-- The path as text. What is no text is shown as a replacement character. -/
def text (path : Path) : String :=
  String.ofList ((Text.elements path.bytes).map fun
    | .char c => c
    | .byte _ => '\uFFFD')

end Path
end Tableaux.Storage
