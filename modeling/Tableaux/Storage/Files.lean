import Tableaux.Storage.Path

/-! # Files

What reading a file gives, and a directory of files that can be read without touching a disk.
-/
namespace Tableaux.Storage

inductive FileError where
  | missing
  | directory
  | notDirectory
  | notText
  | other (reason : String)
deriving DecidableEq, Repr

def FileError.message : FileError → String
  | .missing => "No such file or directory (os error 2)"
  | .directory => "Is a directory (os error 21)"
  | .notDirectory => "Not a directory (os error 20)"
  | .notText => "stream did not contain valid UTF-8"
  | .other reason => reason

/-- What can be found at every path. -/
abbrev Files := Path → Except FileError ByteArray

def Files.readText (files : Files) (path : Path) : Except FileError String := do
  match String.fromUTF8? (← files path) with
  | some text => return text
  | none => throw .notText

abbrev Name := List UInt8

/-- Files by the names that lead to them. A directory exists if a file lies below it. -/
structure Directory where
  files : List (List Name × ByteArray)

namespace Directory

def ofFiles (files : List (Path × ByteArray)) : Directory :=
  ⟨files.map fun (path, content) => (path.parts.filter (!Path.isHere ·), content)⟩

def file? (d : Directory) (names : List Name) : Option ByteArray :=
  (d.files.find? (·.1 = names)).map (·.2)

def isDirectory (d : Directory) (names : List Name) : Bool :=
  names = [] || d.files.any fun (file, _) => names.isPrefixOf file && names.length < file.length

inductive Place where
  | inside (names : List Name)
  | outside
deriving DecidableEq, Repr

def follow (d : Directory) (place : Place) (part : Name) : Except FileError Place :=
  match place with
  | .outside => if Path.isHere part || Path.isAbove part then .ok .outside else .error .missing
  | .inside names =>
    if !d.isDirectory names then .error .notDirectory
    else if Path.isHere part then .ok place
    else if Path.isAbove part then .ok (if names = [] then .outside else .inside names.dropLast)
    else
      let names := names ++ [part]
      if (d.file? names).isSome || d.isDirectory names then .ok (.inside names) else .error .missing

def start (path : Path) : Place :=
  if path.bytes.head? = some Path.slash then .outside else .inside []

def read (d : Directory) : Files := fun path => do
  if path.bytes = [] then throw .missing
  match ← path.parts.foldlM d.follow (start path) with
  | .outside => throw .directory
  | .inside names =>
    match d.file? names with
    | some content => return content
    | none => throw .directory

end Directory
end Tableaux.Storage
