import Tableaux.CommandLine.Run

/-! # The program

Reads the files that a command names and leaves everything else to `CommandLine.run`.
-/
namespace Tableaux.Main

open Storage (Path Files FileError)

def fileError : IO.Error → FileError
  | .noFileOrDirectory .. => .missing
  | .inappropriateType _ code _ => if code = 20 then .notDirectory else .directory
  | error => .other (toString error)

def readFile (path : Path) : IO (Path × Except FileError ByteArray) := do
  match ← (IO.FS.readBinFile path.text).toBaseIO with
  | .ok content => return (path, .ok content)
  | .error error => return (path, .error (fileError error))

def loaded (contents : List (Path × Except FileError ByteArray)) : Files := fun path =>
  match contents.find? (·.1 = path) with
  | some (_, content) => content
  | none => .error .missing

end Tableaux.Main

open Tableaux in
def main (args : List String) : IO UInt32 := do
  let paths := match CommandLine.command? args with
    | some command => command.files
    | none => []
  let contents ← paths.mapM Main.readFile
  let outcome := CommandLine.run (Main.loaded contents) args
  IO.print outcome.stdout
  IO.eprint outcome.stderr
  return outcome.code
