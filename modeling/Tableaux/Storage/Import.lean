import Tableaux.Copt.Reader
import Tableaux.Standardized
import Tableaux.Storage.Files

/-! # Importing programs

A program is read from a file. Its notation is given or follows from the extension of its path.
-/
namespace Tableaux

open Reading (ReadError Recorded)
open Storage (Path Files FileError)

def Format.read (format : Format) (leniency : Leniency) (text : String) :
    Recorded ReadError Program :=
  match format with
  | .standardized => Standardized.read leniency text.toList
  | .copt => Copt.read leniency text.toList

def Format.ofExtension? (extension : String) : Option Format :=
  match String.ofList (extension.toList.map Char.toLower) with
  | "lp" => some .copt
  | "txt" => some .standardized
  | "std" => some .standardized
  | _ => none

inductive ImportError where
  | unknownExtension (extension : String) (path : Path)
  | noExtension (path : Path)
  | unreadableExtension (extension : List UInt8)
  | file (error : FileError)
  | read (error : ReadError)
deriving DecidableEq, Repr

def ImportError.message : ImportError → String
  | .unknownExtension extension path =>
    "Could not recognise file extension \"" ++ extension ++ "\" of file: " ++ path.quoted
  | .noExtension path => "Could not read extension from file path: " ++ path.quoted
  | .unreadableExtension extension =>
    "Could not convert OsStr to &str, probably invalid unicode: " ++ Text.quote extension
  | .file error => "Could not read the problem file: " ++ error.message
  | .read error => error.message

def formatOfPath (path : Path) : Except ImportError Format :=
  match path.extension? with
  | none => .error (.noExtension path)
  | some bytes =>
    match Text.chars? bytes with
    | none => .error (.unreadableExtension bytes)
    | some chars =>
      let extension := String.ofList chars
      match Format.ofExtension? extension with
      | some format => .ok format
      | none => .error (.unknownExtension extension path)

def chooseFormat (format : Option Format) (path : Path) : Except ImportError Format :=
  match format with
  | some format => .ok format
  | none => formatOfPath path

def importProgram (files : Files) (path : Path) (format : Option Format) (leniency : Leniency) :
    Recorded ImportError Program := do
  let format ← Recorded.ofExcept (chooseFormat format path)
  let text ← Recorded.ofExcept ((files.readText path).mapError .file)
  Recorded.record [.fileRead text.utf8ByteSize path format]
  (format.read leniency text).mapError .read

end Tableaux
