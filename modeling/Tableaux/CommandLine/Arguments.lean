import Tableaux.Projection
import Tableaux.Storage.Import

/-! # Arguments

What the program is asked to do. Options may stand anywhere behind the name of the command, and
`--` ends them.
-/
namespace Tableaux.CommandLine

open Storage (Path)

structure Problem where
  file : Path
  format : Option Format
  leniency : Leniency
deriving DecidableEq, Repr

inductive Command where
  | parse (problem : Problem)
  | narrate (problem : Problem) (response : Path) (json : Bool)
  | project (problem : Problem) (response : Path) (x y : Nat) (viewport : Viewport)
deriving DecidableEq, Repr

def Command.problem : Command → Problem
  | .parse problem => problem
  | .narrate problem _ _ => problem
  | .project problem _ _ _ _ => problem

def Command.files : Command → List Path
  | .parse problem => [problem.file]
  | .narrate problem response _ => [problem.file, response]
  | .project problem response _ _ _ => [problem.file, response]

inductive Given where
  | verbose
  | flag (name : String)
  | option (name value : String)
  | operand (value : String)
deriving DecidableEq, Repr

structure Options where
  flags : List String
  valued : List String

/-- Whether an argument is an option rather than a value. A lone dash is a value. -/
def isOption (arg : String) : Bool := arg.startsWith "-" && arg != "-"

def splitValue (arg : String) : String × Option String :=
  match Text.cut? '=' arg.toList with
  | some (name, value) => (String.ofList name, some (String.ofList value))
  | none => (arg, none)

def isVerbose (arg : String) : Bool :=
  arg == "--verbose" || (arg.startsWith "-v" && arg.toList.tail.all (· == 'v'))

/-- Reads arguments one by one. The value of an option stands behind an equals sign, or is the next
argument if that is not an option. -/
def scan (options : Options) : List String → Option (List Given)
  | [] => some []
  | arg :: rest =>
    if arg = "--" then some (rest.map .operand)
    else if !isOption arg then (scan options rest).map (.operand arg :: ·)
    else if isVerbose arg then (scan options rest).map (.verbose :: ·)
    else if arg ∈ options.flags then (scan options rest).map (.flag arg :: ·)
    else
      match splitValue arg, rest with
      | (name, some value), rest =>
        if name ∈ options.valued then (scan options rest).map (.option name value :: ·) else none
      | (name, none), value :: rest =>
        if name ∈ options.valued ∧ !isOption value then
          (scan options rest).map (.option name value :: ·)
        else none
      | (_, none), [] => none

/-- A number from zero to `2 ^ 64 - 1`. It may have a plus sign. -/
def count? (text : String) : Option Nat :=
  let digits := match text.toList with
    | '+' :: digits => digits
    | digits => digits
  let n := Nat.ofDigitChars 10 digits 0
  if digits ≠ [] ∧ digits.all Decimal.isDigit ∧ n < Nat.pow 2 64 then some n else none

def format? (text : String) : Option Format :=
  match text with
  | "standardized" => some .standardized
  | "copt" => some .copt
  | _ => none

def float? (text : String) : Option Float := Decimal.read text.toList

def path? (text : String) : Option Path := if text = "" then none else some (Path.ofString text)

def flag? (name : String) (given : List Given) : Option Bool :=
  match given.filter (· = .flag name) with
  | [] => some false
  | [_] => some true
  | _ => none

def option? {α : Type} (name : String) (read : String → Option α) (default : α)
    (given : List Given) : Option α :=
  match given.filterMap fun | .option n value => if n = name then some value else none | _ => none
  with
  | [] => some default
  | [value] => read value
  | _ => none

def operands (given : List Given) : List String :=
  given.filterMap fun | .operand value => some value | _ => none

def problem? (file : String) (given : List Given) : Option Problem := do
  let strict ← flag? "--strict" given
  return {
    file := ← path? file
    format := ← option? "--format" (fun text => (format? text).map some) none given
    leniency := if strict then .strict else .lenient }

def parseOptions : Options := ⟨["--strict"], ["--format"]⟩

def narrateOptions : Options := ⟨["--strict", "--json"], ["--format"]⟩

def projectOptions : Options :=
  ⟨["--strict"], ["--format", "--x", "--y", "--width", "--height", "--margin"]⟩

def parse? (given : List Given) : Option Command :=
  match operands given with
  | [file] => (problem? file given).map .parse
  | _ => none

def narrate? (given : List Given) : Option Command :=
  match operands given with
  | [file, response] => do
    return .narrate (← problem? file given) (← path? response) (← flag? "--json" given)
  | _ => none

def project? (given : List Given) : Option Command :=
  match operands given with
  | [file, response] => do
    let viewport : Viewport := {
      width := ← option? "--width" float? Viewport.default.width given
      height := ← option? "--height" float? Viewport.default.height given
      margin := ← option? "--margin" float? Viewport.default.margin given }
    return .project (← problem? file given) (← path? response)
      (← option? "--x" count? 1 given) (← option? "--y" count? 2 given) viewport
  | _ => none

/-- The command that some arguments give. In front of its name only `--verbose` may stand. -/
def command? (args : List String) : Option Command :=
  match args.dropWhile isVerbose with
  | "parse" :: rest => (scan parseOptions rest).bind parse?
  | "narrate" :: rest => (scan narrateOptions rest).bind narrate?
  | "project" :: rest => (scan projectOptions rest).bind project?
  | _ => none

end Tableaux.CommandLine
