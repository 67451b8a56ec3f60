import Tableaux.CommandLine.Arguments
import Tableaux.Simplex.Run
import Tableaux.Solver.Request
import Tableaux.Solver.Response

/-! # Running a command

A command goes through its stages in order and stops at the first one that fails. It reports the
error then and prints nothing else. What is logged on the way is kept apart from the report.
-/
namespace Tableaux.CommandLine

open Reading (Note)
open Solver (Request Response SolverError)
open Simplex (Run Tableau retrace)
open Storage (Path Files FileError)

inductive RunError where
  | problem (file : Path) (error : ImportError)
  | responseFile (file : Path) (error : FileError)
  | malformedResponse (reason : Option String := none)
  | solver (error : SolverError)
  | axisZero
  | axes (error : AxisError)
deriving DecidableEq, Repr

def RunError.message : RunError → String
  | .problem file _ => s!"Couldn't read the problem in {file.text}"
  | .responseFile file _ => s!"Couldn't read the solver response in {file.text}"
  | .malformedResponse _ => "Malformed solver response"
  | .solver error => error.message
  | .axisZero => "Variables are counted from 1"
  | .axes error => error.message

/-- What led to an error, outermost first. -/
def RunError.causes : RunError → List String
  | .problem _ (.file error) => [(ImportError.file error).message, error.message]
  | .problem _ error => [error.message]
  | .responseFile _ error => [error.message]
  | .malformedResponse reason => reason.toList
  | _ => []

def readProblem (files : Files) (problem : Problem) : Except RunError Program :=
  (importProgram files problem.file problem.format problem.leniency).outcome.mapError
    (.problem problem.file)

/-- What a reader of JSON says about a text that is not a response. It need not say anything. -/
abbrev Explanation := String → Option String

def readResponse (files : Files) (explain : Explanation) (file : Path) :
    Except RunError (List Tableau) := do
  let text ← (files.readText file).mapError (.responseFile file)
  match Response.read? text with
  | none => throw (.malformedResponse (explain text))
  | some response => response.tableaus.mapError .solver

def readRun (files : Files) (explain : Explanation) (problem : Problem) (response : Path) :
    Except RunError Run := do
  let program ← readProblem files problem
  let tableaus ← readResponse files explain response
  return retrace program.cost tableaus

def axis (number : Nat) : Except RunError Nat :=
  if number = 0 then .error .axisZero else .ok (number - 1)

def stepTexts (run : Run) : String := String.join (run.steps.map fun step => step.text ++ "\n\n")

def Command.output (files : Files) (explain : Explanation) : Command → Except RunError String
  | .parse problem => do
    let program ← readProblem files problem
    return (Request.ofProgram program).json.pretty ++ "\n"
  | .narrate problem response json => do
    let run ← readRun files explain problem response
    return if json then run.json.pretty ++ "\n" else stepTexts run
  | .project problem response x y viewport => do
    let run ← readRun files explain problem response
    let horizontal ← axis x
    let vertical ← axis y
    let projection ← (Projection.make viewport run.trajectory horizontal vertical).mapError .axes
    return projection.json.pretty ++ "\n"

def Problem.log (files : Files) (problem : Problem) : List Message :=
  ⟨.information, "Reading problem file: \"" ++ problem.file.text ++ "\"..."⟩
    :: (importProgram files problem.file problem.format problem.leniency).notes.map Note.logged

def runLog : Except RunError Run → List Message
  | .ok run => run.steps.map fun step => ⟨.detail, step.note⟩
  | .error _ => []

def Command.log (files : Files) (explain : Explanation) : Command → List Message
  | .parse problem => problem.log files
  | .narrate problem response _ =>
    problem.log files ++ runLog (readRun files explain problem response)
  | .project problem response _ _ _ =>
    problem.log files ++ runLog (readRun files explain problem response)

def hang (first others : String) (text : String) : List Char :=
  first.toList ++ Text.join ('\n' :: others.toList) (Text.pieces '\n' text.toList)

/-- A cause among several. Its number is set to a width of five. -/
def numberedCause (n : Nat) (cause : String) : List Char :=
  let digits := Nat.toDigits 10 n
  hang (String.ofList (List.replicate (5 - digits.length) ' ' ++ digits ++ [':', ' ']))
    "       " cause

def causeTexts : List String → List (List Char)
  | [cause] => [hang "    " "    " cause]
  | causes => causes.mapIdx numberedCause

def RunError.report (e : RunError) : String :=
  let causes := match e.causes with
    | [] => []
    | causes => "\n\nCaused by:\n".toList ++ Text.join ['\n'] (causeTexts causes)
  "Error: " ++ e.message ++ String.ofList causes ++ "\n"

def usage : String :=
  "Usage: tableaux [-v] parse [options] PROBLEM\n" ++
  "       tableaux [-v] narrate [--json] [options] PROBLEM RESPONSE\n" ++
  "       tableaux [-v] project [--x N] [--y N] [--width F] [--height F] [--margin F]\n" ++
  "                             [options] PROBLEM RESPONSE\n" ++
  "Options: --strict, --format standardized, --format copt\n"

structure Outcome where
  code : UInt32
  stdout : String
  log : List Message
  report : String
deriving DecidableEq, Repr

/-- Standard error. A logger writes the messages that it shows there, and the report follows. -/
def Outcome.stderr (o : Outcome) (shown : Message → String := fun _ => "") : String :=
  String.join (o.log.map shown) ++ o.report

def Command.run (files : Files) (explain : Explanation) (command : Command) : Outcome :=
  match command.output files explain with
  | .ok text => ⟨0, text, command.log files explain, ""⟩
  | .error e => ⟨1, "", command.log files explain, e.report⟩

def run (files : Files) (args : List String) (explain : Explanation := fun _ => none) : Outcome :=
  match command? args with
  | some command => command.run files explain
  | none => ⟨2, "", [], usage⟩

end Tableaux.CommandLine
