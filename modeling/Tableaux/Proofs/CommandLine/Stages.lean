import Tableaux.CommandLine.Run
import Tableaux.Proofs.Solver.Retraced
import Tableaux.Proofs.Storage.Import

/-!
# Stages of a command

What can go wrong with a command is a list of stages, each described by itself. A command
succeeds if none of them fails, and otherwise stops with the error of the first one that
does. Nothing is printed then.
-/
namespace Tableaux.CommandLine

open Reading (mapError_ok_iff mapError_error_iff)
open Solver (Report Response)
open Storage (Path Files FileError readText_ok_iff readText_error_iff)

def Command.response? : Command → Option Path
  | .parse _ => none
  | .narrate _ response _ => some response
  | .project _ response _ _ _ => some response

def Problem.Imports (files : Files) (problem : Problem) (program : Program) : Prop :=
  Tableaux.Imports files problem.file problem.format problem.leniency program

def Problem.NotImported (files : Files) (problem : Problem) (e : ImportError) : Prop :=
  Tableaux.NotImported files problem.file problem.format problem.leniency e

/-- A file that holds a response, be it a reported error or not. -/
def Receives (files : Files) (file : Path) (r : Response) : Prop :=
  ∃ text, files.Holds file text ∧ Response.read? text = some r

/-- A file that holds steps and reports no error. -/
def Answers (files : Files) (file : Path) (reports : List Report) : Prop :=
  ∃ r, Receives files file r ∧ r.Silent ∧ r.steps = some reports

/-- An axis that no point of a run has, since the program has fewer variables. A run without
steps has no points that could miss it. -/
def Misses (files : Files) (problem : Problem) (response : Path) (number : Nat) (e : RunError) :
    Prop :=
  ∃ program reports, problem.Imports files program ∧ Answers files response reports ∧
    reports ≠ [] ∧ program.cost.length < number ∧
    e = .axes (.outOfRange (number - 1) program.cost.length)

/-- What a command needs. Axes count from one up to the number of variables, unless there
are no steps. -/
inductive Succeeds (files : Files) : Command → Prop
  | parse {problem : Problem} {program : Program} : problem.Imports files program →
      Succeeds files (.parse problem)
  | narrate {problem : Problem} {program : Program} {response : Path} {reports : List Report}
      {json : Bool} : problem.Imports files program → Answers files response reports →
      Succeeds files (.narrate problem response json)
  | project {problem : Problem} {program : Program} {response : Path} {reports : List Report}
      {x y : Nat} {viewport : Viewport} : problem.Imports files program →
      Answers files response reports → 1 ≤ x → 1 ≤ y → x ≠ y →
      (reports = [] ∨ x ≤ program.cost.length ∧ y ≤ program.cost.length) →
      Succeeds files (.project problem response x y viewport)

inductive Stage where
  | problem
  | responseFile
  | responseText
  | solver
  | axisZero
  | identicalAxes
  | horizontalRange
  | verticalRange
deriving DecidableEq, Repr

def Stage.number : Stage → Nat
  | .problem => 0
  | .responseFile => 1
  | .responseText => 2
  | .solver => 3
  | .axisZero => 4
  | .identicalAxes => 5
  | .horizontalRange => 6
  | .verticalRange => 7

/-- A stage that fails, whatever else is wrong, and its error. -/
inductive Fails (files : Files) (explain : Explanation) :
    Command → Stage → RunError → Prop
  | problem {command : Command} {e : ImportError} : command.problem.NotImported files e →
      Fails files explain command .problem (.problem command.problem.file e)
  | responseFile {command : Command} {file : Path} {e : FileError} :
      command.response? = some file → files.Unreadable file e →
      Fails files explain command .responseFile (.responseFile file e)
  | malformed {command : Command} {file : Path} {text : String} :
      command.response? = some file → files.Holds file text → Response.read? text = none →
      Fails files explain command .responseText (.malformedResponse (explain text))
  | reported {command : Command} {file : Path} {r : Response} {message : String} :
      command.response? = some file → Receives files file r →
      r.error = some message → message ≠ "" →
      Fails files explain command .solver (.solver (.reported message))
  | noSteps {command : Command} {file : Path} {r : Response} :
      command.response? = some file → Receives files file r → r.Silent → r.steps = none →
      Fails files explain command .solver (.solver .noSteps)
  | axisZero {problem : Problem} {response : Path} {x y : Nat} {viewport : Viewport} :
      x = 0 ∨ y = 0 →
      Fails files explain (.project problem response x y viewport) .axisZero .axisZero
  | identicalAxes {problem : Problem} {response : Path} {x y : Nat} {viewport : Viewport} :
      x = y →
      Fails files explain (.project problem response x y viewport) .identicalAxes
        (.axes (.identical (x - 1)))
  | horizontalRange {problem : Problem} {response : Path} {x y : Nat} {viewport : Viewport}
      {e : RunError} : Misses files problem response x e →
      Fails files explain (.project problem response x y viewport) .horizontalRange e
  | verticalRange {problem : Problem} {response : Path} {x y : Nat} {viewport : Viewport}
      {e : RunError} : Misses files problem response y e →
      Fails files explain (.project problem response x y viewport) .verticalRange e

/-- No stage before this one fails. -/
def Reaches (files : Files) (explain : Explanation) (command : Command) (stage : Stage) : Prop :=
  ∀ earlier, earlier.number < stage.number → ∀ e, ¬ Fails files explain command earlier e

/-- The error of the first stage that fails. -/
def Stops (files : Files) (explain : Explanation) (command : Command) (e : RunError) : Prop :=
  ∃ stage, Fails files explain command stage e ∧ Reaches files explain command stage

variable {files : Files} {explain : Explanation} {command : Command} {problem : Problem}
  {program : Program} {file : Path} {text : String} {r : Response} {reports : List Report} {x y : Nat}
  {viewport : Viewport} {stage : Stage} {e e' : RunError}

theorem readProblem_ok_iff :
    readProblem files problem = .ok program ↔ problem.Imports files program := by
  rw [readProblem, mapError_ok_iff, importProgram_ok_iff]
  rfl

theorem readProblem_error_iff :
    readProblem files problem = .error e ↔
      ∃ reason, problem.NotImported files reason ∧ .problem problem.file reason = e := by
  simp only [readProblem, mapError_error_iff, importProgram_error_iff]
  rfl

theorem imported_unique {other : Program} (h : problem.Imports files program)
    (h' : problem.Imports files other) : program = other := by
  rw [← readProblem_ok_iff] at h h'
  exact Except.ok.inj (h.symm.trans h')

theorem held_unique {other : String} (h : files.Holds file text) (h' : files.Holds file other) :
    text = other := by
  rw [← readText_ok_iff] at h h'
  exact Except.ok.inj (h.symm.trans h')

theorem received_unique {other : Response} (h : Receives files file r)
    (h' : Receives files file other) : r = other := by
  obtain ⟨text, htext, hr⟩ := h
  obtain ⟨text', htext', hr'⟩ := h'
  obtain rfl := held_unique htext htext'
  exact Option.some.inj (hr.symm.trans hr')

theorem received_same {other : Path} {r' : Response} (hc : command.response? = some file)
    (hc' : command.response? = some other) (h : Receives files file r)
    (h' : Receives files other r') : r = r' := by
  obtain rfl := Option.some.inj (hc.symm.trans hc')
  exact received_unique h h'

theorem answered_unique {others : List Report} (h : Answers files file reports)
    (h' : Answers files file others) : reports = others := by
  obtain ⟨r, hr, -, hsteps⟩ := h
  obtain ⟨r', hr', -, hsteps'⟩ := h'
  obtain rfl := received_unique hr hr'
  exact Option.some.inj (hsteps.symm.trans hsteps')

theorem misses_unique {number : Nat} (h : Misses files problem file number e)
    (h' : Misses files problem file number e') : e = e' := by
  obtain ⟨program, _, hp, -, -, -, rfl⟩ := h
  obtain ⟨program', _, hp', -, -, -, rfl⟩ := h'
  rw [imported_unique hp hp']

theorem number_injective {s t : Stage} (h : s.number = t.number) : s = t := by
  cases s <;> cases t <;> first | rfl | cases h

theorem reaches_problem : Reaches files explain command .problem :=
  fun _ h => absurd h (Nat.not_lt_zero _)

theorem Reaches.next {s t : Stage} (h : Reaches files explain command s)
    (hs : ∀ e, ¬ Fails files explain command s e) (hn : t.number = s.number + 1) :
    Reaches files explain command t := by
  intro earlier hlt
  by_cases hearlier : earlier.number < s.number
  · exact h earlier hearlier
  · obtain rfl : earlier = s := number_injective (by omega)
    exact hs

theorem imported_passes (h : command.problem.Imports files program) :
    ¬ Fails files explain command .problem e := by
  intro hf
  cases hf with
  | problem hn =>
    have hok := readProblem_ok_iff.mpr h
    rw [readProblem_error_iff.mpr ⟨_, hn, rfl⟩] at hok
    cases hok

theorem held_passes (hc : command.response? = some file) (h : files.Holds file text) :
    ¬ Fails files explain command .responseFile e := by
  intro hf
  cases hf with
  | responseFile hother hu =>
    obtain rfl := Option.some.inj (hc.symm.trans hother)
    have hok := readText_ok_iff.mpr h
    rw [readText_error_iff.mpr hu] at hok
    cases hok

theorem received_passes (hc : command.response? = some file) (h : Receives files file r) :
    ¬ Fails files explain command .responseText e := by
  obtain ⟨text, htext, hr⟩ := h
  intro hf
  cases hf with
  | malformed hother htext' hnone =>
    obtain rfl := Option.some.inj (hc.symm.trans hother)
    obtain rfl := held_unique htext htext'
    rw [hr] at hnone
    cases hnone

theorem answered_passes (hc : command.response? = some file) (h : Answers files file reports) :
    ¬ Fails files explain command .solver e := by
  obtain ⟨r, hr, hs, hsteps⟩ := h
  intro hf
  cases hf with
  | reported hother hr' herror hne =>
    obtain rfl := received_same hc hother hr hr'
    exact hne (hs _ herror)
  | noSteps hother hr' hs' hnone =>
    obtain rfl := received_same hc hother hr hr'
    rw [hsteps] at hnone
    cases hnone

theorem passes_before_axes (hp : command.problem.Imports files program)
    (hc : command.response? = some file) (ha : Answers files file reports)
    (hs : stage.number < Stage.axisZero.number) : ¬ Fails files explain command stage e := by
  obtain ⟨r, hr, hrest⟩ := ha
  obtain ⟨text, htext, hread⟩ := hr
  cases stage with
  | problem => exact imported_passes hp
  | responseFile => exact held_passes hc htext
  | responseText => exact received_passes hc ⟨text, htext, hread⟩
  | solver => exact answered_passes hc ⟨r, ⟨text, htext, hread⟩, hrest⟩
  | axisZero | identicalAxes | horizontalRange | verticalRange =>
    simp [Stage.number] at hs

theorem positive_passes (hx : 1 ≤ x) (hy : 1 ≤ y) :
    ¬ Fails files explain (.project problem file x y viewport) .axisZero e := by
  intro hf
  cases hf with
  | axisZero hzero => omega

theorem different_passes (hne : x ≠ y) :
    ¬ Fails files explain (.project problem file x y viewport) .identicalAxes e := by
  intro hf
  cases hf with
  | identicalAxes hsame => exact hne hsame

theorem not_misses {number : Nat} (hp : problem.Imports files program)
    (ha : Answers files file reports) (h : reports = [] ∨ number ≤ program.cost.length) :
    ¬ Misses files problem file number e := by
  rintro ⟨program', reports', hp', ha', hne, hlt, -⟩
  obtain rfl := imported_unique hp hp'
  obtain rfl := answered_unique ha ha'
  rcases h with h | h
  · exact hne h
  · omega

theorem horizontal_passes (h : ∀ e, ¬ Misses files problem file x e) :
    ¬ Fails files explain (.project problem file x y viewport) .horizontalRange e := by
  intro hf
  cases hf with
  | horizontalRange hm => exact h e hm

theorem vertical_passes (h : ∀ e, ¬ Misses files problem file y e) :
    ¬ Fails files explain (.project problem file x y viewport) .verticalRange e := by
  intro hf
  cases hf with
  | verticalRange hm => exact h e hm

theorem succeeds_passes (h : Succeeds files command) : ¬ Fails files explain command stage e := by
  cases h with
  | parse hp =>
    by_cases hs : stage = .problem
    · subst hs
      exact imported_passes hp
    · intro hf
      cases hf with
      | problem => exact hs rfl
      | responseFile hc | malformed hc | reported hc | noSteps hc => cases hc
  | narrate hp ha =>
    by_cases hs : stage.number < Stage.axisZero.number
    · exact passes_before_axes hp rfl ha hs
    · intro hf
      cases hf <;> simp [Stage.number] at hs
  | project hp ha hx hy hne hrange =>
    by_cases hs : stage.number < Stage.axisZero.number
    · exact passes_before_axes hp rfl ha hs
    · cases stage with
      | problem | responseFile | responseText | solver => simp [Stage.number] at hs
      | axisZero => exact positive_passes hx hy
      | identicalAxes => exact different_passes hne
      | horizontalRange =>
        exact horizontal_passes fun _ => not_misses hp ha (hrange.imp_right And.left)
      | verticalRange =>
        exact vertical_passes fun _ => not_misses hp ha (hrange.imp_right And.right)

theorem fails_unique (h : Fails files explain command stage e)
    (h' : Fails files explain command stage e') : e = e' := by
  cases h with
  | problem hn =>
    cases h' with
    | problem hn' =>
      have hboth := (readProblem_error_iff.mpr ⟨_, hn, rfl⟩).symm.trans
        (readProblem_error_iff.mpr ⟨_, hn', rfl⟩)
      exact Except.error.inj hboth
  | responseFile hc hu =>
    cases h' with
    | responseFile hc' hu' =>
      obtain rfl := Option.some.inj (hc.symm.trans hc')
      rw [← readText_error_iff] at hu hu'
      rw [Except.error.inj (hu.symm.trans hu')]
  | malformed hc htext =>
    cases h' with
    | malformed hc' htext' =>
      obtain rfl := Option.some.inj (hc.symm.trans hc')
      rw [held_unique htext htext']
  | reported hc hr herror hne =>
    cases h' with
    | reported hc' hr' herror' hne' =>
      obtain rfl := received_same hc hc' hr hr'
      rw [Option.some.inj (herror.symm.trans herror')]
    | noSteps hc' hr' hs' hnone' =>
      obtain rfl := received_same hc hc' hr hr'
      exact absurd (hs' _ herror) hne
  | noSteps hc hr hs hnone =>
    cases h' with
    | reported hc' hr' herror' hne' =>
      obtain rfl := received_same hc hc' hr hr'
      exact absurd (hs _ herror') hne'
    | noSteps => rfl
  | axisZero => cases h'; rfl
  | identicalAxes => cases h'; rfl
  | horizontalRange hm =>
    cases h' with
    | horizontalRange hm' => exact misses_unique hm hm'
  | verticalRange hm =>
    cases h' with
    | verticalRange hm' => exact misses_unique hm hm'

theorem stops_unique (h : Stops files explain command e) (h' : Stops files explain command e') :
    e = e' := by
  obtain ⟨stage, hf, hreach⟩ := h
  obtain ⟨stage', hf', hreach'⟩ := h'
  rcases Nat.lt_trichotomy stage.number stage'.number with hlt | heq | hgt
  · exact absurd hf (hreach' stage hlt e)
  · obtain rfl := number_injective heq
    exact fails_unique hf hf'
  · exact absurd hf' (hreach stage' hgt e')

end Tableaux.CommandLine
