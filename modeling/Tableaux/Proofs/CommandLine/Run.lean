import Tableaux.Proofs.CommandLine.Stages
import Tableaux.Proofs.Projection

/-!
# Commands through their stages

A command either passes all of its stages and prints its result, or ends with the error of
the first stage that fails. The axes of a drawing are checked against the points of the run,
which are as wide as the program.
-/
namespace Tableaux.CommandLine

open Reading (bind_ok_iff bind_error_iff)
open Simplex (retrace)
open Solver (Report Response)
open Storage (Path Files readText_ok_iff readText_error_iff)

variable {files : Files} {explain : Explanation} {command : Command} {problem : Problem}
  {program : Program} {file : Path} {r : Response} {reports : List Report} {x y : Nat}
  {viewport : Viewport} {e : RunError}

theorem problem_cases (files : Files) (problem : Problem) :
    (∃ program, problem.Imports files program) ∨ ∃ reason, problem.NotImported files reason := by
  cases h : readProblem files problem with
  | ok program => exact Or.inl ⟨program, readProblem_ok_iff.mp h⟩
  | error e =>
    obtain ⟨reason, hreason, -⟩ := readProblem_error_iff.mp h
    exact Or.inr ⟨reason, hreason⟩

theorem readResponse_eq (h : Receives files file r) :
    readResponse files explain file = r.tableaus.mapError .solver := by
  obtain ⟨text, htext, hr⟩ := h
  simp [readResponse, readText_ok_iff.mpr htext, hr, Except.mapError, bind, Except.bind]

theorem readResponse_answered (h : Answers files file reports) :
    readResponse files explain file = .ok (reports.map Report.tableau) := by
  obtain ⟨r, hr, hs, hsteps⟩ := h
  rw [readResponse_eq hr, Solver.tableaus_of_silent hs, hsteps]
  rfl

theorem output_problem {reason : ImportError} (h : command.problem.NotImported files reason) :
    command.output files explain = .error (.problem command.problem.file reason) ∧
      Stops files explain command (.problem command.problem.file reason) := by
  have herror := readProblem_error_iff.mpr ⟨reason, h, rfl⟩
  constructor
  · cases command with
    | parse problem => exact bind_error_iff.mpr (Or.inl herror)
    | narrate problem file json =>
      exact bind_error_iff.mpr (Or.inl (bind_error_iff.mpr (Or.inl herror)))
    | project problem file x y viewport =>
      exact bind_error_iff.mpr (Or.inl (bind_error_iff.mpr (Or.inl herror)))
  · exact ⟨.problem, .problem h, reaches_problem⟩

theorem output_response (hp : command.problem.Imports files program)
    (hc : command.response? = some file) (h : readResponse files explain file = .error e) :
    command.output files explain = .error e := by
  have hprogram := readProblem_ok_iff.mpr hp
  have hrun : readRun files explain command.problem file = .error e := by
    apply bind_error_iff.mpr (Or.inr ⟨program, hprogram, _⟩)
    exact bind_error_iff.mpr (Or.inl h)
  cases command with
  | parse problem => cases hc
  | narrate problem response json =>
    cases hc
    exact bind_error_iff.mpr (Or.inl hrun)
  | project problem response x y viewport =>
    cases hc
    exact bind_error_iff.mpr (Or.inl hrun)

theorem response_cases (hp : command.problem.Imports files program)
    (hc : command.response? = some file) :
    (∃ reports, Answers files file reports) ∨
      ∃ e, readResponse files explain file = .error e ∧ Stops files explain command e := by
  have hfile : Reaches files explain command .responseFile :=
    reaches_problem.next (fun _ => imported_passes hp) rfl
  cases htext : files.readText file with
  | error reason =>
    refine Or.inr ⟨.responseFile file reason, ?_, .responseFile, ?_, hfile⟩
    · rw [readResponse, htext]
      rfl
    · exact .responseFile hc (readText_error_iff.mp htext)
  | ok text =>
    have hheld := readText_ok_iff.mp htext
    have hjson : Reaches files explain command .responseText :=
      hfile.next (fun _ => held_passes hc hheld) rfl
    cases hread : Response.read? text with
    | none =>
      refine Or.inr ⟨.malformedResponse (explain text), ?_, .responseText,
        .malformed hc hheld hread, hjson⟩
      simp [readResponse, htext, hread, Except.mapError, bind, Except.bind, throw, throwThe,
        MonadExceptOf.throw]
    | some r =>
      have hr : Receives files file r := ⟨text, hheld, hread⟩
      have hsolver : Reaches files explain command .solver :=
        hjson.next (fun _ => received_passes hc hr) rfl
      rcases Solver.silent_or_reported r with hs | ⟨message, herror, hne⟩
      · cases hsteps : r.steps with
        | some reports => exact Or.inl ⟨reports, r, hr, hs, hsteps⟩
        | none =>
          refine Or.inr ⟨.solver .noSteps, ?_, .solver, .noSteps hc hr hs hsteps, hsolver⟩
          rw [readResponse_eq hr, Solver.tableaus_of_silent hs, hsteps]
          rfl
      · refine Or.inr ⟨_, ?_, .solver, .reported hc hr herror hne, hsolver⟩
        rw [readResponse_eq hr, Solver.tableaus_of_reported herror hne]
        rfl

theorem readRun_answered (hp : problem.Imports files program) (ha : Answers files file reports) :
    readRun files explain problem file =
      .ok (retrace program.cost (reports.map Report.tableau)) := by
  rw [readRun, readProblem_ok_iff.mpr hp]
  change (readResponse files explain file >>= _) = _
  rw [readResponse_answered ha]
  rfl

theorem axis_pos {number : Nat} (h : 1 ≤ number) : axis number = .ok (number - 1) :=
  if_neg (by omega)

theorem axis_error_iff {number : Nat} : axis number = .error e ↔ number = 0 ∧ .axisZero = e := by
  unfold axis
  by_cases h : number = 0 <;> simp [h]

theorem dimension_of_reports (cost : List String) (reports : List Report) :
    Projection.dimension? (retrace cost (reports.map Report.tableau)).trajectory =
      if reports = [] then none else some cost.length := by
  rw [Simplex.trajectory_retrace]
  by_cases h : reports = []
  · rw [if_pos h, h]
    rfl
  · rw [if_neg h]
    apply Projection.dimension_of_width
    · simpa using h
    · intro point hpoint
      obtain ⟨t, -, rfl⟩ := List.mem_map.mp hpoint
      exact Simplex.length_solution t cost.length

theorem output_drawn (hp : problem.Imports files program) (ha : Answers files file reports)
    (hx : 1 ≤ x) (hy : 1 ≤ y) :
    (Command.project problem file x y viewport).output files explain =
      ((Projection.make viewport (retrace program.cost (reports.map Report.tableau)).trajectory
        (x - 1) (y - 1)).mapError .axes).map fun p => p.json.pretty ++ "\n" := by
  change (readRun files explain problem file >>= _) = _
  rw [readRun_answered hp ha]
  change (axis x >>= _) = _
  rw [axis_pos hx]
  change (axis y >>= _) = _
  rw [axis_pos hy]
  rfl

theorem output_axisZero (hp : problem.Imports files program) (ha : Answers files file reports)
    (h : x = 0 ∨ y = 0) :
    (Command.project problem file x y viewport).output files explain = .error .axisZero := by
  change (readRun files explain problem file >>= _) = _
  rw [readRun_answered hp ha]
  change (axis x >>= _) = _
  rw [bind_error_iff]
  by_cases hx : x = 0
  · exact Or.inl (axis_error_iff.mpr ⟨hx, rfl⟩)
  · refine Or.inr ⟨x - 1, axis_pos (by omega), ?_⟩
    exact bind_error_iff.mpr (Or.inl (axis_error_iff.mpr ⟨by omega, rfl⟩))

theorem drawn_ok (viewport : Viewport) {cost : List String} (hx : 1 ≤ x) (hy : 1 ≤ y) (hne : x ≠ y)
    (h : reports = [] ∨ x ≤ cost.length ∧ y ≤ cost.length) :
    ∃ p, Projection.make viewport (retrace cost (reports.map Report.tableau)).trajectory
      (x - 1) (y - 1) = .ok p := by
  rw [Projection.make_ok_iff, dimension_of_reports]
  refine ⟨by omega, ?_⟩
  intro dimension hd
  by_cases hr : reports = []
  · simp [hr] at hd
  · rw [if_neg hr] at hd
    obtain rfl := Option.some.inj hd
    have hrange := h.resolve_left hr
    omega

theorem project_cases (hp : problem.Imports files program) (ha : Answers files file reports) :
    (Succeeds files (.project problem file x y viewport) ∧
      ∃ text, (Command.project problem file x y viewport).output files explain = .ok text) ∨
    ∃ e, (Command.project problem file x y viewport).output files explain = .error e ∧
      Stops files explain (.project problem file x y viewport) e := by
  have hzero : Reaches files explain (.project problem file x y viewport) .axisZero :=
    fun _ hlt _ => passes_before_axes hp rfl ha hlt
  -- The checks in their order: one that fails ends the command, and one that passes leads to
  -- the next.
  by_cases h0 : x = 0 ∨ y = 0
  · exact Or.inr ⟨_, output_axisZero hp ha h0, .axisZero, .axisZero h0, hzero⟩
  obtain ⟨hx, hy⟩ : 1 ≤ x ∧ 1 ≤ y := by omega
  have hidentical : Reaches files explain (.project problem file x y viewport) .identicalAxes :=
    hzero.next (fun _ => positive_passes hx hy) rfl
  have hdimension := dimension_of_reports program.cost reports
  rw [output_drawn hp ha hx hy]
  by_cases hsame : x = y
  · refine Or.inr ⟨_, ?_, .identicalAxes, .identicalAxes hsame, hidentical⟩
    rw [(Projection.make_identical_iff viewport).mpr ⟨rfl, congrArg (· - 1) hsame⟩]
    rfl
  have hhorizontal : Reaches files explain (.project problem file x y viewport) .horizontalRange :=
    hidentical.next (fun _ => different_passes hsame) rfl
  by_cases hxr : reports = [] ∨ x ≤ program.cost.length
  · have hvertical : Reaches files explain (.project problem file x y viewport) .verticalRange :=
      hhorizontal.next (fun _ => horizontal_passes fun _ => not_misses hp ha hxr) rfl
    by_cases hyr : reports = [] ∨ y ≤ program.cost.length
    · have hrange : reports = [] ∨ x ≤ program.cost.length ∧ y ≤ program.cost.length := by tauto
      obtain ⟨p, hdrawn⟩ := drawn_ok viewport hx hy hsame hrange
      refine Or.inl ⟨.project hp ha hx hy hsame hrange, ?_⟩
      rw [hdrawn]
      exact ⟨_, rfl⟩
    · obtain ⟨hsteps, hlarge⟩ := not_or.mp hyr
      have hxn : x ≤ program.cost.length := hxr.resolve_left hsteps
      have hmissed : Misses files problem file y
          (.axes (.outOfRange (y - 1) program.cost.length)) :=
        ⟨program, reports, hp, ha, hsteps, by omega, rfl⟩
      refine Or.inr ⟨_, ?_, .verticalRange, .verticalRange hmissed, hvertical⟩
      rw [(Projection.make_outOfRange_iff viewport).mpr
        ⟨by omega, hdimension.trans (if_neg hsteps), Or.inr ⟨rfl, by omega, by omega⟩⟩]
      rfl
  · obtain ⟨hsteps, hlarge⟩ := not_or.mp hxr
    have hmissed : Misses files problem file x
        (.axes (.outOfRange (x - 1) program.cost.length)) :=
      ⟨program, reports, hp, ha, hsteps, by omega, rfl⟩
    refine Or.inr ⟨_, ?_, .horizontalRange, .horizontalRange hmissed, hhorizontal⟩
    rw [(Projection.make_outOfRange_iff viewport).mpr
      ⟨by omega, hdimension.trans (if_neg hsteps), Or.inl ⟨rfl, by omega⟩⟩]
    rfl

theorem output_cases (files : Files) (explain : Explanation) (command : Command) :
    (Succeeds files command ∧ ∃ text, command.output files explain = .ok text) ∨
      ∃ e, command.output files explain = .error e ∧ Stops files explain command e := by
  rcases problem_cases files command.problem with ⟨program, hp⟩ | ⟨reason, hn⟩
  · cases command with
    | parse problem =>
      refine Or.inl ⟨.parse hp, ?_⟩
      exact ⟨_, bind_ok_iff.mpr ⟨program, readProblem_ok_iff.mpr hp, rfl⟩⟩
    | narrate problem file json =>
      rcases response_cases hp rfl with ⟨reports, ha⟩ | ⟨e, he, hstops⟩
      · refine Or.inl ⟨.narrate hp ha, ?_⟩
        exact ⟨_, bind_ok_iff.mpr ⟨_, readRun_answered hp ha, rfl⟩⟩
      · exact Or.inr ⟨e, output_response hp rfl he, hstops⟩
    | project problem file x y viewport =>
      rcases response_cases hp rfl with ⟨reports, ha⟩ | ⟨e, he, hstops⟩
      · exact project_cases hp ha
      · exact Or.inr ⟨e, output_response hp rfl he, hstops⟩
  · exact Or.inr ⟨_, output_problem hn⟩

theorem output_of_stops (h : Stops files explain command e) :
    command.output files explain = .error e := by
  -- The output ends with some first failure, and there is only one.
  rcases output_cases files explain command with ⟨hs, -⟩ | ⟨e', he', hstops⟩
  · obtain ⟨stage, hf, -⟩ := h
    exact absurd hf (succeeds_passes hs)
  · rw [he', stops_unique h hstops]

/-- A command that the arguments give ends with code zero if it succeeds. Otherwise there is
a first stage that fails. Its error is reported then, behind the log, and nothing is printed. -/
theorem first_failure_is_reported (explain : Explanation) {args : List String}
    (h : command? args = some command) :
    ((run files args explain).code = 0 ↔ Succeeds files command) ∧
    (¬ Succeeds files command → ∃ e, Stops files explain command e) ∧
    ∀ e, Stops files explain command e →
      run files args explain = ⟨1, "", command.log files explain, e.report⟩ := by
  have hrun : run files args explain = command.run files explain := by
    rw [run, h]
  rw [hrun]
  refine ⟨?_, ?_, ?_⟩
  · rcases output_cases files explain command with ⟨hs, text, htext⟩ | ⟨e, he, stage, hf, -⟩
    · simp [Command.run, htext, hs]
    · have hs : ¬ Succeeds files command := fun hs => succeeds_passes hs hf
      simp [Command.run, he, hs]
  · intro hs
    rcases output_cases files explain command with ⟨hsucceeds, -⟩ | ⟨e, -, hstops⟩
    · exact absurd hsucceeds hs
    · exact ⟨e, hstops⟩
  · intro e hstops
    rw [Command.run, output_of_stops hstops]

def sampleResponse : String := "\x7b\"steps\": []\x7d"

def sampleFiles : Files := fun path =>
  if path = Path.ofString "p.lp" then .ok "min: x1 + x2\nend".toUTF8
  else if path = Path.ofString "r.json" then .ok sampleResponse.toUTF8
  else .error .missing

def sampleProblem : Problem := ⟨Path.ofString "p.lp", none, .lenient⟩

theorem sampleProblem_imported : ∃ program, sampleProblem.Imports sampleFiles program := by
  rcases problem_cases sampleFiles sampleProblem with h | ⟨reason, hn⟩
  · exact h
  · have hok : (readProblem sampleFiles sampleProblem).isOk = true := by decide +kernel
    rw [readProblem_error_iff.mpr ⟨reason, hn, rfl⟩] at hok
    cases hok

theorem sampleFiles_answer : Answers sampleFiles (Path.ofString "r.json") [] := by
  have hheld : sampleFiles.Holds (Path.ofString "r.json") sampleResponse := by
    refine ⟨sampleResponse.toUTF8, ?_, by decide +kernel⟩
    exact (if_neg (by decide +kernel)).trans (if_pos rfl)
  refine ⟨⟨some [], none⟩, ⟨sampleResponse, hheld, by decide +kernel⟩, ?_, rfl⟩
  rintro message ⟨⟩

/-- Without steps any two axes can be drawn that differ and count from one. If they fail in
both respects, the zero is reported. -/
theorem sampleFiles_reported :
    (run sampleFiles ["project", "p.lp", "r.json", "--x", "8", "--y", "9"]).code = 0 ∧
      ∃ log, run sampleFiles ["project", "p.lp", "r.json", "--x", "0", "--y", "0"]
        = ⟨1, "", log, "Error: Variables are counted from 1\n"⟩ := by
  obtain ⟨program, hp⟩ := sampleProblem_imported
  have ha := sampleFiles_answer
  constructor
  · have hargs : command? ["project", "p.lp", "r.json", "--x", "8", "--y", "9"] =
        some (.project sampleProblem (Path.ofString "r.json") 8 9 .default) := by
      decide +kernel
    apply (first_failure_is_reported _ hargs).1.mpr
    exact .project hp ha (by decide) (by decide) (by decide) (Or.inl rfl)
  · have hargs : command? ["project", "p.lp", "r.json", "--x", "0", "--y", "0"] =
        some (.project sampleProblem (Path.ofString "r.json") 0 0 .default) := by
      decide +kernel
    have hstops : Stops sampleFiles (fun _ => none)
        (.project sampleProblem (Path.ofString "r.json") 0 0 .default) .axisZero :=
      ⟨.axisZero, .axisZero (Or.inl rfl), fun _ hlt _ => passes_before_axes hp rfl ha hlt⟩
    exact ⟨_, (first_failure_is_reported _ hargs).2.2 _ hstops⟩

end Tableaux.CommandLine
