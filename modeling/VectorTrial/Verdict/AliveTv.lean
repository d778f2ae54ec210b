import VectorTrial.Program.Text
import VectorTrial.Tool.Environment
import VectorTrial.Tool.Outcome
import VectorTrial.Verdict.Checker
import VectorTrial.Verdict.Report

/-!
# The refinement checker alive-tv

Comparisons by `alive-tv`: the two functions and the declarations that they call are written to a
file, the tool is run on it, and its report is read. Whatever goes wrong on the way is a verdict.

## Main definitions

* `VectorTrial.AliveTv.Settings` — the tool's path, time limit and further arguments.
* `VectorTrial.AliveTv.Settings.locate` — finds the tool and confirms that it starts.
* `VectorTrial.AliveTv.checker` — the checker, for a way to run the tool.
-/

namespace VectorTrial.AliveTv

/-- The name of the tool. -/
def toolName : String := "alive-tv"

/-- The variable that holds the tool's path. -/
def pathVariable : String := "SIMDIFF_ALIVE_TV"

/-- How the tool is run. Without a path it is looked up. -/
structure Settings where
  path : Option String
  /-- The time limit of the solver, in milliseconds. -/
  timeout : Nat
  extraArgs : List String
  deriving DecidableEq, Repr

namespace Settings

/-- The settings that hold unless others are given. -/
def standard : Settings := ⟨none, 10000, []⟩

/-- The settings with the path that the environment gives. -/
def ofEnvironment (env : Environment) : Settings :=
  { standard with path := env.nonempty? pathVariable }

/-- The error of a tool that is not found. -/
def notFound : CheckerError :=
  .notFound (toolName ++ " is not on PATH; set " ++ pathVariable)

/-- Whether a tool that was asked for its version is the right one. Some builds answer on the error
output and report failure. -/
def answersVersion (outcome : ToolOutcome) : Bool :=
  outcome.isSuccess ||
    Text.occursIn "alive".toList (outcome.stderrText.toList.map Char.toLower)

/-- **Locating the tool.** The path of the tool, given where a search would find it and what comes
of asking a tool for its version. -/
def locate (s : Settings) (found : Option String)
    (askVersion : String → Except String ToolOutcome) : Except CheckerError String :=
  match s.path.or found with
  | none => .error notFound
  | some path =>
    match askVersion path with
    | .error reason => .error (.notRunnable (path ++ ": " ++ reason))
    | .ok outcome =>
      if answersVersion outcome then .ok path
      else .error (.notRunnable (path ++ " --version exited with " ++ outcome.statusText))

/-- The arguments with which the tool is run on a file. -/
def args (s : Settings) (file : String) : List String :=
  ("--smt-to=" ++ toString s.timeout) :: s.extraArgs ++ [file]

end Settings

/-- The name of the file that holds the functions to compare. -/
def inputFile : String := "pair.ll"

/-- A located tool with its settings and the directory for its input. -/
structure Installation where
  tool : String
  settings : Settings
  directory : String

/-- The command that compares two functions of a module, where both exist. -/
def Installation.command (i : Installation) (m : Program.Module) (src tgt : String) :
    Except Program.Error Invocation := do
  let input ← m.renderFunctions [src, tgt]
  return ⟨i.tool, i.settings.args (i.directory ++ "/" ++ inputFile), input⟩

/-- The verdict of a run of the tool. -/
def verdictOfRun : Except String ToolOutcome → Verdict
  | .error _ => .errored
  | .ok outcome => Report.verdict outcome.stdoutText.toList outcome.stderrText.toList

/-- The state of the checker: that of the surroundings in which the tool is run, and the tally. -/
structure State (σ : Type) where
  surroundings : σ
  tally : Tally

/-- One comparison. Functions that are missing are an error of the comparison, and then the tool
is not run. -/
def compare {σ : Type} (i : Installation) (run : Invocation → σ → Except String ToolOutcome × σ)
    (state : State σ) (m : Program.Module) (src tgt : String) : Verdict × State σ :=
  match i.command m src tgt with
  | .error _ => (.errored, { state with tally := state.tally.record .errored })
  | .ok invocation =>
    let (outcome, surroundings) := invocation.start run state.surroundings
    let verdict := verdictOfRun outcome
    (verdict, ⟨surroundings, state.tally.record verdict⟩)

/-- **The checker.** Comparisons by a located tool, for a way to run it. -/
def checker {σ : Type} (i : Installation)
    (run : Invocation → σ → Except String ToolOutcome × σ) : Checker (State σ) where
  name := toolName
  compare := compare i run
  tally := State.tally

end VectorTrial.AliveTv
