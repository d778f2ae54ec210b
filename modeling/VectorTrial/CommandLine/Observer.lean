import VectorTrial.CommandLine.Progress
import VectorTrial.Trial.Run

/-!
# What a run shows

The events of a run as a user sees them: pairs that are not correct and counts of repeated results
on the standard output, the progress bar and aborted instructions on the error output.

## Main definitions

* `VectorTrial.CommandLine.Output` — texts on both outputs.
* `VectorTrial.CommandLine.Observer` — what is to be shown.
* `VectorTrial.CommandLine.Observer.showAll` — what events show.
-/

namespace VectorTrial.CommandLine

/-- Texts on the standard output and on the error output. -/
structure Output where
  stdout : String
  stderr : String
  deriving DecidableEq, Repr

namespace Output

/-- No text. -/
def none : Output := ⟨"", ""⟩

/-- A text on the standard output. -/
def print (text : String) : Output := ⟨text, ""⟩

/-- A text on the error output. -/
def printError (text : String) : Output := ⟨"", text⟩

/-- One output after another. -/
def append (a b : Output) : Output := ⟨a.stdout ++ b.stdout, a.stderr ++ b.stderr⟩

instance : Append Output := ⟨append⟩

end Output

/-- What is shown: counts of repeated results, and a progress bar. Where the first are shown, the
second is not. -/
structure Observer where
  debug : Bool
  progress : Bool
  deriving DecidableEq, Repr

namespace Observer

/-- The observer of a run, on a terminal or not. -/
def new (debug terminal : Bool) : Observer := ⟨debug, terminal && !debug⟩

/-- What is shown of an aborted instruction. -/
def showOutcome (report : InstructionReport) : Output :=
  match report.outcome with
  | .aborted reason =>
    .printError (report.instruction.name ++ " aborted after " ++ toString report.tests ++
      " tests: " ++ reason ++ "\n")
  | _ => .none

/-- What is shown of the repeated results of an instruction. -/
def showResults (o : Observer) (report : InstructionReport) : Option ResultMap → Output
  | some results =>
    if o.debug then
      let i := report.instruction
      .print (results.reportLine i i.result.laneWidth ++ "\n")
    else .none
  | none => .none

/-- What is shown of an event. -/
def showEvent (o : Observer) : Event → Output
  | .mismatch i verdict text =>
    .print ("; " ++ i.name ++ " (" ++ verdict.name ++ ")\n" ++ text ++ "\n")
  | .finished report results => showOutcome report ++ o.showResults report results
  | .progress done total => if o.progress then .printError (Progress.draw done total) else .none
  | .started _ => .none
  | .executed _ _ _ _ => .none
  | .compared _ _ => .none

/-- What is shown at the end of a run. -/
def finish (o : Observer) : Output := if o.progress then .printError Progress.finish else .none

/-- **What a run shows.** All that its events show, and its end. -/
def showAll (o : Observer) (events : List Event) : Output :=
  events.foldl (fun out e => out ++ o.showEvent e) .none ++ o.finish

end Observer

end VectorTrial.CommandLine
