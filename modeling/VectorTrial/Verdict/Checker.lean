import VectorTrial.Program.Module
import VectorTrial.Verdict.Basic

/-!
# Equivalence checkers

A checker compares two functions of a module. It may be anything that has a state, and it keeps a
tally of its own verdicts.

## Main definitions

* `VectorTrial.Checker` — checkers, by what they do to their states.
* `VectorTrial.CheckerError` — why a checker cannot be brought up.
-/

namespace VectorTrial

/-- **Checkers.** What a checker with states in `κ` does: compare the functions of two names in a
module, and show its tally. -/
structure Checker (κ : Type) where
  name : String
  compare : κ → Program.Module → String → String → Verdict × κ
  tally : κ → Tally

/-- Why a checker cannot be brought up. A comparison that goes wrong is no such error but a
verdict. -/
inductive CheckerError where
  /-- No tool was found. -/
  | notFound (reason : String)
  /-- A tool was found and does not run. -/
  | notRunnable (reason : String)
  /-- The system refused something else. -/
  | io (reason : String)
  deriving DecidableEq, Repr

namespace CheckerError

/-- The wording of an error. -/
def message : CheckerError → String
  | notFound reason => "Checker not found: " ++ reason
  | notRunnable reason => "Checker is not runnable: " ++ reason
  | io reason => "I/O error: " ++ reason

/-- The wordings of the causes behind an error. -/
def sources : CheckerError → List String
  | io reason => [reason]
  | _ => []

end CheckerError

end VectorTrial
