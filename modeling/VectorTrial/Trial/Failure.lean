import VectorTrial.Verdict.Checker
import VectorTrial.Wrapper.Error

/-!
# Failures of a run

What can go wrong while instructions are tested. Some failures end the whole run; the others end
only the instruction in which they occur. A verdict is never a failure.

## Main definitions

* `VectorTrial.Failure` — the causes.
* `VectorTrial.Failure.message`, `VectorTrial.Failure.sources` — their wording.
* `VectorTrial.Failure.isFatal` — whether a failure ends the run.
-/

namespace VectorTrial

/-- **Failures.** -/
inductive Failure where
  /-- The settings of a run are contradictory. -/
  | config (reason : String)
  /-- A function for an instruction cannot be built. -/
  | construction (instruction : String) (cause : Program.Error)
  | program (error : Program.Error)
  | operand (error : OperandError)
  | native (error : WrapperError)
  | checker (error : CheckerError)
  deriving DecidableEq, Repr

namespace Failure

/-- The wording of a failure. -/
def message : Failure → String
  | config reason => "Invalid configuration: " ++ reason
  | construction instruction cause =>
    "Construction failed for " ++ instruction ++ ": " ++ cause.message
  | program error => error.message
  | operand error => error.message
  | native error => error.message
  | checker error => error.message

/-- The wordings of the causes behind a failure, the nearest first. -/
def sources : Failure → List String
  | construction _ cause => [cause.message]
  | native error => error.sources
  | checker error => error.sources
  | _ => []

/-- **Fatal failures.** Whether a failure ends the whole run. Functions that cannot be built and
single calls that cannot be made end only their instruction. -/
def isFatal : Failure → Bool
  | construction _ _ => false
  | operand _ => false
  | native (.signatureMismatch _ _) => false
  | native (.unsupportedCpu _ _) => false
  | native _ => true
  | config _ => true
  | program _ => true
  | checker _ => true

end Failure

end VectorTrial
