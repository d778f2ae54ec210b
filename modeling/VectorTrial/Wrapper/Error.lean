import VectorTrial.Lane.Shape
import VectorTrial.Program.Error
import VectorTrial.Text.Quoted

/-!
# Errors of native execution

Why the instructions cannot be compiled, loaded or called natively, with the wording of each
cause.

## Main definitions

* `VectorTrial.WrapperError` — the causes.
* `VectorTrial.WrapperError.message` — their wording.
* `VectorTrial.WrapperError.sources` — the wordings of the causes behind an error.
-/

namespace VectorTrial

/-- Why native code cannot be had or called. -/
inductive WrapperError where
  | toolNotFound (reason : String)
  | targetDetection (reason : String)
  /-- A function has no native form. -/
  | unsupported (function reason : String)
  | compilation (reason : String)
  /-- The compiled library cannot be loaded. -/
  | load (reason : String)
  | symbolNotFound (name : String)
  /-- A call does not fit the signature of its function. -/
  | signatureMismatch (function reason : String)
  /-- The processor lacks features that a function needs. -/
  | unsupportedCpu (function : String) (features : List String)
  | io (reason : String)
  | program (error : Program.Error)
  | operand (error : OperandError)
  deriving DecidableEq, Repr

namespace WrapperError

/-- The wording of an error. -/
def message : WrapperError → String
  | toolNotFound reason => "Tool not found: " ++ reason
  | targetDetection reason => "Target detection failed: " ++ reason
  | unsupported function reason => "Cannot lower " ++ function ++ ": " ++ reason
  | compilation reason => "Compilation failed: " ++ reason
  | load reason => "Failed to load compiled library: " ++ reason
  | symbolNotFound name => "Symbol not found: " ++ name
  | signatureMismatch function reason =>
    "Signature mismatch calling " ++ function ++ ": " ++ reason
  | unsupportedCpu function features =>
    "CPU lacks " ++ Text.quoteList features ++ " required by " ++ function
  | io reason => "I/O error: " ++ reason
  | program error => error.message
  | operand error => error.message

/-- The wordings of the causes behind an error. -/
def sources : WrapperError → List String
  | load reason => [reason]
  | io reason => [reason]
  | _ => []

end WrapperError

end VectorTrial
