import VectorTrial.Program.Synthetic
import VectorTrial.Trial.Failure
import VectorTrial.Trial.Verification
import VectorTrial.Wrapper.Toolchain

/-!
# The module of wrappers

Before instructions can be tested, one function for each of them is built in a module of its own,
and this module is compiled. Only then is the bench for comparisons set up, for the same target.

## Main definitions

* `VectorTrial.Execution.ofInstructions` — the module with a wrapper for each instruction.
* `VectorTrial.Execution.handOver` — the library of that module and a new bench.
-/

namespace VectorTrial

namespace Execution

/-- The name of the module. -/
def moduleName : String := "simdiff_exec"

/-- Adds a wrapper for each of some instructions. -/
def addAll (b : Program.Builder) : List Intrinsic → Except Failure Program.Builder
  | [] => .ok b
  | i :: rest =>
    match b.buildWrapper i.wrapperName i with
    | (.error e, _) => .error (.construction i.name e)
    | (.ok _, b) => addAll b rest

/-- **The module of wrappers.** The module with a wrapper for each of some instructions, which must
differ. -/
def ofInstructions (instructions : List Intrinsic) : Except Failure Program.Builder :=
  addAll (.new moduleName) instructions

/-- The library of a finished module, and a new bench for the same target. -/
def handOver (b : Program.Builder) (target : Target)
    (compile : Program.Module → Except WrapperError Library) :
    Except WrapperError (Library × Verification) := do
  let library ← compile (b.module.setTriple target.triple)
  return (library, Verification.new (some target.triple))

end Execution

end VectorTrial
