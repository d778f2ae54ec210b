import VectorTrial.Program.Synthetic
import VectorTrial.Program.Text

/-!
# The pair under comparison

A checker compares a function that returns an observed result with a function that calls the model
of the instruction. The two are built for one comparison and erased after it; a bench holds at
most one such pair.

## Main definitions

* `VectorTrial.Verification` — the bench.
* `VectorTrial.Verification.buildPair` — builds both functions or none.
* `VectorTrial.Verification.erasePair` — clears the bench.
-/

namespace VectorTrial

/-- **The bench.** A builder whose module holds at most one pair of functions. -/
structure Verification where
  builder : Program.Builder

namespace Verification

/-- The name of the function that calls the model. -/
def sourceName : String := "src"

/-- The name of the function that returns the observed result. -/
def targetName : String := "tgt"

/-- The name of the module. -/
def moduleName : String := "simdiff_verify"

/-- A bench without a pair, for a target. -/
def new (triple : Option String) : Verification :=
  ⟨.ofModule { Program.Module.empty moduleName with triple }⟩

/-- The module that a checker is given. -/
def module (v : Verification) : Program.Module := v.builder.module

/-- The number of functions on the bench. -/
def count (v : Verification) : Nat := v.module.functions.length

/-- The bench without the function of a name. -/
def erase (v : Verification) (name : String) : Verification := ⟨(v.builder.erase name).2⟩

/-- **Building a pair.** Builds the function that returns a result, read as lanes of a width, and
then the function that calls the model on the operands. If the second is refused, the first is
erased again. -/
def buildPair (v : Verification) (i : Intrinsic) (op0 op1 result : Register)
    (lane : LaneWidth) : Except Program.Error Unit × Verification :=
  match v.builder.buildConstant targetName result lane with
  | (.error e, b) => (.error e, ⟨b⟩)
  | (.ok _, b) =>
    match b.buildCall sourceName i op0 op1 with
    | (.error e, b) => (.error e, (Verification.mk b).erase targetName)
    | (.ok _, b) => (.ok (), ⟨b⟩)

/-- The text of the pair, with the declarations that it needs. -/
def renderPair (v : Verification) : Except Program.Error String :=
  v.module.renderFunctions [sourceName, targetName]

/-- Clears the bench. -/
def erasePair (v : Verification) : Verification := (v.erase sourceName).erase targetName

end Verification

end VectorTrial
