import VectorTrial.Instruction.Catalog
import VectorTrial.Program.Builder

/-!
# Synthetic functions

The three kinds of function that are ever built for an instruction: one that returns an observed
value, one that calls the instruction's model on literal operands, and one that calls the model on
its own parameters.

## Main definitions

* `VectorTrial.Intrinsic.model` — the declaration of an instruction's model.
* `VectorTrial.Program.Builder.buildConstant` — a function that returns a value.
* `VectorTrial.Program.Builder.buildCall` — a function that calls a model on values.
* `VectorTrial.Program.Builder.buildWrapper` — a function that calls a model on parameters.
-/

namespace VectorTrial

/-- The declaration of an instruction's symbolic model. -/
def Intrinsic.model (i : Intrinsic) : Program.Prototype where
  name := i.symbol
  ret := .ofShape i.result
  params := [.ofShape i.first, .ofShape i.second]

namespace Program

/-- The type of a register read as lanes of a width. -/
def Ty.ofRegister (r : Register) (lane : LaneWidth) : Ty :=
  if r.isScalar then i32
  else vector (UInt32.ofNat (r.bitSize / lane.bits)) (UInt32.ofNat lane.bits)

/-- The function without parameters that returns a register read as lanes of a width. -/
def Definition.constant (name : String) (r : Register) (lane : LaneWidth) : Definition where
  prototype := ⟨name, .ofRegister r lane, []⟩
  body := .ofRegister r lane

/-- The function without parameters that calls a model on two registers. -/
def Definition.call (name : String) (i : Intrinsic) (op0 op1 : Register) : Definition where
  prototype := ⟨name, .ofShape i.result, []⟩
  body := .call i.symbol [.ofRegister op0 i.first.laneWidth, .ofRegister op1 i.second.laneWidth]

/-- The function that calls a model on its two parameters. -/
def Definition.wrapper (name : String) (i : Intrinsic) : Definition where
  prototype := { i.model with name }
  body := .call i.symbol [.var (Prototype.paramName 0), .var (Prototype.paramName 1)]

namespace Builder

/-- Declares the model of an instruction. -/
def declareModel (b : Builder) (i : Intrinsic) : Except Error Unit × Builder :=
  b.declare i.model

/-- Builds a function that needs the model of an instruction. The model stays declared if the
function is refused. -/
def buildWithModel (b : Builder) (i : Intrinsic) (d : Definition) :
    Except Error Function × Builder :=
  match b.declareModel i with
  | (.error e, b) => (.error e, b)
  | (.ok (), b) => b.build d

/-- **Constants.** Builds a function that returns a register read as lanes of a width. -/
def buildConstant (b : Builder) (name : String) (r : Register) (lane : LaneWidth) :
    Except Error Function × Builder :=
  b.build (.constant name r lane)

/-- **Calls.** Builds a function that calls the model of an instruction on two registers. -/
def buildCall (b : Builder) (name : String) (i : Intrinsic) (op0 op1 : Register) :
    Except Error Function × Builder :=
  b.buildWithModel i (.call name i op0 op1)

/-- **Wrappers.** Builds a function that calls the model of an instruction on its parameters. -/
def buildWrapper (b : Builder) (name : String) (i : Intrinsic) :
    Except Error Function × Builder :=
  b.buildWithModel i (.wrapper name i)

end Builder

end Program

end VectorTrial
