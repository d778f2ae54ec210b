import VectorTrial.Instruction.Catalog
import VectorTrial.Program.Module
import VectorTrial.Wrapper.Error

/-!
# Native wrappers

A function whose calls all have native counterparts becomes a wrapper: it reads its parameters,
binds the result of each instruction to a name, and hands back one of these names. Constants have
no native form and are passed as parameters instead.

## Main definitions

* `VectorTrial.Wrapper` — wrappers.
* `VectorTrial.Wrapper.ofFunction` — the wrapper of a function.
* `VectorTrial.Wrapper.ofModule` — the wrappers of a module.
-/

namespace VectorTrial

/-- One step of a wrapper: a name for the result of an instruction on two named operands. -/
structure Binding where
  name : String
  shape : Shape
  instruction : Intrinsic
  first : String
  second : String
  deriving DecidableEq, Repr

/-- **Wrappers.** A straight-line program over named registers. -/
structure Wrapper where
  name : String
  params : List (String × Shape)
  ret : Shape
  bindings : List Binding
  returned : String
  deriving DecidableEq, Repr

namespace Wrapper

/-- The layouts of the parameters. -/
def paramShapes (w : Wrapper) : List Shape := w.params.map Prod.snd

/-- The processor features that a wrapper needs, in ascending order. -/
def features (w : Wrapper) : List String :=
  ascending (w.bindings.flatMap fun b => b.instruction.featureNames)

/-! ### From functions to wrappers -/

/-- The layout that a type stands for. -/
def shapeOf (function : String) (ty : Program.Ty) : Except WrapperError Shape :=
  match ty with
  | .int bits =>
    if bits = 32 then .ok .scalar32 else .error (.unsupported function ("type " ++ ty.text))
  | .vector lanes bits =>
    match Shape.ofLanes lanes bits with
    | .ok shape => .ok shape
    | .error .sizeOverflow => .error (.operand .sizeOverflow)
    | .error e => .error (.unsupported function ("type " ++ ty.text ++ ": " ++ e.message))

/-- The name of an operand, which must be no constant. -/
def operandName (function : String) : Program.Value → Except WrapperError String
  | .ref name _ => .ok name
  | .const _ =>
    .error (.unsupported function "constant operands are not lowered; pass them as parameters")

/-- The names of the two operands of an instruction. -/
def operandNames (function : String) (i : Intrinsic) (args : List Program.Value) :
    Except WrapperError (String × String) :=
  match args with
  | [first, second] => do
    return (← operandName function first, ← operandName function second)
  | _ =>
    .error (.unsupported function
      (i.name ++ " takes 2 operands, got " ++ toString args.length))

/-- The instruction whose model has a symbol. -/
def instructionOf (function symbol : String) : Except WrapperError Intrinsic :=
  match Intrinsic.ofSymbol symbol with
  | .ok i => .ok i
  | .error _ => .error (.unsupported function ("no native realisation of @" ++ symbol))

/-- The bindings for the calls among some instructions. -/
def bindingsOf (function : String) : List Program.Inst → Except WrapperError (List Binding)
  | [] => .ok []
  | .ret _ :: rest => bindingsOf function rest
  | .call dest ty callee args :: rest => do
    let instruction ← instructionOf function callee
    let (first, second) ← operandNames function instruction args
    let shape ← shapeOf function ty
    let others ← bindingsOf function rest
    return ⟨dest, shape, instruction, first, second⟩ :: others

/-- The parameters of a wrapper. -/
def paramsOf (function : String) :
    List Program.Param → Except WrapperError (List (String × Shape))
  | [] => .ok []
  | p :: rest => do
    let shape ← shapeOf function p.ty
    return (p.name, shape) :: (← paramsOf function rest)

/-- The value that the last return among some instructions hands back. -/
def lastReturned? (insts : List Program.Inst) : Option Program.Value :=
  insts.reverse.findSome? Program.Inst.returned?

/-- **Lowering.** The wrapper of a function. The signature is judged before the calls, these in
their order, and the returned value last. -/
def ofFunction (f : Program.Function) : Except WrapperError Wrapper := do
  let params ← paramsOf f.name f.params
  let ret ← shapeOf f.name f.ret
  let bindings ← bindingsOf f.name f.insts
  match lastReturned? f.insts with
  | none => throw (.unsupported f.name "missing ret")
  | some value =>
    let returned ← operandName f.name value
    return ⟨f.name, params, ret, bindings, returned⟩

/-- The wrappers of some functions in order. -/
def ofFunctions : List Program.Function → Except WrapperError (List Wrapper)
  | [] => .ok []
  | f :: rest => do
    let wrapper ← ofFunction f
    return wrapper :: (← ofFunctions rest)

/-- The wrappers of the functions of a module. -/
def ofModule (m : Program.Module) : Except WrapperError (List Wrapper) := ofFunctions m.functions

theorem shapeOf_ofShape (function : String) (s : Shape) :
    shapeOf function (.ofShape s) = .ok s := by
  rcases s with ⟨w, lane⟩ | _
  · cases w <;> cases lane <;> rfl
  · rfl

end Wrapper

end VectorTrial
