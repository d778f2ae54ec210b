import VectorTrial.Program.Expr
import VectorTrial.Sequence.Distinct

/-!
# Functions

What a function is before and after it is built. A request names the function, gives its signature
and the expression that it returns; the built function holds instructions in blocks, with every
intermediate result named.

## Main definitions

* `VectorTrial.Program.Prototype` — a name with a signature.
* `VectorTrial.Program.Definition` — a prototype with the body asked for.
* `VectorTrial.Program.Constant`, `Value`, `Inst`, `Block`, `Param`, `Function` — built functions.
* `VectorTrial.Program.Function.callees` — the called symbols in order of first call.
-/

namespace VectorTrial.Program

/-! ### Requests -/

/-- The types of a function's result and parameters. -/
structure Signature where
  ret : Ty
  params : List Ty
  deriving DecidableEq, Repr

/-- **Prototypes.** The name of a function and its signature. Parameters have no names of their
own: they are named by position. -/
structure Prototype where
  name : String
  ret : Ty
  params : List Ty
  deriving DecidableEq, Repr

/-- A request for a function: its prototype and the expression that it returns. -/
structure Definition where
  prototype : Prototype
  body : Expr

/-! ### Built functions -/

/-- A constant operand. -/
inductive Constant where
  | int (bits : UInt32) (value : Int64)
  | vector (elemBits : UInt32) (elements : List Int64)
  deriving DecidableEq, Repr

/-- The type of a constant. -/
def Constant.ty : Constant → Ty
  | int bits _ => .int bits
  | vector bits elements => .vector (UInt32.ofNat elements.length) bits

/-- An operand: a constant, or a parameter or intermediate result by its name. -/
inductive Value where
  | const (constant : Constant)
  | ref (name : String) (ty : Ty)
  deriving DecidableEq, Repr

/-- The type of an operand. -/
def Value.ty : Value → Ty
  | const constant => constant.ty
  | ref _ ty => ty

/-- An instruction of a built function. -/
inductive Inst where
  /-- Calls a symbol and names the result. -/
  | call (dest : String) (ty : Ty) (callee : String) (args : List Value)
  /-- Ends the function with a value. -/
  | ret (value : Value)
  deriving DecidableEq, Repr

/-- The symbol that an instruction calls. -/
def Inst.callee? : Inst → Option String
  | call _ _ callee _ => some callee
  | ret _ => none

/-- The value with which an instruction ends a function. -/
def Inst.returned? : Inst → Option Value
  | call _ _ _ _ => none
  | ret value => some value

/-- A labelled list of instructions. -/
structure Block where
  label : String
  insts : List Inst
  deriving DecidableEq, Repr

/-- A named parameter. -/
structure Param where
  name : String
  ty : Ty
  deriving DecidableEq, Repr

/-- **Built functions.** -/
structure Function where
  name : String
  ret : Ty
  params : List Param
  blocks : List Block
  deriving DecidableEq, Repr

namespace Prototype

/-- The signature of a prototype. -/
def signature (p : Prototype) : Signature := ⟨p.ret, p.params⟩

/-- The name of the parameter at a position. -/
def paramName (index : Nat) : String := "i" ++ toString index

/-- The parameters of a prototype with their names, from a position on. -/
def paramsFrom : Nat → List Ty → List Param
  | _, [] => []
  | index, ty :: rest => ⟨paramName index, ty⟩ :: paramsFrom (index + 1) rest

/-- The parameters of a prototype with their names. -/
def namedParams (p : Prototype) : List Param := paramsFrom 0 p.params

end Prototype

/-- The name of a requested function. -/
def Definition.name (d : Definition) : String := d.prototype.name

namespace Function

/-- The signature of a function. -/
def signature (f : Function) : Signature := ⟨f.ret, f.params.map Param.ty⟩

/-- All instructions, block by block. -/
def insts (f : Function) : List Inst := f.blocks.flatMap Block.insts

/-- The called symbols in order of first call. -/
def callees (f : Function) : List String := distinct (f.insts.filterMap Inst.callee?)

/-- The value that the first block returns. -/
def returned? (f : Function) : Option Value :=
  f.blocks.head?.bind fun block => block.insts.findSome? Inst.returned?

end Function

end VectorTrial.Program
