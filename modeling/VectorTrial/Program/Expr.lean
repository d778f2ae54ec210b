import VectorTrial.Lane.Register
import VectorTrial.Program.Type

/-!
# Expressions

The body of a function is given as an expression: literals, variables and calls. A literal carries
its width, so an expression may be written down that has no type.

## Main definitions

* `VectorTrial.Program.Literal` — a signed integer constant with its width.
* `VectorTrial.Program.Expr` — expressions.
* `VectorTrial.Program.Expr.freeVariables` — the variables in order of first appearance.
* `VectorTrial.Program.Expr.ofRegister` — the literal of a register.
-/

namespace VectorTrial.Program

/-- A signed integer constant of a given number of bits. -/
structure Literal where
  value : Int64
  bits : UInt32
  deriving DecidableEq, Repr

/-- **Expressions.** -/
inductive Expr where
  | literal (value : Literal)
  | vector (elemBits : UInt32) (elements : List Literal)
  | var (name : String)
  | call (callee : String) (args : List Expr)

namespace Expr

/-- The integer literal with a value and a width. -/
def int (value : Int64) (bits : UInt32) : Expr := literal ⟨value, bits⟩

/-- The vector literal whose elements all have the given width. -/
def ofValues (elemBits : UInt32) (values : List Int64) : Expr :=
  vector elemBits (values.map fun value => ⟨value, elemBits⟩)

/-- **Literals of registers.** The literal of a register, read as lanes of a width. A scalar is an
integer of 32 bits whatever the width; a vector has one element for each lane. -/
def ofRegister (r : Register) (lane : LaneWidth) : Expr :=
  match r.scalar? with
  | some value => int value 32
  | none => ofValues (UInt32.ofNat lane.bits) (r.lanes lane)

/-! ### Variables -/

mutual

/-- The names met so far, followed by the variable names of an expression that are new among them.
Arguments are visited from left to right, each with all that it holds before the next. -/
def collectVariables (names : List String) : Expr → List String
  | literal _ => names
  | vector _ _ => names
  | var name => if names.contains name then names else names ++ [name]
  | call _ args => collectVariablesIn names args

/-- The names met so far, followed by the variable names of some expressions that are new among
them. -/
def collectVariablesIn (names : List String) : List Expr → List String
  | [] => names
  | e :: rest => collectVariablesIn (collectVariables names e) rest

end

/-- **Free variables.** The variable names of an expression in order of first appearance. -/
def freeVariables (e : Expr) : List String := collectVariables [] e

end Expr

end VectorTrial.Program
