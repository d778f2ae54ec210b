import VectorTrial.Program.Verification

/-!
# Building functions

A builder owns the module that receives new functions. To build a function it emits the
instructions of the body asked for, inner calls before the calls that use them, and verifies the
outcome.
Only a function that passes is added; in every other case the module stays as it was.

## Main definitions

* `VectorTrial.Program.Expr.emit` — the instructions that compute an expression.
* `VectorTrial.Program.Builder` — a module with what is needed while a function is under way.
* `VectorTrial.Program.Builder.build` — builds one function.
-/

namespace VectorTrial.Program

/-! ### From expressions to instructions -/

/-- The name of the intermediate result with a number. -/
def temporaryName : Nat → String
  | 0 => "calltmp"
  | n => "calltmp" ++ toString n

/-- What was emitted for an expression: the operand that holds its value, the instructions that
compute it, and the number of the next free intermediate result. -/
structure Emitted where
  value : Value
  insts : List Inst
  next : Nat

/-- What was emitted for the arguments of a call. -/
structure EmittedArgs where
  values : List Value
  insts : List Inst
  next : Nat

/-- The elements of a vector literal, each checked against the width of the vector. -/
def emitElements (elemBits : UInt32) : List Literal → Except Error (List Int64)
  | [] => .ok []
  | element :: rest =>
    if element.bits ≠ elemBits then
      .error (.typeMismatch "vector element" (.int elemBits) (.int element.bits))
    else do
      checkLiteral element.bits element.value
      let values ← emitElements elemBits rest
      return element.value :: values

mutual

/-- **Emission.** The instructions that compute an expression, with intermediate results
numbered from `next` on. A call is judged in the order: its symbol, the number of arguments, then
each argument in turn. -/
def Expr.emit (m : Module) (scope : Scope) (next : Nat) : Expr → Except Error Emitted
  | .literal ⟨value, bits⟩ => do
    checkLiteral bits value
    return ⟨.const (.int bits value), [], next⟩
  | .vector elemBits elements =>
    if elements.isEmpty then .error (.invalidLiteral "empty vector")
    else do
      let values ← emitElements elemBits elements
      return ⟨.const (.vector elemBits values), [], next⟩
  | .var name =>
    match scope.lookup name with
    | some ty => .ok ⟨.ref name ty, [], next⟩
    | none => .error (.unknownVariable name)
  | .call callee args =>
    match m.signature? callee with
    | none => .error (.unknownCallee callee)
    | some signature =>
      if signature.params.length ≠ args.length then
        .error (.arityMismatch callee signature.params.length args.length)
      else do
        let inner ← emitArgs m scope callee 0 next signature.params args
        let dest := temporaryName inner.next
        return ⟨.ref dest signature.ret,
          inner.insts ++ [.call dest signature.ret callee inner.values], inner.next + 1⟩

/-- The instructions that compute the arguments of a call from a position on, each with the type
of its parameter. -/
def emitArgs (m : Module) (scope : Scope) (callee : String) (index next : Nat) :
    List Ty → List Expr → Except Error EmittedArgs
  | param :: params, arg :: args => do
    let first ← Expr.emit m scope next arg
    if first.value.ty ≠ param then
      throw (.typeMismatch (argumentPlace index callee) param first.value.ty)
    let others ← emitArgs m scope callee (index + 1) first.next params args
    return ⟨first.value :: others.values, first.insts ++ others.insts, others.next⟩
  | _, _ => .ok ⟨[], [], next⟩

end

/-- The function that a request stands for, before verification. -/
def Definition.assemble (d : Definition) (e : Emitted) : Function where
  name := d.name
  ret := d.prototype.ret
  params := d.prototype.namedParams
  blocks := [⟨entryLabel, e.insts ++ [.ret e.value]⟩]

/-- The function that a request stands for, in a scope and verified. -/
def Definition.emit (d : Definition) (m : Module) (scope : Scope) :
    Except Error Function := do
  let emitted ← d.body.emit m scope 0
  let f := d.assemble emitted
  f.verify m
  return f

/-! ### Builders -/

/-- **Builders.** The module that receives new functions, with the parameters and the name of the
function under way. -/
structure Builder where
  module : Module
  scope : Scope
  building : Option String

namespace Builder

/-- A builder over a module, with no function under way. -/
def ofModule (m : Module) : Builder := ⟨m, [], none⟩

/-- A builder over an empty module with a name. -/
def new (name : String) : Builder := ofModule (.empty name)

/-- Whether no function is under way. -/
def isIdle (b : Builder) : Bool := b.building.isNone

/-- The module of an idle builder. -/
def release? (b : Builder) : Option Module := if b.isIdle then some b.module else none

/-- Changes the target of the module. -/
def setTriple (b : Builder) (triple : String) : Builder :=
  { b with module := b.module.setTriple triple }

/-- **Declaring.** Declares a symbol that is defined elsewhere, if the module allows it. -/
def declare (b : Builder) (d : Prototype) : Except Error Unit × Builder :=
  match b.module.declare d with
  | .error e => (.error e, b)
  | .ok m => (.ok (), { b with module := m })

/-- The builder after a request that has to be granted. -/
def accepted : Except Error Unit × Builder → Except Error Builder
  | (.error e, _) => .error e
  | (.ok (), b) => .ok b

instance : Coe (Except Error Unit × Builder) (Except Error Builder) := ⟨accepted⟩

/-- The builder with a function under way. -/
def begin (b : Builder) (d : Definition) : Builder :=
  { b with scope := Scope.ofParams d.prototype.namedParams, building := some d.name }

/-- The builder with no function under way. -/
def finish (b : Builder) : Builder := { b with scope := [], building := none }

/-- **Building.** Emits and verifies a requested function and adds it to the module. On any
refusal the module is left as it was. -/
def build (b : Builder) (d : Definition) : Except Error Function × Builder :=
  if b.module.contains d.name then (.error (.duplicateFunction d.name), b)
  else
    let busy := b.begin d
    let outcome := d.emit busy.module busy.scope
    let idle := busy.finish
    match outcome with
    | .error e => (.error e, idle)
    | .ok f =>
      match idle.module.insert f with
      | .error e => (.error e, idle)
      | .ok m => (.ok f, { idle with module := m })

/-- The function of a name, with the builder whose module lacks it. -/
def erase (b : Builder) (name : String) : Option Function × Builder :=
  ((b.module.erase name).1, { b with module := (b.module.erase name).2 })

theorem declare_of_ok {b : Builder} {d : Prototype} {m : Module} (h : b.module.declare d = .ok m) :
    b.declare d = (.ok (), { b with module := m }) := by
  rw [declare, h]

theorem declare_of_error {b : Builder} {d : Prototype} {e : Error}
    (h : b.module.declare d = .error e) : b.declare d = (.error e, b) := by
  rw [declare, h]

end Builder

end VectorTrial.Program
