import VectorTrial.Program.Module

/-!
# Verification

The check that every built function passes: one block, in which each name is defined once and
before its uses, all types agree, every literal fits its width, and a single return stands at the
end. The first fault in reading order is the one reported.

## Main definitions

* `VectorTrial.Program.checkLiteral` — whether a value can be written at a width.
* `VectorTrial.Program.Function.verify` — the check of a function against a module.
* `VectorTrial.Program.Module.verify` — the check of all functions of a module.
-/

namespace VectorTrial.Program

/-! ### Literals -/

/-- Whether a value is the sign extension of its lowest bits. The number of bits is taken to lie
between 1 and 64. -/
def isSignExtension (bits : UInt32) (value : Int64) : Bool :=
  let excess := Int64.ofNat (64 - bits.toNat)
  (value <<< excess) >>> excess == value

/-- **Literals.** A value can be written at a width of 1 to 64 bits when it is the sign extension
of as many of its low bits. -/
def checkLiteral (bits : UInt32) (value : Int64) : Except Error Unit :=
  if 1 ≤ bits.toNat ∧ bits.toNat ≤ 64 then
    if isSignExtension bits value then .ok ()
    else .error (.invalidLiteral (toString value ++ " does not fit in i" ++ toString bits))
  else .error (.invalidLiteral ("unsupported width i" ++ toString bits))

/-- The check of all elements of a vector, which must have one. -/
def checkElements (bits : UInt32) (values : List Int64) : Except Error Unit :=
  if values.isEmpty then .error (.invalidLiteral "empty vector")
  else values.forM (checkLiteral bits)

/-- The check of a constant. -/
def Constant.check : Constant → Except Error Unit
  | int bits value => checkLiteral bits value
  | vector bits elements => checkElements bits elements

/-! ### Names in scope -/

/-- The names in scope with their types. -/
abbrev Scope := List (String × Ty)

/-- The scope that consists of named parameters. -/
def Scope.ofParams (params : List Param) : Scope := params.map fun p => (p.name, p.ty)

/-- The check of an operand: a name must be in scope with the type of its use. -/
def Value.check (function : String) (scope : Scope) : Value → Except Error Unit
  | const constant => constant.check
  | ref name ty =>
    match scope.lookup name with
    | some defined =>
      if defined = ty then .ok () else .error (.typeMismatch ("use of %" ++ name) defined ty)
    | none => .error (.malformedFunction function ("use of undefined %" ++ name))

/-- The scope with the parameters of a function, whose names must differ. -/
def Scope.addParams (function : String) : Scope → List Param → Except Error Scope
  | scope, [] => .ok scope
  | scope, p :: rest =>
    if (scope.lookup p.name).isSome then
      .error (.malformedFunction function ("parameter " ++ p.name ++ " defined twice"))
    else addParams function ((p.name, p.ty) :: scope) rest

/-! ### Instructions -/

/-- The types of the arguments of a call against those of the parameters, from a position on. -/
def checkArguments (callee : String) : Nat → List Ty → List Value → Except Error Unit
  | index, param :: params, arg :: args =>
    if param = arg.ty then checkArguments callee (index + 1) params args
    else .error (.typeMismatch (argumentPlace index callee) param arg.ty)
  | _, _, _ => .ok ()

/-- The check of one call against the signature of its callee. -/
def checkCall (m : Module) (function : String) (scope : Scope) (ty : Ty) (callee : String)
    (args : List Value) : Except Error Unit := do
  args.forM (Value.check function scope)
  match m.signature? callee with
  | none => throw (.unknownCallee callee)
  | some signature =>
    if signature.params.length ≠ args.length then
      throw (.arityMismatch callee signature.params.length args.length)
    checkArguments callee 0 signature.params args
    if ty ≠ signature.ret then
      throw (.typeMismatch ("result of " ++ callee) signature.ret ty)

/-- The check of a block from an instruction on, with the names defined so far. -/
def checkInsts (m : Module) (f : Function) : Scope → List Inst → Except Error Unit
  | _, [] => .error (.malformedFunction f.name "entry block is empty")
  | scope, [.ret value] => do
    value.check f.name scope
    if value.ty ≠ f.ret then
      throw (.typeMismatch ("return of " ++ f.name) f.ret value.ty)
  | _, [.call _ _ _ _] => .error (.malformedFunction f.name "entry block has no terminator")
  | _, .ret _ :: _ :: _ => .error (.malformedFunction f.name "ret before end of block")
  | scope, .call dest ty callee args :: next :: rest => do
    checkCall m f.name scope ty callee args
    if (scope.lookup dest).isSome then
      throw (.malformedFunction f.name ("%" ++ dest ++ " defined twice"))
    checkInsts m f ((dest, ty) :: scope) (next :: rest)

/-- The label of the only block of a function. -/
def entryLabel : String := "entry"

/-- **Verification.** The check of a function against the symbols of a module. -/
def Function.verify (f : Function) (m : Module) : Except Error Unit :=
  match f.blocks with
  | [entry] =>
    if entry.label ≠ entryLabel then
      .error (.malformedFunction f.name ("first block is labelled " ++ entry.label))
    else do
      let scope ← Scope.addParams f.name [] f.params
      checkInsts m f scope entry.insts
  | blocks =>
    .error (.malformedFunction f.name ("expected one block, found " ++ toString blocks.length))

/-- The check of all functions of a module in order. -/
def Module.verify (m : Module) : Except Error Unit :=
  m.functions.forM fun f => f.verify m

end VectorTrial.Program
