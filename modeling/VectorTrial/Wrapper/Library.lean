import VectorTrial.Wrapper.Machine

/-!
# Loaded libraries

A library is a set of compiled wrappers on a machine. A function is found by its name among the
wrappers and then among the symbols of the library. A call is checked against the signature and the
processor. Then native code is entered with the bytes of the arguments and with a cleared result.

## Main definitions

* `VectorTrial.Target` — what native code is compiled for.
* `VectorTrial.Library` — compiled wrappers with the module that they come from.
* `VectorTrial.NativeFunction` — a wrapper with its native code.
* `VectorTrial.Library.resolve` — functions by name.
* `VectorTrial.Wrapper.buffers` — the checks before a call.
* `VectorTrial.NativeFunction.invoke` — calls.
-/

namespace VectorTrial

/-- A target triple with an optional processor name. -/
structure Target where
  triple : String
  cpu : Option String
  deriving DecidableEq, Repr

/-- The text of a target, with the processor name in parentheses. -/
def Target.text (t : Target) : String :=
  match t.cpu with
  | some cpu => t.triple ++ " (" ++ cpu ++ ")"
  | none => t.triple

/-! ### Calls -/

namespace Wrapper

/-- The first argument that does not fit its parameter, from a position on, in words. -/
def firstMisfit? : Nat → List Shape → List Register → Option String
  | index, shape :: shapes, arg :: args =>
    if arg.fits shape then firstMisfit? (index + 1) shapes args
    else some ("argument " ++ toString index ++ " has " ++ toString arg.bitSize ++
      " bits, expected " ++ shape.text)
  | _, _, _ => none

/-- **Checks.** What native code is entered with on a processor: the bytes of the arguments, and a
cleared buffer for the result. The number of arguments is checked first, then each argument in turn,
then the features of the processor. -/
def buffers (w : Wrapper) (host : Host) (args : List Register) : Except WrapperError CallBuffers :=
  if args.length ≠ w.params.length then
    .error (.signatureMismatch w.name
      ("expected " ++ toString w.params.length ++ " arguments, got " ++ toString args.length))
  else
    match firstMisfit? 0 w.paramShapes args with
    | some reason => .error (.signatureMismatch w.name reason)
    | none =>
      let missing := host.missing w.features
      if missing.isEmpty then .ok ⟨args.map Register.bytes, (Register.zero w.ret).bytes⟩
      else .error (.unsupportedCpu w.name missing)

end Wrapper

/-- **Native functions.** A wrapper with the code that a loader found for it. -/
structure NativeFunction extends Wrapper where
  entry : EntryPoint

instance : Coe NativeFunction Wrapper := ⟨NativeFunction.toWrapper⟩

/-- **Calls.** The result of a native function on a processor: what its code leaves in the buffer
for the result, if the call passes the checks. -/
def NativeFunction.invoke (f : NativeFunction) (host : Host) (args : List Register) :
    Except WrapperError Register := do
  let b ← f.buffers host args
  return (Register.zero f.ret).overwrite (f.entry b)

/-! ### Libraries -/

/-- **Libraries.** Compiled wrappers, with the module and the target that they were compiled for and
the machine that they are loaded on. -/
structure Library where
  wrappers : List Wrapper
  module : Program.Module
  target : Target
  host : Machine

namespace Library

/-- The number of wrappers. -/
def size (l : Library) : Nat := l.wrappers.length

/-- The native code that is loaded under a name. -/
def entry? (l : Library) (name : String) : Option EntryPoint := l.host.entry? l.wrappers name

/-- **Resolution.** The native function of a name, which must be that of a wrapper and a symbol of
the loaded library. Symbols stay where they are, so it does not matter which of them were looked up
before. -/
def resolve (l : Library) (name : String) : Except WrapperError NativeFunction :=
  match l.wrappers.find? fun w => w.name == name with
  | none => .error (.symbolNotFound name)
  | some w =>
    match l.entry? name with
    | none => .error (.symbolNotFound name)
    | some entry => .ok ⟨w, entry⟩

/-- The result of the wrapper of an instruction on two operands. -/
def execute (l : Library) (i : Intrinsic) (op0 op1 : Register) : Except WrapperError Register := do
  (← l.resolve i.wrapperName).invoke l.host [op0, op1]

/-- Whether the processor has the features that an instruction needs. -/
def supports (l : Library) (i : Intrinsic) : Bool := l.host.supports i

end Library

end VectorTrial
