import VectorTrial.Instruction.Emulation
import VectorTrial.Instruction.Host
import VectorTrial.Wrapper.Lowering

/-!
# Native code

Compiled wrappers are entered with the addresses of their arguments and of their result, and a
loader finds them by name. What is loaded for some wrappers, and what it computes, lies with the
compiler, the loader and the processor, so a machine may hold any code. One machine is emulated.

## Main definitions

* `VectorTrial.CallBuffers` — the memory that a call hands over.
* `VectorTrial.EntryPoint` — native code.
* `VectorTrial.Machine` — a processor with a loader.
* `VectorTrial.Machine.avx2` — a machine that emulates the instructions.
-/

namespace VectorTrial

/-- **Buffers of a call.** The bytes at the addresses that native code is entered with: those of the
arguments, and those at the address of the result before the call. -/
structure CallBuffers where
  inputs : List (List UInt8)
  output : List UInt8
  deriving DecidableEq, Repr

/-- **Native code.** The bytes that it writes at the address of the result. -/
abbrev EntryPoint := CallBuffers → List UInt8

/-- **Machines.** A processor, and the native code that the loader finds under a name once some
wrappers are compiled. It may find none. -/
structure Machine extends Host where
  entry? : List Wrapper → String → Option EntryPoint

instance : Coe Machine Host := ⟨Machine.toHost⟩

/-! ### Emulated wrappers -/

namespace Wrapper

/-- The register of a name, which is zero where the name has no value. In the wrapper of a verified
function every name has one. -/
def valueOf (values : List (String × Register)) (name : String) (shape : Shape) : Register :=
  (values.lookup name).getD (Register.zero shape)

/-- The values of all names after a binding. -/
def extend (values : List (String × Register)) (b : Binding) : List (String × Register) :=
  let first := valueOf values b.first b.instruction.first
  let second := valueOf values b.second b.instruction.second
  (b.name, b.instruction.emulate first second) :: values

/-- The values of parameters that are read from some buffers. -/
def readParams (params : List (String × Shape)) (inputs : List (List UInt8)) :
    List (String × Register) :=
  List.zipWith (fun (p : String × Shape) bytes => (p.1, (Register.zero p.2).overwrite bytes))
    params inputs

/-- The bytes that a wrapper writes when its instructions are emulated. -/
def emulate (w : Wrapper) : EntryPoint := fun b =>
  (valueOf (w.bindings.foldl extend (readParams w.params b.inputs)) w.returned w.ret).bytes

end Wrapper

/-- A machine with 256-bit integer vectors and without 512-bit ones, on which every wrapper is
loaded and emulated. -/
def Machine.avx2 : Machine where
  toHost := .avx2
  entry? wrappers name := (wrappers.find? fun w => w.name == name).map Wrapper.emulate

end VectorTrial
