import VectorTrial.Wrapper.Lowering

/-!
# The source text of native wrappers

The text that the native compiler turns into a library. Every wrapper has one form of entry, which
takes the addresses of its parameters and the address of its result, so that all of them are
called alike whatever their signatures.

## Main definitions

* `VectorTrial.Shape.nativeType` — the type that holds a register of a shape.
* `VectorTrial.Binding.source`, `VectorTrial.Wrapper.source` — the text of a wrapper.
* `VectorTrial.Wrapper.library` — the text of all wrappers.
-/

namespace VectorTrial

/-- The type that holds a register of a shape. -/
def Shape.nativeType : Shape → String
  | vector .v128 _ => "__m128i"
  | vector .v256 _ => "__m256i"
  | vector .v512 _ => "__m512i"
  | scalar32 => "i32"

/-- The second operand of an instruction as its native function takes it. A scalar count travels in
the low bits of a vector register. -/
def Binding.secondSource (b : Binding) : String :=
  if b.instruction.hasScalarOperand then "_mm_cvtsi32_si128(" ++ b.second ++ ")" else b.second

/-- The line of a binding. -/
def Binding.source (b : Binding) : String :=
  "    let " ++ b.name ++ ": " ++ b.shape.nativeType ++ " = " ++
    b.instruction.entry.nativeFunction ++ "(" ++ b.first ++ ", " ++ b.secondSource ++ ");\n"

namespace Wrapper

/-- The lines that read parameters, from a position on. -/
def paramSources : Nat → List (String × Shape) → List String
  | _, [] => []
  | index, (name, shape) :: rest =>
    ("    let " ++ name ++ ": " ++ shape.nativeType ++ " = read_unaligned(*inputs.add(" ++
      toString index ++ ") as *const " ++ shape.nativeType ++ ");\n") ::
      paramSources (index + 1) rest

/-- The line that writes the result. -/
def resultSource (w : Wrapper) : String :=
  "    write_unaligned(output as *mut " ++ w.ret.nativeType ++ ", " ++ w.returned ++ ");\n"

/-- The line that names the features of a wrapper, if it needs any. -/
def featureSource (w : Wrapper) : String :=
  if w.features.isEmpty then ""
  else "#[target_feature(enable = \"" ++ String.intercalate "," w.features ++ "\")]\n"

/-- The text of a wrapper. -/
def source (w : Wrapper) : String :=
  "#[no_mangle]\n" ++ w.featureSource ++ "pub unsafe extern \"C\" fn " ++ w.name ++
    "(inputs: *const *const u8, output: *mut u8) \x7b\n" ++
    String.join (paramSources 0 w.params) ++ String.join (w.bindings.map Binding.source) ++
    w.resultSource ++ "\x7d\n"

/-- The lines before the first wrapper. -/
def preamble : String :=
  "// Generated execution wrappers. Do not edit.\n" ++
    "#![allow(unused_unsafe, non_snake_case, unused_imports)]\n\n" ++
    "use core::arch::x86_64::*;\n" ++
    "use core::ptr::\x7bread_unaligned, write_unaligned\x7d;\n"

/-- **Library text.** The text of a library of wrappers. -/
def library (wrappers : List Wrapper) : String :=
  preamble ++ String.join (wrappers.map fun w => "\n" ++ w.source)

end Wrapper

end VectorTrial
