import VectorTrial.Proofs.Program.Evaluation
import VectorTrial.Proofs.Program.WellFormed
import VectorTrial.Wrapper.Source

/-!
# The bodies of wrappers

The text of a wrapper is a straight-line program: it reads its parameters, binds the results of
native functions one after the other, and writes one of the values. Here the lines of the text are
statements, which can be typed and executed.

## Main definitions

* `VectorTrial.Statement` — the lines of a wrapper.
* `VectorTrial.Wrapper.body` — the statements of a wrapper.
* `VectorTrial.nativeSize?`, `VectorTrial.Shape.HeldBy` — the native types, and which of them holds
  the registers of a layout.
* `VectorTrial.Statement.Typed` — bodies that bind each name once, before its uses, and in which
  every operand has the type that its native function takes.
* `VectorTrial.NativeSemantics.exec` — the execution of a body.

## Main results

* `VectorTrial.Wrapper.source_eq`, `VectorTrial.Wrapper.library_eq` — the text of a wrapper is the
  text of its statements, and that of a library the text of its wrappers.
* `VectorTrial.Shape.heldBy_nativeType` — the type that a layout stands for holds its registers.
* `VectorTrial.Statement.typed_reads`, `VectorTrial.NativeSemantics.exec_reads` — the lines that
  read the parameters.
-/

namespace VectorTrial

open Program

/-! ### Statements -/

/-- The second operand of a native function: a name, or the name of a scalar that is moved to a
register. -/
inductive NativeOperand where
  | plain (name : String)
  | moved (name : String)

/-- **Statements.** The lines of a wrapper, with the names and types that stand in them. -/
inductive Statement where
  /-- Binds a name to the parameter at a position. -/
  | read (name type : String) (index : Nat)
  /-- Binds a name to the result of the native function of an instruction. -/
  | call (name type : String) (i : Intrinsic) (first : String) (second : NativeOperand)
  /-- Writes a value to the output. -/
  | write (type name : String)

/-- The text of an operand. -/
def NativeOperand.text : NativeOperand → String
  | plain name => name
  | moved name => "_mm_cvtsi32_si128(" ++ name ++ ")"

/-- The text of a statement. -/
def Statement.text : Statement → String
  | read name type index =>
    "    let " ++ name ++ ": " ++ type ++ " = read_unaligned(*inputs.add(" ++ toString index ++
      ") as *const " ++ type ++ ");\n"
  | call name type i first second =>
    "    let " ++ name ++ ": " ++ type ++ " = " ++ i.entry.nativeFunction ++ "(" ++ first ++ ", " ++
      second.text ++ ");\n"
  | write type name => "    write_unaligned(output as *mut " ++ type ++ ", " ++ name ++ ");\n"

/-- The second operand of a binding. -/
def Binding.secondOperand (b : Binding) : NativeOperand :=
  if b.instruction.hasScalarOperand then .moved b.second else .plain b.second

/-- The statement of a binding. -/
def Binding.statement (b : Binding) : Statement :=
  .call b.name b.shape.nativeType b.instruction b.first b.secondOperand

/-- The statements that read parameters, from a position on. -/
def Statement.reads : Nat → List (String × Shape) → List Statement
  | _, [] => []
  | index, (name, shape) :: rest =>
    .read name shape.nativeType index :: reads (index + 1) rest

namespace Wrapper

/-- **Bodies.** The statements of a wrapper. -/
def body (w : Wrapper) : List Statement :=
  Statement.reads 0 w.params ++ w.bindings.map Binding.statement ++
    [.write w.ret.nativeType w.returned]

/-! ### Texts -/

theorem paramSources_eq (index : Nat) (params : List (String × Shape)) :
    paramSources index params = (Statement.reads index params).map Statement.text := by
  induction params generalizing index with
  | nil => rfl
  | cons p params ih =>
    obtain ⟨name, shape⟩ := p
    rw [paramSources, ih, Statement.reads]
    rfl

theorem text_secondOperand (b : Binding) : b.secondOperand.text = b.secondSource := by
  unfold Binding.secondOperand Binding.secondSource
  split_ifs
  · rfl
  · rfl

theorem text_statement (b : Binding) : b.statement.text = b.source := by
  delta Binding.source
  rw [← text_secondOperand]
  rfl

/-- The text of the statements of a wrapper. -/
theorem join_body (w : Wrapper) :
    String.join (w.body.map Statement.text) = String.join (paramSources 0 w.params) ++
      String.join (w.bindings.map Binding.source) ++ w.resultSource := by
  have hbindings : (w.bindings.map Binding.statement).map Statement.text =
      w.bindings.map Binding.source := by
    rw [List.map_map]
    exact List.map_congr_left fun b _ => text_statement b
  have hresult : String.join [(Statement.write w.ret.nativeType w.returned).text] =
      w.resultSource := by
    rw [String.join_cons, String.join_nil, String.append_empty]
    rfl
  rw [body, List.map_append, List.map_append, hbindings, ← paramSources_eq, String.join_append,
    String.join_append, List.map_singleton, hresult]

/-- The lines of a wrapper before its body. -/
def head (w : Wrapper) : String :=
  "#[no_mangle]\n" ++ w.featureSource ++ "pub unsafe extern \"C\" fn " ++ w.name ++
    "(inputs: *const *const u8, output: *mut u8) \x7b\n"

/-- **Texts.** The text of a wrapper is its head with the text of its statements. -/
theorem source_eq (w : Wrapper) :
    w.source = w.head ++ String.join (w.body.map Statement.text) ++ "\x7d\n" := by
  rw [join_body]
  delta source head
  simp only [String.append_assoc]

/-- **Libraries.** The text of a library names what its wrappers use of the standard library. Then
the wrappers follow in order, each after an empty line. -/
theorem library_eq (ws : List Wrapper) :
    library ws = "// Generated execution wrappers. Do not edit.\n" ++
      "#![allow(unused_unsafe, non_snake_case, unused_imports)]\n\n" ++
      "use core::arch::x86_64::*;\nuse core::ptr::\x7bread_unaligned, write_unaligned\x7d;\n" ++
      String.join (ws.map fun w =>
        "\n" ++ w.head ++ String.join (w.body.map Statement.text) ++ "\x7d\n") := by
  have hwrappers : (ws.map fun w => "\n" ++ w.source) = ws.map fun w =>
      "\n" ++ w.head ++ String.join (w.body.map Statement.text) ++ "\x7d\n" := by
    refine List.map_congr_left fun w _ => ?_
    rw [source_eq]
    simp only [String.append_assoc]
  delta library preamble
  rw [hwrappers]
  rfl

end Wrapper

/-! ### Types -/

/-- The number of bytes of a native type. -/
def nativeSize? : String → Option Nat
  | "i32" => some 4
  | "__m128i" => some 16
  | "__m256i" => some 32
  | "__m512i" => some 64
  | _ => none

/-- **Types of layouts.** A native type holds the registers of a layout if it has their size. There
is one type of each size. -/
def Shape.HeldBy (s : Shape) (type : String) : Prop := nativeSize? type = some s.byteSize

/-- The native type of a layout has the size of its registers. -/
theorem Shape.heldBy_nativeType (s : Shape) : s.HeldBy s.nativeType := by
  rw [HeldBy]
  rcases s with ⟨w, lane⟩ | _
  · cases w <;> cases lane <;> decide
  · rfl

/-- Names with the native types of their layouts. -/
def Wrapper.typesOf (names : List (String × Shape)) : List (String × String) :=
  names.map fun p => (p.1, p.2.nativeType)

theorem Wrapper.map_fst_typesOf (names : List (String × Shape)) :
    (Wrapper.typesOf names).map Prod.fst = names.map Prod.fst := by
  rw [typesOf, List.map_map]
  rfl

/-- Whether an operand can stand second in a call of the native function of an instruction: it is
a name of a type that holds the second operand, or the name of a scalar that is moved to a
register where the second operand is a scalar. -/
def NativeOperand.Fits (known : List (String × String)) (i : Intrinsic) : NativeOperand → Prop
  | plain name => i.hasScalarOperand = false ∧
      ∃ type, i.second.HeldBy type ∧ (name, type) ∈ known
  | moved name => i.hasScalarOperand = true ∧ (name, "i32") ∈ known

/-- **Typed bodies.** Statements that can stand where some names are known with their types: each
binds a fresh name, a parameter is read with its own type, the operands of a native function have
types that hold what its instruction takes and so has its result, and at the end, and there only, a
known name of the type of the output is written. -/
inductive Statement.Typed (inputs : List String) (output : String) :
    List (String × String) → List Statement → Prop
  | read {known : List (String × String)} {name type : String} {index : Nat}
      {rest : List Statement} (hfresh : name ∉ known.map Prod.fst)
      (hinput : inputs[index]? = some type)
      (hrest : Typed inputs output (known ++ [(name, type)]) rest) :
      Typed inputs output known (.read name type index :: rest)
  | call {known : List (String × String)} {name type : String} {i : Intrinsic}
      {first firstType : String} {second : NativeOperand} {rest : List Statement}
      (hfresh : name ∉ known.map Prod.fst) (hfirst : (first, firstType) ∈ known)
      (hheld : i.first.HeldBy firstType) (hsecond : second.Fits known i)
      (hresult : i.result.HeldBy type)
      (hrest : Typed inputs output (known ++ [(name, type)]) rest) :
      Typed inputs output known (.call name type i first second :: rest)
  | write {known : List (String × String)} {name : String} (hname : (name, output) ∈ known) :
      Typed inputs output known [.write output name]

namespace Statement

/-- **Reading parameters.** The parameters are read with their own types if their names differ. -/
theorem typed_reads {output : String} (read : List (String × Shape))
    {params : List (String × Shape)} {rest : List Statement}
    (hnodup : ((read ++ params).map Prod.fst).Nodup) {inputs : List String}
    (hinputs : inputs = (read ++ params).map fun p => p.2.nativeType)
    (hrest : Typed inputs output (Wrapper.typesOf (read ++ params)) rest) :
    Typed inputs output (Wrapper.typesOf read) (reads read.length params ++ rest) := by
  induction params generalizing read with
  | nil => simpa [reads] using hrest
  | cons p params ih =>
    obtain ⟨name, shape⟩ := p
    have hassoc : read ++ (name, shape) :: params = read ++ [(name, shape)] ++ params := by simp
    rw [hassoc] at hnodup hinputs hrest
    have hfresh : name ∉ (Wrapper.typesOf read).map Prod.fst := by
      rw [Wrapper.map_fst_typesOf]
      exact (nodup_append_singleton.1
        (hnodup.sublist ((List.sublist_append_left _ params).map Prod.fst))).2
    have hinput : inputs[read.length]? = some shape.nativeType := by
      simp [hinputs]
    have hknown : Wrapper.typesOf read ++ [(name, shape.nativeType)] =
        Wrapper.typesOf (read ++ [(name, shape)]) := by
      simp [Wrapper.typesOf]
    have hlength : (read ++ [(name, shape)]).length = read.length + 1 := by simp
    have hnext := ih _ hnodup hinputs hrest
    rw [reads, List.cons_append]
    refine .read hfresh hinput ?_
    rw [hknown, ← hlength]
    exact hnext

end Statement

/-! ### Execution -/

/-- **Native functions.** What native functions compute, and what becomes of a scalar that is moved
to a register. -/
structure NativeSemantics (α : Type) where
  function : String → α → α → α
  move : α → α

namespace NativeSemantics

variable {α : Type} (N : NativeSemantics α)

/-- What the native function of an instruction computes, with a scalar count moved to a register. -/
def apply (i : Intrinsic) (first second : α) : α :=
  N.function i.entry.nativeFunction first (if i.hasScalarOperand then N.move second else second)

/-- The value of an operand. -/
def operand (env : Env α) : NativeOperand → Option α
  | .plain name => env.lookup name
  | .moved name => (env.lookup name).map N.move

/-- **Execution.** What a body writes, on the values of its parameters. A line binds its name for
the lines after it. There is nothing to write where a parameter or a name is missing. -/
def exec (inputs : List α) : Env α → List Statement → Option α
  | _, [] => none
  | env, .read name _ index :: rest =>
    inputs[index]?.bind fun a => exec inputs ((name, a) :: env) rest
  | env, .call name _ i first second :: rest => do
    let a ← env.lookup first
    let b ← N.operand env second
    exec inputs ((name, N.function i.entry.nativeFunction a b) :: env) rest
  | env, .write _ name :: _ => env.lookup name

/-- Parameters are read in order. -/
theorem exec_reads {inputs read args : List α} (hinputs : inputs = read ++ args)
    {params : List (String × Shape)} (hlength : args.length = params.length) (env : Env α)
    (rest : List Statement) :
    N.exec inputs env (Statement.reads read.length params ++ rest) =
      N.exec inputs (((params.map Prod.fst).zip args).reverse ++ env) rest := by
  induction params generalizing read args env with
  | nil =>
    obtain rfl := List.length_eq_zero_iff.1 hlength
    rfl
  | cons p params ih =>
    obtain ⟨name, shape⟩ := p
    obtain ⟨a, args, rfl⟩ := List.exists_cons_of_length_eq_add_one hlength
    have hinput : inputs[read.length]? = some a := by
      simp [hinputs]
    have hsplit : inputs = (read ++ [a]) ++ args := by
      simp [hinputs]
    have hnext := ih hsplit (Nat.succ.inj hlength) ((name, a) :: env)
    rw [List.length_append, List.length_singleton] at hnext
    rw [Statement.reads, List.cons_append, exec, hinput, Option.bind_some, hnext]
    simp

end NativeSemantics

end VectorTrial
