import VectorTrial.Program.Module

/-!
# Written programs

The text of modules, functions and declarations, as an equivalence checker reads it. The text of
a module shows the functions asked for and, in ascending order of names, the declarations of the
symbols that these functions call.

## Main definitions

* `VectorTrial.Program.Inst.text`, `Function.text`, `Prototype.text` — parts of a module.
* `VectorTrial.Program.Module.text` — a whole module.
* `VectorTrial.Program.Module.renderFunctions` — a module cut down to some functions.
-/

namespace VectorTrial.Program

/-- Texts separated by commas. -/
def commaList (texts : List String) : String := String.intercalate ", " texts

/-- The text of a constant without its type; the elements of a vector show theirs. -/
def Constant.text : Constant → String
  | int _ value => toString value
  | vector bits elements =>
    "<" ++ commaList (elements.map fun v => "i" ++ toString bits ++ " " ++ toString v) ++ ">"

/-- The text of an operand without its type. -/
def Value.text : Value → String
  | const constant => constant.text
  | ref name _ => "%" ++ name

/-- The text of an operand after its type. -/
def Value.typedText (v : Value) : String := v.ty.text ++ " " ++ v.text

/-- The text of an instruction. -/
def Inst.text : Inst → String
  | call dest ty callee args =>
    "%" ++ dest ++ " = call " ++ ty.text ++ " @" ++ callee ++ "(" ++
      commaList (args.map Value.typedText) ++ ")"
  | ret value => "ret " ++ value.typedText

/-- The text of a block: its label and one line for each instruction. -/
def Block.text (b : Block) : String :=
  b.label ++ ":\n" ++ String.join (b.insts.map fun i => "  " ++ i.text ++ "\n")

/-- The text of a parameter. -/
def Param.text (p : Param) : String := p.ty.text ++ " %" ++ p.name

/-- The text of a function. -/
def Function.text (f : Function) : String :=
  "define " ++ f.ret.text ++ " @" ++ f.name ++ "(" ++ commaList (f.params.map Param.text) ++
    ") \x7b\n" ++ String.join (f.blocks.map Block.text) ++ "\x7d\n"

/-- The text of a declaration. -/
def Prototype.text (d : Prototype) : String :=
  "declare " ++ d.ret.text ++ " @" ++ d.name ++ "(" ++ commaList (d.params.map Ty.text) ++ ")\n"

namespace Module

/-- The lines at the head of a module's text. -/
def header (m : Module) : String :=
  "; ModuleID = '" ++ m.name ++ "'\n" ++
    "source_filename = \"" ++ m.name ++ "\"\n" ++
    match m.triple with
    | some triple => "target triple = \"" ++ triple ++ "\"\n"
    | none => ""

/-- The symbols that some functions call, in ascending order. -/
def calledSymbols (functions : List Function) : List String :=
  ascending (functions.flatMap Function.callees)

/-- The declarations of the symbols that some functions call, in ascending order. -/
def neededDeclarations (m : Module) (functions : List Function) : List Prototype :=
  (calledSymbols functions).filterMap m.declaration?

/-- The text of a module with the given functions and the declarations that they need. -/
def render (m : Module) (functions : List Function) : String :=
  let declarations := m.neededDeclarations functions
  m.header ++ String.join (functions.map fun f => "\n" ++ f.text) ++
    if declarations.isEmpty then "" else "\n" ++ String.join (declarations.map Prototype.text)

/-- **Written modules.** The text of a whole module. -/
def text (m : Module) : String := m.render m.functions

/-- The functions of some names, or the first name that has none. -/
def functionsNamed (m : Module) : List String → Except Error (List Function)
  | [] => .ok []
  | name :: rest =>
    match m.function? name with
    | none => .error (.functionNotFound name)
    | some f => do return f :: (← m.functionsNamed rest)

/-- The text of a module cut down to the functions of some names, in the order of the names. -/
def renderFunctions (m : Module) (names : List String) : Except Error String := do
  return m.render (← m.functionsNamed names)

end Module

end VectorTrial.Program
