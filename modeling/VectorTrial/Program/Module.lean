import VectorTrial.Program.Error
import VectorTrial.Program.Function
import VectorTrial.Sequence.Ascending

/-!
# Modules

A module is a named collection of defined functions, in the order of their insertion, and of
declarations of symbols that are defined elsewhere. A symbol is defined or declared at most once.

## Main definitions

* `VectorTrial.Program.Module` — modules.
* `VectorTrial.Program.Module.signature?` — what is known of a symbol.
* `VectorTrial.Program.Module.declare`, `insert`, `erase` — the changes to a module.
-/

namespace VectorTrial.Program

/-- **Modules.** Declarations stand in ascending order of their names, functions in the order of
their insertion. -/
structure Module where
  name : String
  triple : Option String
  declarations : List Prototype
  functions : List Function
  deriving DecidableEq, Repr

namespace Module

/-- The module with a name and nothing in it. -/
def empty (name : String) : Module := ⟨name, none, [], []⟩

/-- The declaration of a name. -/
def declaration? (m : Module) (name : String) : Option Prototype :=
  m.declarations.find? fun d => d.name == name

/-- The function of a name. -/
def function? (m : Module) (name : String) : Option Function :=
  m.functions.find? fun f => f.name == name

/-- Whether a name is declared or defined. -/
def contains (m : Module) (name : String) : Bool :=
  (m.declaration? name).isSome || (m.function? name).isSome

/-- The signature of a defined or declared name. -/
def signature? (m : Module) (name : String) : Option Signature :=
  match m.function? name with
  | some f => some f.signature
  | none => (m.declaration? name).map Prototype.signature

/-- A module for another target, or for one at all. -/
def setTriple (m : Module) (triple : String) : Module := { m with triple := some triple }

/-- **Declaring.** Adds the declaration of a symbol. To declare a symbol again with the same
signature changes nothing; a different signature, or the name of a function, is refused. -/
def declare (m : Module) (d : Prototype) : Except Error Module :=
  if (m.function? d.name).isSome then .error (.conflictingDeclaration d.name)
  else
    match m.declaration? d.name with
    | some existing =>
      if existing = d then .ok m else .error (.conflictingDeclaration d.name)
    | none => .ok { m with declarations := insertBy Prototype.name d m.declarations }

/-- Adds a function at the end, where its name is free. -/
def insert (m : Module) (f : Function) : Except Error Module :=
  if m.contains f.name then .error (.duplicateFunction f.name)
  else .ok { m with functions := m.functions ++ [f] }

/-- The function of a name and the module without it. Declarations cannot be erased. -/
def erase (m : Module) (name : String) : Option Function × Module :=
  (m.function? name, { m with functions := m.functions.eraseP fun f => f.name == name })

@[simp] theorem declarations_erase (m : Module) (name : String) :
    (m.erase name).2.declarations = m.declarations := rfl

end Module

end VectorTrial.Program
