import VectorTrial.Program.Type

/-!
# Refusals of programs

Why a function cannot be built, declared, found or accepted, with the wording of each cause.

## Main definitions

* `VectorTrial.Program.Error` — the causes.
* `VectorTrial.Program.Error.message` — their wording.
-/

namespace VectorTrial.Program

/-- Why a program is refused. -/
inductive Error where
  /-- An expression names a variable that is no parameter. -/
  | unknownVariable (name : String)
  /-- A call names a symbol that is neither defined nor declared. -/
  | unknownCallee (name : String)
  /-- A call has too many or too few arguments. -/
  | arityMismatch (callee : String) (expected actual : Nat)
  /-- A value has another type than its place asks for. -/
  | typeMismatch (place : String) (expected actual : Ty)
  /-- The name of a new function is taken. -/
  | duplicateFunction (name : String)
  /-- A declaration differs from what the name already stands for. -/
  | conflictingDeclaration (name : String)
  /-- No function has this name. -/
  | functionNotFound (name : String)
  /-- A literal cannot be written at its width. -/
  | invalidLiteral (reason : String)
  /-- The blocks of a function are not in the form that functions have. -/
  | malformedFunction (function reason : String)
  deriving DecidableEq, Repr

/-- The wording of a refusal. -/
def Error.message : Error → String
  | unknownVariable name => "Unknown variable name: " ++ name
  | unknownCallee name => "Unknown function referenced: " ++ name
  | arityMismatch callee expected actual =>
    "Incorrect number of arguments passed to " ++ callee ++ ": expected " ++ toString expected ++
      ", got " ++ toString actual
  | typeMismatch place expected actual =>
    "Type mismatch in " ++ place ++ ": expected " ++ expected.text ++ ", found " ++ actual.text
  | duplicateFunction name => "Function " ++ name ++ " already exists in module"
  | conflictingDeclaration name => "Conflicting declaration of " ++ name
  | functionNotFound name => "Function not found: " ++ name
  | invalidLiteral reason => "Invalid literal: " ++ reason
  | malformedFunction function reason => "Malformed function " ++ function ++ ": " ++ reason

/-- The place of an argument of a call. -/
def argumentPlace (index : Nat) (callee : String) : String :=
  "argument " ++ toString index ++ " of " ++ callee

end VectorTrial.Program
