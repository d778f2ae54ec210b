/-!
# Environment variables

The variables with which a program is started.

## Main definitions

* `VectorTrial.Environment` — variables with their values.
* `VectorTrial.Environment.nonempty?` — the value of a variable that is set to something.
-/

namespace VectorTrial

/-- Variables with their values. -/
abbrev Environment := List (String × String)

namespace Environment

/-- The value of a variable. -/
def get? (env : Environment) (name : String) : Option String := env.lookup name

/-- The value of a variable that is set to something. -/
def nonempty? (env : Environment) (name : String) : Option String :=
  (env.get? name).filter fun value => !value.isEmpty

end Environment

end VectorTrial
