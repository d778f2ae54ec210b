import VectorTrial.Text.Blank
import VectorTrial.Text.Line
import VectorTrial.Tool.Environment
import VectorTrial.Tool.Outcome
import VectorTrial.Wrapper.Library
import VectorTrial.Wrapper.Source

/-!
# The native compiler

Wrappers are compiled by `rustc`, which is also asked for the target that it compiles for.

## Main definitions

* `VectorTrial.Toolchain.Settings` — how the compiler is run.
* `VectorTrial.Toolchain.hostTriple?` — the target that a version report names.
* `VectorTrial.Toolchain.detectTarget` — the target of a compiler.
* `VectorTrial.Toolchain.compile` — the library of a module.
-/

namespace VectorTrial

namespace Toolchain

/-- The name of the compiler. -/
def toolName : String := "rustc"

/-- How the compiler is run. Without a path it is looked up. -/
structure Settings where
  path : Option String
  optLevel : Nat
  targetCpu : Option String
  /-- Whether source and library stay on disk after the run. -/
  keepArtifacts : Bool
  extraArgs : List String
  deriving DecidableEq, Repr

namespace Settings

/-- The settings that hold unless others are given. -/
def standard : Settings := ⟨none, 1, none, false, []⟩

/-- The variables that may hold the compiler's path, the first one that is set counting. -/
def pathVariables : List String := ["SIMDIFF_RUSTC", "RUSTC"]

/-- The settings with the path that the environment gives. A variable that is set to nothing gives
none, and hides the next one. -/
def ofEnvironment (env : Environment) : Settings :=
  { standard with
    path := (pathVariables.findSome? env.get?).filter fun path => !path.isEmpty }

end Settings

end Toolchain

/-- **Toolchains.** A located compiler with its settings. -/
structure Toolchain where
  tool : String
  settings : Toolchain.Settings
  deriving DecidableEq, Repr

namespace Toolchain

/-- Locates the compiler, given where a search would find it. -/
def locate (settings : Settings) (found : Option String) : Except WrapperError Toolchain :=
  match settings.path.or found with
  | some tool => .ok ⟨tool, settings⟩
  | none => .error (.toolNotFound (toolName ++ ": cannot find binary path"))

/-! ### Targets -/

/-- The text after a head that it begins with. -/
def stripHead? (head text : List Char) : Option (List Char) :=
  if head.isPrefixOf text then some (text.drop head.length) else none

/-- The target that a version report names: what follows on the first line that begins with
`host:`. -/
def hostTriple? (report : List Char) : Option (List Char) :=
  (((Text.lines report).findSome? (stripHead? "host:".toList)).map Text.trim).filter
    fun triple => !triple.isEmpty

/-- The architecture whose instructions the catalog describes. -/
def architecture : String := "x86_64"

/-- The target that a compiler reports, which must be of the catalog's architecture. -/
def readTarget (tool : String) (outcome : Except String ToolOutcome) :
    Except WrapperError Target :=
  match outcome with
  | .error reason => .error (.targetDetection ("running " ++ tool ++ ": " ++ reason))
  | .ok outcome =>
    if outcome.isSuccess then
      match hostTriple? outcome.stdoutText.toList with
      | none => .error (.targetDetection "no host line in rustc -vV output")
      | some triple =>
        if architecture.toList.isPrefixOf triple then .ok ⟨String.ofList triple, none⟩
        else .error (.targetDetection ("unsupported host triple " ++ String.ofList triple))
    else .error (.targetDetection (tool ++ " -vV exited with " ++ outcome.statusText))

/-- **Targets.** The target that a compiler reports, for the processor of the settings. -/
def detectTarget (t : Toolchain) (outcome : Except String ToolOutcome) :
    Except WrapperError Target := do
  let target ← readTarget t.tool outcome
  return { target with cpu := t.settings.targetCpu.or target.cpu }

/-! ### Compiling -/

/-- The name of the library to build. -/
def libraryName : String := "simdiff_exec"

/-- The file of the source text in a directory. -/
def sourceFile (directory : String) : String := directory ++ "/" ++ libraryName ++ ".rs"

/-- The file of the library in a directory. -/
def libraryFile (directory : String) : String := directory ++ "/lib" ++ libraryName ++ ".so"

/-- The arguments that name the processor. -/
def cpuArgs (t : Toolchain) (target : Target) : List String :=
  match t.settings.targetCpu.or target.cpu with
  | some cpu => ["-C", "target-cpu=" ++ cpu]
  | none => []

/-- The arguments with which the compiler is run. -/
def args (t : Toolchain) (directory : String) (target : Target) : List String :=
  ["--edition", "2021", "--crate-type", "cdylib", "--crate-name", libraryName, "-C",
    "opt-level=" ++ toString t.settings.optLevel, "--target", target.triple] ++
    t.cpuArgs target ++ t.settings.extraArgs ++
    ["-o", libraryFile directory, sourceFile directory]

/-- The command that compiles some wrappers. -/
def command (t : Toolchain) (directory : String) (target : Target) (wrappers : List Wrapper) :
    Invocation :=
  ⟨t.tool, t.args directory target, Wrapper.library wrappers⟩

/-- The judgement on a run of the compiler. -/
def checkRun (t : Toolchain) : Except String ToolOutcome → Except WrapperError Unit
  | .error reason => .error (.compilation ("running " ++ t.tool ++ ": " ++ reason))
  | .ok outcome =>
    if outcome.isSuccess then .ok ()
    else .error (.compilation
      (t.tool ++ " exited with " ++ outcome.statusText ++ ":\n" ++ outcome.stderrText))

/-- **Compiling.** The library of a module on a machine, given what comes of running the compiler
and of loading what it leaves. -/
def compile (t : Toolchain) (directory : String) (target : Target) (machine : Machine)
    (m : Program.Module) (run : Invocation → Except String ToolOutcome)
    (load : Except String Unit) : Except WrapperError Library := do
  let wrappers ← Wrapper.ofModule m
  let command := t.command directory target wrappers
  t.checkRun (if command.isPassable then run command else .error nulFound)
  match load with
  | .error reason => throw (.load reason)
  | .ok () => return ⟨wrappers, m, target, machine⟩

end Toolchain

end VectorTrial
