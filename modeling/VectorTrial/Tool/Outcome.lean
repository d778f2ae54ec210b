import VectorTrial.Text.Utf8

/-!
# Runs of external tools

What is known of a tool that was started and has ended, and which commands can be started.

## Main definitions

* `VectorTrial.ToolOutcome` — the two outputs and the exit status.
* `VectorTrial.Invocation` — a command to run.
* `VectorTrial.Invocation.start` — runs a command that can be handed to the system.

## Main results

* `VectorTrial.Invocation.start_of_isPassable`, `VectorTrial.Invocation.start_of_not_isPassable` —
  the two cases of a start.
-/

namespace VectorTrial

/-- **Tool runs.** What a tool printed, byte for byte, and its exit status. -/
structure ToolOutcome where
  stdout : List UInt8
  stderr : List UInt8
  exit : Nat
  deriving DecidableEq, Repr

namespace ToolOutcome

/-- Whether the tool reports success. -/
def isSuccess (o : ToolOutcome) : Bool := o.exit == 0

/-- The standard output as text. -/
def stdoutText (o : ToolOutcome) : String := Text.Utf8.decodeLossy o.stdout

/-- The error output as text. -/
def stderrText (o : ToolOutcome) : String := Text.Utf8.decodeLossy o.stderr

/-- The exit status in words. -/
def statusText (o : ToolOutcome) : String := "exit status: " ++ toString o.exit

end ToolOutcome

/-- A command to run: the tool, its arguments, and the text of the file that it is to read. -/
structure Invocation where
  tool : String
  args : List String
  input : String
  deriving DecidableEq, Repr

/-- The words for a tool that is not there to be started. -/
def noSuchFile : String := "No such file or directory (os error 2)"

/-- The words for a command with a NUL character. -/
def nulFound : String := "nul byte found in provided data"

namespace Invocation

/-- Whether a command can be handed to the system. There a NUL character ends a text, so neither
the tool nor an argument may hold one. -/
def isPassable (i : Invocation) : Bool :=
  (i.tool :: i.args).all fun text => !text.toList.contains '\x00'

/-- **Starting a command.** What comes of a way to run tools. A command that cannot be handed to the
system is refused before its tool is looked for. -/
def start {σ : Type} (i : Invocation) (run : Invocation → σ → Except String ToolOutcome × σ)
    (surroundings : σ) : Except String ToolOutcome × σ :=
  if i.isPassable then run i surroundings else (.error nulFound, surroundings)

theorem start_of_isPassable {σ : Type} {i : Invocation} (h : i.isPassable = true)
    (run : Invocation → σ → Except String ToolOutcome × σ) (surroundings : σ) :
    i.start run surroundings = run i surroundings := by
  rw [start, if_pos h]

theorem start_of_not_isPassable {σ : Type} {i : Invocation} (h : ¬ i.isPassable = true)
    (run : Invocation → σ → Except String ToolOutcome × σ) (surroundings : σ) :
    i.start run surroundings = (.error nulFound, surroundings) := by
  rw [start, if_neg h]

end Invocation

end VectorTrial
