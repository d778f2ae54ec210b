import VectorTrial.Text.Line
import VectorTrial.Text.Numeral
import VectorTrial.Trial.Settings

/-!
# Command-line arguments

The arguments of the program are flags, options with one value each and the number of repetitions.
They are read from left to right and the first problem counts. A value that stands apart from its
option, like the number of repetitions, is judged only when the next argument is recognised or no
argument is left, so a next argument that is not recognised is the problem reported.

## Main definitions

* `VectorTrial.CommandLine.Arguments` — what the arguments say.
* `VectorTrial.CommandLine.Problem` — why arguments are not accepted.
* `VectorTrial.CommandLine.Arguments.ofList` — the arguments of a command line.
* `VectorTrial.CommandLine.Arguments.settings` — the settings of the run that they ask for.
-/

namespace VectorTrial.CommandLine

/-! ### Parameters -/

/-- Parameters without a value. -/
inductive Flag where
  | debug
  | noDump
  | list
  | json
  | keepArtifacts
  | verbose
  | help
  | version
  deriving DecidableEq, Repr

/-- Parameters with one value. -/
inductive Valued where
  | range
  | inputs
  | shiftModulus
  | aliveTv
  | smtTimeout
  | rustc
  | targetCpu
  deriving DecidableEq, Repr

/-- All that an argument can be for. -/
inductive Parameter where
  | flag (flag : Flag)
  | valued (option : Valued)
  | repetitions
  deriving DecidableEq, Repr

/-- The parameters by their long names. -/
def longNames : List (String × Parameter) :=
  [("debug", .flag .debug), ("no-dump", .flag .noDump), ("list", .flag .list),
    ("json", .flag .json), ("keep-artifacts", .flag .keepArtifacts), ("verbose", .flag .verbose),
    ("help", .flag .help), ("version", .flag .version), ("range", .valued .range),
    ("inputs", .valued .inputs), ("shift-modulus", .valued .shiftModulus),
    ("alive-tv", .valued .aliveTv), ("smt-timeout", .valued .smtTimeout),
    ("rustc", .valued .rustc), ("target-cpu", .valued .targetCpu)]

/-- The parameters by their letters. -/
def letters : List (Char × Parameter) :=
  [('d', .flag .debug), ('v', .flag .verbose), ('h', .flag .help), ('V', .flag .version),
    ('r', .valued .range)]

/-! ### What arguments say -/

/-- **Arguments.** -/
structure Arguments where
  repetitions : Option Nat
  debug : Bool
  range : Option IndexRange
  inputs : Strategy
  shiftModulus : Option UInt32
  noDump : Bool
  list : Bool
  json : Bool
  aliveTv : Option String
  /-- The time limit of the checker's solver, in milliseconds. -/
  smtTimeout : Nat
  rustc : Option String
  targetCpu : Option String
  keepArtifacts : Bool
  verbose : Bool
  deriving DecidableEq, Repr

/-- Why arguments are not accepted, or not followed any further. -/
inductive Problem where
  /-- The number of repetitions is missing. -/
  | missing
  /-- A value cannot be read. -/
  | invalid
  /-- A value is none of the possible ones, or is empty or missing. -/
  | impossible
  /-- An argument is not recognised. -/
  | unknown
  /-- A parameter is given twice. -/
  | repeated
  /-- A flag is given a value. -/
  | unexpectedValue
  /-- The usage is asked for. -/
  | help
  /-- The version is asked for. -/
  | version
  deriving DecidableEq, Repr

/-- The settings of the run that arguments ask for. -/
def Arguments.settings (a : Arguments) : Settings where
  repetitions := a.repetitions.getD 0
  range := a.range.getD .full
  debug := a.debug
  strategy := a.inputs
  shiftModulus := a.shiftModulus
  dump := !a.noDump

/-- What is said without arguments. -/
def Arguments.none : Arguments where
  repetitions := Option.none
  debug := false
  range := Option.none
  inputs := .uniform
  shiftModulus := Option.none
  noDump := false
  list := false
  json := false
  aliveTv := Option.none
  smtTimeout := 10000
  rustc := Option.none
  targetCpu := Option.none
  keepArtifacts := false
  verbose := false

/-! ### Values -/

/-- Reads a number of at most 32 bits, which may be a zero with a minus sign. -/
def readModulus? (text : String) : Option UInt32 :=
  match text.toList with
  | '-' :: digits => if !digits.isEmpty && digits.all (· == '0') then some 0 else none
  | _ => (Text.readWord32? text).map UInt32.ofNat

/-- Reads a value of a kind, or reports that it cannot be read. -/
def readOr {α : Type} (problem : Problem) : Option α → Except Problem α
  | some a => .ok a
  | none => .error problem

/-- Reads a path, which must not be empty. -/
def readPath (text : String) : Except Problem String :=
  if text.isEmpty then .error .impossible else .ok text

/-- What is said with the value of an option. -/
def Arguments.setValue (a : Arguments) (option : Valued) (value : String) :
    Except Problem Arguments := do
  match option with
  | .range =>
    let range ← readOr .invalid (IndexRange.ofText value).toOption
    return { a with range := some range }
  | .inputs =>
    let inputs ← readOr .impossible (Strategy.all.find? fun s => s.name == value)
    return { a with inputs }
  | .shiftModulus =>
    let modulus ← readOr .invalid (readModulus? value)
    return { a with shiftModulus := some modulus }
  | .aliveTv => return { a with aliveTv := some (← readPath value) }
  | .smtTimeout => return { a with smtTimeout := ← readOr .invalid (Text.readWord64? value) }
  | .rustc => return { a with rustc := some (← readPath value) }
  | .targetCpu => return { a with targetCpu := some value }

/-- What is said with a flag. -/
def Arguments.setFlag (a : Arguments) : Flag → Except Problem Arguments
  | .debug => .ok { a with debug := true }
  | .noDump => .ok { a with noDump := true }
  | .list => .ok { a with list := true }
  | .json => .ok { a with json := true }
  | .keepArtifacts => .ok { a with keepArtifacts := true }
  | .verbose => .ok { a with verbose := true }
  | .help => .error .help
  | .version => .error .version

/-- What is said with the number of repetitions. -/
def Arguments.setRepetitions (a : Arguments) (value : String) : Except Problem Arguments := do
  return { a with repetitions := some (← readOr .invalid (Text.readWord64? value)) }

/-! ### Reading a command line -/

/-- What a command line says as far as it is read. -/
structure Reading where
  arguments : Arguments
  /-- The parameters given so far. -/
  given : List Parameter
  /-- A parameter that is not yet judged, with its value if that has been read. -/
  pending : Option (Parameter × Option String)
  /-- Whether options have ended. -/
  trailing : Bool
  /-- Whether the number of repetitions has been read. -/
  counted : Bool

namespace Reading

/-- The reading of nothing. -/
def start : Reading := ⟨.none, [], none, false, false⟩

/-- Whether the next argument is the value of an option, unless it is an option itself. -/
def awaitsValue (r : Reading) : Bool :=
  match r.pending with
  | some (_, none) => !r.trailing
  | _ => false

/-- The reading with a parameter that must be new. -/
def give (r : Reading) (parameter : Parameter) : Except Problem Reading :=
  if r.given.contains parameter then .error .repeated
  else .ok { r with given := parameter :: r.given }

/-- Judges a parameter with its value. -/
def judge (r : Reading) (parameter : Parameter) (value : Option String) :
    Except Problem Reading :=
  match parameter, value with
  | .flag .help, _ => .error .help
  | .flag .version, _ => .error .version
  | .flag flag, _ => do
    let r ← r.give parameter
    return { r with arguments := ← r.arguments.setFlag flag }
  | .valued _, none => .error .impossible
  | .valued option, some value => do
    let r ← r.give parameter
    return { r with arguments := ← r.arguments.setValue option value }
  | .repetitions, none => .error .impossible
  | .repetitions, some value => do
    let r ← r.give parameter
    return { r with arguments := ← r.arguments.setRepetitions value }

/-- Judges the parameter that is not yet judged. -/
def settle (r : Reading) : Except Problem Reading :=
  match r.pending with
  | some (parameter, value) => { r with pending := none }.judge parameter value
  | none => .ok r

/-- Reads a flag. -/
def readFlag (r : Reading) (flag : Flag) : Except Problem Reading := do
  (← r.settle).judge (.flag flag) none

/-- Reads an option with the value attached to it, if there is one. -/
def readValued (r : Reading) (option : Valued) (attached : Option String) :
    Except Problem Reading := do
  let r ← r.settle
  match attached with
  | some value => r.judge (.valued option) (some value)
  | none => return { r with pending := some (.valued option, none) }

/-- Reads what follows two hyphens: a long name, and a value after an equals sign. -/
def readLong (r : Reading) (text : List Char) : Except Problem Reading :=
  let (name, attached) := match Text.cutAt? '=' text with
    | some (name, value) => (name, some (String.ofList value))
    | none => (text, none)
  match longNames.lookup (String.ofList name) with
  | some (.flag flag) => if attached.isSome then .error .unexpectedValue else r.readFlag flag
  | some (.valued option) => r.readValued option attached
  | _ => .error .unknown

/-- The value attached to a letter: the text after it, or after an equals sign after it. -/
def attachedValue : List Char → Option String
  | [] => none
  | '=' :: rest => some (String.ofList rest)
  | rest => some (String.ofList rest)

/-- Reads what follows one hyphen: letters of flags, of which the last may be an option. -/
def readLetters (r : Reading) : List Char → Except Problem Reading
  | [] => .ok r
  | c :: rest =>
    match letters.lookup c with
    | some (.flag flag) => do readLetters (← r.readFlag flag) rest
    | some (.valued option) => r.readValued option (attachedValue rest)
    | _ => .error .unknown

/-- Reads an argument that is no option: the value that an option awaits, or the number of
repetitions. -/
def readPlain (r : Reading) (text : String) : Except Problem Reading :=
  match r.awaitsValue, r.pending with
  | true, some (parameter, _) => .ok { r with pending := some (parameter, some text) }
  | _, _ =>
    if r.counted then .error .unknown
    else do
      let r ← r.settle
      return { r with pending := some (.repetitions, some text), counted := true }

/-- Reads one argument. A lone hyphen is no option, and two end the options. -/
def readArgument (r : Reading) (text : String) : Except Problem Reading :=
  if r.trailing then r.readPlain text
  else
    match text.toList with
    | ['-', '-'] => .ok { r with trailing := true }
    | '-' :: '-' :: rest => r.readLong rest
    | ['-'] => r.readPlain text
    | '-' :: rest => r.readLetters rest
    | _ => r.readPlain text

/-- Reads some arguments. -/
def readAll (r : Reading) : List String → Except Problem Reading
  | [] => r.settle
  | text :: rest => do readAll (← r.readArgument text) rest

end Reading

/-- **Reading a command line.** The arguments of a command line. The number of repetitions may be
missing only where the catalog is asked for. -/
def Arguments.ofList (texts : List String) : Except Problem Arguments := do
  let r ← Reading.start.readAll texts
  if r.arguments.repetitions.isNone && !r.arguments.list then throw .missing
  return r.arguments

end VectorTrial.CommandLine
