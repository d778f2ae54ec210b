import VectorTrial.CommandLine.Arguments
import VectorTrial.CommandLine.Listing
import VectorTrial.CommandLine.Observer
import VectorTrial.Json.Writer
import VectorTrial.Telemetry.Settings
import VectorTrial.Trial.Execution
import VectorTrial.Trial.Run
import VectorTrial.Verdict.AliveTv

/-!
# The program

From its arguments to its outputs: the settings are checked, the compiler is located and asked for
its target, the wrappers are compiled, the checker is started, and the run is made. The first step
that fails ends the program, with a message that says what was being done.

## Main definitions

* `VectorTrial.CommandLine.Surroundings` — what the program finds around it.
* `VectorTrial.CommandLine.Session` — its outputs and its exit status.
* `VectorTrial.CommandLine.execute` — the program.
-/

namespace VectorTrial.CommandLine

/-- **Surroundings.** The environment of the program, the machine, a way to run tools with states in
`ω`, and what else it finds. -/
structure Surroundings (σ ω : Type) where
  environment : Environment
  host : Machine
  /-- Where a tool is found. -/
  search : String → Option String
  start : Invocation → ω → Except String ToolOutcome × ω
  /-- What comes of loading a compiled library. -/
  load : Except String Unit
  /-- The directory for generated files. -/
  directory : String
  /-- The source of random operands. -/
  source : σ
  /-- The time that a run takes. -/
  elapsed : Duration
  /-- Whether the error output is a terminal. -/
  terminal : Bool

/-- What a session leaves: its outputs and its exit status. -/
structure Session where
  output : Output
  exit : Nat
  deriving DecidableEq, Repr

namespace Session

/-- A successful session. -/
def success (output : Output) : Session := ⟨output, 0⟩

/-- A session that failed. -/
def failure (output : Output) : Session := ⟨output, 1⟩

end Session

/-- The text of a chain of causes, the outermost first. -/
def chain (causes : List String) : String := String.intercalate ": " causes

/-- The causes of an error of the compiler, in a step of the program. -/
def nativeChain (step : String) (e : WrapperError) : String :=
  chain (step :: e.message :: e.sources)

/-- The causes of a failure. -/
def failureChain (e : Failure) : List String := e.message :: e.sources

section Steps

variable {σ ω : Type} [DrawSource σ]

/-- The settings of the compiler. Arguments go before the environment. -/
def compilerSettings (a : Arguments) (env : Environment) : Toolchain.Settings :=
  let standard := Toolchain.Settings.ofEnvironment env
  { standard with
    path := a.rustc.or standard.path
    targetCpu := a.targetCpu
    keepArtifacts := a.keepArtifacts }

/-- The settings of the checker. Arguments go before the environment. -/
def checkerSettings (a : Arguments) (env : Environment) : AliveTv.Settings :=
  let standard := AliveTv.Settings.ofEnvironment env
  { standard with path := a.aliveTv.or standard.path, timeout := a.smtTimeout }

/-- Locates the compiler and asks for its target. -/
def detect (s : Surroundings σ ω) (a : Arguments) (w : ω) :
    Except String (Toolchain × Target) × ω :=
  match Toolchain.locate (compilerSettings a s.environment) (s.search Toolchain.toolName) with
  | .error e => (.error (nativeChain "locating the native compiler" e), w)
  | .ok compiler =>
    let (outcome, w) := Invocation.start ⟨compiler.tool, ["-vV"], ""⟩ s.start w
    match compiler.detectTarget outcome with
    | .error e => (.error (nativeChain "detecting the host target" e), w)
    | .ok target => (.ok (compiler, target), w)

/-- Builds and compiles the wrappers of all instructions. -/
def prepare (s : Surroundings σ ω) (compiler : Toolchain) (target : Target) (w : ω) :
    Except String (Library × Verification) × ω :=
  match Execution.ofInstructions Intrinsic.all with
  | .error e => (.error (chain ("building the execution module" :: failureChain e)), w)
  | .ok builder =>
    let wrappers := (Wrapper.ofModule builder.module).toOption.getD []
    let (outcome, w) := (compiler.command s.directory target wrappers).start s.start w
    let compile m := compiler.compile s.directory target s.host m (fun _ => outcome) s.load
    match Execution.handOver builder target compile with
    | .error e => (.error (nativeChain "compiling the execution module" e), w)
    | .ok ready => (.ok ready, w)

/-- Locates the checker and confirms that it starts. -/
def startChecker (s : Surroundings σ ω) (a : Arguments) (w : ω) :
    Except String AliveTv.Installation × ω :=
  let settings := checkerSettings a s.environment
  let found := s.search AliveTv.toolName
  let (outcome, w) := match settings.path.or found with
    | some tool => Invocation.start ⟨tool, ["--version"], ""⟩ s.start w
    | none => (.error noSuchFile, w)
  match settings.locate found fun _ => outcome with
  | .error e => (.error (chain ("starting alive-tv" :: e.message :: e.sources)), w)
  | .ok tool => (.ok ⟨tool, settings, s.directory⟩, w)

/-- The executor of a loaded library. -/
def nativeExecutor : Executor Library where
  supports := Library.supports
  execute l i op0 op1 := (l.execute i op0 op1, l)

/-- Makes the run. -/
def makeRun (s : Surroundings σ ω) (a : Arguments) (library : Library) (bench : Verification)
    (checker : AliveTv.Installation) (w : ω) : Output × Except String Summary :=
  let settings := a.settings
  let generator := Generator.new s.source settings.strategy
  match Run.prepare settings generator library (AliveTv.State.mk w .zero) bench with
  | .error e => (.none, .error (chain (failureChain e)))
  | .ok state =>
    let step := Run.all ⟨settings, nativeExecutor, AliveTv.checker checker s.start⟩ state
    let shown := (Observer.new a.debug s.terminal).showAll step.events
    match step.outcome with
    | .error e => (shown, .error (chain (failureChain e)))
    | .ok summary => (shown, .ok { summary with elapsed := s.elapsed })

/-- All steps up to the summary. -/
def summarize (s : Surroundings σ ω) (a : Arguments) (w : ω) : Output × Except String Summary :=
  match a.settings.validate with
  | .error e => (.none, .error (chain (failureChain e)))
  | .ok () =>
    match detect s a w with
    | (.error e, _) => (.none, .error e)
    | (.ok (compiler, target), w) =>
      match prepare s compiler target w with
      | (.error e, _) => (.none, .error e)
      | (.ok (library, bench), w) =>
        match startChecker s a w with
        | (.error e, _) => (.none, .error e)
        | (.ok checker, w) => makeRun s a library bench checker w

/-- The text of a summary, as the arguments ask for it. -/
def summaryText (a : Arguments) (summary : Summary) : String :=
  if a.json then summary.toJson.pretty ++ "\n" else "\n" ++ summary.text ++ "\n"

/-- The settings of the log that arguments and environment ask for. -/
def logSettings (a : Arguments) (env : Environment) : Telemetry.Settings :=
  let settings := Telemetry.Settings.ofEnvironment env
  if a.verbose then settings.verbose else settings

/-- The warning about a log that cannot be set up. -/
def logWarning (settings : Telemetry.Settings) : Output :=
  match settings.checkFilter with
  | .ok () => .none
  | .error e => .printError
      ("warning: logging disabled: invalid tracing directive: " ++ e.message ++ "\n")

/-- The session of accepted arguments. -/
def perform (s : Surroundings σ ω) (a : Arguments) (w : ω) : Session :=
  let warning := logWarning (logSettings a s.environment)
  if a.list then .success (warning ++ Output.print catalogListing)
  else
    match summarize s a w with
    | (shown, .ok summary) =>
      .success (warning ++ shown ++ Output.print (summaryText a summary))
    | (shown, .error e) =>
      .failure (warning ++ shown ++ Output.printError ("ERROR: " ++ e ++ "\n"))

end Steps

/-- The version of the program. -/
def versionText : String := "simdiff 0.1.0\n"

/-- How the program is used. -/
def usageText : String :=
  "Usage: simdiff [OPTIONS] <REPETITIONS>\n\n" ++
    "  -d, --debug               Count repeated results\n" ++
    "  -r, --range LOWER-UPPER   Instructions to test\n" ++
    "      --inputs STRATEGY     uniform, interesting or mixed\n" ++
    "      --shift-modulus N     Reduce shift counts modulo N\n" ++
    "      --no-dump             Do not print pairs that fail to verify\n" ++
    "      --list                Print the instruction catalog and exit\n" ++
    "      --json                Print the summary as JSON\n" ++
    "      --alive-tv PATH       Path to the alive-tv binary\n" ++
    "      --smt-timeout MS      Solver timeout per comparison\n" ++
    "      --rustc PATH          Path to the compiler of native wrappers\n" ++
    "      --target-cpu CPU      CPU to compile native wrappers for\n" ++
    "      --keep-artifacts      Keep the generated native sources and library\n" ++
    "  -v, --verbose             Verbose logging on stderr\n" ++
    "  -h, --help                Print help\n" ++
    "  -V, --version             Print version\n"

/-- The session of arguments that are not accepted. -/
def explain : Problem → Session
  | .help => .success (.print usageText)
  | .version => .success (.print versionText)
  | .missing => .failure (.printError "error: a required argument is missing\n")
  | .unknown => .failure (.printError "error: an argument is not known\n")
  | .repeated => .failure (.printError "error: an argument is given twice\n")
  | .unexpectedValue => .failure (.printError "error: a flag is given a value\n")
  | .invalid => .failure (.printError "error: a value cannot be read\n")
  | .impossible => .failure (.printError "error: a value is not possible or missing\n")

/-- **The program.** The session of a command line in some surroundings. -/
def execute {σ ω : Type} [DrawSource σ] (s : Surroundings σ ω) (w : ω) (args : List String) :
    Session :=
  match Arguments.ofList args with
  | .error problem => explain problem
  | .ok a => perform s a w

end VectorTrial.CommandLine
