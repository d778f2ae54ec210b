import VectorTrial.Telemetry.Filter
import VectorTrial.Text.Blank
import VectorTrial.Text.Numeral
import VectorTrial.Tool.Environment

/-!
# Settings of the log

What is logged, and how. Settings start from a profile, and environment variables change them. A
variable with a value that cannot be read is passed over, except that every word for measurements
switches them on or off.

## Main definitions

* `VectorTrial.Telemetry.Profile`, `VectorTrial.Telemetry.Format` — profiles and formats by name.
* `VectorTrial.Telemetry.Settings` — the settings.
* `VectorTrial.Telemetry.Settings.ofEnvironment` — the settings of an environment.

## Main results

* `VectorTrial.Telemetry.Settings.ansi_withFormat_json` — JSON lines have no colours.
-/

namespace VectorTrial.Telemetry

/-- Why a name is refused. -/
inductive NameError where
  | unknownProfile (text : String)
  | unknownFormat (text : String)
  deriving DecidableEq, Repr

/-- The wording of a refusal. -/
def NameError.message : NameError → String
  | unknownProfile text =>
    "unknown tracing profile '" ++ text ++ "' (expected local, ci or performance)"
  | unknownFormat text =>
    "unknown tracing format '" ++ text ++ "' (expected compact, pretty or json)"

/-- A text without the blanks around it and with small ASCII letters. -/
def plainName (text : String) : String :=
  String.ofList ((Text.trim text.toList).map Char.toLower)

/-- Presets of settings. -/
inductive Profile where
  /-- For work at a terminal: compact, coloured, warnings only. -/
  | terminal
  /-- For collected logs: JSON lines. -/
  | ci
  /-- For measurements: spans with their times. -/
  | performance
  deriving DecidableEq, Repr

/-- The profile of a name. -/
def Profile.ofText (text : String) : Except NameError Profile :=
  match plainName text with
  | "local" => .ok terminal
  | "ci" => .ok ci
  | "performance" => .ok performance
  | "perf" => .ok performance
  | other => .error (.unknownProfile other)

/-- Forms of a logged event. -/
inductive Format where
  | compact
  | pretty
  | json
  deriving DecidableEq, Repr

/-- The form of a name. -/
def Format.ofText (text : String) : Except NameError Format :=
  match plainName text with
  | "compact" => .ok compact
  | "pretty" => .ok pretty
  | "json" => .ok json
  | other => .error (.unknownFormat other)

/-- **Settings of the log.** -/
structure Settings where
  /-- The filter, if one was given. -/
  directives : Option String
  /-- The filter that holds otherwise. -/
  defaultDirective : String
  format : Format
  /-- Whether colours are used. -/
  ansi : Bool
  /-- Whether the end of a span is logged. -/
  closeSpans : Bool
  /-- Whether times are measured. -/
  performance : Bool
  /-- The time in microseconds that a span must take to be logged. -/
  threshold : Option UInt64
  deriving DecidableEq, Repr

namespace Settings

/-- The settings of a profile. -/
def ofProfile : Profile → Settings
  | .terminal => ⟨none, "warn", .compact, true, false, true, none⟩
  | .ci => ⟨none, "info", .json, false, false, false, none⟩
  | .performance =>
    ⟨some "simdiff_native=debug,simdiff_checker=debug,simdiff_tracing=debug,info", "info", .json,
      false, true, true, none⟩

/-- The settings that hold unless others are given. -/
def standard : Settings := ofProfile .terminal

/-- Settings with another format. JSON lines have no colours. -/
def withFormat (s : Settings) (format : Format) : Settings :=
  { s with format, ansi := s.ansi && format ≠ .json }

/-- Settings that log more, unless a filter was given. -/
def verbose (s : Settings) : Settings :=
  if s.directives.isNone then { s with defaultDirective := "debug" } else s

/-! ### Environment variables -/

/-- The variable that names the profile. -/
def profileVariable : String := "SIMDIFF_TRACING_PROFILE"

/-- The variable that holds the filter. -/
def directivesVariable : String := "SIMDIFF_TRACING_DIRECTIVES"

/-- The variable that names the format. -/
def formatVariable : String := "SIMDIFF_TRACING_FORMAT"

/-- The variable that switches measurements on or off. -/
def performanceVariable : String := "SIMDIFF_PERF_TRACING"

/-- The variable that holds the threshold in microseconds. -/
def thresholdVariable : String := "SIMDIFF_PERF_THRESHOLD_US"

/-- The value of a variable that is set to more than blanks. -/
def value? (env : Environment) (name : String) : Option String :=
  (env.get? name).filter fun value => !Text.isBlankText value

/-- The words that switch something on. -/
def affirmations : List String := ["1", "true", "yes"]

/-- Whether a word switches something on. Any other word switches it off. -/
def isAffirmation (word : String) : Bool := affirmations.contains (word.map Char.toLower)

/-- The profile that an environment names. -/
def profileOf (env : Environment) : Profile :=
  ((value? env profileVariable).bind fun v => (Profile.ofText v).toOption).getD .terminal

/-- The settings with the filter that an environment gives. -/
def applyDirectives (env : Environment) (s : Settings) : Settings :=
  { s with directives := (value? env directivesVariable).or s.directives }

/-- The settings with the format that an environment names. -/
def applyFormat (env : Environment) (s : Settings) : Settings :=
  match (value? env formatVariable).bind fun v => (Format.ofText v).toOption with
  | some format => s.withFormat format
  | none => s

/-- The settings with measurements switched as an environment says. -/
def applyPerformance (env : Environment) (s : Settings) : Settings :=
  match value? env performanceVariable with
  | some word => { s with performance := isAffirmation word }
  | none => s

/-- The settings with the threshold that an environment gives. -/
def applyThreshold (env : Environment) (s : Settings) : Settings :=
  match (value? env thresholdVariable).bind Text.readWord64? with
  | some n => { s with threshold := some (UInt64.ofNat n) }
  | none => s

/-- **Settings of an environment.** Those of the profile that it names, changed by its other
variables. -/
def ofEnvironment (env : Environment) : Settings :=
  applyThreshold env (applyPerformance env (applyFormat env (applyDirectives env
    (ofProfile (profileOf env)))))

/-! ### Filters -/

/-- Whether the filter can be read, if one was given. Without one the log can always be set up. -/
def checkFilter (s : Settings) : Except FilterError Unit :=
  s.directives.forM Filter.check

/-- Whether a log can be set up. -/
def builds (s : Settings) : Bool := s.checkFilter.toBool

theorem ansi_withFormat_json (s : Settings) : (s.withFormat .json).ansi = false := by
  simp [withFormat]

end Settings

end VectorTrial.Telemetry
