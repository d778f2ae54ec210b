import VectorTrial.Json.Value

/-!
# Measured spans

The steps of a run that take long are measured as spans, which may lie within one another. A span
reports its time when it closes, if it took long enough. Some steps also report figures of their
own.

## Main definitions

* `VectorTrial.Telemetry.Gate` — which spans report.
* `VectorTrial.Telemetry.Monitor` — the open spans.
* `VectorTrial.Telemetry.Monitor.close` — closes the newest span.
* `VectorTrial.Telemetry.Record` — the figures of a step.
-/

namespace VectorTrial.Telemetry

/-- The importance of a span or event. -/
inductive Level where
  | trace
  | debug
  | info
  | warn
  | error
  deriving DecidableEq, Repr

namespace Level

/-- All levels, the least important first. -/
def all : List Level := [trace, debug, info, warn, error]

/-- The name of a level. -/
def name : Level → String
  | trace => "TRACE"
  | debug => "DEBUG"
  | info => "INFO"
  | warn => "WARN"
  | error => "ERROR"

end Level

/-! ### Which spans report -/

/-- **Gates.** Whether spans report at all, and the time in microseconds that a span must take,
where the greatest word stands for no such time. -/
structure Gate where
  enabled : Bool
  packed : UInt64
  deriving DecidableEq, Repr

namespace Gate

/-- The word that stands for no threshold. -/
def noThreshold : UInt64 := UInt64.ofNat (UInt64.size - 1)

/-- The gate with given settings. -/
def configure (enabled : Bool) (threshold : Option UInt64) : Gate :=
  ⟨enabled, threshold.getD noThreshold⟩

/-- The gate at the start: open, without a threshold. -/
def initial : Gate := configure true none

/-- The threshold of a gate. -/
def threshold (g : Gate) : Option UInt64 :=
  if g.packed = noThreshold then none else some g.packed

/-- **Reports.** Whether a span that took some time reports. Its own threshold goes before that of
the gate. -/
def shouldReport (g : Gate) (own : Option UInt64) (elapsed : UInt64) : Bool :=
  g.enabled &&
    match own.or g.threshold with
    | some threshold => threshold ≤ elapsed
    | none => true

end Gate

/-! ### Spans -/

/-- A measured step. A span for an instruction covers the work within it; any other span only its
own report. -/
structure Span where
  name : String
  level : Level
  instruction : Option String
  threshold : Option UInt64
  deriving DecidableEq, Repr

namespace Span

/-- Whether a span covers the work within it. -/
def covers (s : Span) : Bool := s.instruction.isSome

/-- The fields of a span. -/
def fields (s : Span) : List (String × Json) :=
  ("name", .str s.name) ::
    match s.instruction with
    | some i => [("instruction", .str i)]
    | none => []

end Span

/-- A logged event, with the spans around it from the outside in. -/
structure LogEvent where
  level : Level
  fields : List (String × Json)
  spans : List Span

/-- A time in milliseconds, from microseconds. -/
def milliseconds (us : UInt64) : Float := us.toFloat / 1000

/-- The fields of a time. -/
def durationFields (us : UInt64) : List (String × Json) :=
  [("duration_us", .nat us.toNat), ("duration_ms", .float (milliseconds us))]

/-- The figures of a step of a run. -/
inductive Record where
  | compilation (functions bytes : Nat) (us : UInt64)
  | check (function verdict : String) (us : UInt64)
  | throughput (instruction : String) (iterations us : UInt64)

namespace Record

/-- Iterations for each second; none if no time was taken. -/
def rate (iterations us : UInt64) : Float :=
  if 0 < us then iterations.toFloat / us.toFloat * 1000000 else 0

/-- The fields of a record. -/
def fields : Record → List (String × Json)
  | compilation functions bytes us =>
    [("message", .str "native_compilation"), ("event", .str "compilation"),
      ("functions", .nat functions), ("source_bytes", .nat bytes)] ++ durationFields us
  | check function verdict us =>
    [("message", .str "equivalence_check"), ("event", .str "check"),
      ("function", .str function), ("verdict", .str verdict)] ++ durationFields us
  | throughput instruction iterations us =>
    [("message", .str "instruction_throughput"), ("event", .str "throughput"),
      ("instruction", .str instruction), ("iterations", .nat iterations.toNat),
      ("duration_us", .nat us.toNat), ("iterations_per_sec", .float (rate iterations us))]

end Record

/-! ### Monitors -/

/-- **Monitors.** The gate and the open spans, the newest first. -/
structure Monitor where
  gate : Gate
  spans : List Span

namespace Monitor

/-- The monitor at the start. -/
def initial : Monitor := ⟨.initial, []⟩

/-- The monitor with another gate. -/
def configure (m : Monitor) (enabled : Bool) (threshold : Option UInt64) : Monitor :=
  { m with gate := .configure enabled threshold }

/-- Opens a span. -/
def openSpan (m : Monitor) (s : Span) : Monitor := { m with spans := s :: m.spans }

/-- The names of the open spans, the oldest first. -/
def openNames (m : Monitor) : List String := (m.spans.map Span.name).reverse

/-- The spans around work that is done now, from the outside in. -/
def around (m : Monitor) : List Span := (m.spans.filter Span.covers).reverse

/-- The event of a record. -/
def record (m : Monitor) (r : Record) : LogEvent := ⟨.debug, r.fields, m.around⟩

/-- The event of a span that closes inside others. -/
def completion (outer : Monitor) (s : Span) (elapsed : UInt64) : LogEvent :=
  ⟨.debug, ("message", .str "performance_span_complete") :: durationFields elapsed,
    outer.around ++ [s]⟩

/-- **Closing.** Closes the newest span after some time, with the event that it reports. -/
def close (m : Monitor) (elapsed : UInt64) : Monitor × List LogEvent :=
  match m.spans with
  | [] => (m, [])
  | s :: rest =>
    let outer : Monitor := { m with spans := rest }
    (outer,
      if m.gate.shouldReport s.threshold elapsed then [outer.completion s elapsed] else [])

end Monitor

theorem Gate.shouldReport_of_disabled (own : Option UInt64) (packed elapsed : UInt64) :
    (Gate.mk false packed).shouldReport own elapsed = false := rfl

end VectorTrial.Telemetry
