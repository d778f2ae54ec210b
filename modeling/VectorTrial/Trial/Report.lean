import VectorTrial.Instruction.Catalog
import VectorTrial.Json.Value
import VectorTrial.Verdict.Basic

/-!
# Reports and summaries

What is told of each instruction of a run, and the totals of a run.

## Main definitions

* `VectorTrial.Outcome` — how the test of an instruction ended.
* `VectorTrial.InstructionReport` — the report of one instruction.
* `VectorTrial.Summary` — the totals of a run.
* `VectorTrial.Summary.add` — one more report.

## Main results

* `VectorTrial.Summary.tests_add` — the tests of a report are added to the total.
-/

namespace VectorTrial

/-- How the test of an instruction ended. -/
inductive Outcome where
  | completed
  /-- The processor cannot run the instruction. -/
  | skipped (reason : String)
  /-- A failure ended the test early. -/
  | aborted (reason : String)
  deriving DecidableEq, Repr

/-- **Reports.** What is told of one instruction. -/
structure InstructionReport where
  instruction : Intrinsic
  /-- The number of comparisons made. -/
  tests : Nat
  tally : Tally
  outcome : Outcome
  /-- The number of repeated results, where these are counted. -/
  repeated : Option Nat
  deriving DecidableEq, Repr

namespace InstructionReport

/-- The report before the first test. -/
def start (i : Intrinsic) : InstructionReport := ⟨i, 0, .zero, .completed, none⟩

/-- The report after one more comparison. -/
def record (r : InstructionReport) (v : Verdict) : InstructionReport :=
  { r with tests := r.tests + 1, tally := r.tally.record v }

end InstructionReport

/-- The number of nanoseconds in a second. -/
def Duration.second : Nat := 1000000000

/-- **Lengths of time.** Whole seconds, and the nanoseconds of a part of a second. -/
structure Duration where
  seconds : Nat
  nanoseconds : Nat
  nanoseconds_lt : nanoseconds < Duration.second
  deriving DecidableEq, Repr

namespace Duration

/-- The length of some seconds and any number of nanoseconds. -/
def ofParts (seconds nanoseconds : Nat) : Duration :=
  ⟨seconds + nanoseconds / second, nanoseconds % second, Nat.mod_lt _ (by decide)⟩

/-- No time at all. -/
def zero : Duration := ofParts 0 0

/-- A length of time in seconds, as a floating-point number. -/
def toFloat (d : Duration) : Float :=
  Float.ofNat d.seconds + Float.ofNat d.nanoseconds / Float.ofNat second

theorem nanoseconds_ofParts (seconds nanoseconds : Nat) :
    (ofParts seconds nanoseconds).seconds * second + (ofParts seconds nanoseconds).nanoseconds =
      seconds * second + nanoseconds := by
  simp only [ofParts, second]
  omega

end Duration

/-- **Summaries.** The totals of a run. -/
structure Summary where
  tests : Nat
  /-- The number of instructions whose tests were all made. -/
  completed : Nat
  skipped : Nat
  aborted : Nat
  tally : Tally
  elapsed : Duration
  reports : List InstructionReport
  deriving DecidableEq, Repr

namespace Summary

/-- The summary before the first report. -/
def empty : Summary := ⟨0, 0, 0, 0, .zero, .zero, []⟩

/-- The sum of two tallies. -/
def addTally (a b : Tally) : Tally :=
  ⟨a.correct + b.correct, a.unsound + b.unsound, a.failed + b.failed, a.errors + b.errors⟩

/-- The summary with one more instruction counted by how its test ended. -/
def countOutcome (s : Summary) : Outcome → Summary
  | .completed => { s with completed := s.completed + 1 }
  | .skipped _ => { s with skipped := s.skipped + 1 }
  | .aborted _ => { s with aborted := s.aborted + 1 }

/-- The summary with one more report. -/
def add (s : Summary) (r : InstructionReport) : Summary :=
  { s.countOutcome r.outcome with
    tests := s.tests + r.tests
    tally := addTally s.tally r.tally
    reports := s.reports ++ [r] }

/-- The whole minutes of a run. -/
def minutes (s : Summary) : Nat := s.elapsed.seconds / 60

/-- Whether every comparison was correct and no instruction was aborted. -/
def allCorrect (s : Summary) : Bool := s.tally.correct == s.tally.total && s.aborted == 0

/-- The text of a summary. -/
def text (s : Summary) : String :=
  String.intercalate "\n"
    ["Ran " ++ toString s.tests ++ " tests on " ++ toString s.completed ++ " intrinsics.",
      "Number of minutes taken: " ++ toString s.minutes,
      "Num correct: " ++ toString s.tally.correct,
      "Num unsound: " ++ toString s.tally.unsound,
      "Num failed: " ++ toString s.tally.failed,
      "Num errors: " ++ toString s.tally.errors,
      "Num skipped: " ++ toString s.skipped,
      "Num aborted: " ++ toString s.aborted]

theorem tests_add (s : Summary) (r : InstructionReport) :
    (s.add r).tests = s.tests + r.tests := rfl

theorem reports_add (s : Summary) (r : InstructionReport) :
    (s.add r).reports = s.reports ++ [r] := rfl

theorem total_tally_add (s : Summary) (r : InstructionReport) :
    (s.add r).tally.total = s.tally.total + r.tally.total := by
  simp only [add, addTally, Tally.total]
  omega

end Summary

/-! ### Stored forms -/

/-- The stored form of a tally. -/
def Tally.toJson (t : Tally) : Json :=
  .obj [("correct", .nat t.correct), ("unsound", .nat t.unsound), ("failed", .nat t.failed),
    ("errors", .nat t.errors)]

/-- The stored form of an outcome. -/
def Outcome.toJson : Outcome → Json
  | completed => .obj [("status", .str "completed")]
  | skipped reason => .obj [("status", .str "skipped"), ("reason", .str reason)]
  | aborted reason => .obj [("status", .str "aborted"), ("reason", .str reason)]

/-- The stored form of a report. The number of repeated results is left out where these are not
counted. -/
def InstructionReport.toJson (r : InstructionReport) : Json :=
  .obj ([("index", .nat r.instruction.index), ("name", .str r.instruction.name),
    ("tests", .nat r.tests), ("counters", r.tally.toJson), ("outcome", r.outcome.toJson)] ++
    match r.repeated with
    | some n => [("repeated_results", .nat n)]
    | none => [])

/-- The stored form of a summary. -/
def Summary.toJson (s : Summary) : Json :=
  .obj [("tests_run", .nat s.tests), ("intrinsics_tested", .nat s.completed),
    ("skipped", .nat s.skipped), ("aborted", .nat s.aborted), ("counters", s.tally.toJson),
    ("elapsed", .float s.elapsed.toFloat),
    ("instructions", .arr (s.reports.map InstructionReport.toJson))]

end VectorTrial
