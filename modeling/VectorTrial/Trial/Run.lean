import VectorTrial.Operand.Generator
import VectorTrial.Trial.Report
import VectorTrial.Trial.ResultMap
import VectorTrial.Trial.Settings
import VectorTrial.Trial.Verification
import VectorTrial.Verdict.Checker

/-!
# Runs

For every selected instruction, and as often as the settings say: operands are drawn, the
instruction is executed on them, the pair of functions for the comparison is built, a checker is
asked whether the two agree, and the pair is erased. Verdicts are counted. A failure ends the
instruction or, if it is fatal, the run.

A run is a function from the state of everything around it to a new state. It also tells what
happened, event by event.

## Main definitions

* `VectorTrial.Executor` — what executes instructions.
* `VectorTrial.Event` — what happens in a run.
* `VectorTrial.Run.iteration` — one test.
* `VectorTrial.Run.instruction` — all tests of an instruction.
* `VectorTrial.Run.all` — a whole run.

## Main results

* `VectorTrial.Run.instruction_of_unsupported` — an instruction that cannot be executed is only
  asked for.
-/

namespace VectorTrial

/-- **Executors.** What executes instructions, with states in `ε`. -/
structure Executor (ε : Type) where
  supports : ε → Intrinsic → Bool
  execute : ε → Intrinsic → Register → Register → Except WrapperError Register × ε
  /-- The state after the question whether an instruction is supported. -/
  asked : ε → Intrinsic → ε := fun state _ => state

/-- **Events.** What happens in a run, in order. -/
inductive Event where
  | progress (done total : Nat)
  | started (i : Intrinsic)
  | executed (i : Intrinsic) (op0 op1 : Register) (answer : Except WrapperError Register)
  /-- A pair of functions of a module was compared. -/
  | compared (module : Program.Module) (verdict : Verdict)
  /-- A pair that is not correct was shown. -/
  | mismatch (i : Intrinsic) (verdict : Verdict) (text : String)
  | finished (report : InstructionReport) (results : Option ResultMap)

namespace Run

/-- What a run works with: its settings, an executor and a checker. -/
structure Setup (ε κ : Type) where
  settings : Settings
  executor : Executor ε
  checker : Checker κ

/-- What changes in a run: the generator of operands, the states of executor and checker, and the
bench. -/
structure State (σ ε κ : Type) where
  generator : Generator σ
  executor : ε
  checker : κ
  bench : Verification

/-- The outcome of a part of a run, the state after it, and what happened in it. -/
structure Step (σ ε κ α : Type) where
  outcome : Except Failure α
  state : State σ ε κ
  events : List Event

/-- A part of a run before which something else happened. -/
def Step.after {σ ε κ α : Type} (s : Step σ ε κ α) (earlier : List Event) : Step σ ε κ α :=
  { s with events := earlier ++ s.events }

variable {σ ε κ : Type} [DrawSource σ]

/-! ### One test -/

/-- Draws the two operands of an instruction, the first before the second. -/
def drawOperands (g : Generator σ) (i : Intrinsic) : (Register × Register) × Generator σ :=
  let (op0, g) := g.vector i.first
  let (op1, g) := if i.hasShiftCount then g.shiftCount i.second else g.vector i.second
  ((op0, op1), g)

/-- What is shown of a pair after its comparison. -/
def mismatchEvents (settings : Settings) (i : Intrinsic) (verdict : Verdict)
    (bench : Verification) : List Event :=
  if verdict.isCorrect || !settings.dump then []
  else
    match bench.renderPair with
    | .ok text => [.mismatch i verdict text]
    | .error _ => []

/-- Compares an observed result with the model, on a bench that is cleared afterwards. -/
def comparison (setup : Setup ε κ) (i : Intrinsic) (op0 op1 result : Register)
    (st : State σ ε κ) : Step σ ε κ (Verdict × Register) :=
  match st.bench.buildPair i op0 op1 result i.result.laneWidth with
  | (.error e, bench) => ⟨.error (.construction i.name e), { st with bench }, []⟩
  | (.ok (), bench) =>
    let (verdict, checker) := setup.checker.compare st.checker bench.module
      Verification.sourceName Verification.targetName
    ⟨.ok (verdict, result), { st with checker, bench := bench.erasePair },
      .compared bench.module verdict :: mismatchEvents setup.settings i verdict bench⟩

/-- The failure of a result that does not have the layout of the instruction's results. -/
def misfit (i : Intrinsic) (result : Register) : Failure :=
  .native (.signatureMismatch i.name
    ("result has " ++ toString result.bitSize ++ " bits, expected " ++ i.result.text))

/-- **One test** of an instruction. -/
def iteration (setup : Setup ε κ) (i : Intrinsic) (st : State σ ε κ) :
    Step σ ε κ (Verdict × Register) :=
  let ((op0, op1), generator) := drawOperands st.generator i
  let (answer, executor) := setup.executor.execute st.executor i op0 op1
  let st := { st with generator, executor }
  let executed := [Event.executed i op0 op1 answer]
  match answer with
  | .error e => ⟨.error (.native e), st, executed⟩
  | .ok result =>
    if result.fits i.result then (comparison setup i op0 op1 result st).after executed
    else ⟨.error (misfit i result), st, executed⟩

/-! ### One instruction -/

/-- The words for features that a processor lacks. -/
def lacks (features : List String) : String := "CPU lacks " ++ String.intercalate "+" features

/-- How the test of an instruction ends by a failure that is not fatal. -/
def endedBy : Failure → Outcome
  | .native (.unsupportedCpu _ features) => .skipped (lacks features)
  | e => .aborted e.message

/-- Some more tests of an instruction, up to the first failure. -/
def tests (setup : Setup ε κ) (i : Intrinsic) :
    Nat → InstructionReport → Option ResultMap → State σ ε κ →
      Step σ ε κ (InstructionReport × Option ResultMap)
  | 0, report, results, st => ⟨.ok (report, results), st, []⟩
  | count + 1, report, results, st =>
    let step := iteration setup i st
    match step.outcome with
    | .ok (verdict, result) =>
      (tests setup i count (report.record verdict) (results.map fun m => m.record result)
        step.state).after step.events
    | .error e =>
      if e.isFatal then ⟨.error e, step.state, step.events⟩
      else ⟨.ok ({ report with outcome := endedBy e }, results), step.state, step.events⟩

/-- The report with its repeated results, where these are counted. -/
def conclude (outcome : InstructionReport × Option ResultMap) :
    InstructionReport × Option ResultMap :=
  ({ outcome.1 with repeated := outcome.2.map ResultMap.repetitions }, outcome.2)

/-- The results before the first test, where repeated ones are counted. -/
def noResults (settings : Settings) : Option ResultMap :=
  if settings.debug then some .empty else none

/-- The state after the executor was asked whether it supports an instruction. -/
def asked (setup : Setup ε κ) (i : Intrinsic) (st : State σ ε κ) : State σ ε κ :=
  { st with executor := setup.executor.asked st.executor i }

/-- **One instruction.** All its tests. An instruction that the executor cannot run is skipped. -/
def instruction (setup : Setup ε κ) (i : Intrinsic) (st : State σ ε κ) :
    Step σ ε κ (InstructionReport × Option ResultMap) :=
  if setup.executor.supports st.executor i then
    let step := tests setup i setup.settings.repetitions (.start i) (noResults setup.settings)
      (asked setup i st)
    { step with outcome := step.outcome.map conclude }
  else
    let outcome := Outcome.skipped (lacks i.featureNames)
    ⟨.ok ({ InstructionReport.start i with outcome }, none), asked setup i st, []⟩

/-! ### Whole runs -/

/-- The remaining instructions of a run, up to the first fatal failure. -/
def remaining (setup : Setup ε κ) (total : Nat) :
    Nat → List Intrinsic → Summary → State σ ε κ → Step σ ε κ Summary
  | _, [], summary, st => ⟨.ok summary, st, []⟩
  | done, i :: rest, summary, st =>
    let step := instruction setup i st
    match step.outcome with
    | .error e => ⟨.error e, step.state, .started i :: step.events⟩
    | .ok (report, results) =>
      (remaining setup total (done + 1) rest (summary.add report) step.state).after
        (.started i :: step.events ++ [.finished report results, .progress (done + 1) total])

/-- **Whole runs.** The tests of all selected instructions, and their summary without the time that
they took. -/
def all (setup : Setup ε κ) (st : State σ ε κ) : Step σ ε κ Summary :=
  let selected := setup.settings.instructions
  (remaining setup selected.length 0 selected .empty st).after [.progress 0 selected.length]

/-- The state before a run. The generator takes the shift modulus of the settings. -/
def prepare (settings : Settings) (generator : Generator σ) (executor : ε) (checker : κ)
    (bench : Verification) : Except Failure (State σ ε κ) := do
  settings.validate
  return ⟨generator.withShiftModulus settings.shiftModulus, executor, checker, bench⟩

theorem instruction_of_unsupported {setup : Setup ε κ} {i : Intrinsic} {st : State σ ε κ}
    (h : setup.executor.supports st.executor i = false) :
    (instruction setup i st).state = asked setup i st ∧
      (instruction setup i st).events = [] := by
  simp [instruction, h]

end Run

end VectorTrial
