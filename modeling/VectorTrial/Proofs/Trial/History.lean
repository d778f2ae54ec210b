import Mathlib.Data.List.Forall2
import VectorTrial.Proofs.Outcome
import VectorTrial.Trial.Run

/-!
# The history of a run

A run takes one instruction after the other, and within an instruction one test after the other.
Each time the state after one turn is the state before the next, and a failure is the last turn.
The turns can thus be listed, and what a run does can be read off the list.

## Main definitions

* `VectorTrial.Run.Turn` — an instruction with the state in which its turn comes.
* `VectorTrial.Run.turnsOf` — the turns of some instructions, up to the first failure.
* `VectorTrial.Run.Turn.tests` — the tests of one instruction.
* `VectorTrial.Run.turns` — the instructions of a run.

## Main results

* `VectorTrial.Run.forall_turnsOf` — what every turn preserves is so before every turn.
* `VectorTrial.Run.turnsOf_of_firstFailure_eq_some` — a failure belongs to the last turn and to no
  other.
* `VectorTrial.Run.outcome_tests`, `VectorTrial.Run.state_tests`, `VectorTrial.Run.events_tests` —
  the tests of an instruction.
* `VectorTrial.Run.outcome_all`, `VectorTrial.Run.state_all`, `VectorTrial.Run.events_all` — a whole
  run.
* `VectorTrial.Run.outcome_all_eq_ok`, `VectorTrial.Run.outcome_all_eq_error` — a run sums up, or
  ends with the failure of its last turn.
-/

namespace VectorTrial.Run

variable {σ ε κ α : Type}

/-! ### Turns -/

/-- The failure in which a part of a run ended. -/
def Step.failure? (s : Step σ ε κ α) : Option Failure :=
  match s.outcome with
  | .ok _ => none
  | .error e => some e

/-- The value in which a part of a run ended. -/
def Step.value? (s : Step σ ε κ α) : Option α :=
  match s.outcome with
  | .ok a => some a
  | .error _ => none

theorem Step.value?_of_ok {s : Step σ ε κ α} {a : α} (h : s.outcome = .ok a) :
    s.value? = some a := by
  rw [value?, h]

theorem Step.value?_of_error {s : Step σ ε κ α} {e : Failure} (h : s.outcome = .error e) :
    s.value? = none := by
  rw [value?, h]

/-- **Turns.** An instruction with the state in which its turn comes. -/
structure Turn (σ ε κ : Type) where
  instruction : Intrinsic
  before : State σ ε κ

/-- The turns of some instructions, each from the state in which the one before it ended, up to the
first failure. -/
def turnsOf (step : Turn σ ε κ → Step σ ε κ α) :
    List Intrinsic → State σ ε κ → List (Turn σ ε κ)
  | [], _ => []
  | i :: rest, st =>
    ⟨i, st⟩ ::
      match (step ⟨i, st⟩).outcome with
      | .ok _ => turnsOf step rest (step ⟨i, st⟩).state
      | .error _ => []

/-- The first failure in some turns. -/
def firstFailure (step : Turn σ ε κ → Step σ ε κ α) (ts : List (Turn σ ε κ)) : Option Failure :=
  ts.findSome? fun t => (step t).failure?

/-- The values in which some turns ended. -/
def values (step : Turn σ ε κ → Step σ ε κ α) (ts : List (Turn σ ε κ)) : List α :=
  ts.filterMap fun t => (step t).value?

/-- The state after some turns, the first of them from a given one: each turn ends in its own. -/
def stateAfter (step : Turn σ ε κ → Step σ ε κ α) (st : State σ ε κ) (ts : List (Turn σ ε κ)) :
    State σ ε κ :=
  ts.foldl (fun _ t => (step t).state) st

section TurnsOf

variable {step : Turn σ ε κ → Step σ ε κ α} {i : Intrinsic} {rest is : List Intrinsic}
  {st : State σ ε κ}

theorem turnsOf_of_ok {a : α} (h : (step ⟨i, st⟩).outcome = .ok a) :
    turnsOf step (i :: rest) st = ⟨i, st⟩ :: turnsOf step rest (step ⟨i, st⟩).state := by
  rw [turnsOf, h]

theorem turnsOf_of_error {e : Failure} (h : (step ⟨i, st⟩).outcome = .error e) :
    turnsOf step (i :: rest) st = [⟨i, st⟩] := by
  rw [turnsOf, h]

theorem firstFailure_cons_of_ok {t : Turn σ ε κ} {ts : List (Turn σ ε κ)} {a : α}
    (h : (step t).outcome = .ok a) : firstFailure step (t :: ts) = firstFailure step ts := by
  rw [firstFailure, List.findSome?_cons, Step.failure?, h]
  rfl

theorem firstFailure_cons_of_error {t : Turn σ ε κ} {ts : List (Turn σ ε κ)} {e : Failure}
    (h : (step t).outcome = .error e) : firstFailure step (t :: ts) = some e := by
  rw [firstFailure, List.findSome?_cons, Step.failure?, h]

theorem values_cons_of_ok {t : Turn σ ε κ} {ts : List (Turn σ ε κ)} {a : α}
    (h : (step t).outcome = .ok a) : values step (t :: ts) = a :: values step ts := by
  rw [values, List.filterMap_cons, Step.value?_of_ok h]
  rfl

theorem values_cons_of_error {t : Turn σ ε κ} {ts : List (Turn σ ε κ)} {e : Failure}
    (h : (step t).outcome = .error e) : values step (t :: ts) = values step ts := by
  rw [values, List.filterMap_cons, Step.value?_of_error h]
  rfl

/-- After some turns the state is the one in which the last of them ended. -/
theorem stateAfter_concat (earlier : List (Turn σ ε κ)) (t : Turn σ ε κ) :
    stateAfter step st (earlier ++ [t]) = (step t).state := by
  rw [stateAfter, List.foldl_append]
  rfl

/-- Only the given instructions have a turn. -/
theorem instruction_of_mem_turnsOf : ∀ t ∈ turnsOf step is st, t.instruction ∈ is := by
  induction is generalizing st with
  | nil => exact fun t ht => absurd ht List.not_mem_nil
  | cons i rest ih =>
    cases hout : (step ⟨i, st⟩).outcome with
    | ok a =>
      rw [turnsOf_of_ok hout]
      refine List.forall_mem_cons.2 ⟨List.mem_cons_self, fun t ht => ?_⟩
      exact List.mem_cons_of_mem _ (ih t ht)
    | error e =>
      rw [turnsOf_of_error hout]
      exact List.forall_mem_singleton.2 List.mem_cons_self

/-- What every turn preserves is so before every turn. -/
theorem forall_turnsOf {P : State σ ε κ → Prop}
    (hstep : ∀ t : Turn σ ε κ, P t.before → P (step t).state) (h : P st) :
    ∀ t ∈ turnsOf step is st, P t.before := by
  induction is generalizing st with
  | nil => exact fun t ht => absurd ht List.not_mem_nil
  | cons i rest ih =>
    cases hout : (step ⟨i, st⟩).outcome with
    | ok a =>
      rw [turnsOf_of_ok hout]
      exact List.forall_mem_cons.2 ⟨h, ih (hstep ⟨i, st⟩ h)⟩
    | error e =>
      rw [turnsOf_of_error hout]
      exact List.forall_mem_singleton.2 h

/-- Without a failure every instruction has its turn and ends in a value. -/
theorem turnsOf_of_firstFailure_eq_none (h : firstFailure step (turnsOf step is st) = none) :
    (turnsOf step is st).map Turn.instruction = is ∧
      (values step (turnsOf step is st)).length = is.length := by
  induction is generalizing st with
  | nil => exact ⟨rfl, rfl⟩
  | cons i rest ih =>
    cases hout : (step ⟨i, st⟩).outcome with
    | ok a =>
      rw [turnsOf_of_ok hout, firstFailure_cons_of_ok hout] at h
      obtain ⟨hinstructions, hvalues⟩ := ih h
      rw [turnsOf_of_ok hout, List.map_cons, hinstructions, values_cons_of_ok hout,
        List.length_cons, hvalues]
      exact ⟨rfl, rfl⟩
    | error e =>
      rw [turnsOf_of_error hout, firstFailure_cons_of_error hout] at h
      cases h

/-- Without a failure the values belong to the turns, one to each. -/
theorem forall₂_values {ts : List (Turn σ ε κ)} (h : firstFailure step ts = none) :
    List.Forall₂ (fun t a => (step t).outcome = .ok a) ts (values step ts) := by
  induction ts with
  | nil => exact List.Forall₂.nil
  | cons t ts ih =>
    cases hout : (step t).outcome with
    | ok a =>
      rw [firstFailure_cons_of_ok hout] at h
      rw [values_cons_of_ok hout]
      exact List.Forall₂.cons hout (ih h)
    | error e =>
      rw [firstFailure_cons_of_error hout] at h
      cases h

/-- **Failures.** A failure belongs to the last turn, and to no other. -/
theorem turnsOf_of_firstFailure_eq_some {e : Failure}
    (h : firstFailure step (turnsOf step is st) = some e) :
    ∃ earlier t, turnsOf step is st = earlier ++ [t] ∧ (step t).outcome = .error e ∧
      firstFailure step earlier = none ∧
      (turnsOf step is st).map Turn.instruction <+: is ∧
      (values step (turnsOf step is st)).length < is.length := by
  induction is generalizing st with
  | nil => cases h
  | cons i rest ih =>
    cases hout : (step ⟨i, st⟩).outcome with
    | ok a =>
      rw [turnsOf_of_ok hout, firstFailure_cons_of_ok hout] at h
      obtain ⟨earlier, t, hturns, hlast, hearlier, hleading, hvalues⟩ := ih h
      rw [turnsOf_of_ok hout, values_cons_of_ok hout]
      refine ⟨⟨i, st⟩ :: earlier, t, ?_, hlast, ?_, ?_, ?_⟩
      · rw [hturns, List.cons_append]
      · rw [firstFailure_cons_of_ok hout, hearlier]
      · exact List.prefix_cons_inj i |>.2 hleading
      · exact Nat.succ_lt_succ hvalues
    | error e' =>
      rw [turnsOf_of_error hout, firstFailure_cons_of_error hout] at h
      cases h
      rw [turnsOf_of_error hout, values_cons_of_error hout]
      exact ⟨[], ⟨i, st⟩, rfl, hout, rfl, ⟨rest, rfl⟩, Nat.succ_pos _⟩

/-- A turn that fails is the first failure, for no turn comes after it. -/
theorem firstFailure_of_mem {t : Turn σ ε κ} {e : Failure} (ht : t ∈ turnsOf step is st)
    (h : (step t).outcome = .error e) : firstFailure step (turnsOf step is st) = some e := by
  induction is generalizing st with
  | nil => cases ht
  | cons i rest ih =>
    cases hout : (step ⟨i, st⟩).outcome with
    | ok a =>
      rw [turnsOf_of_ok hout] at ht ⊢
      rw [firstFailure_cons_of_ok hout]
      rcases List.mem_cons.1 ht with rfl | ht
      · rw [hout] at h
        cases h
      · exact ih ht
    | error e' =>
      rw [turnsOf_of_error hout] at ht ⊢
      rw [List.mem_singleton.1 ht] at h
      exact firstFailure_cons_of_error h

end TurnsOf

/-! ### The tests of an instruction -/

variable [DrawSource σ] (setup : Setup ε κ)

/-- The test that is made in a turn. -/
def Turn.test (t : Turn σ ε κ) : Step σ ε κ (Verdict × Register) :=
  iteration setup t.instruction t.before

/-- Some tests of one instruction, up to the first failure. -/
def testTurns (i : Intrinsic) (count : Nat) (st : State σ ε κ) : List (Turn σ ε κ) :=
  turnsOf (Turn.test setup) (List.replicate count i) st

/-- The report after some more comparisons. -/
def recordVerdicts (report : InstructionReport) (verdicts : List Verdict) : InstructionReport :=
  verdicts.foldl InstructionReport.record report

/-- How tests end by a failure, if there is one: with the run, or with a report that tells it. -/
def endWith (failure : Option Failure) (report : InstructionReport) :
    Except Failure InstructionReport :=
  match failure with
  | none => .ok report
  | some e => if e.isFatal then .error e else .ok { report with outcome := endedBy e }

/-- Tests that end with a report did not fail, or the report tells how they failed. -/
theorem endWith_eq_ok {failure : Option Failure} {report ended : InstructionReport}
    (h : endWith failure report = .ok ended) :
    failure = none ∧ ended = report ∨
      ∃ e, failure = some e ∧ ended = { report with outcome := endedBy e } := by
  cases failure with
  | none =>
    cases h
    exact Or.inl ⟨rfl, rfl⟩
  | some e =>
    simp only [endWith] at h
    split_ifs at h
    cases h
    exact Or.inr ⟨e, rfl, rfl⟩

/-- Tests end with the run exactly where their failure is fatal. -/
theorem endWith_eq_error {failure : Option Failure} {report : InstructionReport} {e : Failure} :
    endWith failure report = .error e ↔ failure = some e ∧ e.isFatal = true := by
  cases failure with
  | none => simp [endWith]
  | some e' =>
    by_cases hfatal : e'.isFatal = true
    · rw [endWith, if_pos hfatal, Except.error.injEq, Option.some.injEq]
      exact ⟨fun h => ⟨h, h ▸ hfatal⟩, And.left⟩
    · rw [endWith, if_neg hfatal, Option.some.injEq]
      constructor
      · intro h
        cases h
      · rintro ⟨rfl, h⟩
        exact absurd h hfatal

variable {setup} {i : Intrinsic} {count : Nat} {report : InstructionReport}
  {results : Option ResultMap} {st : State σ ε κ}

theorem tests_of_ok {verdict : Verdict} {result : Register}
    (h : (iteration setup i st).outcome = .ok (verdict, result)) :
    tests setup i (count + 1) report results st =
      (tests setup i count (report.record verdict) (results.map fun m => m.record result)
        (iteration setup i st).state).after (iteration setup i st).events := by
  simp only [tests, h]

theorem tests_of_error {e : Failure} (h : (iteration setup i st).outcome = .error e) :
    tests setup i (count + 1) report results st =
      ⟨(endWith (some e) report).map fun r => (r, results), (iteration setup i st).state,
        (iteration setup i st).events⟩ := by
  simp only [tests, h, endWith]
  by_cases hfatal : e.isFatal = true
  · rw [if_pos hfatal, if_pos hfatal]
    rfl
  · rw [if_neg hfatal, if_neg hfatal]
    rfl

/-- **Tests.** Some tests of an instruction report the verdicts and results of those that ended
with one, and the failure of the last, if it failed. -/
theorem outcome_tests :
    (tests setup i count report results st).outcome =
      (endWith (firstFailure (Turn.test setup) (testTurns setup i count st))
        (recordVerdicts report
          ((values (Turn.test setup) (testTurns setup i count st)).map Prod.fst))).map
        fun r => (r, results.map fun m =>
          ((values (Turn.test setup) (testTurns setup i count st)).map Prod.snd).foldl
            ResultMap.record m) := by
  induction count generalizing report results st with
  | zero =>
    cases results <;> rfl
  | succ count ih =>
    unfold testTurns at ih ⊢
    rw [List.replicate_succ]
    cases hout : (iteration setup i st).outcome with
    | ok answer =>
      obtain ⟨verdict, result⟩ := answer
      have hturn : (Turn.test setup ⟨i, st⟩).outcome = .ok (verdict, result) := hout
      rw [turnsOf_of_ok hturn, firstFailure_cons_of_ok hturn, values_cons_of_ok hturn,
        tests_of_ok hout]
      simp only [Step.after, ih, Option.map_map]
      rfl
    | error e =>
      have hturn : (Turn.test setup ⟨i, st⟩).outcome = .error e := hout
      have hsame : (results.map fun m => [].foldl ResultMap.record m) = results := by
        cases results <;> rfl
      rw [turnsOf_of_error hturn, firstFailure_cons_of_error hturn, values_cons_of_error hturn,
        tests_of_error hout]
      simp only [values, List.filterMap_nil, List.map_nil, hsame]
      rfl

/-- What happens in some tests is what happens in each of them. -/
theorem events_tests :
    (tests setup i count report results st).events =
      (testTurns setup i count st).flatMap fun t => (t.test setup).events := by
  induction count generalizing report results st with
  | zero => rfl
  | succ count ih =>
    unfold testTurns at ih ⊢
    rw [List.replicate_succ]
    cases hout : (iteration setup i st).outcome with
    | ok answer =>
      have hturn : (Turn.test setup ⟨i, st⟩).outcome = .ok answer := hout
      rw [turnsOf_of_ok hturn, List.flatMap_cons, tests_of_ok hout, ← ih]
      rfl
    | error e =>
      have hturn : (Turn.test setup ⟨i, st⟩).outcome = .error e := hout
      rw [turnsOf_of_error hturn, List.flatMap_singleton, tests_of_error hout]
      rfl

/-- Some tests end in the state in which the last of them ended. -/
theorem state_tests :
    (tests setup i count report results st).state =
      stateAfter (Turn.test setup) st (testTurns setup i count st) := by
  induction count generalizing report results st with
  | zero => rfl
  | succ count ih =>
    unfold testTurns at ih ⊢
    rw [List.replicate_succ]
    cases hout : (iteration setup i st).outcome with
    | ok answer =>
      have hturn : (Turn.test setup ⟨i, st⟩).outcome = .ok answer := hout
      rw [turnsOf_of_ok hturn, tests_of_ok hout]
      exact ih
    | error e =>
      have hturn : (Turn.test setup ⟨i, st⟩).outcome = .error e := hout
      rw [turnsOf_of_error hturn, tests_of_error hout]
      rfl

/-! ### Instructions -/

variable (setup)

/-- All that is done for the instruction of a turn. -/
def Turn.step (t : Turn σ ε κ) : Step σ ε κ (InstructionReport × Option ResultMap) :=
  Run.instruction setup t.instruction t.before

/-- Whether the executor says that it supports the instruction of a turn. -/
def Turn.supported (t : Turn σ ε κ) : Bool :=
  setup.executor.supports t.before.executor t.instruction

/-- The tests that are made in the turn of an instruction. -/
def Turn.tests (t : Turn σ ε κ) : List (Turn σ ε κ) :=
  if t.supported setup then
    testTurns setup t.instruction setup.settings.repetitions (asked setup t.instruction t.before)
  else []

/-- The verdicts of the tests that ended with one, each with the result that was compared. -/
def Turn.answers (t : Turn σ ε κ) : List (Verdict × Register) :=
  values (Turn.test setup) (t.tests setup)

/-- The failure of a test in the turn of an instruction. -/
def Turn.failure (t : Turn σ ε κ) : Option Failure :=
  firstFailure (Turn.test setup) (t.tests setup)

variable {setup} {t : Turn σ ε κ}

theorem Turn.step_of_supported (h : t.supported setup = true) :
    t.step setup = { Run.tests setup t.instruction setup.settings.repetitions
        (.start t.instruction) (noResults setup.settings) (asked setup t.instruction t.before) with
      outcome := (Run.tests setup t.instruction setup.settings.repetitions
        (.start t.instruction) (noResults setup.settings)
        (asked setup t.instruction t.before)).outcome.map conclude } :=
  if_pos h

theorem Turn.step_of_unsupported (h : ¬ t.supported setup = true) :
    t.step setup = ⟨.ok ({ InstructionReport.start t.instruction with
        outcome := .skipped (lacks t.instruction.featureNames) }, none),
      asked setup t.instruction t.before, []⟩ :=
  if_neg h

theorem Turn.tests_of_supported (h : t.supported setup = true) :
    t.tests setup = testTurns setup t.instruction setup.settings.repetitions
      (asked setup t.instruction t.before) :=
  if_pos h

theorem Turn.tests_of_unsupported (h : ¬ t.supported setup = true) : t.tests setup = [] :=
  if_neg h

/-- Supported or not, the tests of an instruction are so many tests from one state. -/
theorem Turn.exists_tests_eq (setup : Setup ε κ) (t : Turn σ ε κ) : ∃ count,
    t.tests setup = testTurns setup t.instruction count (asked setup t.instruction t.before) := by
  by_cases h : t.supported setup = true
  · exact ⟨setup.settings.repetitions, Turn.tests_of_supported h⟩
  · exact ⟨0, Turn.tests_of_unsupported h⟩

/-- The tests of an instruction are tests of this instruction. -/
theorem Turn.instruction_of_mem_tests {s : Turn σ ε κ} (hs : s ∈ t.tests setup) :
    s.instruction = t.instruction := by
  obtain ⟨count, htests⟩ := t.exists_tests_eq setup
  rw [htests] at hs
  exact List.eq_of_mem_replicate (instruction_of_mem_turnsOf s hs)

/-- **Instructions.** An instruction that is supported reports the verdicts of its tests, their
results where these are counted, and the failure of the last test, if it failed. -/
theorem Turn.outcome_step (h : t.supported setup = true) :
    (t.step setup).outcome =
      (endWith (t.failure setup)
        (recordVerdicts (.start t.instruction) ((t.answers setup).map Prod.fst))).map
        fun r => conclude (r, (noResults setup.settings).map fun m =>
          ((t.answers setup).map Prod.snd).foldl ResultMap.record m) := by
  rw [Turn.step_of_supported h, outcome_tests, Turn.failure, Turn.answers,
    Turn.tests_of_supported h]
  simp only
  cases endWith _ _ <;> rfl

/-- What happens in the turn of an instruction is what happens in its tests. -/
theorem Turn.events_step : (t.step setup).events =
    (t.tests setup).flatMap fun s => (s.test setup).events := by
  by_cases h : t.supported setup = true
  · rw [Turn.step_of_supported h, Turn.tests_of_supported h]
    exact events_tests
  · rw [Turn.step_of_unsupported h, Turn.tests_of_unsupported h]
    rfl

/-- The turn of an instruction ends in the state in which its last test ended. -/
theorem Turn.state_step : (t.step setup).state =
    stateAfter (Turn.test setup) (asked setup t.instruction t.before) (t.tests setup) := by
  by_cases h : t.supported setup = true
  · rw [Turn.step_of_supported h, Turn.tests_of_supported h]
    exact state_tests
  · rw [Turn.step_of_unsupported h, Turn.tests_of_unsupported h]
    rfl

/-! ### Whole runs -/

variable (setup)

/-- The turns of the instructions of a run. -/
def turns (st : State σ ε κ) : List (Turn σ ε κ) :=
  turnsOf (Turn.step setup) setup.settings.instructions st

/-- All tests of a run. -/
def runTests (st : State σ ε κ) : List (Turn σ ε κ) := (turns setup st).flatMap (Turn.tests setup)

/-- What is told at the end of an instruction that did not end the run, the one after `done` others
of `total`. -/
def closing (total done : Nat) : Option (InstructionReport × Option ResultMap) → List Event
  | some (report, results) => [.finished report results, .progress (done + 1) total]
  | none => []

/-- What happens in the turns of some instructions, the first of them after `done` others. -/
def spans (total : Nat) : Nat → List (Turn σ ε κ) → List Event
  | _, [] => []
  | done, t :: rest =>
    .started t.instruction :: (t.step setup).events ++
      closing total done (t.step setup).value? ++ spans total (done + 1) rest

variable {setup} {total done : Nat} {is : List Intrinsic} {summary : Summary}

theorem remaining_of_ok {report : InstructionReport} {results : Option ResultMap}
    (h : (instruction setup i st).outcome = .ok (report, results)) :
    remaining setup total done (i :: is) summary st =
      (remaining setup total (done + 1) is (summary.add report)
        (instruction setup i st).state).after (.started i :: (instruction setup i st).events ++
          [.finished report results, .progress (done + 1) total]) := by
  simp only [remaining, h]

theorem remaining_of_error {e : Failure} (h : (instruction setup i st).outcome = .error e) :
    remaining setup total done (i :: is) summary st =
      ⟨.error e, (instruction setup i st).state,
        .started i :: (instruction setup i st).events⟩ := by
  simp only [remaining, h]

theorem outcome_remaining :
    (remaining setup total done is summary st).outcome =
      (firstFailure (Turn.step setup) (turnsOf (Turn.step setup) is st)).elim
        (.ok (((values (Turn.step setup) (turnsOf (Turn.step setup) is st)).map
          Prod.fst).foldl Summary.add summary)) .error := by
  induction is generalizing done summary st with
  | nil => rfl
  | cons i rest ih =>
    cases hout : (instruction setup i st).outcome with
    | ok value =>
      obtain ⟨report, results⟩ := value
      have hturn : (Turn.step setup ⟨i, st⟩).outcome = .ok (report, results) := hout
      rw [turnsOf_of_ok hturn, firstFailure_cons_of_ok hturn, values_cons_of_ok hturn,
        remaining_of_ok hout]
      exact ih
    | error e =>
      have hturn : (Turn.step setup ⟨i, st⟩).outcome = .error e := hout
      rw [turnsOf_of_error hturn, firstFailure_cons_of_error hturn, remaining_of_error hout]
      rfl

theorem events_remaining :
    (remaining setup total done is summary st).events =
      spans setup total done (turnsOf (Turn.step setup) is st) := by
  induction is generalizing done summary st with
  | nil => rfl
  | cons i rest ih =>
    cases hout : (instruction setup i st).outcome with
    | ok value =>
      obtain ⟨report, results⟩ := value
      have hturn : (Turn.step setup ⟨i, st⟩).outcome = .ok (report, results) := hout
      rw [turnsOf_of_ok hturn, spans, Step.value?_of_ok hturn, remaining_of_ok hout]
      exact congrArg (_ ++ ·) ih
    | error e =>
      have hturn : (Turn.step setup ⟨i, st⟩).outcome = .error e := hout
      rw [turnsOf_of_error hturn, spans, Step.value?_of_error hturn, remaining_of_error hout]
      simp only [closing, spans, List.append_nil]
      rfl

theorem state_remaining :
    (remaining setup total done is summary st).state =
      stateAfter (Turn.step setup) st (turnsOf (Turn.step setup) is st) := by
  induction is generalizing done summary st with
  | nil => rfl
  | cons i rest ih =>
    cases hout : (instruction setup i st).outcome with
    | ok value =>
      obtain ⟨report, results⟩ := value
      have hturn : (Turn.step setup ⟨i, st⟩).outcome = .ok (report, results) := hout
      rw [turnsOf_of_ok hturn, remaining_of_ok hout]
      exact ih
    | error e =>
      have hturn : (Turn.step setup ⟨i, st⟩).outcome = .error e := hout
      rw [turnsOf_of_error hturn, remaining_of_error hout]
      rfl

/-- **Whole runs.** A run ends with the failure of an instruction or sums up all reports. -/
theorem outcome_all :
    (all setup st).outcome =
      (firstFailure (Turn.step setup) (turns setup st)).elim
        (.ok (((values (Turn.step setup) (turns setup st)).map Prod.fst).foldl
          Summary.add .empty)) .error :=
  outcome_remaining

/-- A run that sums up had no failure, and sums up the reports of all its turns. -/
theorem outcome_all_eq_ok (h : (all setup st).outcome = .ok summary) :
    firstFailure (Turn.step setup) (turns setup st) = none ∧
      summary = ((values (Turn.step setup) (turns setup st)).map Prod.fst).foldl
        Summary.add .empty := by
  rw [outcome_all] at h
  cases hfailure : firstFailure (Turn.step setup) (turns setup st) with
  | none =>
    rw [hfailure] at h
    cases h
    exact ⟨rfl, rfl⟩
  | some e =>
    rw [hfailure] at h
    cases h

theorem outcome_all_eq_error {e : Failure} : (all setup st).outcome = .error e ↔
    firstFailure (Turn.step setup) (turns setup st) = some e := by
  rw [outcome_all]
  cases firstFailure (Turn.step setup) (turns setup st) <;> simp

/-- A run ends in the state in which its last turn ended. -/
theorem state_all : (all setup st).state = stateAfter (Turn.step setup) st (turns setup st) :=
  state_remaining

theorem events_all :
    (all setup st).events =
      .progress 0 setup.settings.instructions.length ::
        spans setup setup.settings.instructions.length 0 (turns setup st) :=
  congrArg (_ :: ·) events_remaining

end VectorTrial.Run
