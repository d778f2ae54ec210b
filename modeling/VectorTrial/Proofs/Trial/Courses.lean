import VectorTrial.Proofs.Trial.Trace

/-!
# Two runs that take the same course

A test ends with a verdict, ends its instruction, or ends the run. Two runs in which tests that
correspond to each other end in the same of these ways make tests of the same instructions as often
as each other, whatever they find and for whatever cause they fail. What is shown of their tests can
then be compared event by event.

## Main definitions

* `VectorTrial.Run.Step.ending` — the way in which a part of a run ends.
* `VectorTrial.Run.SameCourse` — parts of two runs that take the same course.
* `VectorTrial.Run.KeepsCourse` — what single tests have to keep for this.

## Main results

* `VectorTrial.Run.KeepsCourse.tests`, `VectorTrial.Run.KeepsCourse.instruction` — the tests of an
  instruction take the same course.
* `VectorTrial.Run.KeepsCourse.all` — whole runs take the same course.
-/

namespace VectorTrial.Run

variable {σ ε κ ε' κ' α α' β : Type}

/-! ### Courses -/

/-- Whether a part of a run ended in a failure, and whether the failure is fatal. -/
def Step.ending (s : Step σ ε κ α) : Option Bool := s.failure?.map Failure.isFatal

theorem Step.ending_of_ok {s : Step σ ε κ α} {a : α} (h : s.outcome = .ok a) :
    s.ending = none := by
  rw [ending, failure?, h]
  rfl

theorem Step.ending_of_error {s : Step σ ε κ α} {e : Failure} (h : s.outcome = .error e) :
    s.ending = some e.isFatal := by
  rw [ending, failure?, h]
  rfl

/-- **Same course.** Parts of two runs end in the same way, in states that belong together, and what
is shown of their events is the same. -/
structure SameCourse (R : State σ ε κ → State σ ε' κ' → Prop) (shown : Event → Option β)
    (step : Step σ ε κ α) (step' : Step σ ε' κ' α') : Prop where
  ending : step'.ending = step.ending
  states : R step.state step'.state
  events : step'.events.filterMap shown = step.events.filterMap shown

variable [DrawSource σ] {R : State σ ε κ → State σ ε' κ' → Prop} {shown : Event → Option β}
  {setup : Setup ε κ} {setup' : Setup ε' κ'}

/-- **Kept courses.** From states that belong together single tests take the same course and the
executors support the same instructions, both runs follow the same plan, and nothing is shown of
notices. -/
structure KeepsCourse (R : State σ ε κ → State σ ε' κ' → Prop) (shown : Event → Option β)
    (setup : Setup ε κ) (setup' : Setup ε' κ') : Prop where
  repetitions : setup'.settings.repetitions = setup.settings.repetitions
  instructions : setup'.settings.instructions = setup.settings.instructions
  supports {st : State σ ε κ} {st' : State σ ε' κ'} (h : R st st') (i : Intrinsic) :
    setup'.executor.supports st'.executor i = setup.executor.supports st.executor i
  asked {st : State σ ε κ} {st' : State σ ε' κ'} (h : R st st') (i : Intrinsic) :
    R (asked setup i st) (asked setup' i st')
  test {st : State σ ε κ} {st' : State σ ε' κ'} (h : R st st') (i : Intrinsic) :
    SameCourse R shown (iteration setup i st) (iteration setup' i st')
  notice (e : Event) (h : e.isNotice = true) : shown e = none

namespace KeepsCourse

variable {st : State σ ε κ} {st' : State σ ε' κ'} {i : Intrinsic}

omit [DrawSource σ] in
/-- Tests that end by failures of the same weight end in the same way. -/
theorem ending_endWith {e e' : Failure} (h : e'.isFatal = e.isFatal)
    {report report' : InstructionReport} {results results' : Option ResultMap}
    {last : State σ ε κ} {last' : State σ ε' κ'} {es es' : List Event} :
    Step.ending ⟨(endWith (some e') report').map fun r => (r, results'), last', es'⟩ =
      Step.ending ⟨(endWith (some e) report).map fun r => (r, results), last, es⟩ := by
  simp only [endWith, h]
  by_cases hfatal : e.isFatal = true
  · rw [if_pos hfatal, if_pos hfatal]
    exact congrArg some h
  · rw [if_neg hfatal, if_neg hfatal]
    rfl

/-- **Tests.** Equally many tests of an instruction take the same course. -/
theorem tests (h : KeepsCourse R shown setup setup') (hst : R st st') (count : Nat)
    (report report' : InstructionReport) (results results' : Option ResultMap) :
    SameCourse R shown (Run.tests setup i count report results st)
      (Run.tests setup' i count report' results' st') := by
  induction count generalizing st st' report report' results results' with
  | zero => exact ⟨rfl, hst, rfl⟩
  | succ count ih =>
    obtain ⟨hending, hstates, hevents⟩ := h.test hst i
    cases hout : (iteration setup i st).outcome with
    | ok a =>
      rw [Step.ending_of_ok hout] at hending
      cases hout' : (iteration setup' i st').outcome with
      | ok a' =>
        obtain ⟨hlast, hfinal, hmore⟩ := ih hstates (report.record a.1) (report'.record a'.1)
          (results.map fun m => m.record a.2) (results'.map fun m => m.record a'.2)
        rw [tests_of_ok hout, tests_of_ok hout']
        refine ⟨hlast, hfinal, ?_⟩
        simp only [Step.after, List.filterMap_append, hevents, hmore]
      | error e' =>
        rw [Step.ending_of_error hout'] at hending
        cases hending
    | error e =>
      rw [Step.ending_of_error hout] at hending
      cases hout' : (iteration setup' i st').outcome with
      | ok a' =>
        rw [Step.ending_of_ok hout'] at hending
        cases hending
      | error e' =>
        rw [Step.ending_of_error hout'] at hending
        rw [tests_of_error hout, tests_of_error hout']
        exact ⟨ending_endWith (Option.some.inj hending), hstates, hevents⟩

/-- **Instructions.** All tests of an instruction take the same course. -/
theorem instruction (h : KeepsCourse R shown setup setup') (hst : R st st') :
    SameCourse R shown (Run.instruction setup i st) (Run.instruction setup' i st') := by
  unfold Run.instruction
  rw [h.supports hst i, h.repetitions]
  by_cases hsupported : setup.executor.supports st.executor i = true
  · rw [if_pos hsupported, if_pos hsupported]
    obtain ⟨hending, hstates, hevents⟩ := h.tests (i := i) (h.asked hst i)
      setup.settings.repetitions (.start i) (.start i) (noResults setup.settings)
      (noResults setup'.settings)
    refine ⟨?_, hstates, hevents⟩
    have hconcluded : ∀ {ε κ : Type} (step : Step σ ε κ (InstructionReport × Option ResultMap)),
        Step.ending { step with outcome := step.outcome.map conclude } = step.ending := by
      rintro ε κ ⟨outcome, state, events⟩
      cases outcome <;> rfl
    rw [hconcluded, hconcluded]
    exact hending
  · rw [if_neg hsupported, if_neg hsupported]
    exact ⟨rfl, h.asked hst i, rfl⟩

/-- Nothing is shown of the start of an instruction. -/
theorem filterMap_started (h : KeepsCourse R shown setup setup') (i : Intrinsic)
    (es : List Event) : (Event.started i :: es).filterMap shown = es.filterMap shown :=
  List.filterMap_cons_none (h.notice _ rfl)

/-- Nothing is shown of the end of an instruction. -/
theorem filterMap_closing (h : KeepsCourse R shown setup setup') (report : InstructionReport)
    (results : Option ResultMap) (done total : Nat) :
    [Event.finished report results, .progress done total].filterMap shown = [] := by
  rw [List.filterMap_cons_none (h.notice _ rfl), List.filterMap_cons_none (h.notice _ rfl),
    List.filterMap_nil]

/-- **Remaining instructions.** -/
theorem remaining (h : KeepsCourse R shown setup setup') (total done : Nat) {is : List Intrinsic}
    (summary summary' : Summary) (hst : R st st') :
    SameCourse R shown (Run.remaining setup total done is summary st)
      (Run.remaining setup' total done is summary' st') := by
  induction is generalizing done summary summary' st st' with
  | nil => exact ⟨rfl, hst, rfl⟩
  | cons i rest ih =>
    obtain ⟨hending, hstates, hevents⟩ := h.instruction (i := i) hst
    cases hout : (Run.instruction setup i st).outcome with
    | ok a =>
      rw [Step.ending_of_ok hout] at hending
      cases hout' : (Run.instruction setup' i st').outcome with
      | ok a' =>
        obtain ⟨hlast, hfinal, hmore⟩ := ih (done + 1) (summary.add a.1) (summary'.add a'.1) hstates
        rw [remaining_of_ok hout, remaining_of_ok hout']
        refine ⟨hlast, hfinal, ?_⟩
        simp only [Step.after, List.filterMap_append, h.filterMap_started, h.filterMap_closing,
          hevents, hmore]
      | error e' =>
        rw [Step.ending_of_error hout'] at hending
        cases hending
    | error e =>
      rw [Step.ending_of_error hout] at hending
      cases hout' : (Run.instruction setup' i st').outcome with
      | ok a' =>
        rw [Step.ending_of_ok hout'] at hending
        cases hending
      | error e' =>
        rw [Step.ending_of_error hout'] at hending
        rw [remaining_of_error hout, remaining_of_error hout']
        refine ⟨hending, hstates, ?_⟩
        simp only [h.filterMap_started, hevents]

/-- **Whole runs.** Runs from states that belong together take the same course. -/
theorem all (h : KeepsCourse R shown setup setup') (hst : R st st') :
    SameCourse R shown (Run.all setup st) (Run.all setup' st') := by
  unfold Run.all
  rw [h.instructions]
  obtain ⟨hending, hstates, hevents⟩ :=
    h.remaining setup.settings.instructions.length 0 .empty .empty hst
  refine ⟨hending, hstates, ?_⟩
  simp only [Step.after, List.filterMap_append, hevents]

end KeepsCourse

end VectorTrial.Run
