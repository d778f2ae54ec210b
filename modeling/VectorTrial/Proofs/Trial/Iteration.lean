import VectorTrial.Trial.Run

/-!
# One test

A test goes one of four ways. The executor refuses the operands; or it answers with a result that
does not have the layout of the instruction's results; or the pair for the comparison cannot be
built; or the pair is compared and erased. All that a run does follows from these four.

## Main definitions

* `VectorTrial.Run.answer` — what the executor answers in a test.
* `VectorTrial.Run.Tested` — the four ways of a test.

## Main results

* `VectorTrial.Run.tested_iteration` — every test goes one of these ways.
* `VectorTrial.Run.Tested.isFatal` — only the executor's errors are fatal.
-/

namespace VectorTrial.Run

variable {σ ε κ : Type} [DrawSource σ]

/-! ### Operands and answers -/

/-- The operands that are drawn in a test. -/
def operands (i : Intrinsic) (st : State σ ε κ) : Register × Register :=
  (drawOperands st.generator i).1

theorem fits_operands (i : Intrinsic) (st : State σ ε κ) :
    (operands i st).1.fits i.first = true ∧ (operands i st).2.fits i.second = true := by
  unfold operands drawOperands
  refine ⟨Generator.fits_vector _ _, ?_⟩
  by_cases h : i.hasShiftCount = true
  · simp only [if_pos h]
    exact Generator.fits_shiftCount _ _
  · simp only [if_neg h]
    exact Generator.fits_vector _ _

/-- What the executor answers in a test. -/
def answer (setup : Setup ε κ) (i : Intrinsic) (st : State σ ε κ) : Except WrapperError Register :=
  (setup.executor.execute st.executor i (operands i st).1 (operands i st).2).1

/-- The state once the executor has answered. -/
def answered (setup : Setup ε κ) (i : Intrinsic) (st : State σ ε κ) : State σ ε κ :=
  { st with
    generator := (drawOperands st.generator i).2
    executor := (setup.executor.execute st.executor i (operands i st).1 (operands i st).2).2 }

/-- What is told of the executor's answer. -/
def executed (setup : Setup ε κ) (i : Intrinsic) (st : State σ ε κ) : Event :=
  .executed i (operands i st).1 (operands i st).2 (answer setup i st)

/-! ### The four ways -/

/-- **Tests.** The four ways in which a test goes. -/
inductive Tested (setup : Setup ε κ) (i : Intrinsic) (st : State σ ε κ) :
    Step σ ε κ (Verdict × Register) → Prop
  | refused (e : WrapperError) (hanswer : answer setup i st = .error e) :
      Tested setup i st
        ⟨.error (.native e), answered setup i st, [executed setup i st]⟩
  | unfit (result : Register) (hanswer : answer setup i st = .ok result)
      (hfit : ¬ result.fits i.result = true) :
      Tested setup i st
        ⟨.error (misfit i result), answered setup i st, [executed setup i st]⟩
  | unbuilt (result : Register) (e : Program.Error) (bench : Verification)
      (hanswer : answer setup i st = .ok result) (hfit : result.fits i.result = true)
      (hbuild : st.bench.buildPair i (operands i st).1 (operands i st).2 result
        i.result.laneWidth = (.error e, bench)) :
      Tested setup i st
        ⟨.error (.construction i.name e), { answered setup i st with bench },
          [executed setup i st]⟩
  | compared (result : Register) (posed : Verification) (verdict : Verdict) (checker : κ)
      (hanswer : answer setup i st = .ok result) (hfit : result.fits i.result = true)
      (hbuild : st.bench.buildPair i (operands i st).1 (operands i st).2 result
        i.result.laneWidth = (.ok (), posed))
      (hcompare : setup.checker.compare st.checker posed.module Verification.sourceName
        Verification.targetName = (verdict, checker)) :
      Tested setup i st
        ⟨.ok (verdict, result), { answered setup i st with checker, bench := posed.erasePair },
          executed setup i st :: .compared posed.module verdict ::
            mismatchEvents setup.settings i verdict posed⟩

variable {setup : Setup ε κ} {i : Intrinsic} {st : State σ ε κ}

theorem iteration_of_error {e : WrapperError} (h : answer setup i st = .error e) :
    iteration setup i st =
      ⟨.error (.native e), answered setup i st, [executed setup i st]⟩ := by
  rw [executed, h]
  unfold answer operands at h
  simp only [iteration, h]
  rfl

theorem iteration_of_ok {result : Register} (h : answer setup i st = .ok result) :
    iteration setup i st =
      if result.fits i.result then
        (comparison setup i (operands i st).1 (operands i st).2 result
          (answered setup i st)).after [executed setup i st]
      else ⟨.error (misfit i result), answered setup i st, [executed setup i st]⟩ := by
  rw [executed, h]
  unfold answer operands at h
  simp only [iteration, h]
  rfl

theorem iteration_of_unbuilt {result : Register} {e : Program.Error} {bench : Verification}
    (hanswer : answer setup i st = .ok result) (hfit : result.fits i.result = true)
    (hbuild : st.bench.buildPair i (operands i st).1 (operands i st).2 result
      i.result.laneWidth = (.error e, bench)) :
    iteration setup i st =
      ⟨.error (.construction i.name e), { answered setup i st with bench },
        [executed setup i st]⟩ := by
  have hbench : (answered setup i st).bench = st.bench := rfl
  rw [iteration_of_ok hanswer, if_pos hfit, comparison, hbench, hbuild]
  rfl

theorem iteration_of_built {result : Register} {posed : Verification}
    (hanswer : answer setup i st = .ok result) (hfit : result.fits i.result = true)
    (hbuild : st.bench.buildPair i (operands i st).1 (operands i st).2 result
      i.result.laneWidth = (.ok (), posed)) {verdict : Verdict} {checker : κ}
    (hcompare : setup.checker.compare st.checker posed.module Verification.sourceName
      Verification.targetName = (verdict, checker)) :
    iteration setup i st =
      ⟨.ok (verdict, result), { answered setup i st with checker, bench := posed.erasePair },
        executed setup i st :: .compared posed.module verdict ::
          mismatchEvents setup.settings i verdict posed⟩ := by
  have hbench : (answered setup i st).bench = st.bench := rfl
  have hchecker : (answered setup i st).checker = st.checker := rfl
  rw [iteration_of_ok hanswer, if_pos hfit, comparison, hbench, hbuild]
  simp only [hchecker, hcompare]
  rfl

/-- **One test.** Every test goes one of the four ways. -/
theorem tested_iteration (setup : Setup ε κ) (i : Intrinsic) (st : State σ ε κ) :
    Tested setup i st (iteration setup i st) := by
  cases hanswer : answer setup i st with
  | error e =>
    rw [iteration_of_error hanswer]
    exact .refused e hanswer
  | ok result =>
    by_cases hfit : result.fits i.result = true
    · cases hbuild : st.bench.buildPair i (operands i st).1 (operands i st).2 result
          i.result.laneWidth with
      | mk built bench =>
        cases built with
        | error e =>
          rw [iteration_of_unbuilt hanswer hfit hbuild]
          exact .unbuilt result e bench hanswer hfit hbuild
        | ok _ =>
          rw [iteration_of_built hanswer hfit hbuild rfl]
          exact .compared result bench _ _ hanswer hfit hbuild rfl
    · rw [iteration_of_ok hanswer, if_neg hfit]
      exact .unfit result hanswer hfit

variable {step : Step σ ε κ (Verdict × Register)}

/-- **Fatal failures.** A test ends in a fatal failure only where the executor refuses with a fatal
error, and then nothing else happens in it. -/
theorem Tested.isFatal {e : Failure} (h : Tested setup i st step) (he : step.outcome = .error e)
    (hfatal : e.isFatal = true) :
    ∃ error, e = .native error ∧ answer setup i st = .error error ∧
      step.events = [executed setup i st] := by
  cases h with
  | refused error hanswer => cases he; exact ⟨error, rfl, hanswer, rfl⟩
  | unfit result hanswer hfit => cases he; cases hfatal
  | unbuilt result error bench hanswer hfit hbuild => cases he; cases hfatal
  | compared result posed verdict checker hanswer hfit hbuild hcompare => cases he

end VectorTrial.Run
