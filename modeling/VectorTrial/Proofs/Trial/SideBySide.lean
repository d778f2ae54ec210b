import VectorTrial.Proofs.Trial.Trace

/-!
# Two runs side by side

Two runs from states that are alike go alike as long as each of their tests does: they ask for the
same instructions, fail together and for the same cause, and what they tell and sum up is alike.
What it means to be alike is left open. A likeness has only to be kept by single tests, by
questions to the executors, and by what is noted between them.

## Main definitions

* `VectorTrial.Run.Likeness` — what is alike in two runs.
* `VectorTrial.Run.Likeness.Steps` — parts of two runs that go alike.
* `VectorTrial.Run.Likeness.Kept` — a likeness that single tests keep.

## Main results

* `VectorTrial.Run.Likeness.Kept.tests`, `VectorTrial.Run.Likeness.Kept.instruction` — the tests of
  an instruction go alike.
* `VectorTrial.Run.Likeness.Kept.all` — whole runs go alike.
-/

namespace VectorTrial.Run

variable {σ ε κ ε' κ' α β : Type}

/-! ### Likeness -/

/-- Two outcomes are alike when both are values that are alike or both are the same failure. -/
inductive Alike (R : α → β → Prop) : Except Failure α → Except Failure β → Prop
  | ok {a : α} {b : β} (h : R a b) : Alike R (.ok a) (.ok b)
  | error (e : Failure) : Alike R (.error e) (.error e)

theorem Alike.exists_or {R : α → β → Prop} {x : Except Failure α} {y : Except Failure β}
    (h : Alike R x y) :
    (∃ a b, x = .ok a ∧ y = .ok b ∧ R a b) ∨ ∃ e, x = .error e ∧ y = .error e := by
  cases h with
  | ok h => exact Or.inl ⟨_, _, rfl, rfl, h⟩
  | error e => exact Or.inr ⟨e, rfl, rfl⟩

/-- **Likeness.** What is alike in two runs that draw operands from sources of the same kind. -/
structure Likeness (σ ε κ ε' κ' : Type) where
  states : State σ ε κ → State σ ε' κ' → Prop
  events : List Event → List Event → Prop
  verdicts : Verdict → Verdict → Prop
  reports : InstructionReport → InstructionReport → Prop
  summaries : Summary → Summary → Prop

namespace Likeness

/-- Parts of two runs go alike when their outcomes, the states after them and what they tell are
alike. -/
structure Steps (L : Likeness σ ε κ ε' κ') (R : α → β → Prop) (step : Step σ ε κ α)
    (step' : Step σ ε' κ' β) : Prop where
  outcome : Alike R step.outcome step'.outcome
  states : L.states step.state step'.state
  events : L.events step.events step'.events

variable [DrawSource σ] {L : Likeness σ ε κ ε' κ'} {setup : Setup ε κ} {setup' : Setup ε' κ'}

/-- **Kept likenesses.** Single tests go alike from states that are alike, the executors support the
same instructions, and the rest of a run, which follows the same plan, keeps what is alike. -/
structure Kept (L : Likeness σ ε κ ε' κ') (setup : Setup ε κ) (setup' : Setup ε' κ') : Prop where
  repetitions : setup.settings.repetitions = setup'.settings.repetitions
  instructions : setup.settings.instructions = setup'.settings.instructions
  supports {st : State σ ε κ} {st' : State σ ε' κ'} (h : L.states st st') (i : Intrinsic) :
    setup.executor.supports st.executor i = setup'.executor.supports st'.executor i
  asked {st : State σ ε κ} {st' : State σ ε' κ'} (h : L.states st st') (i : Intrinsic) :
    L.states (asked setup i st) (asked setup' i st')
  test {st : State σ ε κ} {st' : State σ ε' κ'} (h : L.states st st') (i : Intrinsic) :
    L.Steps (fun a a' => L.verdicts a.1 a'.1) (iteration setup i st) (iteration setup' i st')
  nothing : L.events [] []
  append {es es' fs fs' : List Event} (h : L.events es es') (h' : L.events fs fs') :
    L.events (es ++ fs) (es' ++ fs')
  notice (e e' : Event) (h : e.isNotice = true) (h' : e'.isNotice = true) : L.events [e] [e']
  start (i : Intrinsic) : L.reports (.start i) (.start i)
  record {r r' : InstructionReport} {v v' : Verdict} (h : L.reports r r') (hv : L.verdicts v v') :
    L.reports (r.record v) (r'.record v')
  ended {r r' : InstructionReport} (h : L.reports r r') (outcome : Outcome) :
    L.reports { r with outcome } { r' with outcome }
  repeated {r r' : InstructionReport} (h : L.reports r r') (n n' : Option Nat) :
    L.reports { r with repeated := n } { r' with repeated := n' }
  empty : L.summaries .empty .empty
  add {s s' : Summary} {r r' : InstructionReport} (h : L.summaries s s') (hr : L.reports r r') :
    L.summaries (s.add r) (s'.add r')

namespace Kept

variable {st : State σ ε κ} {st' : State σ ε' κ'} {i : Intrinsic}
  {report report' : InstructionReport}

/-- **Tests side by side.** Equally many tests of an instruction go alike. -/
theorem tests (h : L.Kept setup setup') (hst : L.states st st') (hreport : L.reports report report')
    (count : Nat) (results results' : Option ResultMap) :
    L.Steps (fun a a' => L.reports a.1 a'.1) (Run.tests setup i count report results st)
      (Run.tests setup' i count report' results' st') := by
  induction count generalizing st st' report report' results results' with
  | zero => exact ⟨.ok hreport, hst, h.nothing⟩
  | succ count ih =>
    obtain ⟨houtcome, hstates, hevents⟩ := h.test hst i
    rcases houtcome.exists_or with ⟨a, a', hok, hok', hverdicts⟩ | ⟨e, herror, herror'⟩
    · obtain ⟨houtcome, hlast, hmore⟩ := ih hstates (h.record hreport hverdicts)
        (results.map fun m => m.record a.2) (results'.map fun m => m.record a'.2)
      rw [tests_of_ok hok, tests_of_ok hok']
      exact ⟨houtcome, hlast, h.append hevents hmore⟩
    · rw [tests_of_error herror, tests_of_error herror']
      refine ⟨?_, hstates, hevents⟩
      by_cases hfatal : e.isFatal = true
      · simp only [endWith, if_pos hfatal]
        exact .error e
      · simp only [endWith, if_neg hfatal]
        exact .ok (h.ended hreport (endedBy e))

/-- **Instructions side by side.** All tests of an instruction go alike. -/
theorem instruction (h : L.Kept setup setup') (hst : L.states st st') :
    L.Steps (fun a a' => L.reports a.1 a'.1) (Run.instruction setup i st)
      (Run.instruction setup' i st') := by
  unfold Run.instruction
  rw [← h.supports hst i, ← h.repetitions]
  by_cases hsupported : setup.executor.supports st.executor i = true
  · rw [if_pos hsupported, if_pos hsupported]
    obtain ⟨houtcome, hstates, hevents⟩ := h.tests (i := i) (h.asked hst i) (h.start i)
      setup.settings.repetitions (noResults setup.settings) (noResults setup'.settings)
    refine ⟨?_, hstates, hevents⟩
    rcases houtcome.exists_or with ⟨a, a', hok, hok', hreports⟩ | ⟨e, herror, herror'⟩
    · simp only [hok, hok']
      exact .ok (h.repeated hreports _ _)
    · simp only [herror, herror']
      exact .error e
  · rw [if_neg hsupported, if_neg hsupported]
    exact ⟨.ok (h.ended (h.start i) _), h.asked hst i, h.nothing⟩

/-- **Remaining instructions side by side.** -/
theorem remaining (h : L.Kept setup setup') (total done : Nat) {is : List Intrinsic}
    {summary summary' : Summary} (hst : L.states st st') (hsummary : L.summaries summary summary') :
    L.Steps L.summaries (Run.remaining setup total done is summary st)
      (Run.remaining setup' total done is summary' st') := by
  induction is generalizing done summary summary' st st' with
  | nil => exact ⟨.ok hsummary, hst, h.nothing⟩
  | cons i rest ih =>
    obtain ⟨houtcome, hstates, hevents⟩ := h.instruction (i := i) hst
    have hstarted := h.append (h.notice (.started i) (.started i) rfl rfl) hevents
    rcases houtcome.exists_or with ⟨a, a', hok, hok', hreports⟩ | ⟨e, herror, herror'⟩
    · have hclosed := h.append (h.notice (.finished a.1 a.2) (.finished a'.1 a'.2) rfl rfl)
        (h.notice (.progress (done + 1) total) (.progress (done + 1) total) rfl rfl)
      obtain ⟨houtcome, hlast, hmore⟩ := ih (done + 1) hstates (h.add hsummary hreports)
      rw [remaining_of_ok hok, remaining_of_ok hok']
      exact ⟨houtcome, hlast, h.append (h.append hstarted hclosed) hmore⟩
    · rw [remaining_of_error herror, remaining_of_error herror']
      exact ⟨.error e, hstates, hstarted⟩

/-- **Runs side by side.** Whole runs from states that are alike go alike. -/
theorem all (h : L.Kept setup setup') (hst : L.states st st') :
    L.Steps L.summaries (Run.all setup st) (Run.all setup' st') := by
  unfold Run.all
  rw [← h.instructions]
  obtain ⟨houtcome, hlast, hmore⟩ := h.remaining setup.settings.instructions.length 0 hst h.empty
  exact ⟨houtcome, hlast, h.append (h.notice _ _ rfl rfl) hmore⟩

end Kept

end Likeness

end VectorTrial.Run
