import VectorTrial.Proofs.Trial.Accounting
import VectorTrial.Proofs.Trial.Records

/-!
# What an observer is told

An observer sees a run as a sequence of notices and shown pairs. For each instruction it is told
the start, the pairs that are not correct, the report and the progress, in this order. What it is
told of an instruction is what its tests did: each executed once, and each that ended with a verdict
compared once. A run ends early exactly when a test fails fatally, and then nothing is done and
nothing is told after that test.

## Main definitions

* `VectorTrial.Run.observed` — what an observer is told of some events.
* `VectorTrial.Run.Shows` — what is shown of some comparisons.
* `VectorTrial.Run.Turn.IsTold` — what happens in a turn is what its tests did.
* `VectorTrial.Run.Told` — what an observer is told of some instructions that did not end the run.
* `VectorTrial.Run.Protocol` — the rules that a run keeps towards its observer.

## Main results

* `VectorTrial.Run.shows_instruction` — what is shown of one instruction.
* `VectorTrial.Run.Turn.isTold` — every turn is told as it happens.
* `VectorTrial.Run.outcome_all_eq_error_iff` — which failures end a run.
* `VectorTrial.Run.protocol_all` — every run keeps the rules.
-/

namespace VectorTrial

/-- Whether an observer is told of an event. -/
def Event.isObserved : Event → Bool
  | executed _ _ _ _ => false
  | compared _ _ => false
  | _ => true

namespace Run

variable {σ ε κ : Type}

/-- What an observer is told of some events. -/
def observed (events : List Event) : List Event := events.filter Event.isObserved

theorem observed_append (es fs : List Event) : observed (es ++ fs) = observed es ++ observed fs :=
  List.filter_append _ _

/-! ### Shown pairs -/

/-- **Shown pairs.** Where pairs are to be shown, each comparison that was not correct is shown with
the text of both functions of the very module that was compared, in order. Otherwise none is. -/
def Shows (settings : Settings) (i : Intrinsic) (cs : List (Program.Module × Verdict))
    (shown : List Event) : Prop :=
  if settings.dump then
    List.Forall₂ (fun c e => ∃ text, c.1.renderFunctions ["src", "tgt"] = .ok text ∧
      e = Event.mismatch i c.2 text) (cs.filter fun c => !c.2.isCorrect) shown
  else shown = []

theorem Shows.nil (settings : Settings) (i : Intrinsic) : Shows settings i [] [] := by
  unfold Shows
  split_ifs
  · exact List.Forall₂.nil
  · rfl

theorem Shows.append {settings : Settings} {i : Intrinsic}
    {cs ds : List (Program.Module × Verdict)} {es fs : List Event} (hes : Shows settings i cs es)
    (hfs : Shows settings i ds fs) : Shows settings i (cs ++ ds) (es ++ fs) := by
  unfold Shows at hes hfs ⊢
  split_ifs at hes hfs ⊢ with hdump
  · rw [List.filter_append]
    exact List.rel_append hes hfs
  · rw [hes, hfs, List.append_nil]

/-- What a test shows of its comparison. -/
theorem shows_mismatchEvents {settings : Settings} {i : Intrinsic} {verdict : Verdict}
    {posed : Verification} (h : ∃ text, posed.renderPair = .ok text) :
    Shows settings i [(posed.module, verdict)] (mismatchEvents settings i verdict posed) := by
  obtain ⟨text, htext⟩ := h
  unfold Shows mismatchEvents
  by_cases hdump : settings.dump = true
  · by_cases hcorrect : verdict.isCorrect = true
    · rw [if_pos hdump, hcorrect]
      simp only [List.filter_cons, hcorrect]
      exact List.Forall₂.nil
    · rw [if_pos hdump]
      simp only [List.filter_cons, hcorrect, hdump, htext]
      exact List.Forall₂.cons ⟨text, htext, rfl⟩ List.Forall₂.nil
  · rw [if_neg hdump]
    simp [hdump]

theorem observed_mismatchEvents (settings : Settings) (i : Intrinsic) (verdict : Verdict)
    (posed : Verification) : observed (mismatchEvents settings i verdict posed) =
      mismatchEvents settings i verdict posed := by
  unfold mismatchEvents
  split_ifs
  · rfl
  · cases posed.renderPair <;> rfl

variable [DrawSource σ] {setup : Setup ε κ} {i : Intrinsic} {st : State σ ε κ}
  {step : Step σ ε κ (Verdict × Register)}

theorem Tested.shows (h : Tested setup i st step) :
    Shows setup.settings i (comparisons step.events) (observed step.events) := by
  cases h with
  | refused e hanswer => exact Shows.nil _ _
  | unfit result hanswer hfit => exact Shows.nil _ _
  | unbuilt result e bench hanswer hfit hbuild => exact Shows.nil _ _
  | compared result posed verdict checker hanswer hfit hbuild hcompare =>
    have hobserved : observed (executed setup i st :: .compared posed.module verdict ::
        mismatchEvents setup.settings i verdict posed) =
        mismatchEvents setup.settings i verdict posed :=
      observed_mismatchEvents setup.settings i verdict posed
    rw [comparisons_test, hobserved]
    exact shows_mismatchEvents (Verification.exists_renderPair hbuild)

/-- **One instruction.** An observer is shown the pairs of an instruction that are not correct. -/
theorem shows_instruction (i : Intrinsic) (st : State σ ε κ) :
    Shows setup.settings i (comparisons (instruction setup i st).events)
      (observed (instruction setup i st).events) := by
  have hchains : Chains fun (_ : State σ ε κ) es (_ : State σ ε κ) =>
      Shows setup.settings i (comparisons es) (observed es) := by
    constructor
    · exact fun _ => Shows.nil _ _
    · intro a b c es fs hes hfs
      rw [comparisons_append, observed_append]
      exact hes.append hfs
  exact hchains.instruction (fun st => (tested_iteration setup i st).shows)
    fun _ => Shows.nil _ _

/-! ### Told turns -/

/-- **Told turns.** What happens in the turn of an instruction is what its tests did: each executed
the instruction once, on the operands that it drew, and each that ended with a verdict compared its
result once, in order. Nothing else was asked of the executor or of the checker. -/
structure Turn.IsTold (setup : Setup ε κ) (t : Turn σ ε κ) : Prop where
  executed : transcript (t.step setup).events =
    (t.tests setup).map fun s => execution setup t.instruction s.before
  compared : List.Forall₂ (Compares t.instruction) (comparisons (t.step setup).events)
    (t.answers setup)
  recorded : Recorded setup t.before (t.step setup).events (t.step setup).state

theorem transcript_flatMap_test {ts : List (Turn σ ε κ)} (h : ∀ s ∈ ts, s.instruction = i) :
    transcript (ts.flatMap fun s => (s.test setup).events) =
      ts.map fun s => execution setup i s.before := by
  induction ts with
  | nil => rfl
  | cons s ts ih =>
    obtain ⟨hs, hts⟩ := List.forall_mem_cons.1 h
    obtain ⟨hone, -⟩ := (tested_iteration setup s.instruction s.before).transcript_eq
    rw [hs] at hone
    have htest : transcript (s.test setup).events = [execution setup i s.before] := by
      rw [Turn.test, hs, hone]
    rw [List.flatMap_cons, transcript_append, htest, ih hts]
    rfl

/-- **Told turns.** Every turn is told as it happens. -/
theorem Turn.isTold (setup : Setup ε κ) (t : Turn σ ε κ) : t.IsTold setup where
  executed := by
    rw [Turn.events_step]
    exact transcript_flatMap_test fun s hs => Turn.instruction_of_mem_tests hs
  compared := t.compares setup
  recorded := recorded_instruction setup t.instruction t.before

/-- **Told instructions.** What an observer is told of instructions that did not end the run, the
first of them after `done` others of `total`: for each its start, its pairs that are not correct,
its report, which is right about its tests, and the progress. -/
inductive Told (setup : Setup ε κ) (total : Nat) :
    Nat → List (Turn σ ε κ) → List InstructionReport → List Event → Prop
  | none (done : Nat) : Told setup total done [] [] []
  | next {done : Nat} {t : Turn σ ε κ} {ts : List (Turn σ ε κ)} {report : InstructionReport}
      {reports : List InstructionReport} {results : Option ResultMap} {shown rest : List Event}
      (hreport : (t.step setup).outcome = .ok (report, results))
      (hright : Reports setup t report)
      (hshown : Shows setup.settings t.instruction (comparisons (t.step setup).events) shown)
      (hrest : Told setup total (done + 1) ts reports rest) :
      Told setup total done (t :: ts) (report :: reports)
        (.started t.instruction :: shown ++
          [.finished report results, .progress (done + 1) total] ++ rest)

theorem told_spans {ts : List (Turn σ ε κ)} {vs : List (InstructionReport × Option ResultMap)}
    (h : List.Forall₂ (fun t v => (Turn.step setup t).outcome = .ok v) ts vs) (total done : Nat) :
    Told setup total done ts (vs.map Prod.fst) (observed (spans setup total done ts)) := by
  induction h generalizing done with
  | nil => exact .none done
  | @cons t v ts vs hv _ ih =>
    have hvalue : (t.step setup).value? = some (v.1, v.2) := Step.value?_of_ok hv
    have hspan : observed (spans setup total done (t :: ts)) =
        .started t.instruction :: observed (t.step setup).events ++
          [.finished v.1 v.2, .progress (done + 1) total] ++
          observed (spans setup total (done + 1) ts) := by
      rw [spans, hvalue, observed_append, observed_append]
      rfl
    rw [hspan]
    exact .next hv (reports_of_outcome hv) (shows_instruction t.instruction t.before)
      (ih (done + 1))

theorem spans_append (total done : Nat) (as bs : List (Turn σ ε κ)) :
    spans setup total done (as ++ bs) =
      spans setup total done as ++ spans setup total (done + as.length) bs := by
  induction as generalizing done with
  | nil => rfl
  | cons t as ih =>
    have hdone : done + (t :: as).length = done + 1 + as.length := by
      rw [List.length_cons]
      omega
    rw [List.cons_append, spans, spans, ih, List.append_assoc, List.append_assoc, hdone,
      List.append_assoc]

/-! ### Failures -/

variable {t : Turn σ ε κ} {e : Failure}

/-- An instruction ends the run exactly when one of its tests fails fatally. -/
theorem Turn.outcome_step_eq_error :
    (t.step setup).outcome = .error e ↔ t.failure setup = some e ∧ e.isFatal = true := by
  by_cases hsupported : t.supported setup = true
  · rw [Turn.outcome_step hsupported, map_eq_error, endWith_eq_error]
  · have hfailure : t.failure setup = none := by
      rw [Turn.failure, Turn.tests_of_unsupported hsupported]
      rfl
    rw [Turn.step_of_unsupported hsupported, hfailure]
    simp

/-- The last test of an instruction that failed. -/
theorem Turn.tests_of_failure (h : t.failure setup = some e) :
    ∃ others s, t.tests setup = others ++ [s] ∧ s.instruction = t.instruction ∧
      (s.test setup).outcome = .error e := by
  obtain ⟨count, htests⟩ := t.exists_tests_eq setup
  rw [Turn.failure, htests] at h
  obtain ⟨others, s, hturns, hfailed, -⟩ := turnsOf_of_firstFailure_eq_some h
  have hall : t.tests setup = others ++ [s] := htests.trans hturns
  have hs : s ∈ t.tests setup := hall ▸ List.mem_append_right _ (List.mem_singleton_self s)
  exact ⟨others, s, hall, Turn.instruction_of_mem_tests hs, hfailed⟩

/-- A test that fails is the failure of its instruction. -/
theorem Turn.failure_of_mem {s : Turn σ ε κ} (hs : s ∈ t.tests setup)
    (h : (s.test setup).outcome = .error e) : t.failure setup = some e := by
  obtain ⟨count, htests⟩ := t.exists_tests_eq setup
  rw [htests] at hs
  rw [Turn.failure, htests]
  exact firstFailure_of_mem hs h

/-- **Failures.** A run fails exactly with the fatal failures of its tests. -/
theorem outcome_all_eq_error_iff :
    (all setup st).outcome = .error e ↔
      ∃ s ∈ runTests setup st, (s.test setup).outcome = .error e ∧ e.isFatal = true := by
  rw [outcome_all_eq_error]
  constructor
  · intro h
    obtain ⟨earlier, t, hturns, hstep, -⟩ := turnsOf_of_firstFailure_eq_some h
    obtain ⟨hfailure, hfatal⟩ := Turn.outcome_step_eq_error.1 hstep
    obtain ⟨others, s, htests, -, hfailed⟩ := Turn.tests_of_failure hfailure
    have ht : t ∈ turns setup st := by
      rw [turns, hturns]
      exact List.mem_append_right _ (List.mem_singleton_self t)
    have hs : s ∈ t.tests setup := by
      rw [htests]
      exact List.mem_append_right _ (List.mem_singleton_self s)
    exact ⟨s, List.mem_flatMap.2 ⟨t, ht, hs⟩, hfailed, hfatal⟩
  · rintro ⟨s, hs, hfailed, hfatal⟩
    obtain ⟨t, ht, hs⟩ := List.mem_flatMap.1 hs
    have hfailure : t.failure setup = some e := Turn.failure_of_mem hs hfailed
    exact firstFailure_of_mem ht (Turn.outcome_step_eq_error.2 ⟨hfailure, hfatal⟩)

/-! ### The rules -/

/-- **Early ends.** How a run ends with a failure: in the turn of an instruction, with its last
test. All that was told before belongs to the instructions before and to the pairs of this one, and
the last thing that happened is the execution that was refused: the run ends in the state in which
the executor answered. -/
structure EndsIn (setup : Setup ε κ) (st : State σ ε κ) (e : Failure) (earlier : List (Turn σ ε κ))
    (t s : Turn σ ε κ) : Prop where
  turns : turns setup st = earlier ++ [t]
  tests : ∃ others, t.tests setup = others ++ [s]
  failed : (s.test setup).outcome = .error e
  fatal : e.isFatal = true
  told : ∃ reports es shown,
    observed (all setup st).events = .progress 0 setup.settings.instructions.length :: es ++
      .started t.instruction :: shown ∧
    Told setup setup.settings.instructions.length 0 earlier reports es ∧
    Shows setup.settings t.instruction (comparisons (t.step setup).events) shown
  last : ∃ before op0 op1 error, e = .native error ∧
    (all setup st).events = before ++ [.executed t.instruction op0 op1 (.error error)]
  refused : ∃ error, e = .native error ∧ answer setup t.instruction s.before = .error error
  ended : (all setup st).state = answered setup t.instruction s.before

/-- **The observer's rules.** What a run keeps towards its observer. -/
structure Protocol (setup : Setup ε κ) (st : State σ ε κ) : Prop where
  /-- A run that sums up has told of every selected instruction, in order. -/
  told (summary : Summary) (h : (all setup st).outcome = .ok summary) :
    (turns setup st).map Turn.instruction = setup.settings.instructions ∧
      ∃ es, observed (all setup st).events =
          .progress 0 setup.settings.instructions.length :: es ∧
        Told setup setup.settings.instructions.length 0 (turns setup st) summary.reports es
  /-- A run fails exactly with the fatal failures of its tests. -/
  failed (e : Failure) : (all setup st).outcome = .error e ↔
    ∃ s ∈ runTests setup st, (s.test setup).outcome = .error e ∧ e.isFatal = true
  /-- A run that fails ends with the test that failed. -/
  stopped (e : Failure) (h : (all setup st).outcome = .error e) :
    ∃ earlier t s, EndsIn setup st e earlier t s
  /-- Failures that are not fatal keep no selected instruction from its turn. -/
  passed (h : ∀ s ∈ runTests setup st, ∀ e, (s.test setup).outcome = .error e →
      e.isFatal = false) : (turns setup st).map Turn.instruction = setup.settings.instructions
  /-- In every turn, also in the one that ends the run, all is told that happens, in order. -/
  turn (t : Turn σ ε κ) (ht : t ∈ turns setup st) : t.IsTold setup
  /-- Outside the turns nothing is executed or compared. -/
  executed : transcript (all setup st).events =
    (turns setup st).flatMap fun t => transcript (t.step setup).events
  compared : comparisons (all setup st).events =
    (turns setup st).flatMap fun t => comparisons (t.step setup).events
  /-- All calls of the executor and of the checker are told of. -/
  recorded : Recorded setup st (all setup st).events (all setup st).state
  /-- For an instruction that is not supported nothing is drawn, executed or compared. -/
  unsupported (t : Turn σ ε κ) (ht : t ∈ turns setup st) (h : t.supported setup = false) :
    (t.step setup).events = [] ∧ (t.step setup).state.generator = t.before.generator ∧
      (t.step setup).state.executor = setup.executor.asked t.before.executor t.instruction ∧
      (t.step setup).state.checker = t.before.checker ∧
      (t.step setup).state.bench = t.before.bench

theorem told_all {summary : Summary} (h : (all setup st).outcome = .ok summary) :
    (turns setup st).map Turn.instruction = setup.settings.instructions ∧
      ∃ es, observed (all setup st).events =
          .progress 0 setup.settings.instructions.length :: es ∧
        Told setup setup.settings.instructions.length 0 (turns setup st) summary.reports es := by
  obtain ⟨hfailure, rfl⟩ := outcome_all_eq_ok h
  refine ⟨(turnsOf_of_firstFailure_eq_none hfailure).1,
    observed (spans setup setup.settings.instructions.length 0 (turns setup st)), ?_, ?_⟩
  · rw [events_all]
    rfl
  · rw [Summary.reports_foldl_add]
    exact told_spans (forall₂_values hfailure) _ _

/-- A test that fails fatally consists of the execution that was refused. -/
theorem Turn.test_of_fatal {s : Turn σ ε κ} (h : (s.test setup).outcome = .error e)
    (hfatal : e.isFatal = true) : ∃ error, e = .native error ∧
      answer setup s.instruction s.before = .error error ∧
      (s.test setup).events = [executed setup s.instruction s.before] ∧
      (s.test setup).state = answered setup s.instruction s.before := by
  obtain ⟨error, rfl, hanswer, hevents⟩ :=
    (tested_iteration setup s.instruction s.before).isFatal h hfatal
  have hstate : (s.test setup).state = answered setup s.instruction s.before := by
    rw [Turn.test, iteration_of_error hanswer]
  exact ⟨error, rfl, hanswer, hevents, hstate⟩

/-- What happens in a run that fails: all of the instructions before the last turn, and of that one
the start and the tests. -/
theorem events_all_of_error {earlier : List (Turn σ ε κ)} (hturns : turns setup st = earlier ++ [t])
    (hstep : (t.step setup).outcome = .error e) : (all setup st).events =
      .progress 0 setup.settings.instructions.length ::
        spans setup setup.settings.instructions.length 0 earlier ++
          .started t.instruction :: (t.step setup).events := by
  rw [events_all, hturns, spans_append, spans, Step.value?_of_error hstep]
  simp only [closing, spans, List.append_nil, List.cons_append]

/-- A run that fails ends in the state in which the last test of its last turn ended. -/
theorem state_all_of_error {earlier : List (Turn σ ε κ)} (hturns : turns setup st = earlier ++ [t])
    {others : List (Turn σ ε κ)} {s : Turn σ ε κ} (htests : t.tests setup = others ++ [s]) :
    (all setup st).state = (s.test setup).state := by
  rw [state_all, hturns, stateAfter_concat, Turn.state_step, htests, stateAfter_concat]

theorem endsIn_all (h : (all setup st).outcome = .error e) :
    ∃ earlier t s, EndsIn setup st e earlier t s := by
  rw [outcome_all_eq_error] at h
  obtain ⟨earlier, t, hturns, hstep, hearlier, -⟩ := turnsOf_of_firstFailure_eq_some h
  obtain ⟨hfailure, hfatal⟩ := Turn.outcome_step_eq_error.1 hstep
  obtain ⟨others, s, htests, hsame, hfailed⟩ := Turn.tests_of_failure hfailure
  have hevents := events_all_of_error hturns hstep
  obtain ⟨error, he, hanswer, hrefused, hstate⟩ := Turn.test_of_fatal hfailed hfatal
  rw [hsame] at hanswer hrefused hstate
  refine ⟨earlier, t, s, hturns, ⟨others, htests⟩, hfailed, hfatal, ?_, ?_, ⟨error, he, hanswer⟩,
    (state_all_of_error hturns htests).trans hstate⟩
  · refine ⟨_, _, observed (t.step setup).events, ?_, told_spans (forall₂_values hearlier) _ _,
      shows_instruction t.instruction t.before⟩
    rw [hevents, observed_append]
    rfl
  · have hlast : (t.step setup).events = (others.flatMap fun s => (s.test setup).events) ++
        [executed setup t.instruction s.before] := by
      rw [Turn.events_step, htests, List.flatMap_append, List.flatMap_singleton, hrefused]
    rw [executed, hanswer] at hlast
    refine ⟨.progress 0 setup.settings.instructions.length ::
      spans setup setup.settings.instructions.length 0 earlier ++ .started t.instruction ::
        others.flatMap fun s => (s.test setup).events,
      (operands t.instruction s.before).1, (operands t.instruction s.before).2, error, he, ?_⟩
    rw [hevents, hlast]
    simp only [List.cons_append, List.append_assoc]

/-- **The observer's rules.** Every run keeps the rules. -/
theorem protocol_all (setup : Setup ε κ) (st : State σ ε κ) : Protocol setup st where
  told _ h := told_all h
  failed _ := outcome_all_eq_error_iff
  stopped _ h := endsIn_all h
  passed h := by
    refine (turnsOf_of_firstFailure_eq_none ?_).1
    by_contra hfailure
    obtain ⟨e, he⟩ := Option.ne_none_iff_exists'.1 hfailure
    obtain ⟨s, hs, hfailed, hfatal⟩ :=
      outcome_all_eq_error_iff.1 (outcome_all_eq_error.2 he)
    rw [h s hs e hfailed] at hfatal
    cases hfatal
  turn t _ := t.isTold setup
  executed := transcript_all
  compared := comparisons_all
  recorded := recorded_all setup st
  unsupported t _ h := by
    rw [Turn.step_of_unsupported (ne_true_of_eq_false h)]
    exact ⟨rfl, rfl, rfl, rfl, rfl⟩

end Run

end VectorTrial
