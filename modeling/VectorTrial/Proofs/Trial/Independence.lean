import VectorTrial.Proofs.Trial.OnePair
import VectorTrial.Proofs.Trial.Records
import VectorTrial.Proofs.Trial.SideBySide

/-!
# What is executed does not depend on what is found

Operands come from the generator alone, and nothing that an executor answers or a checker finds
reaches it. Two runs with the same settings and the same generator thus execute the same
instructions on the same operands, as long as their executors support the same instructions and
always answer with results that fit. What is counted and shown on the way changes nothing either:
the runs are then alike in all that reaches executors and checkers.

## Main definitions

* `VectorTrial.Run.executions` — the executions that are told of.
* `VectorTrial.Executor.AgreesOnSupports`, `VectorTrial.Executor.AlwaysAnswers` — what is asked of
  two executors.
* `VectorTrial.Run.SameInputs` — states from which the same operands are drawn.
* `VectorTrial.Run.DiffersInPresentation` — runs that differ in what is told of them.

## Main results

* `VectorTrial.Run.executions_eq_map` — executions are told of with their answers.
* `VectorTrial.Run.kept_sameInputs`, `VectorTrial.Run.kept_presentation` — the two likenesses.
* `VectorTrial.Run.all_independent` — both for whole runs.
-/

namespace VectorTrial

/-! ### Executions -/

/-- The execution that an event tells of: the instruction and its operands. -/
def Event.execution? : Event → Option (Intrinsic × Register × Register)
  | executed i op0 op1 _ => some (i, op0, op1)
  | _ => none

namespace Run

/-- The executions that some events tell of. -/
def executions (events : List Event) : List (Intrinsic × Register × Register) :=
  events.filterMap Event.execution?

/-- The executions that are told of are those of the transcript, without the answers. -/
theorem executions_eq_map (events : List Event) :
    executions events = (transcript events).map fun x => (x.instruction, x.first, x.second) := by
  have hshown : ∀ e : Event, e.execution? =
      e.record?.map fun x => (x.instruction, x.first, x.second) := by
    intro e
    cases e <;> rfl
  rw [executions, transcript, List.map_filterMap]
  exact List.filterMap_congr fun e _ => hshown e

theorem executions_append (es fs : List Event) :
    executions (es ++ fs) = executions es ++ executions fs :=
  List.filterMap_append

theorem executions_of_isNotice {e : Event} (h : e.isNotice = true) : executions [e] = [] := by
  rw [executions_eq_map, transcript_of_isNotice h, List.map_nil]

variable {σ ε κ ε' κ' : Type} [DrawSource σ]

/-- Whatever way a test goes, it executes its instruction once, on the operands that it drew. -/
theorem Tested.executions_eq {setup : Setup ε κ} {i : Intrinsic} {st : State σ ε κ}
    {step : Step σ ε κ (Verdict × Register)} (h : Tested setup i st step) :
    executions step.events = [(i, (operands i st).1, (operands i st).2)] := by
  rw [executions_eq_map, h.transcript_eq.1]
  rfl

end Run

/-! ### Executors with a past -/

namespace Executor

variable {ε ε' : Type}

/-- What may be asked of an executor. -/
inductive Call where
  | support (i : Intrinsic)
  | execution (i : Intrinsic) (op0 op1 : Register)

/-- The state of an executor after a call. -/
def called (executor : Executor ε) (s : ε) : Call → ε
  | .support i => executor.asked s i
  | .execution i op0 op1 => (executor.execute s i op0 op1).2

/-- The state of an executor after some calls. -/
def after (executor : Executor ε) (s : ε) (calls : List Call) : ε := calls.foldl executor.called s

theorem after_concat (executor : Executor ε) (s : ε) (calls : List Call) (call : Call) :
    executor.after s (calls ++ [call]) = executor.called (executor.after s calls) call :=
  List.foldl_concat ..

/-- **Agreement.** After the same calls, two executors support the same instructions. -/
def AgreesOnSupports (executor : Executor ε) (s : ε) (executor' : Executor ε') (s' : ε') : Prop :=
  ∀ calls i, executor.supports (executor.after s calls) i =
    executor'.supports (executor'.after s' calls) i

/-- **Executors that answer.** After any calls, an executor answers for operands that fit with a
result that fits. -/
def AlwaysAnswers (executor : Executor ε) (s : ε) : Prop :=
  ∀ calls i op0 op1, op0.fits i.first = true → op1.fits i.second = true →
    ∃ result, (executor.execute (executor.after s calls) i op0 op1).1 = .ok result ∧
      result.fits i.result = true

end Executor

namespace Run

variable {σ ε κ ε' κ' : Type} [DrawSource σ]

/-! ### Other executors and other checkers -/

/-- Two benches for a target on which the same pairs can be built: both are at rest, or both hold a
pair already. -/
def BenchesAgree (triple : Option String) (v v' : Verification) : Prop :=
  v.AtRest triple ∧ v'.AtRest triple ∨ v.HoldsPair ∧ v'.HoldsPair

theorem benchesAgree_after (triple : Option String) (past : List Verification.Request) :
    BenchesAgree triple ((Verification.new triple).after past)
      ((Verification.new triple).after past) := by
  rcases (Verification.obeys_after triple past).pair with hempty | hlive
  · have hrest : ((Verification.new triple).after past).AtRest triple :=
      Verification.atRest_after (List.length_eq_zero_iff.2 hempty)
    exact Or.inl ⟨hrest, hrest⟩
  · exact Or.inr ⟨hlive, hlive⟩

/-- **Same inputs.** States with the same generator and with executors that were asked the same,
whatever was answered, on benches that agree. -/
structure SameInputs (executor : Executor ε) (s : ε) (executor' : Executor ε') (s' : ε')
    (triple : Option String) (st : State σ ε κ) (st' : State σ ε' κ') : Prop where
  generator : st'.generator = st.generator
  calls : ∃ calls, st.executor = executor.after s calls ∧ st'.executor = executor'.after s' calls
  benches : BenchesAgree triple st.bench st'.bench

/-- Runs are alike when they execute the same, whatever they find and report. -/
def sameInputs (executor : Executor ε) (s : ε) (executor' : Executor ε') (s' : ε')
    (triple : Option String) : Likeness σ ε κ ε' κ' where
  states := SameInputs executor s executor' s' triple
  events es es' := executions es = executions es'
  verdicts _ _ := True
  reports _ _ := True
  summaries _ _ := True

variable {setup : Setup ε κ} {setup' : Setup ε' κ'} {s : ε} {s' : ε'} {triple : Option String}
  {st : State σ ε κ} {st' : State σ ε' κ'}

theorem SameInputs.operands_eq
    (h : SameInputs setup.executor s setup'.executor s' triple st st') (i : Intrinsic) :
    operands i st' = operands i st := by
  rw [operands, operands, h.generator]

/-- The same is drawn and executed, whatever is answered. -/
theorem SameInputs.answered
    (h : SameInputs setup.executor s setup'.executor s' triple st st') (i : Intrinsic) :
    SameInputs setup.executor s setup'.executor s' triple (answered setup i st)
      (answered setup' i st') where
  generator := congrArg (fun g => (drawOperands g i).2) h.generator
  calls := by
    obtain ⟨calls, hcalls, hcalls'⟩ := h.calls
    refine ⟨calls ++ [.execution i (operands i st).1 (operands i st).2], ?_, ?_⟩
    · rw [Executor.after_concat, ← hcalls]
      rfl
    · rw [Executor.after_concat, ← hcalls', ← h.operands_eq i]
      rfl
  benches := h.benches

/-- Executors that always answer do so for the operands of a test. -/
theorem exists_answer (hanswers : setup.executor.AlwaysAnswers s) {calls : List Executor.Call}
    (hcalls : st.executor = setup.executor.after s calls) (i : Intrinsic) :
    ∃ result, answer setup i st = .ok result ∧ result.fits i.result = true := by
  obtain ⟨hfirst, hsecond⟩ := fits_operands i st
  rw [answer, hcalls]
  exact hanswers calls i _ _ hfirst hsecond

/-- **Tests with the same inputs.** Whatever is answered and found, two tests execute the same, and
both end with a verdict or both fail since a pair is on the bench. -/
theorem SameInputs.test (h : SameInputs setup.executor s setup'.executor s' triple st st')
    (hanswers : setup.executor.AlwaysAnswers s) (hanswers' : setup'.executor.AlwaysAnswers s')
    (i : Intrinsic) :
    (sameInputs setup.executor s setup'.executor s' triple).Steps (fun _ _ => True)
      (iteration setup i st) (iteration setup' i st') := by
  obtain ⟨calls, hcalls, hcalls'⟩ := h.calls
  obtain ⟨result, hanswer, hfit⟩ := exists_answer hanswers hcalls i
  obtain ⟨result', hanswer', hfit'⟩ := exists_answer hanswers' hcalls' i
  obtain ⟨hfirst, hsecond⟩ := fits_operands i st
  obtain ⟨hfirst', hsecond'⟩ := fits_operands i st'
  have hnext := h.answered i
  have hexecutions : executions (iteration setup i st).events =
      executions (iteration setup' i st').events := by
    rw [(tested_iteration setup i st).executions_eq,
      (tested_iteration setup' i st').executions_eq, h.operands_eq i]
  rcases h.benches with ⟨hrest, hrest'⟩ | ⟨hlive, hlive'⟩
  · obtain ⟨posed, hbuild, -, herased⟩ :=
      Verification.buildPair_of_atRest hrest hfirst hsecond hfit
    obtain ⟨posed', hbuild', -, herased'⟩ :=
      Verification.buildPair_of_atRest hrest' hfirst' hsecond' hfit'
    refine ⟨?_, ?_, hexecutions⟩ <;>
      rw [iteration_of_built hanswer hfit hbuild rfl, iteration_of_built hanswer' hfit' hbuild' rfl]
    · exact .ok trivial
    · exact ⟨hnext.generator, hnext.calls, Or.inl ⟨herased, herased'⟩⟩
  · -- The pair on the bench was not built by these tests, and it refuses both.
    have hbuild := Verification.buildPair_of_holdsPair hlive i (operands i st).1 (operands i st).2
      result i.result.laneWidth
    have hbuild' := Verification.buildPair_of_holdsPair hlive' i (operands i st').1
      (operands i st').2 result' i.result.laneWidth
    refine ⟨?_, ?_, hexecutions⟩ <;>
      rw [iteration_of_unbuilt hanswer hfit hbuild, iteration_of_unbuilt hanswer' hfit' hbuild']
    · exact .error _
    · exact ⟨hnext.generator, hnext.calls, hnext.benches⟩

/-- **Same inputs are kept.** Where the settings are the same, the executors agree and always
answer, two runs have the same inputs throughout. -/
theorem kept_sameInputs (hsettings : setup'.settings = setup.settings)
    (hagree : setup.executor.AgreesOnSupports s setup'.executor s')
    (hanswers : setup.executor.AlwaysAnswers s) (hanswers' : setup'.executor.AlwaysAnswers s') :
    (sameInputs setup.executor s setup'.executor s' triple : Likeness σ ε κ ε' κ').Kept setup
      setup' where
  repetitions := by rw [hsettings]
  instructions := by rw [hsettings]
  supports h i := by
    obtain ⟨calls, hcalls, hcalls'⟩ := h.calls
    rw [hcalls, hcalls']
    exact hagree calls i
  asked h i := by
    obtain ⟨calls, hcalls, hcalls'⟩ := h.calls
    refine ⟨h.generator, ⟨calls ++ [.support i], ?_, ?_⟩, h.benches⟩
    · rw [Executor.after_concat, ← hcalls]
      rfl
    · rw [Executor.after_concat, ← hcalls']
      rfl
  test h i := h.test hanswers hanswers' i
  nothing := rfl
  append {es es' fs fs'} h h' := by
    have happend : executions (es ++ fs) = executions (es' ++ fs') := by
      rw [executions_append, executions_append, (h : executions es = executions es'),
        (h' : executions fs = executions fs')]
    exact happend
  notice e e' h h' := (executions_of_isNotice h).trans (executions_of_isNotice h').symm
  start _ := trivial
  record _ _ := trivial
  ended _ _ := trivial
  repeated _ _ _ := trivial
  empty := trivial
  add _ _ := trivial

/-! ### What is counted and shown -/

/-- A setup in which repeated results are counted, and pairs are shown, as given. -/
def Setup.presented (setup : Setup ε κ) (debug dump : Bool) : Setup ε κ :=
  { setup with settings := { setup.settings with debug, dump } }

end Run

/-- The report without its number of repeated results. -/
def InstructionReport.unrepeated (r : InstructionReport) : InstructionReport :=
  { r with repeated := none }

/-- The summary without the numbers of repeated results. -/
def Summary.unrepeated (s : Summary) : Summary :=
  { s with reports := s.reports.map InstructionReport.unrepeated }

theorem Summary.unrepeated_add (s : Summary) (r : InstructionReport) :
    (s.add r).unrepeated = s.unrepeated.add r.unrepeated := by
  unfold unrepeated add
  cases houtcome : r.outcome <;>
    simp [countOutcome, InstructionReport.unrepeated, houtcome]

namespace Run

variable {σ ε κ : Type} [DrawSource σ]

/-- Runs are alike when they agree on all but what is shown and how many results were repeated. -/
def presentation : Likeness σ ε κ ε κ where
  states st st' := st' = st
  events es es' := executions es' = executions es ∧ comparisons es' = comparisons es
  verdicts v v' := v' = v
  reports r r' := r'.unrepeated = r.unrepeated
  summaries s s' := s'.unrepeated = s.unrepeated

variable {setup : Setup ε κ} {debug dump : Bool} {i : Intrinsic} {st : State σ ε κ}

/-- What is counted and shown changes neither the outcome of a test nor the state after it. -/
theorem Tested.presentation {step : Step σ ε κ (Verdict × Register)}
    (h : Tested (setup.presented debug dump) i st step) :
    presentation.Steps (fun a a' => a'.1 = a.1) (iteration setup i st) step := by
  have hexecutions : executions step.events = executions (iteration setup i st).events :=
    h.executions_eq.trans (tested_iteration setup i st).executions_eq.symm
  cases h with
  | refused e hanswer =>
    have hsame : answer setup i st = .error e := hanswer
    rw [iteration_of_error hsame]
    exact ⟨.error _, rfl, rfl, rfl⟩
  | unfit result hanswer hfit =>
    have hsame : answer setup i st = .ok result := hanswer
    rw [iteration_of_ok hsame, if_neg hfit]
    exact ⟨.error _, rfl, rfl, rfl⟩
  | unbuilt result e bench hanswer hfit hbuild =>
    have hsame : answer setup i st = .ok result := hanswer
    rw [iteration_of_unbuilt hsame hfit hbuild]
    exact ⟨.error _, rfl, rfl, rfl⟩
  | compared result posed verdict checker hanswer hfit hbuild hcompare =>
    have hsame : answer setup i st = .ok result := hanswer
    rw [iteration_of_built hsame hfit hbuild hcompare] at hexecutions ⊢
    refine ⟨.ok rfl, rfl, hexecutions, ?_⟩
    rw [comparisons_test, comparisons_test]

/-- **Presentation is kept apart.** Two runs that differ in what is counted and shown agree on all
else throughout. -/
theorem kept_presentation (setup : Setup ε κ) (debug dump : Bool) :
    (presentation : Likeness σ ε κ ε κ).Kept setup (setup.presented debug dump) where
  repetitions := rfl
  instructions := rfl
  supports h i := by rw [(h : _ = _)]; rfl
  asked h i := by rw [(h : _ = _)]; rfl
  test h i := by
    rw [(h : _ = _)]
    exact (tested_iteration _ i _).presentation
  nothing := ⟨rfl, rfl⟩
  append h h' := by
    refine ⟨?_, ?_⟩
    · rw [executions_append, executions_append, h.1, h'.1]
    · rw [comparisons_append, comparisons_append, h.2, h'.2]
  notice e e' h h' := by
    refine ⟨?_, ?_⟩
    · rw [executions_of_isNotice h, executions_of_isNotice h']
    · rw [comparisons_of_isNotice h, comparisons_of_isNotice h']
  start _ := rfl
  record {r r' v v'} h hv := by
    have hrecord : r'.unrepeated.record v' = r.unrepeated.record v := by
      rw [(h : r'.unrepeated = r.unrepeated), (hv : v' = v)]
    exact hrecord
  ended {r r'} h outcome := by
    have hended : { r'.unrepeated with outcome } = { r.unrepeated with outcome } := by
      rw [(h : r'.unrepeated = r.unrepeated)]
    exact hended
  repeated h _ _ := h
  empty := rfl
  add {s s' r r'} h hr := by
    have hadd : (s'.add r').unrepeated = (s.add r).unrepeated := by
      rw [Summary.unrepeated_add, Summary.unrepeated_add, (h : s'.unrepeated = s.unrepeated),
        (hr : r'.unrepeated = r.unrepeated)]
    exact hadd

/-! ### Whole runs -/

/-- **Presentation.** Two runs that execute and compare the same, end in the same state, and fail
for the same cause or sum up the same but for the numbers of repeated results. -/
structure DiffersInPresentation (run run' : Step σ ε κ Summary) : Prop where
  executions : executions run'.events = executions run.events
  comparisons : comparisons run'.events = comparisons run.events
  state : run'.state = run.state
  outcome : run'.outcome.map Summary.unrepeated = run.outcome.map Summary.unrepeated

theorem differsInPresentation_all (setup : Setup ε κ) (debug dump : Bool) (st : State σ ε κ) :
    DiffersInPresentation (all setup st) (all (setup.presented debug dump) st) := by
  have hstart : presentation.states st st := rfl
  obtain ⟨houtcome, hstates, hexecutions, hcomparisons⟩ :=
    (kept_presentation setup debug dump).all hstart
  refine ⟨hexecutions, hcomparisons, hstates, ?_⟩
  rcases houtcome.exists_or with ⟨a, a', hok, hok', hsame⟩ | ⟨e, herror, herror'⟩
  · rw [hok, hok']
    exact congrArg Except.ok hsame
  · rw [herror, herror']

/-- **Inputs are independent of outcomes and of presentation.** Let two runs have the same
settings, the same generator and the same bench, whatever was asked of it before. If after the same
calls their executors support the same instructions, and if they answer for all operands that fit
with results that fit, then both runs execute the same instructions on the same operands in the same
order, whatever is answered and found. With one executor and one checker, of any kind, it changes
neither the executions nor the comparisons nor the state at the end when repeated results are
counted or pairs are shown; nor does it change the outcome, but for the numbers of repeated results.
What is told of the executions is what the executor was asked for. -/
theorem all_independent {ε κ ε' κ' : Type} (setup : Setup ε κ) (setup' : Setup ε' κ')
    (st : State σ ε κ) (st' : State σ ε' κ') (triple : Option String)
    (past : List Verification.Request) :
    (setup'.settings = setup.settings → st'.generator = st.generator →
      st.bench = (Verification.new triple).after past → st'.bench = st.bench →
      setup.executor.AgreesOnSupports st.executor setup'.executor st'.executor →
      setup.executor.AlwaysAnswers st.executor → setup'.executor.AlwaysAnswers st'.executor →
      executions (all setup' st').events = executions (all setup st).events) ∧
    (∀ debug dump, DiffersInPresentation (all setup st) (all (setup.presented debug dump) st)) ∧
    ∀ kept : ε → List (Intrinsic × Register × Register),
      (∀ s i op0 op1, kept (setup.executor.execute s i op0 op1).2 = kept s ++ [(i, op0, op1)]) →
      (∀ s i, kept (setup.executor.asked s i) = kept s) →
      kept (all setup st).state.executor =
        kept st.executor ++ executions (all setup st).events := by
  refine ⟨fun hsettings hgenerator hbench hsame hagree hanswers hanswers' => ?_,
    fun debug dump => differsInPresentation_all setup debug dump st,
    fun kept hexecute hasked => ?_⟩
  · have hstart :
        SameInputs setup.executor st.executor setup'.executor st'.executor triple st st' := by
      refine ⟨hgenerator, ⟨[], rfl, rfl⟩, ?_⟩
      rw [hsame, hbench]
      exact benchesAgree_after triple past
    exact ((kept_sameInputs hsettings hagree hanswers hanswers').all hstart).events.symm
  · rw [executor_all kept (fun done x => done ++ [(x.instruction, x.first, x.second)]) hexecute
      hasked, foldl_concat_eq_append_map, executions_eq_map]

/-! ### Two executors -/

namespace TwoExecutors

/-- An executor that answers zeros. -/
def zeros : Setup Unit Tally where
  settings := ShortRun.settings
  executor := ⟨fun _ i => i.index.val ≠ 3, fun s i _ _ => (.ok (Register.zero i.result), s),
    fun s _ => s⟩
  checker := ShortRun.checker

/-- An executor that answers how often it was asked, and a checker that finds nothing correct. -/
def numbers : Setup Nat Unit where
  settings := ShortRun.settings
  executor := ⟨fun _ i => i.index.val ≠ 3,
    fun count i _ _ => (.ok (Register.pack i.result [Int64.ofNat count]), count + 1),
    fun count _ => count + 1⟩
  checker := ⟨"unsound", fun s _ _ _ => (.unsound, s), fun _ => .zero⟩

/-- The states before the runs. -/
def start {ε κ : Type} (s : ε) (k : κ) : State ShortRun.Zeros ε κ :=
  ⟨.new ShortRun.Zeros.mk .uniform, s, k, .new none⟩

end TwoExecutors

theorem all_independent_twoExecutors :
    (executions (all TwoExecutors.zeros (TwoExecutors.start () .zero)).events).length = 6 ∧
      executions (all TwoExecutors.numbers (TwoExecutors.start 0 ())).events =
        executions (all TwoExecutors.zeros (TwoExecutors.start () .zero)).events := by
  have hindependent := all_independent TwoExecutors.zeros TwoExecutors.numbers
    (TwoExecutors.start () .zero) (TwoExecutors.start 0 ()) none []
  refine ⟨by decide +kernel, hindependent.1 rfl rfl rfl rfl (fun _ _ => rfl) ?_ ?_⟩
  · exact fun _ i _ _ _ _ => ⟨_, rfl, Register.fits_pack i.result []⟩
  · exact fun _ i _ _ _ _ => ⟨_, rfl, Register.fits_pack i.result _⟩

end Run

end VectorTrial
