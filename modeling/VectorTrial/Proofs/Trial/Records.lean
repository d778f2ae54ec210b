import VectorTrial.Proofs.Trial.Comparisons

/-!
# What executors and checkers record

A run tells of each execution what was executed and what was answered, and of each comparison which
module was compared and with what verdict. That nothing else was asked of the executor and of the
checker shows in their states: those that record their calls have recorded what the run tells of.

## Main definitions

* `VectorTrial.Executor.Entry`, `VectorTrial.Checker.Entry` — calls with their answers.
* `VectorTrial.Executor.Records`, `VectorTrial.Checker.Records` — executors and checkers that record
  their calls.
* `VectorTrial.Run.transcript` — the executions that are told of.
* `VectorTrial.Run.Recorded` — a stretch of a run that tells of exactly the calls that were
  recorded.

## Main results

* `VectorTrial.Run.executor_all` — what an executor keeps of its executions.
* `VectorTrial.Run.recorded_iteration`, `VectorTrial.Run.recorded_instruction`,
  `VectorTrial.Run.recorded_all` — all calls are told of, in a test, for an instruction and in a run.
-/

namespace VectorTrial

/-! ### Calls with their answers -/

/-- **Executions.** What an executor was given, and what it answered. -/
structure Executor.Entry where
  instruction : Intrinsic
  first : Register
  second : Register
  answer : Except WrapperError Register

/-- **Comparisons.** What a checker was given, and its verdict. -/
structure Checker.Entry where
  module : Program.Module
  source : String
  target : String
  verdict : Verdict

/-- **Recording executors.** A record in the state of an executor has every execution with its
answer, in order. -/
structure Executor.Records {ε : Type} (executor : Executor ε) (record : ε → List Executor.Entry) :
    Prop where
  execute (s : ε) (i : Intrinsic) (op0 op1 : Register) :
    record (executor.execute s i op0 op1).2 =
      record s ++ [⟨i, op0, op1, (executor.execute s i op0 op1).1⟩]
  asked (s : ε) (i : Intrinsic) : record (executor.asked s i) = record s

/-- **Recording checkers.** A record in the state of a checker has every comparison with its
verdict, in order. -/
def Checker.Records {κ : Type} (checker : Checker κ) (record : κ → List Checker.Entry) : Prop :=
  ∀ k m s t, record (checker.compare k m s t).2 =
    record k ++ [⟨m, s, t, (checker.compare k m s t).1⟩]

/-- An executor with a record beside its state. -/
def Executor.recording {ε : Type} (executor : Executor ε) : Executor (ε × List Executor.Entry) where
  supports s i := executor.supports s.1 i
  execute s i op0 op1 :=
    let (answer, next) := executor.execute s.1 i op0 op1
    (answer, next, s.2 ++ [⟨i, op0, op1, answer⟩])
  asked s i := (executor.asked s.1 i, s.2)

/-- A checker with a record beside its state. -/
def Checker.recording {κ : Type} (checker : Checker κ) : Checker (κ × List Checker.Entry) where
  name := checker.name
  compare k m s t :=
    let (verdict, next) := checker.compare k.1 m s t
    (verdict, next, k.2 ++ [⟨m, s, t, verdict⟩])
  tally k := checker.tally k.1

/-- Every executor can be made to record its executions. -/
theorem Executor.records_recording {ε : Type} (executor : Executor ε) :
    executor.recording.Records Prod.snd where
  execute _ _ _ _ := rfl
  asked _ _ := rfl

/-- Every checker can be made to record its comparisons. -/
theorem Checker.records_recording {κ : Type} (checker : Checker κ) :
    checker.recording.Records Prod.snd :=
  fun _ _ _ _ => rfl

/-- The execution that an event tells of. -/
def Event.record? : Event → Option Executor.Entry
  | executed i op0 op1 answer => some ⟨i, op0, op1, answer⟩
  | _ => none

theorem Event.record?_of_isNotice {e : Event} (h : e.isNotice = true) : e.record? = none := by
  cases e with
  | executed i op0 op1 answer => cases h
  | _ => rfl

namespace Run

variable {σ ε κ β : Type}

/-- The executions that some events tell of, with their answers. -/
def transcript (events : List Event) : List Executor.Entry := events.filterMap Event.record?

theorem transcript_append (es fs : List Event) :
    transcript (es ++ fs) = transcript es ++ transcript fs :=
  List.filterMap_append

theorem transcript_of_isNotice {e : Event} (h : e.isNotice = true) : transcript [e] = [] :=
  List.filterMap_cons_none (Event.record?_of_isNotice h)

/-- The comparisons that some events tell of, as the checker was asked for them. -/
def posed (events : List Event) : List Checker.Entry :=
  (comparisons events).map fun c => ⟨c.1, Verification.sourceName, Verification.targetName, c.2⟩

theorem posed_append (es fs : List Event) : posed (es ++ fs) = posed es ++ posed fs := by
  rw [posed, comparisons_append, List.map_append]
  rfl

variable [DrawSource σ] {setup : Setup ε κ} {i : Intrinsic} {st : State σ ε κ}
  {step : Step σ ε κ (Verdict × Register)}

/-- What is told of the execution in a test. -/
def execution (setup : Setup ε κ) (i : Intrinsic) (st : State σ ε κ) : Executor.Entry :=
  ⟨i, (operands i st).1, (operands i st).2, answer setup i st⟩

/-- Whatever way a test goes, it executes its instruction once, on the operands that it drew. -/
theorem Tested.transcript_eq (h : Tested setup i st step) :
    transcript step.events = [execution setup i st] ∧
      step.state.executor = (answered setup i st).executor := by
  cases h with
  | refused e hanswer => exact ⟨rfl, rfl⟩
  | unfit result hanswer hfit => exact ⟨rfl, rfl⟩
  | unbuilt result e bench hanswer hfit hbuild => exact ⟨rfl, rfl⟩
  | compared result posed verdict checker hanswer hfit hbuild hcompare =>
    have hshown : transcript (mismatchEvents setup.settings i verdict posed) = [] := by
      unfold mismatchEvents
      split_ifs
      · rfl
      · cases posed.renderPair <;> rfl
    exact ⟨congrArg (execution setup i st :: ·) hshown, rfl⟩

/-- The executions of a run are those in its turns. -/
theorem transcript_all : transcript (all setup st).events =
    (turns setup st).flatMap fun t => transcript (t.step setup).events :=
  filterMap_all fun _ he => Event.record?_of_isNotice he

/-! ### The state of an executor -/

omit [DrawSource σ] in
/-- What is kept of two stretches of a run is what is kept of both transcripts together. -/
theorem chains_transcript (view : ε → β) (next : β → Executor.Entry → β) :
    Chains fun (a : State σ ε κ) es (b : State σ ε κ) =>
      view b.executor = (transcript es).foldl next (view a.executor) where
  refl _ := rfl
  trans := by
    intro a b c es fs hfirst hsecond
    rw [transcript_append, List.foldl_append, ← hfirst]
    exact hsecond

section Executors

variable (view : ε → β) (next : β → Executor.Entry → β)
  (hexecute : ∀ s i op0 op1, view (setup.executor.execute s i op0 op1).2 =
    next (view s) ⟨i, op0, op1, (setup.executor.execute s i op0 op1).1⟩)

include hexecute

theorem executor_iteration (i : Intrinsic) (st : State σ ε κ) :
    view (iteration setup i st).state.executor =
      (transcript (iteration setup i st).events).foldl next (view st.executor) := by
  obtain ⟨htranscript, hstate⟩ := (tested_iteration setup i st).transcript_eq
  rw [htranscript, hstate]
  exact hexecute _ _ _ _

variable (hasked : ∀ s i, view (setup.executor.asked s i) = view s)

include hasked

/-- **Executors.** Where an executor keeps something of each execution by a rule, all that it has
kept at the end of a run comes from the executions that the run tells of. -/
theorem executor_all : view (all setup st).state.executor =
    (transcript (all setup st).events).foldl next (view st.executor) := by
  refine (chains_transcript view next).all (executor_iteration view next hexecute)
    (fun _ _ => hasked _ _) (fun st e he => ?_)
  rw [transcript_of_isNotice he]
  rfl

end Executors

/-! ### Records -/

/-- To append something of each item of a list is to append all of it. -/
theorem foldl_concat_eq_append_map {α : Type} (f : α → β) (xs : List α) (start : List β) :
    xs.foldl (fun done x => done ++ [f x]) start = start ++ xs.map f := by
  rw [List.foldl_append_eq_append, ← List.flatMap_def, ← List.map_eq_flatMap]

/-- **Recorded stretches.** Executors and checkers that record their calls have recorded, between
two states of a run, the executions and comparisons that the run tells of, and nothing else. -/
structure Recorded (setup : Setup ε κ) (a : State σ ε κ) (events : List Event)
    (b : State σ ε κ) : Prop where
  executor (record : ε → List Executor.Entry) (h : setup.executor.Records record) :
    record b.executor = record a.executor ++ transcript events
  checker (record : κ → List Checker.Entry) (h : setup.checker.Records record) :
    record b.checker = record a.checker ++ posed events

section Fresh

variable {a b : State σ ε κ} {events : List Event}

omit [DrawSource σ] in
/-- What an executor has recorded in a stretch of a run before which nothing was on record. -/
theorem Recorded.executor_eq (h : Recorded setup a events b) {record : ε → List Executor.Entry}
    (hrecords : setup.executor.Records record) (hstart : record a.executor = []) :
    record b.executor = transcript events := by
  rw [h.executor record hrecords, hstart, List.nil_append]

omit [DrawSource σ] in
/-- What a checker has recorded in a stretch of a run before which nothing was on record. -/
theorem Recorded.checker_eq (h : Recorded setup a events b) {record : κ → List Checker.Entry}
    (hrecords : setup.checker.Records record) (hstart : record a.checker = []) :
    record b.checker = posed events := by
  rw [h.checker record hrecords, hstart, List.nil_append]

end Fresh

omit [DrawSource σ] in
/-- Two recorded stretches that follow one another are recorded together. -/
theorem chains_recorded (setup : Setup ε κ) :
    Chains (Recorded setup : State σ ε κ → List Event → State σ ε κ → Prop) where
  refl _ := ⟨fun _ _ => (List.append_nil _).symm, fun _ _ => (List.append_nil _).symm⟩
  trans := by
    intro a b c es fs hfirst hsecond
    constructor
    · intro record h
      rw [hsecond.executor record h, hfirst.executor record h, transcript_append,
        List.append_assoc]
    · intro record h
      rw [hsecond.checker record h, hfirst.checker record h, posed_append, List.append_assoc]

/-- **One test.** All calls in a test are told of. -/
theorem recorded_iteration (i : Intrinsic) (st : State σ ε κ) :
    Recorded setup st (iteration setup i st).events (iteration setup i st).state where
  executor record h := by
    obtain ⟨htranscript, hstate⟩ := (tested_iteration setup i st).transcript_eq
    rw [htranscript, hstate]
    exact h.execute _ _ _ _
  checker record h := by
    rw [(tested_iteration setup i st).checker_eq record
      (fun done m s t v => done ++ [Checker.Entry.mk m s t v]) h, keep, foldl_concat_eq_append_map]
    rfl

omit [DrawSource σ] in
/-- A question to the executor is no call on record. -/
theorem recorded_asked (i : Intrinsic) (st : State σ ε κ) :
    Recorded setup st [] (asked setup i st) where
  executor _ h := (h.asked st.executor i).trans (List.append_nil _).symm
  checker _ _ := (List.append_nil _).symm

omit [DrawSource σ] in
/-- A notice to an observer is no call. -/
theorem recorded_notice (st : State σ ε κ) {e : Event} (he : e.isNotice = true) :
    Recorded setup st [e] st where
  executor _ _ := by rw [transcript_of_isNotice he, List.append_nil]
  checker _ _ := by rw [posed, comparisons_of_isNotice he, List.map_nil, List.append_nil]

/-- **One instruction.** All calls in the turn of an instruction are told of. -/
theorem recorded_instruction (setup : Setup ε κ) (i : Intrinsic) (st : State σ ε κ) :
    Recorded setup st (instruction setup i st).events (instruction setup i st).state :=
  (chains_recorded setup).instruction (recorded_iteration i) (recorded_asked i)

/-- **Whole runs.** All calls of a run are told of. -/
theorem recorded_all (setup : Setup ε κ) (st : State σ ε κ) :
    Recorded setup st (all setup st).events (all setup st).state :=
  (chains_recorded setup).all recorded_iteration recorded_asked fun st _ he => recorded_notice st he

/-- **Executed calls.** The executions that a whole run tells of, with their answers. Every executor
that records its calls has recorded these in the run. -/
structure Executes (setup : Setup ε κ) (st : State σ ε κ) (calls : List Executor.Entry) : Prop where
  told : transcript (all setup st).events = calls
  recorded (record : ε → List Executor.Entry) (h : setup.executor.Records record) :
    record (all setup st).state.executor = record st.executor ++ calls

/-- What an executor has recorded that had recorded nothing before. -/
theorem Executes.recorded_eq {calls : List Executor.Entry} (h : Executes setup st calls)
    {record : ε → List Executor.Entry} (hrecords : setup.executor.Records record)
    (hstart : record st.executor = []) : record (all setup st).state.executor = calls := by
  rw [h.recorded record hrecords, hstart, List.nil_append]

theorem executes_transcript (setup : Setup ε κ) (st : State σ ε κ) :
    Executes setup st (transcript (all setup st).events) :=
  ⟨rfl, (recorded_all setup st).executor⟩

/-! ### The short run on record -/

/-- The short run with records beside the states of its executor and of its checker. -/
def ShortRun.recorded : Setup (Nat × List Executor.Entry) (Tally × List Checker.Entry) :=
  ⟨ShortRun.settings, ShortRun.executor.recording, ShortRun.checker.recording⟩

/-- The state before it, with nothing on record. -/
def ShortRun.unrecorded :
    State ShortRun.Zeros (Nat × List Executor.Entry) (Tally × List Checker.Entry) :=
  ⟨.new ShortRun.Zeros.mk .uniform, (0, []), (.zero, []), .new (some "x86_64")⟩

end Run

end VectorTrial
