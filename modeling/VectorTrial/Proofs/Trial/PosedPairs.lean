import VectorTrial.Proofs.Trial.Bench
import VectorTrial.Proofs.Trial.Records

/-!
# The pairs that a checker sees

Starting from a new bench, every comparison of a run is about the pair for the operands and the
result of the execution just before it. Whatever happens in a test, no function is left on the
bench after it.

## Main definitions

* `VectorTrial.Run.Reachable` — the states of a run's surroundings on a bench that began empty.
* `VectorTrial.Run.PosesExecuted` — every comparison is about the execution just before it.

## Main results

* `VectorTrial.Run.Tested.poses` — what one test preserves.
* `VectorTrial.Run.all_poses` — what whole runs preserve.
-/

namespace VectorTrial.Run

variable {σ ε κ : Type}

/-! ### Comparisons that follow executions -/

/-- **Posed comparisons.** Every comparison comes directly after an execution that gave a result,
and its module poses the pair for the operands and the result of that execution. -/
def PosesExecuted (events : List Event) : Prop :=
  ∀ before m verdict after, events = before ++ .compared m verdict :: after →
    ∃ earlier i op0 op1 result, before = earlier ++ [.executed i op0 op1 (.ok result)] ∧
      m.Poses i op0 op1 result

theorem PosesExecuted.of_comparisons_eq_nil {events : List Event} (h : comparisons events = []) :
    PosesExecuted events := by
  rintro before m verdict after rfl
  have hmem : (m, verdict) ∈ comparisons (before ++ .compared m verdict :: after) := by
    rw [comparisons_append]
    exact List.mem_append_right _ List.mem_cons_self
  rw [h] at hmem
  exact absurd hmem List.not_mem_nil

theorem PosesExecuted.append {es fs : List Event} (hes : PosesExecuted es)
    (hfs : PosesExecuted fs) : PosesExecuted (es ++ fs) := by
  intro before m verdict after h
  rcases List.append_eq_append_iff.1 h with ⟨first, rfl, hsecond⟩ | ⟨first, rfl, hsecond⟩
  · obtain ⟨earlier, i, op0, op1, result, rfl, hposes⟩ := hfs first m verdict after hsecond
    exact ⟨es ++ earlier, i, op0, op1, result, (List.append_assoc _ _ _).symm, hposes⟩
  · cases first with
    | nil =>
      -- The comparison would be the first event of the second stretch.
      obtain ⟨earlier, i, op0, op1, result, hnil, -⟩ := hfs [] m verdict after hsecond.symm
      exact absurd hnil.symm (List.append_ne_nil_of_right_ne_nil _ (List.cons_ne_nil _ _))
    | cons e rest =>
      obtain ⟨rfl, -⟩ := List.cons.inj hsecond
      exact hes before m verdict rest rfl

theorem PosesExecuted.of_poses {m : Program.Module} {verdict : Verdict} {i : Intrinsic}
    {op0 op1 result : Register} (h : m.Poses i op0 op1 result) :
    PosesExecuted [.executed i op0 op1 (.ok result), .compared m verdict] := by
  intro before m' verdict' after heq
  match before with
  | [] => cases heq
  | [e] =>
    obtain ⟨rfl, hrest⟩ := List.cons.inj heq
    cases hrest
    exact ⟨[], i, op0, op1, result, rfl, h⟩
  | _ :: _ :: _ => simp at heq

/-! ### One test -/

variable [DrawSource σ] {setup : Setup ε κ} {triple : Option String} {i : Intrinsic}
  {st : State σ ε κ} {step : Step σ ε κ (Verdict × Register)}

/-- **One test.** A test that starts with the bench at rest poses the pair for what was executed,
and leaves the bench at rest however it ends. -/
theorem Tested.poses (hrest : st.bench.AtRest triple) (h : Tested setup i st step) :
    step.state.bench.AtRest triple ∧ PosesExecuted step.events := by
  obtain ⟨hfirst, hsecond⟩ := fits_operands i st
  cases h with
  | refused e hanswer => exact ⟨hrest, .of_comparisons_eq_nil rfl⟩
  | unfit result hanswer hfit => exact ⟨hrest, .of_comparisons_eq_nil rfl⟩
  | unbuilt result e bench hanswer hfit hbuild =>
    obtain ⟨posed, hposed, -⟩ := Verification.buildPair_of_atRest hrest hfirst hsecond hfit
    rw [hbuild] at hposed
    cases hposed
  | compared result posed verdict checker hanswer hfit hbuild hcompare =>
    obtain ⟨posed', hposed, hposes, hcleared⟩ :=
      Verification.buildPair_of_atRest hrest hfirst hsecond hfit
    rw [hbuild] at hposed
    cases hposed
    have hshown : PosesExecuted (mismatchEvents setup.settings i verdict posed) :=
      .of_comparisons_eq_nil (comparisons_mismatchEvents _ _ _ _)
    refine ⟨hcleared, ?_⟩
    rw [executed, hanswer]
    exact (PosesExecuted.of_poses hposes).append hshown

/-! ### Whole runs -/

/-- **Reachable states.** The surroundings of valid settings begin with a new bench. After that
the generator may be replaced, single instructions may be tested and whole runs may be made, as
often as one likes and in any order. -/
inductive Reachable (setup : Setup ε κ) (triple : Option String) : State σ ε κ → Prop
  | prepared {generator : Generator σ} {executor : ε} {checker : κ} {st : State σ ε κ}
      (h : prepare setup.settings generator executor checker (.new triple) = .ok st) :
      Reachable setup triple st
  | redrawn {st : State σ ε κ} (generator : Generator σ) (h : Reachable setup triple st) :
      Reachable setup triple
        { st with generator := generator.withShiftModulus setup.settings.shiftModulus }
  | instruction {st : State σ ε κ} (i : Intrinsic) (h : Reachable setup triple st) :
      Reachable setup triple (Run.instruction setup i st).state
  | all {st : State σ ε κ} (h : Reachable setup triple st) :
      Reachable setup triple (Run.all setup st).state

/-- What is so of the bench before a stretch of a run, of the stretch and of the bench after it. -/
def Keeps (triple : Option String) (a : State σ ε κ) (events : List Event) (b : State σ ε κ) :
    Prop :=
  a.bench.AtRest triple → b.bench.AtRest triple ∧ PosesExecuted events

omit [DrawSource σ] in
theorem chains_keeps (triple : Option String) :
    Chains (Keeps triple : State σ ε κ → List Event → State σ ε κ → Prop) where
  refl _ hrest := ⟨hrest, .of_comparisons_eq_nil rfl⟩
  trans := by
    intro a b c es fs hfirst hsecond hrest
    obtain ⟨hmiddle, hes⟩ := hfirst hrest
    obtain ⟨hlast, hfs⟩ := hsecond hmiddle
    exact ⟨hlast, hes.append hfs⟩

theorem keeps_iteration (i : Intrinsic) (st : State σ ε κ) :
    Keeps triple st (iteration setup i st).events (iteration setup i st).state :=
  fun hrest => (tested_iteration setup i st).poses hrest

theorem keeps_instruction (i : Intrinsic) (st : State σ ε κ) :
    Keeps triple st (instruction setup i st).events (instruction setup i st).state :=
  (chains_keeps triple).instruction (keeps_iteration i) fun _ hrest =>
    ⟨hrest, .of_comparisons_eq_nil rfl⟩

theorem keeps_all (st : State σ ε κ) :
    Keeps triple st (all setup st).events (all setup st).state :=
  (chains_keeps triple).all keeps_iteration
    (fun _ _ hrest => ⟨hrest, .of_comparisons_eq_nil rfl⟩)
    fun _ _ he hrest => ⟨hrest, .of_comparisons_eq_nil (comparisons_of_isNotice he)⟩

/-- In every reachable state the bench is at rest. -/
theorem Reachable.atRest (h : Reachable setup triple st) : st.bench.AtRest triple := by
  induction h with
  | prepared h =>
    obtain ⟨_, -, h⟩ := bind_eq_ok.1 h
    cases h
    exact Verification.atRest_new triple
  | redrawn generator h ih => exact ih
  | instruction i h ih => exact (keeps_instruction i _ ih).1
  | all h ih => exact (keeps_all _ ih).1

/-- Every test of a run starts with the bench at rest. -/
theorem atRest_of_mem_runTests (hrest : st.bench.AtRest triple) {t : Turn σ ε κ}
    (ht : t ∈ runTests setup st) : t.before.bench.AtRest triple := by
  obtain ⟨u, hu, ht⟩ := List.mem_flatMap.1 ht
  have hturn : u.before.bench.AtRest triple :=
    forall_turnsOf (P := fun st => st.bench.AtRest triple)
      (fun v hv => (keeps_instruction v.instruction v.before hv).1) hrest u hu
  obtain ⟨count, htests⟩ := u.exists_tests_eq setup
  rw [htests] at ht
  have hasked : (asked setup u.instruction u.before).bench.AtRest triple := hturn
  exact forall_turnsOf (P := fun st => st.bench.AtRest triple)
    (fun v hv => (keeps_iteration v.instruction v.before hv).1) hasked t ht

/-- **Posed pairs.** In a run on a bench that began empty, every comparison comes directly after an
execution that gave a result, and its module poses the pair for exactly that instruction, those
operands and that result. These executions are what the executor was given and what it answered, and
these comparisons are what the checker was asked for: either has recorded them, if it records its
calls. A checker that logs its questions alone logs these modules, and nothing else. After every
test of the run, however it ended, the bench holds no function. -/
theorem all_poses (h : Reachable setup triple st) :
    PosesExecuted (all setup st).events ∧
      Recorded setup st (all setup st).events (all setup st).state ∧
      (∀ log : κ → List (Program.Module × String × String),
        (∀ k m s t, log (setup.checker.compare k m s t).2 = log k ++ [(m, s, t)]) →
        log (all setup st).state.checker = log st.checker ++
          (comparisons (all setup st).events).map fun c => (c.1, "src", "tgt")) ∧
      ∀ t ∈ runTests setup st, (t.test setup).state.bench.module.functions = [] := by
  refine ⟨(keeps_all st h.atRest).2, recorded_all setup st, fun log hlog => ?_, fun t ht => ?_⟩
  · rw [checker_all log (fun b m s t _ => b ++ [(m, s, t)]) hlog, keep, foldl_concat_eq_append_map]
    rfl
  · have hrest : t.before.bench.AtRest triple := atRest_of_mem_runTests h.atRest ht
    have hafter : (t.test setup).state.bench.AtRest triple :=
      (keeps_iteration t.instruction t.before hrest).1
    exact hafter.functions

theorem all_poses_shortRun :
    Reachable ShortRun.recorded (some "x86_64") ShortRun.unrecorded ∧
      PosesExecuted (all ShortRun.recorded ShortRun.unrecorded).events ∧
      (all ShortRun.recorded ShortRun.unrecorded).state.executor.2 =
        transcript (all ShortRun.recorded ShortRun.unrecorded).events ∧
      (transcript (all ShortRun.recorded ShortRun.unrecorded).events).length = 5 ∧
      (all ShortRun.recorded ShortRun.unrecorded).state.checker.2 =
        posed (all ShortRun.recorded ShortRun.unrecorded).events ∧
      (posed (all ShortRun.recorded ShortRun.unrecorded).events).length = 3 ∧
      ∀ t ∈ runTests ShortRun.recorded ShortRun.unrecorded,
        (t.test ShortRun.recorded).state.bench.module.functions = [] := by
  have hstart : prepare ShortRun.recorded.settings (Generator.new ShortRun.Zeros.mk .uniform)
      (0, []) (.zero, []) (.new (some "x86_64")) = .ok ShortRun.unrecorded := rfl
  obtain ⟨hposes, hrecorded, -, hempty⟩ := all_poses (.prepared hstart)
  have hexecutor := hrecorded.executor_eq ShortRun.executor.records_recording rfl
  have hchecker := hrecorded.checker_eq ShortRun.checker.records_recording rfl
  have hexecutions :
      (transcript (all ShortRun.recorded ShortRun.unrecorded).events).length = 5 := by
    decide +kernel
  have hcomparisons : (posed (all ShortRun.recorded ShortRun.unrecorded).events).length = 3 := by
    decide +kernel
  exact ⟨.prepared hstart, hposes, hexecutor, hexecutions, hchecker, hcomparisons, hempty⟩

end VectorTrial.Run
