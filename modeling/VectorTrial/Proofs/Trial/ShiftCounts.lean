import VectorTrial.Proofs.Operand.Draws
import VectorTrial.Proofs.Trial.Courses
import VectorTrial.Proofs.Trial.Independence

/-!
# What a shift modulus does to a run

The shift modulus of a run brings every lane of a shift count below itself and does nothing else.
It changes neither other operands nor what is drawn later. Two runs that differ only in the modulus
thus execute the same instructions on the same first operands, as long as their executor does not
make it depend on a count whether it succeeds.

## Main definitions

* `VectorTrial.Run.CountsBelow` — executions whose counts are below a modulus.
* `VectorTrial.Executor.IgnoresCounts` — executors whose success does not depend on counts.
* `VectorTrial.Run.firstOperands` — the instructions that are executed, with their first operands.
* `VectorTrial.Run.SameDraws` — states of two runs that differ in the modulus.

## Main results

* `VectorTrial.Run.drawOperands_withShiftModulus` — what a modulus changes in a test.
* `VectorTrial.Run.keepsBelow_all` — the counts of a run are below its modulus.
* `VectorTrial.Run.keepsCourse_withShiftModulus` — runs that differ in the modulus go alike.
* `VectorTrial.Run.shiftModulus_reduces` — all of this for draws and for whole runs.
-/

namespace VectorTrial

/-! ### The operands of a test -/

/-- A bare scalar operand is a shift count. -/
theorem Intrinsic.isScalar_second_of_not_hasShiftCount {i : Intrinsic}
    (h : i.hasShiftCount = false) : i.second.isScalar = false := by
  have hall : ∀ k : Fin Catalog.size, Catalog.table[k].operation.isShift = false →
      Catalog.table[k].second.isScalar = false := by decide +kernel
  exact hall i.index h

namespace Run

variable {σ ε κ : Type} [DrawSource σ] {setup : Setup ε κ} {i : Intrinsic} {g : Generator σ}
  {m : UInt32}

/-- A modulus changes neither the first operand of a test, nor a second operand that is no shift
count, nor what is drawn afterwards. -/
theorem drawOperands_withShiftModulus (g : Generator σ) (modulus : Option UInt32)
    (i : Intrinsic) :
    (drawOperands (g.withShiftModulus modulus) i).1.1 = (drawOperands g i).1.1 ∧
      (i.hasShiftCount = false →
        (drawOperands (g.withShiftModulus modulus) i).1.2 = (drawOperands g i).1.2) ∧
      (drawOperands (g.withShiftModulus modulus) i).2 =
        (drawOperands g i).2.withShiftModulus modulus := by
  unfold drawOperands
  simp only [Generator.vector_withShiftModulus g modulus i.first_not_scalar]
  cases hcount : i.hasShiftCount with
  | true =>
    simp only [if_true]
    exact ⟨trivial, fun h => (nomatch h), Generator.shiftCount_withShiftModulus_snd _ _ _⟩
  | false =>
    have hvector := Generator.vector_withShiftModulus (g.vector i.first).2 modulus
      (Intrinsic.isScalar_second_of_not_hasShiftCount hcount)
    simp only [Bool.false_eq_true, if_false, hvector]
    exact ⟨trivial, fun _ => trivial, trivial⟩

/-- A generator keeps its modulus. -/
theorem shiftModulus_drawOperands (g : Generator σ) (i : Intrinsic) :
    (drawOperands g i).2.shiftModulus = g.shiftModulus := by
  unfold drawOperands
  cases i.hasShiftCount <;>
    simp only [Bool.false_eq_true, if_false, if_true, Generator.vector, Generator.shiftCount,
      Generator.fill_eq, Generator.withSource]

/-- The lanes of a shift count in a test are those that the generator draws under its modulus. -/
theorem lanes_count (hm : 0 < m) (hg : g.shiftModulus = some m) (hcount : i.hasShiftCount = true) :
    (drawOperands g i).1.2.lanes i.second.laneWidth =
      (g.vector i.first).2.countLanes (some m) i.second := by
  have hmodulus : (g.vector i.first).2.withShiftModulus (some m) = (g.vector i.first).2 := by
    have hkept : (g.vector i.first).2.shiftModulus = some m := by
      rw [Generator.vector, Generator.fill_eq]
      exact hg
    rw [Generator.withShiftModulus, Option.filter_some, decide_eq_true hm, if_pos rfl, ← hkept]
  unfold drawOperands
  rw [Generator.countLanes, hmodulus, hcount]
  rfl

/-- The lanes of a shift count in a test are not negative, and they are below the modulus and in the
range of a lane. -/
theorem bounds_of_mem_count (hm : 0 < m) (hg : g.shiftModulus = some m)
    (hcount : i.hasShiftCount = true) {v : Int64}
    (hv : v ∈ (drawOperands g i).1.2.lanes i.second.laneWidth) :
    0 ≤ v.toInt ∧
      v.toInt < ((min m.toNat (2 ^ (i.second.laneWidth.bits - 1)) : Nat) : Int) := by
  rw [lanes_count hm hg hcount] at hv
  exact ((g.vector i.first).2.reducesCounts hm i.second).bounds v hv

/-! ### The counts of a run -/

/-- However a test ends, the generator is left as the draws left it. -/
theorem Tested.generator_eq {st : State σ ε κ} {step : Step σ ε κ (Verdict × Register)}
    (h : Tested setup i st step) : step.state.generator = (drawOperands st.generator i).2 := by
  cases h with
  | refused e hanswer => rfl
  | unfit result hanswer hfit => rfl
  | unbuilt result e bench hanswer hfit hbuild => rfl
  | compared result posed verdict checker hanswer hfit hbuild hcompare => rfl

/-- Every shift count among some executions has only lanes that are not negative and below a
modulus. -/
def CountsBelow (m : UInt32) (calls : List Executor.Entry) : Prop :=
  ∀ x ∈ calls, x.instruction.hasShiftCount = true →
    ∀ v ∈ x.second.lanes x.instruction.second.laneWidth, 0 ≤ v.toInt ∧ v.toInt < (m.toNat : Int)

theorem CountsBelow.nil : CountsBelow m [] := fun _ h => absurd h List.not_mem_nil

/-- What is so of the generator before a stretch of a run, of the stretch and of the generator after
it. -/
def KeepsBelow (m : UInt32) (a : State σ ε κ) (events : List Event) (b : State σ ε κ) : Prop :=
  a.generator.shiftModulus = some m →
    b.generator.shiftModulus = some m ∧ CountsBelow m (transcript events)

omit [DrawSource σ] in
theorem chains_keepsBelow (m : UInt32) :
    Chains (KeepsBelow m : State σ ε κ → List Event → State σ ε κ → Prop) where
  refl _ h := ⟨h, .nil⟩
  trans := by
    intro a b c es fs hfirst hsecond h
    obtain ⟨hmiddle, hes⟩ := hfirst h
    obtain ⟨hlast, hfs⟩ := hsecond hmiddle
    rw [transcript_append]
    exact ⟨hlast, List.forall_mem_append.2 ⟨hes, hfs⟩⟩

/-- The counts of a test are those that it drew. -/
theorem keepsBelow_iteration (hm : 0 < m) (i : Intrinsic) (st : State σ ε κ) :
    KeepsBelow m st (iteration setup i st).events (iteration setup i st).state := by
  intro hg
  have htested := tested_iteration setup i st
  have hkept : (answered setup i st).generator.shiftModulus = some m :=
    (shiftModulus_drawOperands st.generator i).trans hg
  refine ⟨?_, ?_⟩
  · rw [htested.generator_eq]
    exact hkept
  · rw [htested.transcript_eq.1]
    refine List.forall_mem_singleton.2 fun hcount v hv => ?_
    obtain ⟨hlow, hhigh⟩ := bounds_of_mem_count hm hg hcount hv
    exact ⟨hlow, hhigh.trans_le (by exact_mod_cast min_le_left _ _)⟩

/-- **Counts.** In a run whose generator has a modulus, all counts are below it, and the generator
keeps the modulus. -/
theorem keepsBelow_all (hm : 0 < m) (st : State σ ε κ) :
    KeepsBelow m st (all setup st).events (all setup st).state :=
  (chains_keepsBelow m).all (keepsBelow_iteration hm)
    (fun _ _ h => ⟨h, .nil⟩) fun _ _ he h => ⟨h, by rw [transcript_of_isNotice he]; exact .nil⟩

end Run

/-! ### Executors that do not look at counts -/

/-- **Differing counts.** Two second operands that fit an instruction and that are the same unless
they are shift counts. -/
structure Intrinsic.DifferInCount (i : Intrinsic) (op1 op1' : Register) : Prop where
  fits : op1.fits i.second = true
  fits' : op1'.fits i.second = true
  eq (h : i.hasShiftCount = false) : op1' = op1

namespace Executor

variable {ε : Type}

/-- Calls that are the same but for a shift count. -/
inductive Call.DifferInCount : Call → Call → Prop
  | support (i : Intrinsic) : DifferInCount (.support i) (.support i)
  | execution {i : Intrinsic} {op0 op1 op1' : Register} (hfits : op0.fits i.first = true)
      (h : i.DifferInCount op1 op1') :
      DifferInCount (.execution i op0 op1) (.execution i op0 op1')

/-- How an answer ends a test: not at all where it is a result that fits, and otherwise in a failure
that is fatal or not. -/
def ending (i : Intrinsic) : Except WrapperError Register → Option Bool
  | .ok result => if result.fits i.result then none else some false
  | .error e => some (Failure.native e).isFatal

/-- **Ignored counts.** After calls that are the same but for shift counts, an executor supports the
same instructions, and whether it fails and how gravely does not depend on a count. What it answers
may depend on it. -/
structure IgnoresCounts (executor : Executor ε) (s : ε) : Prop where
  supports {calls calls' : List Call} (h : List.Forall₂ Call.DifferInCount calls calls')
    (i : Intrinsic) :
    executor.supports (executor.after s calls') i = executor.supports (executor.after s calls) i
  ending {calls calls' : List Call} (h : List.Forall₂ Call.DifferInCount calls calls')
    {i : Intrinsic} {op0 op1 op1' : Register} (hfits : op0.fits i.first = true)
    (hcount : i.DifferInCount op1 op1') :
    ending i (executor.execute (executor.after s calls') i op0 op1').1 =
      ending i (executor.execute (executor.after s calls) i op0 op1).1

end Executor

/-! ### Runs that differ in the modulus -/

/-- The first operand that an event tells of, with its instruction. -/
def Event.firstOperand? (e : Event) : Option (Intrinsic × Register) :=
  e.record?.map fun x => (x.instruction, x.first)

namespace Run

variable {σ ε κ : Type} [DrawSource σ] {setup : Setup ε κ} {i : Intrinsic} {s : ε}
  {triple : Option String} {modulus : Option UInt32} {st st' : State σ ε κ}

/-- The instructions that are executed, with their first operands. -/
def firstOperands (calls : List Executor.Entry) : List (Intrinsic × Register) :=
  calls.map fun x => (x.instruction, x.first)

theorem filterMap_firstOperand? (events : List Event) :
    events.filterMap Event.firstOperand? = firstOperands (transcript events) :=
  (List.map_filterMap ..).symm

/-- A setup with another shift modulus. -/
def Setup.withShiftModulus (setup : Setup ε κ) (modulus : Option UInt32) : Setup ε κ :=
  { setup with settings := { setup.settings with shiftModulus := modulus } }

/-- **Same draws.** States whose generators draw the same but for shift counts and whose executors
were asked the same but for these, on benches that agree. -/
structure SameDraws (executor : Executor ε) (s : ε) (triple : Option String)
    (modulus : Option UInt32) (st st' : State σ ε κ) : Prop where
  generator : st'.generator = st.generator.withShiftModulus modulus
  calls : ∃ calls calls', List.Forall₂ Executor.Call.DifferInCount calls calls' ∧
    st.executor = executor.after s calls ∧ st'.executor = executor.after s calls'
  benches : BenchesAgree triple st.bench st'.bench

namespace SameDraws

/-- The first operands are the same, and the second ones too unless they are shift counts. -/
theorem operands (h : SameDraws setup.executor s triple modulus st st') (i : Intrinsic) :
    (operands i st').1 = (operands i st).1 ∧
      i.DifferInCount (Run.operands i st).2 (Run.operands i st').2 := by
  obtain ⟨hfirst, hsecond, -⟩ := drawOperands_withShiftModulus st.generator modulus i
  rw [← h.generator] at hfirst hsecond
  exact ⟨hfirst, (fits_operands i st).2, (fits_operands i st').2, hsecond⟩

/-- The same is drawn, and the executors are asked the same but for a count. -/
theorem answered (h : SameDraws setup.executor s triple modulus st st') (i : Intrinsic) :
    SameDraws setup.executor s triple modulus (answered setup i st)
      (answered (setup.withShiftModulus modulus) i st') where
  generator := by
    obtain ⟨-, -, hnext⟩ := drawOperands_withShiftModulus st.generator modulus i
    rw [← h.generator] at hnext
    exact hnext
  calls := by
    obtain ⟨calls, calls', hcalls, hexecutor, hexecutor'⟩ := h.calls
    obtain ⟨hfirst, hcount⟩ := h.operands i
    refine ⟨calls ++ [.execution i (Run.operands i st).1 (Run.operands i st).2],
      calls' ++ [.execution i (Run.operands i st).1 (Run.operands i st').2],
      List.rel_append hcalls (.cons (.execution (fits_operands i st).1 hcount) .nil), ?_, ?_⟩
    · rw [Executor.after_concat, ← hexecutor]
      rfl
    · rw [Executor.after_concat, ← hexecutor', ← hfirst]
      rfl
  benches := h.benches

/-- The executors answer alike: both with results that fit, or with failures of the same weight. -/
theorem ending_answer (h : SameDraws setup.executor s triple modulus st st')
    (hignores : setup.executor.IgnoresCounts s) (i : Intrinsic) :
    Executor.ending i (answer (setup.withShiftModulus modulus) i st') =
      Executor.ending i (answer setup i st) := by
  obtain ⟨calls, calls', hcalls, hexecutor, hexecutor'⟩ := h.calls
  obtain ⟨hfirst, hcount⟩ := h.operands i
  rw [answer, answer, hexecutor, hexecutor', hfirst]
  exact hignores.ending hcalls (fits_operands i st).1 hcount

end SameDraws

/-- On a bench at rest only the answer decides how a test ends, and the bench is at rest
afterwards. -/
theorem ending_iteration_of_atRest (setup : Setup ε κ) (i : Intrinsic)
    (hrest : st.bench.AtRest triple) :
    (iteration setup i st).ending = Executor.ending i (answer setup i st) ∧
      (iteration setup i st).state.bench.AtRest triple := by
  obtain ⟨hfirst, hsecond⟩ := fits_operands i st
  cases hanswer : answer setup i st with
  | error e =>
    rw [iteration_of_error hanswer]
    exact ⟨rfl, hrest⟩
  | ok result =>
    by_cases hfit : result.fits i.result = true
    · obtain ⟨posed, hbuild, -, herased⟩ :=
        Verification.buildPair_of_atRest hrest hfirst hsecond hfit
      rw [iteration_of_built hanswer hfit hbuild rfl, Executor.ending, if_pos hfit]
      exact ⟨rfl, herased⟩
    · rw [iteration_of_ok hanswer, if_neg hfit, Executor.ending, if_neg hfit]
      exact ⟨rfl, hrest⟩

/-- Beside a live pair every test fails, and the bench stays as it is. -/
theorem ending_iteration_of_holdsPair (setup : Setup ε κ) (i : Intrinsic)
    (hlive : st.bench.HoldsPair) :
    (iteration setup i st).ending = some ((Executor.ending i (answer setup i st)).getD false) ∧
      (iteration setup i st).state.bench.HoldsPair := by
  cases hanswer : answer setup i st with
  | error e =>
    rw [iteration_of_error hanswer]
    exact ⟨rfl, hlive⟩
  | ok result =>
    by_cases hfit : result.fits i.result = true
    · have hbuild := Verification.buildPair_of_holdsPair hlive i (operands i st).1
        (operands i st).2 result i.result.laneWidth
      rw [iteration_of_unbuilt hanswer hfit hbuild, Executor.ending, if_pos hfit]
      exact ⟨rfl, hlive⟩
    · rw [iteration_of_ok hanswer, if_neg hfit, Executor.ending, if_neg hfit]
      exact ⟨rfl, hlive⟩

/-- **Tests with the same draws.** Two tests whose draws are the same but for a count end alike and
execute their instruction on the same first operand. -/
theorem SameDraws.test (h : SameDraws setup.executor s triple modulus st st')
    (hignores : setup.executor.IgnoresCounts s) (i : Intrinsic) :
    SameCourse (SameDraws setup.executor s triple modulus) Event.firstOperand?
      (iteration setup i st) (iteration (setup.withShiftModulus modulus) i st') := by
  have hanswers := h.ending_answer hignores i
  have hnext := h.answered i
  have htested := tested_iteration setup i st
  have htested' := tested_iteration (setup.withShiftModulus modulus) i st'
  have hstates (hbenches : BenchesAgree triple (iteration setup i st).state.bench
      (iteration (setup.withShiftModulus modulus) i st').state.bench) :
      SameDraws setup.executor s triple modulus (iteration setup i st).state
        (iteration (setup.withShiftModulus modulus) i st').state := by
    refine ⟨?_, ?_, hbenches⟩
    · rw [htested.generator_eq, htested'.generator_eq]
      exact hnext.generator
    · rw [htested.transcript_eq.2, htested'.transcript_eq.2]
      exact hnext.calls
  have hevents :
      (iteration (setup.withShiftModulus modulus) i st').events.filterMap Event.firstOperand? =
        (iteration setup i st).events.filterMap Event.firstOperand? := by
    rw [filterMap_firstOperand?, filterMap_firstOperand?, htested.transcript_eq.1,
      htested'.transcript_eq.1, firstOperands, firstOperands, List.map_singleton,
      List.map_singleton, execution, execution, (h.operands i).1]
  rcases h.benches with ⟨hrest, hrest'⟩ | ⟨hlive, hlive'⟩
  · obtain ⟨hending, hbench⟩ := ending_iteration_of_atRest setup i hrest
    obtain ⟨hending', hbench'⟩ :=
      ending_iteration_of_atRest (setup.withShiftModulus modulus) i hrest'
    exact ⟨by rw [hending, hending', hanswers], hstates (Or.inl ⟨hbench, hbench'⟩), hevents⟩
  · obtain ⟨hending, hbench⟩ := ending_iteration_of_holdsPair setup i hlive
    obtain ⟨hending', hbench'⟩ :=
      ending_iteration_of_holdsPair (setup.withShiftModulus modulus) i hlive'
    exact ⟨by rw [hending, hending', hanswers], hstates (Or.inr ⟨hbench, hbench'⟩), hevents⟩

/-- **Same draws are kept.** Where the executor ignores counts, two runs that differ in the modulus
draw the same but for shift counts throughout. -/
theorem keepsCourse_withShiftModulus (hignores : setup.executor.IgnoresCounts s)
    (triple : Option String) (modulus : Option UInt32) :
    KeepsCourse (SameDraws setup.executor s triple modulus : State σ ε κ → State σ ε κ → Prop)
      Event.firstOperand? setup (setup.withShiftModulus modulus) where
  repetitions := rfl
  instructions := rfl
  supports h i := by
    obtain ⟨calls, calls', hcalls, hexecutor, hexecutor'⟩ := h.calls
    rw [hexecutor, hexecutor']
    exact hignores.supports hcalls i
  asked h i := by
    obtain ⟨calls, calls', hcalls, hexecutor, hexecutor'⟩ := h.calls
    refine ⟨h.generator, ⟨calls ++ [.support i], calls' ++ [.support i],
      List.rel_append hcalls (.cons (.support i) .nil), ?_, ?_⟩, h.benches⟩
    · rw [Executor.after_concat, ← hexecutor]
      rfl
    · rw [Executor.after_concat, ← hexecutor']
      rfl
  test h i := h.test hignores i
  notice e he := by
    cases e with
    | executed i op0 op1 answer => cases he
    | _ => rfl

/-! ### Draws and runs under a modulus -/

/-- The state after some whole runs, one after the other. -/
def afterRuns (setup : Setup ε κ) (st : State σ ε κ) : Nat → State σ ε κ
  | 0 => st
  | n + 1 => (all setup (afterRuns setup st n)).state

theorem shiftModulus_afterRuns (setup : Setup ε κ) (hm : 0 < m)
    (hst : st.generator.shiftModulus = some m) (n : Nat) :
    (afterRuns setup st n).generator.shiftModulus = some m := by
  induction n with
  | zero => exact hst
  | succ n ih => exact (keepsBelow_all hm _ ih).1

theorem SameDraws.afterRuns (h : SameDraws setup.executor s triple modulus st st')
    (hignores : setup.executor.IgnoresCounts s) (n : Nat) :
    SameDraws setup.executor s triple modulus (afterRuns setup st n)
      (afterRuns (setup.withShiftModulus modulus) st' n) := by
  induction n with
  | zero => exact h
  | succ n ih => exact ((keepsCourse_withShiftModulus hignores triple modulus).all ih).states

omit [DrawSource σ] in
/-- Settings that are valid with a modulus are valid without one. -/
theorem prepare_withShiftModulus_none {g : Generator σ} {executor : ε} {checker : κ}
    {bench : Verification} (h : prepare setup.settings g executor checker bench = .ok st) :
    st = ⟨g.withShiftModulus setup.settings.shiftModulus, executor, checker, bench⟩ ∧
      prepare (setup.withShiftModulus none).settings g executor checker bench =
        .ok ⟨g.withShiftModulus none, executor, checker, bench⟩ := by
  obtain ⟨_, hvalid, hst⟩ := bind_eq_ok.1 h
  obtain ⟨_, hrange, -⟩ := bind_eq_ok.1 hvalid
  have hvalid' : (setup.withShiftModulus none).settings.validate = .ok () :=
    bind_eq_ok.2 ⟨(), hrange, rfl⟩
  exact ⟨(Except.ok.inj hst).symm, bind_eq_ok.2 ⟨(), hvalid', rfl⟩⟩

/-- **A shift modulus reduces counts and nothing else.** From every state of a generator, and for
operands of every shape, a modulus leaves the remainders of the lanes of a shift count, does not
change other vectors, and uses up as much of the source. In a run with valid settings that have a
modulus, whichever the generator had before and however many runs came before, the executor is given
only counts whose lanes are not negative and below the modulus. If it does not depend on counts how
the executor's tests end, the instructions that it is given and their first operands are those of
the run without a modulus. -/
theorem shiftModulus_reduces (setup : Setup ε κ) (g : Generator σ) (executor : ε) (checker : κ)
    (bench : Verification) {m : UInt32} (hm : 0 < m) :
    (∀ shape : Shape, g.ReducesCounts m shape) ∧
    ∀ st : State σ ε κ, setup.settings.shiftModulus = some m →
      prepare setup.settings g executor checker bench = .ok st →
      (∀ n, ∃ calls, Executes setup (afterRuns setup st n) calls ∧ CountsBelow m calls) ∧
      ∀ (triple : Option String) (past : List Verification.Request),
        bench = (Verification.new triple).after past → setup.executor.IgnoresCounts executor →
        ∃ st', prepare (setup.withShiftModulus none).settings g executor checker bench = .ok st' ∧
          ∀ n, ∃ calls calls', Executes setup (afterRuns setup st n) calls ∧
            Executes (setup.withShiftModulus none) (afterRuns (setup.withShiftModulus none) st' n)
              calls' ∧
            firstOperands calls = firstOperands calls' := by
  refine ⟨g.reducesCounts hm, fun st hmodulus hprepare => ?_⟩
  obtain ⟨rfl, hprepare'⟩ := prepare_withShiftModulus_none hprepare
  rw [hmodulus]
  refine ⟨fun n => ?_, fun triple past hbench hignores => ⟨_, hprepare', fun n => ?_⟩⟩
  · have hstart : (⟨g.withShiftModulus (some m), executor, checker, bench⟩ :
        State σ ε κ).generator.shiftModulus = some m := g.shiftModulus_withShiftModulus hm
    exact ⟨_, executes_transcript _ _,
      (keepsBelow_all hm _ (shiftModulus_afterRuns setup hm hstart n)).2⟩
  · have hstart : SameDraws setup.executor executor triple none
        (⟨g.withShiftModulus (some m), executor, checker, bench⟩ : State σ ε κ)
        ⟨g.withShiftModulus none, executor, checker, bench⟩ := by
      refine ⟨rfl, ⟨[], [], .nil, rfl, rfl⟩, ?_⟩
      rw [hbench]
      exact benchesAgree_after triple past
    refine ⟨_, _, executes_transcript _ _, executes_transcript _ _, ?_⟩
    rw [← filterMap_firstOperand?, ← filterMap_firstOperand?]
    exact ((keepsCourse_withShiftModulus hignores triple none).all
      (hstart.afterRuns hignores n)).events.symm

end Run

/-! ### Counts below five -/

namespace Run.BelowFive

/-- A source of minus ones. -/
structure MinusOnes where

instance : DrawSource MinusOnes where
  int8 s := (-1, s)
  int16 s := (-1, s)
  int32 s := (-1, s)
  int64 s := (-1, s)
  coin s := (false, s)
  pick _ positive s := (⟨0, positive⟩, s)

/-- An executor that answers with the lanes of the second operand. -/
def executor : Executor Unit :=
  ⟨fun _ _ => true,
    fun s i _ op1 => (.ok (Register.pack i.result (op1.lanes i.second.laneWidth)), s), fun s _ => s⟩

/-- Two tests each of a shuffle and two shifts with a modulus of five, on that executor with a
record of its calls. -/
def setup : Setup (Unit × List Executor.Entry) Tally where
  settings := ⟨2, ⟨7, 10⟩, false, .uniform, some 5, true⟩
  executor := executor.recording
  checker := ShortRun.checker

theorem ignoresCounts : setup.executor.IgnoresCounts ((), []) where
  supports _ _ := rfl
  ending := by
    intro calls calls' _ i op0 op1 op1' _ _
    have hfits : ∀ op : Register,
        (Register.pack i.result (op.lanes i.second.laneWidth)).fits i.result = true :=
      fun op => Register.fits_pack _ _
    exact (if_pos (hfits op1')).trans (if_pos (hfits op1)).symm

/-- The generator before the run, with a modulus that the settings replace. -/
def generator : Generator MinusOnes := ⟨⟨⟩, .uniform, some 3⟩

/-- The state before the run. -/
def start : State MinusOnes (Unit × List Executor.Entry) Tally :=
  ⟨⟨⟨⟩, .uniform, some 5⟩, ((), []), .zero, .new none⟩

end Run.BelowFive

namespace Run

theorem shiftModulus_reduces_belowFive :
    (all BelowFive.setup BelowFive.start).state.executor.2.length = 6 ∧
      CountsBelow 5 (all BelowFive.setup BelowFive.start).state.executor.2 ∧
      ∃ st', prepare (BelowFive.setup.withShiftModulus none).settings BelowFive.generator ((), [])
          Tally.zero (.new none) = .ok st' ∧
        firstOperands (all BelowFive.setup BelowFive.start).state.executor.2 =
          firstOperands (all (BelowFive.setup.withShiftModulus none) st').state.executor.2 := by
  have hprepare : prepare BelowFive.setup.settings BelowFive.generator ((), []) Tally.zero
      (.new none) = .ok BelowFive.start := rfl
  obtain ⟨hcounts, hfirst⟩ := (shiftModulus_reduces BelowFive.setup BelowFive.generator ((), [])
    Tally.zero (.new none) (m := 5) (by decide)).2 BelowFive.start rfl hprepare
  obtain ⟨calls, hcalls, hbelow⟩ := hcounts 0
  obtain ⟨st', hprepare', hsame⟩ := hfirst none [] rfl BelowFive.ignoresCounts
  obtain ⟨given, given', hgiven, hgiven', hoperands⟩ := hsame 0
  have hstart : st'.executor.2 = [] := by
    cases hprepare'
    rfl
  rw [afterRuns] at hcalls hgiven hgiven'
  have hrecord := hcalls.recorded_eq BelowFive.executor.records_recording rfl
  refine ⟨by decide +kernel, ?_, st', hprepare', ?_⟩
  · rw [hrecord]
    exact hbelow
  · rw [hgiven.recorded_eq BelowFive.executor.records_recording rfl,
      hgiven'.recorded_eq BelowFive.executor.records_recording hstart, hoperands]

end Run

end VectorTrial
