import VectorTrial.Proofs.Trial.Bench
import VectorTrial.Proofs.Trial.Iteration
import VectorTrial.Proofs.Trial.Trace

/-!
# What a checker is asked

A run tells of each comparison which module was compared and with what verdict. Nothing else
reaches the checker: its state at the end of a run is the state that these comparisons lead to.

## Main definitions

* `VectorTrial.Run.comparisons` — the comparisons that are told of.
* `VectorTrial.Run.Compares` — a comparison is about the answer of a test.

## Main results

* `VectorTrial.Run.Tested.compares` — a test compares its result once where it ends with a verdict,
  and nothing otherwise.
* `VectorTrial.Run.checker_all` — what a checker keeps of its comparisons.
-/

namespace VectorTrial

/-- The comparison that an event tells of. -/
def Event.comparison? : Event → Option (Program.Module × Verdict)
  | compared m verdict => some (m, verdict)
  | _ => none

theorem Event.comparison?_of_isNotice {e : Event} (h : e.isNotice = true) :
    e.comparison? = none := by
  cases e with
  | compared m verdict => cases h
  | _ => rfl

namespace Run

variable {σ ε κ : Type}

/-- The comparisons that some events tell of: the modules with the verdicts. -/
def comparisons (events : List Event) : List (Program.Module × Verdict) :=
  events.filterMap Event.comparison?

/-- The verdicts of the comparisons that some events tell of. -/
def verdicts (events : List Event) : List Verdict := (comparisons events).map Prod.snd

theorem comparisons_append (es fs : List Event) :
    comparisons (es ++ fs) = comparisons es ++ comparisons fs :=
  List.filterMap_append

theorem comparisons_of_isNotice {e : Event} (h : e.isNotice = true) : comparisons [e] = [] :=
  List.filterMap_cons_none (Event.comparison?_of_isNotice h)

/-- To show a pair is no comparison. -/
theorem comparisons_mismatchEvents (settings : Settings) (i : Intrinsic) (verdict : Verdict)
    (bench : Verification) : comparisons (mismatchEvents settings i verdict bench) = [] := by
  unfold mismatchEvents
  by_cases h : (verdict.isCorrect || !settings.dump) = true
  · rw [if_pos h]
    rfl
  · rw [if_neg h]
    cases bench.renderPair <;> rfl

variable [DrawSource σ] {setup : Setup ε κ} {i : Intrinsic} {st : State σ ε κ}
  {step : Step σ ε κ (Verdict × Register)}

/-- The comparisons in a test whose pair was compared. -/
theorem comparisons_test (setup : Setup ε κ) (i : Intrinsic) (st : State σ ε κ)
    (posed : Verification) (verdict : Verdict) :
    comparisons (executed setup i st :: .compared posed.module verdict ::
      mismatchEvents setup.settings i verdict posed) = [(posed.module, verdict)] :=
  congrArg ((posed.module, verdict) :: ·)
    (comparisons_mismatchEvents setup.settings i verdict posed)

/-- **Compared results.** A comparison is about the answer of a test when it has its verdict, and
the target of the module that was compared returns a constant that packs to its result. -/
def Compares (i : Intrinsic) (c : Program.Module × Verdict) (a : Verdict × Register) : Prop :=
  c.2 = a.1 ∧ ∃ value : Program.Constant,
    c.1.function? Verification.targetName =
      some (.returning Verification.targetName (.ofShape i.result) value) ∧
    Register.ofLanes i.result value.elements = .ok a.2

/-- A test compares its result once where it ends with a verdict, and nothing otherwise. -/
theorem Tested.compares (h : Tested setup i st step) :
    List.Forall₂ (Compares i) (comparisons step.events) step.value?.toList := by
  cases h with
  | refused e hanswer => exact .nil
  | unfit result hanswer hfit => exact .nil
  | unbuilt result e bench hanswer hfit hbuild => exact .nil
  | compared result posed verdict checker hanswer hfit hbuild hcompare =>
    obtain ⟨htarget, -⟩ := Verification.functions_of_buildPair hbuild
    rw [Program.Ty.ofRegister_of_fits hfit] at htarget
    rw [comparisons_test]
    exact .cons ⟨rfl, _, htarget, Program.Constant.ofLanes_elements hfit⟩ .nil

/-- The comparisons of a run are those in its turns. -/
theorem comparisons_all : comparisons (all setup st).events =
    (turns setup st).flatMap fun t => comparisons (t.step setup).events :=
  filterMap_all fun _ he => Event.comparison?_of_isNotice he

/-! ### The state of a checker -/

variable {β : Type}

/-- What is kept of some comparisons by a rule that is applied to one after the other. -/
def keep (next : β → Program.Module → String → String → Verdict → β) (b : β)
    (cs : List (Program.Module × Verdict)) : β :=
  cs.foldl (fun b c => next b c.1 Verification.sourceName Verification.targetName c.2) b

theorem Tested.checker_eq (view : κ → β)
    (next : β → Program.Module → String → String → Verdict → β)
    (hview : ∀ k m s t, view (setup.checker.compare k m s t).2 =
      next (view k) m s t (setup.checker.compare k m s t).1) (h : Tested setup i st step) :
    view step.state.checker = keep next (view st.checker) (comparisons step.events) := by
  cases h with
  | refused e hanswer => rfl
  | unfit result hanswer hfit => rfl
  | unbuilt result e bench hanswer hfit hbuild => rfl
  | compared result posed verdict checker hanswer hfit hbuild hcompare =>
    have hchecker := hview st.checker posed.module Verification.sourceName Verification.targetName
    rw [hcompare] at hchecker
    rw [comparisons_test]
    exact hchecker

omit [DrawSource σ] in
/-- What is kept of two stretches of a run is what is kept of both comparisons together. -/
theorem chains_keep (view : κ → β) (next : β → Program.Module → String → String → Verdict → β) :
    Chains fun (a : State σ ε κ) es (b : State σ ε κ) =>
      view b.checker = keep next (view a.checker) (comparisons es) where
  refl _ := rfl
  trans := by
    intro a b c es fs hfirst hsecond
    rw [comparisons_append, keep, List.foldl_append]
    exact hsecond.trans (congrArg (fun b => keep next b (comparisons fs)) hfirst)

section Checkers

variable (view : κ → β) (next : β → Program.Module → String → String → Verdict → β)
  (hview : ∀ k m s t, view (setup.checker.compare k m s t).2 =
    next (view k) m s t (setup.checker.compare k m s t).1)

include hview

/-- **Checkers.** Where a checker keeps something of each comparison by a rule, all that it has
kept at the end of a run comes from the comparisons that the run tells of. -/
theorem checker_all : view (all setup st).state.checker =
    keep next (view st.checker) (comparisons (all setup st).events) := by
  refine (chains_keep view next).all
    (fun i st => (tested_iteration setup i st).checker_eq view next hview)
    (fun i st => rfl) (fun st e he => ?_)
  rw [comparisons_of_isNotice he]
  rfl

end Checkers

end Run

/-! ### A short run -/

/-! The general theorems about runs are applied to this one: four instructions, two tests of each.
The first is completed, the second aborted after one test, the third turns out to be unsupported in
its first test, and the fourth is not tried. -/

namespace Run.ShortRun

/-- A source of zeros. -/
structure Zeros where

instance : DrawSource Zeros where
  int8 s := (0, s)
  int16 s := (0, s)
  int32 s := (0, s)
  int64 s := (0, s)
  coin s := (false, s)
  pick _ positive s := (⟨0, positive⟩, s)

/-- Two tests of each of the first four instructions. -/
def settings : Settings := ⟨2, ⟨0, 4⟩, true, .uniform, none, true⟩

/-- An executor that counts its calls. The fourth answer has a wrong layout, the fifth is an
error. -/
def executor : Executor Nat where
  supports _ i := i.index.val ≠ 3
  execute count i _ _ :=
    match count with
    | 3 => (.ok (Register.zero .scalar32), count + 1)
    | 4 => (.error (.unsupportedCpu i.name i.featureNames), count + 1)
    | _ => (.ok (Register.zero i.result), count + 1)

/-- A checker that finds every other pair unsound. -/
def checker : Checker Tally where
  name := "alternating"
  compare t _ _ _ :=
    if t.total % 2 = 0 then (.unsound, t.record .unsound) else (.correct, t.record .correct)
  tally t := t

/-- What the run works with. -/
def setup : Setup Nat Tally := ⟨settings, executor, checker⟩

/-- The state before the run. -/
def start : State Zeros Nat Tally := ⟨.new Zeros.mk .uniform, 0, .zero, .new (some "x86_64")⟩

end Run.ShortRun

end VectorTrial
