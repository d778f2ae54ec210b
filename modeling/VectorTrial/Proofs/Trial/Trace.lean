import VectorTrial.Proofs.Trial.History

/-!
# What holds along a run

A run is a chain of tests with questions to the executor and notices to an observer in between. A
relation between the state before a stretch of the run, what happens in it and the state after it
holds of the whole run when it holds of each link and of two stretches that follow one another.

## Main definitions

* `VectorTrial.Run.Chains` — a relation that holds of consecutive stretches together.

## Main results

* `VectorTrial.Run.Chains.tests`, `VectorTrial.Run.Chains.instruction` — what holds of every test
  holds of all tests of an instruction.
* `VectorTrial.Run.Chains.all` — and of a whole run.
* `VectorTrial.Run.filterMap_all` — what is read off a run is read off its turns.
-/

namespace VectorTrial

/-- Whether an event only tells an observer how far a run has come. -/
def Event.isNotice : Event → Bool
  | progress _ _ => true
  | started _ => true
  | finished _ _ => true
  | _ => false

namespace Run

variable {σ ε κ : Type}

/-- **Chains.** A relation between states and the events from the one to the other holds of nothing
at all and of consecutive stretches together. -/
structure Chains (R : State σ ε κ → List Event → State σ ε κ → Prop) : Prop where
  refl (st : State σ ε κ) : R st [] st
  trans {a b c : State σ ε κ} {es fs : List Event} (first : R a es b) (second : R b fs c) :
    R a (es ++ fs) c

namespace Chains

variable [DrawSource σ] {setup : Setup ε κ} {R : State σ ε κ → List Event → State σ ε κ → Prop}
  {i : Intrinsic} {st : State σ ε κ}

/-- What holds of every test of an instruction holds of all of them together. -/
theorem tests (hR : Chains R)
    (htest : ∀ st, R st (iteration setup i st).events (iteration setup i st).state) {count : Nat}
    {report : InstructionReport} {results : Option ResultMap} :
    R st (Run.tests setup i count report results st).events
      (Run.tests setup i count report results st).state := by
  induction count generalizing report results st with
  | zero => exact hR.refl st
  | succ count ih =>
    cases hout : (iteration setup i st).outcome with
    | ok value =>
      rw [tests_of_ok hout]
      exact hR.trans (htest st) ih
    | error e =>
      rw [tests_of_error hout]
      exact htest st

theorem instruction (hR : Chains R)
    (htest : ∀ st, R st (iteration setup i st).events (iteration setup i st).state)
    (hasked : ∀ st, R st [] (asked setup i st)) :
    R st (Run.instruction setup i st).events (Run.instruction setup i st).state := by
  unfold Run.instruction
  by_cases h : setup.executor.supports st.executor i = true
  · rw [if_pos h]
    exact hR.trans (hasked st) (hR.tests htest)
  · rw [if_neg h]
    exact hasked st

/-- What holds of every test, every question and every notice holds of what remains of a run. -/
theorem remaining (hR : Chains R)
    (htest : ∀ i st, R st (iteration setup i st).events (iteration setup i st).state)
    (hasked : ∀ i st, R st [] (asked setup i st))
    (hnotice : ∀ st e, e.isNotice = true → R st [e] st) {total done : Nat} {is : List Intrinsic}
    {summary : Summary} :
    R st (Run.remaining setup total done is summary st).events
      (Run.remaining setup total done is summary st).state := by
  induction is generalizing done summary st with
  | nil => exact hR.refl st
  | cons i rest ih =>
    have hstarted : R st (.started i :: (Run.instruction setup i st).events)
        (Run.instruction setup i st).state :=
      hR.trans (hnotice st (.started i) rfl) (hR.instruction (htest i) (hasked i))
    cases hout : (Run.instruction setup i st).outcome with
    | error e =>
      rw [remaining_of_error hout]
      exact hstarted
    | ok value =>
      have hclosed : R (Run.instruction setup i st).state
          [.finished value.1 value.2, .progress (done + 1) total]
          (Run.instruction setup i st).state :=
        hR.trans (hnotice _ (.finished value.1 value.2) rfl)
          (hnotice _ (.progress (done + 1) total) rfl)
      rw [remaining_of_ok hout]
      exact hR.trans (hR.trans hstarted hclosed) ih

/-- **Whole runs.** What holds of every test, every question and every notice holds of a run. -/
theorem all (hR : Chains R)
    (htest : ∀ i st, R st (iteration setup i st).events (iteration setup i st).state)
    (hasked : ∀ i st, R st [] (asked setup i st))
    (hnotice : ∀ st e, e.isNotice = true → R st [e] st) :
    R st (Run.all setup st).events (Run.all setup st).state :=
  hR.trans (hnotice st (.progress 0 setup.settings.instructions.length) rfl)
    (hR.remaining htest hasked hnotice)

end Chains

/-! ### What is read off a run -/

section Reading

variable [DrawSource σ] {setup : Setup ε κ} {st : State σ ε κ} {β : Type} {f : Event → Option β}
  (hf : ∀ e, e.isNotice = true → f e = none)

include hf

theorem filterMap_spans (total done : Nat) (ts : List (Turn σ ε κ)) :
    (spans setup total done ts).filterMap f =
      ts.flatMap fun t => (t.step setup).events.filterMap f := by
  induction ts generalizing done with
  | nil => rfl
  | cons t ts ih =>
    have hclosing : (closing total done (t.step setup).value?).filterMap f = [] := by
      cases (t.step setup).value? with
      | none => rfl
      | some value =>
        rw [closing, List.filterMap_cons_none (hf _ rfl), List.filterMap_cons_none (hf _ rfl)]
        rfl
    rw [spans, List.filterMap_append, List.filterMap_append, hclosing, List.append_nil,
      List.filterMap_cons_none (hf _ rfl), ih, List.flatMap_cons]

/-- **Reading runs.** What is read off a run, but not off its notices, is read off its turns. -/
theorem filterMap_all : (Run.all setup st).events.filterMap f =
    (turns setup st).flatMap fun t => (t.step setup).events.filterMap f := by
  rw [events_all, List.filterMap_cons_none (hf _ rfl)]
  exact filterMap_spans hf _ _ _

end Reading

end Run

end VectorTrial
