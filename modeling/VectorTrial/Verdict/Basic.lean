/-!
# Verdicts and their tallies

The comparison of two functions has one of four outcomes. A tally counts how often each occurred.

## Main definitions

* `VectorTrial.Verdict` — the outcomes.
* `VectorTrial.Tally` — four counters.
* `VectorTrial.Tally.record` — counts one more outcome.

## Main results

* `VectorTrial.Tally.total_record` — each comparison counts once.
* `VectorTrial.Tally.count_record` — it counts for its own outcome only.
-/

namespace VectorTrial

/-- **Verdicts.** The outcome of one comparison. -/
inductive Verdict where
  /-- The functions agree on all inputs. -/
  | correct
  /-- The functions differ on some input. -/
  | unsound
  /-- Neither was shown, for instance for lack of time. -/
  | failed
  /-- The checker broke down. -/
  | errored
  deriving DecidableEq, Repr

namespace Verdict

/-- The outcomes in the order in which they are listed. -/
def all : List Verdict := [correct, unsound, failed, errored]

/-- The name of an outcome. -/
def name : Verdict → String
  | correct => "correct"
  | unsound => "unsound"
  | failed => "failed"
  | errored => "errored"

/-- Whether the functions were shown to agree. -/
def isCorrect (v : Verdict) : Bool := v = correct

end Verdict

/-- **Tallies.** How often each outcome occurred. -/
structure Tally where
  correct : Nat
  unsound : Nat
  failed : Nat
  errors : Nat
  deriving DecidableEq, Repr

namespace Tally

/-- The tally before any comparison. -/
def zero : Tally := ⟨0, 0, 0, 0⟩

/-- How often an outcome occurred. -/
def count (t : Tally) : Verdict → Nat
  | .correct => t.correct
  | .unsound => t.unsound
  | .failed => t.failed
  | .errored => t.errors

/-- The tally after one more comparison. -/
def record (t : Tally) : Verdict → Tally
  | .correct => { t with correct := t.correct + 1 }
  | .unsound => { t with unsound := t.unsound + 1 }
  | .failed => { t with failed := t.failed + 1 }
  | .errored => { t with errors := t.errors + 1 }

/-- The number of comparisons. -/
def total (t : Tally) : Nat := t.correct + t.unsound + t.failed + t.errors

/-- What was counted after an earlier tally was taken. A counter that has not grown counts
nothing. -/
def since (t earlier : Tally) : Tally :=
  ⟨t.correct - earlier.correct, t.unsound - earlier.unsound, t.failed - earlier.failed,
    t.errors - earlier.errors⟩

theorem total_record (t : Tally) (v : Verdict) : (t.record v).total = t.total + 1 := by
  cases v <;> simp only [record, total] <;> omega

theorem count_record (t : Tally) (v w : Verdict) :
    (t.record v).count w = t.count w + if v = w then 1 else 0 := by
  cases v <;> cases w <;> rfl

theorem since_record_self (t : Tally) (v : Verdict) :
    ((t.record v).since t).total = 1 := by
  cases v <;> simp only [record, since, total] <;> omega

end Tally

end VectorTrial
