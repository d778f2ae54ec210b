import VectorTrial.Instruction.Catalog
import VectorTrial.Lane.Register

/-!
# Repeated results

How often each result came back for one instruction. The first sighting of a value counts nothing
and every later one counts once, so the total is the number of tests that told nothing new.

## Main definitions

* `VectorTrial.ResultMap` — values with their repetitions.
* `VectorTrial.ResultMap.record` — one more result.
* `VectorTrial.ResultMap.mostFrequent?` — the value that came back most often.

## Main results

* `VectorTrial.ResultMap.distinct_add_repetitions_record` — every result counts once, as a new
  value or as a repetition.
-/

namespace VectorTrial

/-- **Repeated results.** The values seen, in the order of their first sightings, each with the
number of its later ones. -/
structure ResultMap where
  entries : List (Register × Nat)
  deriving DecidableEq

namespace ResultMap

/-- The map before any result. -/
def empty : ResultMap := ⟨[]⟩

/-- The entries after one more sighting of a value. -/
def sight (value : Register) : List (Register × Nat) → List (Register × Nat)
  | [] => [(value, 0)]
  | (v, n) :: rest => if v = value then (v, n + 1) :: rest else (v, n) :: sight value rest

/-- The map after one more result. -/
def record (m : ResultMap) (value : Register) : ResultMap := ⟨sight value m.entries⟩

/-- The map after some results in order. -/
def ofList (values : List Register) : ResultMap := values.foldl record empty

/-- The number of different values. -/
def distinct (m : ResultMap) : Nat := m.entries.length

/-- Whether no result was recorded. -/
def isEmpty (m : ResultMap) : Bool := m.entries.isEmpty

/-- The sum of the counts of some entries. -/
def totalCount : List (Register × Nat) → Nat
  | [] => 0
  | (_, n) :: rest => n + totalCount rest

/-- The number of repetitions of all values. -/
def repetitions (m : ResultMap) : Nat := totalCount m.entries

/-- Whether the first of two entries is preferred: the greater count, then the smaller bytes. -/
def prefers (a b : Register × Nat) : Bool :=
  b.2 < a.2 || (a.2 == b.2 && decide (a.1.bytes < b.1.bytes))

/-- The preferred one of two entries. -/
def better (best : Option (Register × Nat)) (e : Register × Nat) : Option (Register × Nat) :=
  match best with
  | none => some e
  | some b => if prefers e b then some e else some b

/-- **Most frequent results.** The value that was repeated most often, if any was repeated, with
the number of its repetitions. Of several such values the one with the smallest bytes is taken. -/
def mostFrequent? (m : ResultMap) : Option (Register × Nat) :=
  (m.entries.filter fun e => 0 < e.2).foldl better none

/-- The line that reports the repetitions for an instruction. -/
def reportLine (m : ResultMap) (i : Intrinsic) (lane : LaneWidth) : String :=
  "Number of repetitions for " ++ i.wrapperName ++ ": " ++ toString m.repetitions ++
    match m.mostFrequent? with
    | some (value, _) => " | Vector: " ++ value.laneText lane
    | none => ""

theorem length_add_totalCount_sight (value : Register) (entries : List (Register × Nat)) :
    (sight value entries).length + totalCount (sight value entries) =
      entries.length + totalCount entries + 1 := by
  induction entries with
  | nil => rfl
  | cons e rest ih =>
    obtain ⟨v, n⟩ := e
    by_cases h : v = value
    · simp only [sight, if_pos h, List.length_cons, totalCount]
      omega
    · simp only [sight, if_neg h, List.length_cons, totalCount]
      omega

theorem distinct_add_repetitions_record (m : ResultMap) (value : Register) :
    (m.record value).distinct + (m.record value).repetitions =
      m.distinct + m.repetitions + 1 :=
  length_add_totalCount_sight value m.entries

end ResultMap

end VectorTrial
