import VectorTrial.Instruction.Catalog
import VectorTrial.Json.Value
import VectorTrial.Operand.Strategy
import VectorTrial.Text.Blank
import VectorTrial.Text.Line
import VectorTrial.Text.Numeral
import VectorTrial.Trial.Failure

/-!
# Settings of a run

How often each instruction is tested, which part of the catalog is tested, how operands are drawn
and what is shown.

## Main definitions

* `VectorTrial.IndexRange` — a half-open range of catalog indices.
* `VectorTrial.IndexRange.ofText` — the range that a user writes as `lower-upper`.
* `VectorTrial.Settings` — the settings.
* `VectorTrial.Settings.validate` — their check.
* `VectorTrial.Settings.instructions` — the instructions that they select.

## Main results

* `VectorTrial.IndexRange.check_eq_ok_iff` — the ranges that pass the check.
* `VectorTrial.IndexRange.check_ofText` — a range that is read also passes the check.
-/

namespace VectorTrial

/-! ### Ranges -/

/-- The indices from `start` on and before `stop`. -/
structure IndexRange where
  start : Nat
  stop : Nat
  deriving DecidableEq, Repr

namespace IndexRange

/-- The range of all catalog indices. -/
def full : IndexRange := ⟨0, Catalog.size⟩

/-- Whether an index lies in a range. -/
def holds (r : IndexRange) (index : Nat) : Bool := r.start ≤ index && index < r.stop

/-- The check of a range: it must neither run backwards nor leave the catalog. -/
def check (r : IndexRange) : Except Failure Unit :=
  if r.stop < r.start then .error (.config "Upper bound can not be lower than the lower bound.")
  else if Catalog.size < r.stop then
    .error (.config ("Upper bound can not be higher than total number of intrinsics (" ++
      toString Catalog.size ++ ")."))
  else .ok ()

theorem check_eq_ok_iff {r : IndexRange} :
    r.check = .ok () ↔ r.start ≤ r.stop ∧ r.stop ≤ Catalog.size := by
  unfold check
  split
  · next hlow => exact ⟨(nomatch ·), fun h => absurd hlow (Nat.not_lt.2 h.1)⟩
  · next hlow =>
    split
    · next hhigh => exact ⟨(nomatch ·), fun h => absurd hhigh (Nat.not_lt.2 h.2)⟩
    · next hhigh => exact ⟨fun _ => ⟨Nat.not_lt.1 hlow, Nat.not_lt.1 hhigh⟩, fun _ => rfl⟩

/-- One bound of a range, between optional blanks. -/
def readBound (which : String) (text : List Char) : Except Failure Nat :=
  match Text.readUnsigned? UInt64.size (Text.trim text) with
  | some n => .ok n
  | none =>
    .error (.config
      (which ++ " bound '" ++ String.ofList text ++ "' is not a non-negative integer"))

/-- **Reading ranges.** The range written as two bounds around the first hyphen. -/
def ofText (text : String) : Except Failure IndexRange :=
  match Text.cutAt? '-' text.toList with
  | none => .error (.config "Intrinsic range unable to be parsed, no '-' found.")
  | some (lower, upper) => do
    let start ← readBound "lower" lower
    let stop ← readBound "upper" upper
    check ⟨start, stop⟩
    return ⟨start, stop⟩

theorem check_ofText {text : String} {r : IndexRange} (h : ofText text = .ok r) :
    r.check = .ok () := by
  unfold ofText at h
  split at h
  · cases h
  · next lower upper _ =>
    cases hl : readBound "lower" lower with
    | error e => simp [hl, bind, Except.bind] at h
    | ok start =>
      cases hu : readBound "upper" upper with
      | error e => simp [hl, hu, bind, Except.bind] at h
      | ok stop =>
        cases hc : check ⟨start, stop⟩ with
        | error e => simp [hl, hu, hc, bind, Except.bind] at h
        | ok _ =>
          simp only [hl, hu, hc, bind, Except.bind, pure, Except.pure, Except.ok.injEq] at h
          rw [← h, hc]

end IndexRange

/-! ### Settings -/

/-- **Settings.** -/
structure Settings where
  /-- The number of comparisons for each instruction. -/
  repetitions : Nat
  range : IndexRange
  /-- Whether repeated results are counted. -/
  debug : Bool
  strategy : Strategy
  /-- The bound below which shift counts are brought. -/
  shiftModulus : Option UInt32
  /-- Whether the functions of every pair that is not correct are shown. -/
  dump : Bool
  deriving DecidableEq, Repr

namespace Settings

/-- The settings that hold unless others are given. -/
def standard : Settings := ⟨100, .full, false, .uniform, none, true⟩

/-- The greatest shift modulus, since scalar counts are signed. -/
def greatestModulus : Nat := 2147483647

/-- The check of a shift modulus. -/
def checkModulus : Option UInt32 → Except Failure Unit
  | none => .ok ()
  | some m =>
    if m = 0 then .error (.config "shift modulus must be positive")
    else if greatestModulus < m.toNat then
      .error (.config
        ("shift modulus " ++ toString m ++ " exceeds " ++ toString greatestModulus))
    else .ok ()

/-- **Validation.** The check of settings: first the range, then the shift modulus. -/
def validate (s : Settings) : Except Failure Unit := do
  s.range.check
  checkModulus s.shiftModulus

/-- The selected instructions, in catalog order. -/
def instructions (s : Settings) : List Intrinsic :=
  Intrinsic.all.filter fun i => s.range.holds i.index

/-- The stored form of settings. -/
def toJson (s : Settings) : Json :=
  .obj [("repetitions", .nat s.repetitions),
    ("range", .obj [("start", .nat s.range.start), ("end", .nat s.range.stop)]),
    ("debug", .bool s.debug), ("strategy", .str s.strategy.name),
    ("shift_modulus", Json.ofOption (fun m => .nat m.toNat) s.shiftModulus),
    ("dump_mismatches", .bool s.dump)]

end Settings

end VectorTrial
