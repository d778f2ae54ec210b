import VectorTrial.Instruction.Catalog
import VectorTrial.Lane.Register

/-!
# Emulated instructions

A stand-in for a processor where none is at hand: the result of each instruction on registers, lane
by lane, after the manual of the instruction set. Lanes are those of the first operand. Shuffles and
horizontal operations work within every 128-bit part of a register on its own. This is for running
the program; its properties are stated for any processor.

## Main definitions

* `VectorTrial.LaneWidth.unsigned` — the unsigned value of a lane.
* `VectorTrial.ShiftKind.emulate` — one lane shifted by a count of any size.
* `VectorTrial.Operation.emulate` — the lanes of a result.
* `VectorTrial.Intrinsic.emulate` — the result of an instruction.
-/

namespace VectorTrial

/-- The unsigned value of the bits of a lane. -/
def LaneWidth.unsigned (w : LaneWidth) (v : Int64) : Nat := v.toUInt64.toNat % Nat.pow 2 w.bits

/-- One lane shifted by a count of any size. A count of the lane's width or more leaves no bit of
the lane, except that an arithmetic shift leaves copies of its sign. -/
def ShiftKind.emulate (kind : ShiftKind) (w : LaneWidth) (v : Int64) (count : Nat) : Int64 :=
  match kind with
  | .logicalRight => if count < w.bits then Int64.ofNat (w.unsigned v >>> count) else 0
  | .left => if count < w.bits then Int64.ofNat (w.unsigned v <<< count) else 0
  | .arithmeticRight => Int64.ofInt (v.toInt >>> min count w.bits)

/-- The counts of a shift, one for each lane of the first operand. -/
def CountSource.counts (source : CountSource) (w : LaneWidth) (lanes : Nat) (b : Register) :
    List Nat :=
  match source with
  | .quadword => List.replicate lanes (ofLittleEndian (b.bytes.take 8))
  | .immediate => List.replicate lanes (ofLittleEndian b.bytes)
  | .perLane => (b.lanes w).map w.unsigned

/-- The sum or difference of two lanes, brought into the range of a lane. -/
def PairKind.emulate (kind : PairKind) (policy : RangePolicy) (w : LaneWidth) (x y : Int64) :
    Int64 :=
  let exact := match kind with
    | .add => x.toInt + y.toInt
    | .sub => x.toInt - y.toInt
  match policy with
  | .wrapping => Int64.ofInt exact
  | .saturating => Int64.ofInt (max w.minSigned.toInt (min w.maxSigned.toInt exact))

/-- A function applied to the first and second item of a list, the third and fourth, and so on. -/
def pairUp {α : Type} (f : α → α → α) : List α → List α
  | x :: y :: rest => f x y :: pairUp f rest
  | _ => []

/-- The 128-bit parts of a list of lanes. -/
def LaneWidth.parts (w : LaneWidth) (lanes : List Int64) : List (List Int64) :=
  groups (128 / w.bits) (lanes.length / (128 / w.bits)) lanes

/-- The lanes of a result, from the operands and the lane width of the first. -/
def Operation.emulate (op : Operation) (w : LaneWidth) (a b : Register) : List Int64 :=
  let xs := a.lanes w
  let ys := b.lanes w
  match op with
  | .average => List.zipWith (fun x y => Int64.ofNat ((w.unsigned x + w.unsigned y + 1) / 2)) xs ys
  | .shuffle =>
    let pick (part : List Int64) (y : Int64) : Int64 :=
      if y < 0 then 0 else part.getD (w.unsigned y % 16) 0
    (List.zipWith (fun part choices => choices.map (pick part)) (w.parts xs) (w.parts ys)).flatten
  | .shift kind source => List.zipWith (kind.emulate w) xs (source.counts w xs.length b)
  | .sign => List.zipWith (fun x y => if y < 0 then -x else if y = 0 then 0 else x) xs ys
  | .horizontal kind policy =>
    let join := pairUp (kind.emulate policy w)
    (List.zipWith (fun p q => join p ++ join q) (w.parts xs) (w.parts ys)).flatten

/-- **Emulated instructions.** The result of an instruction on registers. -/
def Intrinsic.emulate (i : Intrinsic) (a b : Register) : Register :=
  Register.pack i.result (i.entry.operation.emulate i.first.laneWidth a b)

end VectorTrial
