/-!
# Lane widths

A vector register is read as lanes of 8, 16, 32 or 64 bits. A lane value is always carried as a
signed 64-bit word, the sign extension of the lane's bits.

## Main definitions

* `VectorTrial.LaneWidth` — the four widths.
* `VectorTrial.LaneWidth.truncate` — the lane value with the low bits of a word.

## Main results

* `VectorTrial.LaneWidth.ofBits?_eq_some` — a number of bits names at most one width.
* `VectorTrial.LaneWidth.truncate_truncate` — truncation keeps a lane value.
-/

namespace VectorTrial

/-- The width of one lane. -/
inductive LaneWidth where
  | w8
  | w16
  | w32
  | w64
  deriving DecidableEq, Repr

namespace LaneWidth

/-- The widths in ascending order. -/
def all : List LaneWidth := [w8, w16, w32, w64]

/-- The number of bits of a lane. -/
def bits : LaneWidth → Nat
  | w8 => 8
  | w16 => 16
  | w32 => 32
  | w64 => 64

/-- The number of bytes of a lane. -/
def bytes (w : LaneWidth) : Nat := w.bits / 8

/-- The width with a given number of bits. -/
def ofBits? (bits : Nat) : Option LaneWidth :=
  all.find? fun w => w.bits == bits

/-- The smallest signed value of a lane. -/
def minSigned : LaneWidth → Int64
  | w8 => Int8.minValue.toInt64
  | w16 => Int16.minValue.toInt64
  | w32 => Int32.minValue.toInt64
  | w64 => Int64.minValue

/-- The largest signed value of a lane. -/
def maxSigned : LaneWidth → Int64
  | w8 => Int8.maxValue.toInt64
  | w16 => Int16.maxValue.toInt64
  | w32 => Int32.maxValue.toInt64
  | w64 => Int64.maxValue

/-- **Truncation.** The signed lane value whose bits are the low bits of a word. -/
def truncate : LaneWidth → Int64 → Int64
  | w8, v => v.toInt8.toInt64
  | w16, v => v.toInt16.toInt64
  | w32, v => v.toInt32.toInt64
  | w64, v => v

/-- The text of the integer type of a lane, such as `i16`. -/
def text (w : LaneWidth) : String := "i" ++ toString w.bits

/-- The name of the width in stored settings, such as `W16`. -/
def name (w : LaneWidth) : String := "W" ++ toString w.bits

theorem mem_all (w : LaneWidth) : w ∈ all := by
  cases w <;> decide

theorem bits_pos (w : LaneWidth) : 0 < w.bits := by
  cases w <;> decide

theorem bytes_pos (w : LaneWidth) : 0 < w.bytes := by
  cases w <;> decide

@[simp] theorem eight_mul_bytes (w : LaneWidth) : 8 * w.bytes = w.bits := by
  cases w <;> rfl

theorem ofBits?_bits (w : LaneWidth) : ofBits? w.bits = some w := by
  cases w <;> rfl

theorem ofBits?_eq_some {n : Nat} {w : LaneWidth} (h : ofBits? n = some w) : w.bits = n := by
  simpa using List.find?_some h

@[simp] theorem truncate_truncate (w : LaneWidth) (v : Int64) :
    w.truncate (w.truncate v) = w.truncate v := by
  cases w <;> simp [truncate]

end LaneWidth

end VectorTrial
