import VectorTrial.Lane.Shape
import VectorTrial.Text.Hexadecimal

/-!
# Raw register contents

A register is a bit pattern with the kind of register that holds it. Its bytes stand in memory
order, least significant first. Lanes are a way of reading it: lane `i` of width `w` takes up the
bytes from `i * w / 8` to `(i + 1) * w / 8`, and bytes that fill no whole lane at the end are left
out.

## Main definitions

* `VectorTrial.littleEndian`, `VectorTrial.ofLittleEndian` — numbers as bytes and back.
* `VectorTrial.Register` — a bit pattern with its register kind.
* `VectorTrial.Register.lanes` — the lanes of a register at a width.
* `VectorTrial.Register.pack`, `VectorTrial.Register.ofLanes` — a register from its lanes.
* `VectorTrial.Register.fits` — whether a register has the kind that a shape asks for.

## Main results

* `VectorTrial.ofLittleEndian_littleEndian` — the bytes of a number give back its low part.
* `VectorTrial.Register.length_lanes` — a register has as many lanes as fit whole.
-/

namespace VectorTrial

/-! ### Numbers as bytes -/

/-- The lowest `count` bytes of a number, least significant first. -/
def littleEndian : Nat → Nat → List UInt8
  | 0, _ => []
  | count + 1, n => UInt8.ofNat (n % 256) :: littleEndian count (n / 256)

/-- The number with the given bytes, least significant first. -/
def ofLittleEndian : List UInt8 → Nat
  | [] => 0
  | b :: rest => b.toNat + 256 * ofLittleEndian rest

@[simp] theorem length_littleEndian (count n : Nat) : (littleEndian count n).length = count := by
  induction count generalizing n with
  | zero => rfl
  | succ count ih => simp [littleEndian, ih]

theorem ofLittleEndian_littleEndian (count n : Nat) :
    ofLittleEndian (littleEndian count n) = n % Nat.pow 256 count := by
  induction count generalizing n with
  | zero => simp [littleEndian, ofLittleEndian, Nat.mod_one]
  | succ count ih =>
    simp only [littleEndian, ofLittleEndian, ih, UInt8.toNat_ofNat']
    rw [Nat.mod_mod, Nat.pow_eq, Nat.pow_eq, Nat.pow_succ', Nat.mod_mul]

/-! ### Groups of equal length -/

/-- The first `count` groups of `size` consecutive items of a list. -/
def groups {α : Type} (size : Nat) : Nat → List α → List (List α)
  | 0, _ => []
  | count + 1, xs => xs.take size :: groups size count (xs.drop size)

@[simp] theorem length_groups {α : Type} (size count : Nat) (xs : List α) :
    (groups size count xs).length = count := by
  induction count generalizing xs with
  | zero => rfl
  | succ count ih => simp [groups, ih]

/-! ### Lanes -/

/-- The signed value of the bytes of one lane. -/
def LaneWidth.read (w : LaneWidth) (bytes : List UInt8) : Int64 :=
  w.truncate (Int64.ofNat (ofLittleEndian bytes))

/-- The bytes of one lane: the low bits of a word. -/
def LaneWidth.write (w : LaneWidth) (value : Int64) : List UInt8 :=
  littleEndian w.bytes value.toUInt64.toNat

@[simp] theorem LaneWidth.length_write (w : LaneWidth) (value : Int64) :
    (w.write value).length = w.bytes := by
  simp [LaneWidth.write]

/-- The bytes of a list of lanes in order. -/
def LaneWidth.writeAll (w : LaneWidth) (values : List Int64) : List UInt8 :=
  values.flatMap w.write

@[simp] theorem LaneWidth.length_writeAll (w : LaneWidth) (values : List Int64) :
    (w.writeAll values).length = values.length * w.bytes := by
  induction values with
  | nil => simp [LaneWidth.writeAll]
  | cons v vs ih =>
    simp only [LaneWidth.writeAll, List.flatMap_cons, List.length_append, length_write,
      List.length_cons] at ih ⊢
    rw [ih, Nat.succ_mul, Nat.add_comm]

/-- A bit pattern with the kind of register that holds it, as bytes in memory order. -/
structure Register where
  kind : RegisterKind
  bytes : List UInt8
  length_bytes : bytes.length = kind.byteSize
  deriving DecidableEq

namespace Register

/-- A list of values cut or filled up with zeros to a given length. -/
def padTo (count : Nat) (values : List Int64) : List Int64 :=
  (values ++ List.replicate count 0).take count

@[simp] theorem length_padTo (count : Nat) (values : List Int64) :
    (padTo count values).length = count := by
  simp [padTo]

theorem padTo_of_length_eq {count : Nat} {values : List Int64} (h : values.length = count) :
    padTo count values = values := by
  simp [padTo, ← h]

/-- The register of a shape with the given lanes, each cut to its low bits. Missing lanes are
zero and further ones are dropped. -/
def pack (shape : Shape) (values : List Int64) : Register where
  kind := shape.kind
  bytes := shape.laneWidth.writeAll (padTo shape.laneCount values)
  length_bytes := by
    rw [LaneWidth.length_writeAll, length_padTo, Shape.laneCount_mul_bytes, Shape.byteSize_kind]

/-- The register of a shape with all bits clear. -/
def zero (shape : Shape) : Register := pack shape []

/-- The scalar register with the low 32 bits of a word. -/
def scalar (value : Int64) : Register := pack .scalar32 [value]

/-- **Packing.** The register of a shape with the given lanes, which must be as many as the shape
has. Each lane keeps only its low bits. -/
def ofLanes (shape : Shape) (values : List Int64) : Except OperandError Register :=
  if values.length = shape.laneCount then .ok (pack shape values)
  else .error (.laneCountMismatch shape shape.laneCount values.length)

/-- The register of a shape with the given bytes, which must fill it. -/
def ofBytes (shape : Shape) (bytes : List UInt8) : Except OperandError Register :=
  if h : bytes.length = shape.byteSize then
    .ok ⟨shape.kind, bytes, by rw [h, Shape.byteSize_kind]⟩
  else .error (.byteLengthMismatch shape shape.byteSize bytes.length)

/-- The number of bits of a register. -/
def bitSize (r : Register) : Nat := r.kind.bitSize

/-- Whether a register is a bare scalar. -/
def isScalar (r : Register) : Bool := r.kind = .scalar

/-- Whether a register has the kind that a shape asks for. -/
def fits (r : Register) (shape : Shape) : Bool := r.kind = shape.kind

/-- The bytes of the lanes of a register at a width, in order, without a partial lane at the end. -/
def chunks (r : Register) (w : LaneWidth) : List (List UInt8) :=
  groups w.bytes (r.bytes.length / w.bytes) r.bytes

/-- **Lanes.** The lanes of a register at a width, in order. -/
def lanes (r : Register) (w : LaneWidth) : List Int64 := (r.chunks w).map w.read

/-- One lane of a register at a width, read from its own bytes, where they exist. -/
def lane? (r : Register) (index : Nat) (w : LaneWidth) : Option Int64 :=
  (r.chunks w)[index]?.map w.read

/-- The value of a scalar register. -/
def scalar? (r : Register) : Option Int64 :=
  if r.isScalar then some (LaneWidth.w32.read r.bytes) else none

/-- A register with one byte replaced. -/
def setByte (r : Register) (index : Nat) (b : UInt8) : Register where
  kind := r.kind
  bytes := r.bytes.set index b
  length_bytes := by rw [List.length_set, r.length_bytes]

/-- A register with other bytes written over its first ones. -/
def overwrite (r : Register) (bytes : List UInt8) : Register where
  kind := r.kind
  bytes := bytes.take r.bytes.length ++ r.bytes.drop bytes.length
  length_bytes := by
    rw [List.length_append, List.length_take, List.length_drop, ← r.length_bytes]
    omega

/-- The lanes of a register at a width as text, such as `< 1 -2 3 >`. -/
def laneText (r : Register) (w : LaneWidth) : String :=
  "<" ++ String.join ((r.lanes w).map fun v => " " ++ toString v) ++ " >"

/-- The contents of a register as text, most significant byte first, such as
`Scalar(0x00000001)`. -/
def hexText (r : Register) : String :=
  r.kind.name ++ "(0x" ++ Text.hexBytes r.bytes.reverse ++ ")"

@[simp] theorem length_lanes (r : Register) (w : LaneWidth) :
    (r.lanes w).length = r.bytes.length / w.bytes := by
  simp [lanes, chunks]

@[simp] theorem kind_pack (shape : Shape) (values : List Int64) :
    (pack shape values).kind = shape.kind := rfl

theorem fits_pack (shape : Shape) (values : List Int64) : (pack shape values).fits shape := by
  simp [fits]

/-- What is written over a register leaves its kind. -/
@[simp] theorem fits_overwrite (r : Register) (bytes : List UInt8) (shape : Shape) :
    (r.overwrite bytes).fits shape = r.fits shape := rfl

end Register

end VectorTrial
