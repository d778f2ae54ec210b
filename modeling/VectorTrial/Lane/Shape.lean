import VectorTrial.Lane.Width

/-!
# Shapes of operands and results

An operand or result is either a full vector register, split into lanes of one width, or a bare
32-bit scalar that holds an immediate shift count. A vector shape stores the register width and
the lane width, so every shape has a legal number of lanes.

## Main definitions

* `VectorTrial.VectorWidth` — the three register widths.
* `VectorTrial.Shape` — vector shapes and the scalar.
* `VectorTrial.RegisterKind` — what a shape says about a register, without its lanes.
* `VectorTrial.OperandError` — refusals of catalog lookups, shapes and raw operands.
* `VectorTrial.Shape.ofLanes` — the vector shape with a given number of lanes of given bits.
-/

namespace VectorTrial

/-- The width of a vector register. -/
inductive VectorWidth where
  | v128
  | v256
  | v512
  deriving DecidableEq, Repr

namespace VectorWidth

/-- The widths in ascending order. -/
def all : List VectorWidth := [v128, v256, v512]

/-- The number of bits of a register. -/
def bits : VectorWidth → Nat
  | v128 => 128
  | v256 => 256
  | v512 => 512

/-- The number of bytes of a register. -/
def bytes (w : VectorWidth) : Nat := w.bits / 8

/-- The width with a given number of bits. -/
def ofBits? (bits : Nat) : Option VectorWidth :=
  all.find? fun w => w.bits == bits

/-- The name of the width, such as `V128`. -/
def name (w : VectorWidth) : String := "V" ++ toString w.bits

theorem ofBits?_bits (w : VectorWidth) : ofBits? w.bits = some w := by
  cases w <;> rfl

theorem ofBits?_eq_some {n : Nat} {w : VectorWidth} (h : ofBits? n = some w) : w.bits = n := by
  simpa using List.find?_some h

end VectorWidth

/-- The kind of register that holds an operand or result. -/
inductive RegisterKind where
  | scalar
  | vector (width : VectorWidth)
  deriving DecidableEq, Repr

namespace RegisterKind

/-- The number of bytes of a register of this kind. -/
def byteSize : RegisterKind → Nat
  | scalar => 4
  | vector w => w.bytes

/-- The number of bits of a register of this kind. -/
def bitSize (k : RegisterKind) : Nat := 8 * k.byteSize

/-- The name of the kind, such as `V128`. -/
def name : RegisterKind → String
  | scalar => "Scalar"
  | vector w => w.name

end RegisterKind

/-- The layout of one operand or result. -/
inductive Shape where
  /-- A vector register of lanes. -/
  | vector (width : VectorWidth) (lane : LaneWidth)
  /-- A bare 32-bit integer, for immediate shift counts. -/
  | scalar32
  deriving DecidableEq, Repr

namespace Shape

/-- The kind of register with this layout. -/
def kind : Shape → RegisterKind
  | vector w _ => .vector w
  | scalar32 => .scalar

/-- The width of a lane; a scalar is one lane of 32 bits. -/
def laneWidth : Shape → LaneWidth
  | vector _ lane => lane
  | scalar32 => .w32

/-- The number of bits: 128, 256 or 512 for a vector, 32 for the scalar. -/
def bitSize : Shape → Nat
  | vector w _ => w.bits
  | scalar32 => 32

/-- The number of bytes. -/
def byteSize (s : Shape) : Nat := s.bitSize / 8

/-- The number of lanes. -/
def laneCount (s : Shape) : Nat := s.bitSize / s.laneWidth.bits

/-- Whether this is the scalar shape. -/
def isScalar : Shape → Bool
  | vector _ _ => false
  | scalar32 => true

/-- The register width of a vector shape. -/
def vectorWidth? : Shape → Option VectorWidth
  | vector w _ => some w
  | scalar32 => none

/-- Every vector shape, by register width and then by lane width. -/
def vectors : List Shape :=
  VectorWidth.all.flatMap fun w => LaneWidth.all.map fun lane => vector w lane

/-- The text of the type with this layout, such as `<8 x i16>` or `i32`. -/
def text : Shape → String
  | s@(vector _ lane) => "<" ++ toString s.laneCount ++ " x " ++ lane.text ++ ">"
  | scalar32 => LaneWidth.w32.text

theorem mem_vectors (w : VectorWidth) (lane : LaneWidth) : vector w lane ∈ vectors := by
  cases w <;> cases lane <;> decide

@[simp] theorem byteSize_kind (s : Shape) : s.kind.byteSize = s.byteSize := by
  cases s <;> rfl

theorem laneCount_mul_bytes (s : Shape) : s.laneCount * s.laneWidth.bytes = s.byteSize := by
  rcases s with ⟨w, lane⟩ | _
  · cases w <;> cases lane <;> rfl
  · rfl

theorem laneCount_mul_bits (s : Shape) : s.laneCount * s.laneWidth.bits = s.bitSize := by
  rcases s with ⟨w, lane⟩ | _
  · cases w <;> cases lane <;> rfl
  · rfl

end Shape

/-- Why a catalog lookup, a shape or a raw operand is refused. -/
inductive OperandError where
  /-- No catalog entry has this name or symbol. -/
  | unknownIntrinsic (text : String)
  /-- A list of lane values does not have one value for each lane. -/
  | laneCountMismatch (shape : Shape) (expected actual : Nat)
  /-- A list of bytes does not fill the register. -/
  | byteLengthMismatch (shape : Shape) (expected actual : Nat)
  /-- No lane or register has this number of bits. -/
  | unsupportedWidth (bits : Nat)
  /-- The number of lanes times their bits needs more than 32 bits, which stops the program. -/
  | sizeOverflow
  deriving DecidableEq, Repr

/-- The wording of a refusal. -/
def OperandError.message : OperandError → String
  | unknownIntrinsic text => "Unknown intrinsic: " ++ text
  | laneCountMismatch shape expected actual =>
    "Lane count mismatch for " ++ shape.text ++ ": expected " ++ toString expected ++
      " lanes, got " ++ toString actual
  | byteLengthMismatch shape expected actual =>
    "Byte length mismatch for " ++ shape.text ++ ": expected " ++ toString expected ++
      " bytes, got " ++ toString actual
  | unsupportedWidth bits => "Unsupported bit width: " ++ toString bits
  | sizeOverflow => "attempt to multiply with overflow"

/-- The lane width with a given number of bits. -/
def LaneWidth.ofBits (bits : UInt32) : Except OperandError LaneWidth :=
  match LaneWidth.ofBits? bits.toNat with
  | some w => .ok w
  | none => .error (.unsupportedWidth bits.toNat)

/-- The register width with a given number of bits. -/
def VectorWidth.ofBits (bits : UInt32) : Except OperandError VectorWidth :=
  match VectorWidth.ofBits? bits.toNat with
  | some w => .ok w
  | none => .error (.unsupportedWidth bits.toNat)

/-- The product of two 32-bit sizes, where it is a 32-bit size again. -/
def sizeProduct (a b : UInt32) : Except OperandError UInt32 :=
  if a.toNat * b.toNat < UInt32.size then .ok (a * b) else .error .sizeOverflow

/-- **Shapes from lanes.** The vector shape with `lanes` lanes of `laneBits` bits. The lane width
is judged before the register width, and the register width only where the product is a 32-bit
size. -/
def Shape.ofLanes (lanes laneBits : UInt32) : Except OperandError Shape := do
  let lane ← LaneWidth.ofBits laneBits
  let width ← VectorWidth.ofBits (← sizeProduct lanes laneBits)
  return .vector width lane

end VectorTrial
