import VectorTrial.Lane.Shape

/-!
# Types of programs

Programs compute with integers of a given number of bits and with vectors of a fixed number of
such integers. Every layout of an operand has a type; most types are the type of no layout.

## Main definitions

* `VectorTrial.Program.Ty` — integer and vector types.
* `VectorTrial.Program.Ty.ofShape` — the type that carries values of a shape.
* `VectorTrial.Program.Ty.text` — the written form, such as `<8 x i16>`.
-/

namespace VectorTrial.Program

/-- The type of a value. -/
inductive Ty where
  /-- Integers of a number of bits. -/
  | int (bits : UInt32)
  /-- Vectors of a number of integers of a number of bits. -/
  | vector (lanes elemBits : UInt32)
  deriving DecidableEq, Repr

namespace Ty

/-- The type of bare scalars. -/
def i32 : Ty := int 32

/-- The type that carries values of a shape. -/
def ofShape : Shape → Ty
  | s@(.vector _ lane) => vector (UInt32.ofNat s.laneCount) (UInt32.ofNat lane.bits)
  | .scalar32 => i32

/-- Whether this is a vector type. -/
def isVector : Ty → Bool
  | int _ => false
  | vector _ _ => true

/-- The number of bits of one element; an integer is its own element. -/
def elemBits : Ty → UInt32
  | int bits => bits
  | vector _ bits => bits

/-- The number of bits of a value, where it is a 32-bit size. -/
def totalBits : Ty → Except OperandError UInt32
  | int bits => .ok bits
  | vector lanes bits => sizeProduct lanes bits

/-- **Written types.** An integer type is written as `i32`, a vector type as `<8 x i16>`. -/
def text : Ty → String
  | int bits => "i" ++ toString bits
  | vector lanes bits => "<" ++ toString lanes ++ " x i" ++ toString bits ++ ">"

theorem text_ofShape (s : Shape) : (ofShape s).text = s.text := by
  rcases s with ⟨w, lane⟩ | _
  · cases w <;> cases lane <;> rfl
  · rfl

theorem ofShape_injective {s t : Shape} (h : ofShape s = ofShape t) : s = t := by
  rcases s with ⟨w, lane⟩ | _ <;> rcases t with ⟨w', lane'⟩ | _
  · cases w <;> cases lane <;> cases w' <;> cases lane' <;> first | rfl | cases h
  · cases h
  · cases h
  · rfl

end Ty

end VectorTrial.Program
