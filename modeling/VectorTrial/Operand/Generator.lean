import VectorTrial.Lane.Register
import VectorTrial.Operand.Source
import VectorTrial.Operand.Strategy

/-!
# Drawing operands

A generator draws the operands of a run: lane after lane, by a strategy, from a random source. A
modulus, where one is set, brings shift counts below it and leaves all other operands alone.

## Main definitions

* `VectorTrial.Generator` — a random source with a strategy and a shift modulus.
* `VectorTrial.Generator.lane` — draws one lane.
* `VectorTrial.Generator.vector`, `VectorTrial.Generator.shiftCount` — draw operands.

## Main results

* `VectorTrial.Generator.fits_vector`, `VectorTrial.Generator.fits_shiftCount` — a drawn operand
  has the layout asked for.
-/

namespace VectorTrial

/-- The boundary values, which uniform lanes rarely take. Each is cut down to the lane. -/
def interestingValues : Vector Int64 37 :=
  #v[-10, -9, -8, -7, -6, -5, -4, -3, -2, -1, 0, 1, 2, 3, 4, 5, 6, 7, 8, 9, 10, 16, 32, 64, 128,
    256, 512, 1024, 2048, 4096, 8192, 16384, 0x80000000, 0x100000000, Int64.minValue, -1,
    0x7fffffff]

/-- **Generators.** A random source with the strategy and the shift modulus of a run. -/
structure Generator (σ : Type) where
  source : σ
  strategy : Strategy
  shiftModulus : Option UInt32

namespace Generator

variable {σ : Type} [DrawSource σ]

/-- A generator without a shift modulus. -/
def new (source : σ) (strategy : Strategy) : Generator σ := ⟨source, strategy, none⟩

/-- A generator with another shift modulus. A modulus of zero is none. -/
def withShiftModulus (g : Generator σ) (modulus : Option UInt32) : Generator σ :=
  { g with shiftModulus := modulus.filter fun m => 0 < m }

/-- A generator in another state of its source. -/
def withSource (g : Generator σ) (source : σ) : Generator σ := { g with source }

/-! ### Lanes -/

/-- A lane drawn uniformly from its signed range. -/
def uniformLane (w : LaneWidth) (s : σ) : Int64 × σ :=
  match w with
  | .w8 => let (v, s) := DrawSource.int8 s; (v.toInt64, s)
  | .w16 => let (v, s) := DrawSource.int16 s; (v.toInt64, s)
  | .w32 => let (v, s) := DrawSource.int32 s; (v.toInt64, s)
  | .w64 => DrawSource.int64 s

/-- A lane drawn from the boundary values. -/
def interestingLane (w : LaneWidth) (s : σ) : Int64 × σ :=
  let (index, s) := DrawSource.pick 37 (by decide) s
  (w.truncate interestingValues[index], s)

/-- **Lanes.** A lane drawn by a strategy. -/
def drawLane (strategy : Strategy) (w : LaneWidth) (s : σ) : Int64 × σ :=
  match strategy with
  | .uniform => uniformLane w s
  | .interesting => interestingLane w s
  | .mixed =>
    let (heads, s) := DrawSource.coin s
    if heads then interestingLane w s else uniformLane w s

/-- The modulus that takes effect at a lane width: never more than the positive values of a lane
can express. -/
def effectiveModulus (w : LaneWidth) (modulus : UInt32) : Int :=
  min modulus.toNat (min (w.maxSigned.toInt + 1) Int64.maxValue.toInt)

/-- A lane value brought below a modulus, which is none when it is zero. -/
def reduce (w : LaneWidth) (modulus : UInt32) (v : Int64) : Int64 :=
  if modulus = 0 then v else Int64.ofInt (v.toInt % effectiveModulus w modulus)

/-- A lane value brought below a modulus, if there is one. -/
def reduceBy (w : LaneWidth) : Option UInt32 → Int64 → Int64
  | some modulus, v => reduce w modulus v
  | none, v => v

/-- Draws one lane. -/
def lane (g : Generator σ) (w : LaneWidth) : Int64 × Generator σ :=
  let (v, source) := drawLane g.strategy w g.source
  (v, g.withSource source)

/-- Draws one lane and brings it below a modulus, if there is one. -/
def laneBelow (g : Generator σ) (w : LaneWidth) (modulus : Option UInt32) :
    Int64 × Generator σ :=
  let (v, g) := g.lane w
  (reduceBy w modulus v, g)

/-! ### Operands -/

/-- The bytes of a lane value, narrowed to the integer type of the lane. -/
def narrowedBytes : LaneWidth → Int64 → List UInt8
  | .w8, v => littleEndian 1 v.toInt8.toUInt8.toNat
  | .w16, v => littleEndian 2 v.toInt16.toUInt16.toNat
  | .w32, v => littleEndian 4 v.toInt32.toUInt32.toNat
  | .w64, v => littleEndian 8 v.toUInt64.toNat

/-- Draws a lane for each of some chunks of bytes in order, brings it below a modulus, if there is
one, and writes it over the chunk. -/
def chunks (w : LaneWidth) (modulus : Option UInt32) :
    Nat → Generator σ → List UInt8 × Generator σ
  | 0, g => ([], g)
  | count + 1, g =>
    let (v, g) := g.laneBelow w modulus
    let (rest, g) := chunks w modulus count g
    (narrowedBytes w v ++ rest, g)

/-- Draws a scalar, brought below the shift modulus. -/
def scalar (g : Generator σ) : Register × Generator σ :=
  let (v, g) := g.laneBelow .w32 g.shiftModulus
  (Register.scalar v, g)

/-- Draws the lanes of a vector shape over a register with all bits clear, as many as fit whole, or
draws a scalar. -/
def fill (g : Generator σ) (shape : Shape) (modulus : Option UInt32) :
    Register × Generator σ :=
  if shape.isScalar then g.scalar
  else
    let clear := Register.zero shape
    let (bytes, g) :=
      chunks shape.laneWidth modulus (clear.bytes.length / shape.laneWidth.bytes) g
    (clear.overwrite bytes, g)

/-- **Operands.** Draws an operand that is no shift count. Scalars are always shift counts. -/
def vector (g : Generator σ) (shape : Shape) : Register × Generator σ := g.fill shape none

/-- **Shift counts.** Draws a shift count, every lane of it brought below the shift modulus. -/
def shiftCount (g : Generator σ) (shape : Shape) : Register × Generator σ :=
  g.fill shape g.shiftModulus

theorem fits_fill (g : Generator σ) (shape : Shape) (modulus : Option UInt32) :
    (g.fill shape modulus).1.fits shape = true := by
  rcases shape with ⟨w, l⟩ | _
  · exact Register.fits_pack (.vector w l) []
  · exact Register.fits_pack _ _

theorem fits_vector (g : Generator σ) (shape : Shape) : (g.vector shape).1.fits shape = true :=
  g.fits_fill shape none

theorem fits_shiftCount (g : Generator σ) (shape : Shape) :
    (g.shiftCount shape).1.fits shape = true :=
  g.fits_fill shape g.shiftModulus

end Generator

end VectorTrial
