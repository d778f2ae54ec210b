import VectorTrial.Proofs.Operand.Draws

/-!
# Drawn vectors and packed lanes

A vector operand is drawn over a clear register, chunk by chunk, and the bytes of each lane are
those of the narrowed integer. Packing instead takes a list of lanes and cuts each to its low bits.
Both ways give the same register for the same lanes, and since no drawn lane exceeds its width, the
register shows the lanes exactly as they were drawn.

## Main definitions

* `VectorTrial.Generator.Yields` — lanes that a generator draws one after the other.
* `VectorTrial.Generator.DrawsAs` — what an operand is that was drawn as some lanes.

## Main results

* `VectorTrial.Generator.drawsAs_of_modulusFor` — an operand that no modulus touches is its lanes.
* `VectorTrial.Generator.vector_carries_lanes` — the same for every vector, and for scalars without
  a modulus.
-/

namespace VectorTrial

theorem LaneWidth.bounds_of_truncate_eq {w : LaneWidth} {v : Int64} (h : w.truncate v = v) :
    w.minSigned ≤ v ∧ v ≤ w.maxSigned := by
  have hmin : w.minSigned.toInt = -(2 ^ (w.bits - 1)) := by cases w <;> rfl
  have hmax : w.maxSigned.toInt = 2 ^ (w.bits - 1) - 1 := by cases w <;> rfl
  obtain ⟨hlow, hhigh⟩ := w.truncate_bounds v
  rw [h] at hlow hhigh
  rw [Int64.le_iff_toInt_le, Int64.le_iff_toInt_le, hmin, hmax]
  exact ⟨hlow, Int.le_sub_one_of_lt hhigh⟩

theorem Register.scalar?_scalar (v : Int64) :
    (Register.scalar v).scalar? = some (LaneWidth.w32.truncate v) := by
  have hbytes : (Register.scalar v).bytes = LaneWidth.w32.write v := List.append_nil _
  have hscalar : (Register.scalar v).isScalar = true := rfl
  rw [scalar?, if_pos hscalar, hbytes, LaneWidth.read_write]

namespace Generator

variable {σ : Type} [DrawSource σ] {g : Generator σ} {shape : Shape}

/-- **Consecutive lanes.** Lanes that a generator draws one after the other, and the generator that
is left. -/
inductive Yields (w : LaneWidth) : Generator σ → List Int64 → Generator σ → Prop
  | nil (g : Generator σ) : Yields w g [] g
  | cons {g : Generator σ} {values : List Int64} {last : Generator σ}
      (h : Yields w (g.lane w).2 values last) : Yields w g ((g.lane w).1 :: values) last

/-- **Drawn operands.** All that is known of the operand of a shape that is drawn as some lanes. -/
structure DrawsAs (g : Generator σ) (shape : Shape) (values : List Int64) (last : Generator σ) :
    Prop where
  yields : g.Yields shape.laneWidth values last
  count : values.length = shape.laneCount
  packed : Register.ofLanes shape values = .ok (g.vector shape).1
  source : (g.vector shape).2 = last
  bounds : ∀ v ∈ values, shape.laneWidth.minSigned ≤ v ∧ v ≤ shape.laneWidth.maxSigned
  lanes : (g.vector shape).1.lanes shape.laneWidth = values
  fits : (g.vector shape).1.fits shape = true

theorem yields_draws (w : LaneWidth) (count : Nat) (g : Generator σ) :
    g.Yields w (draws g.strategy w count g.source).1
      (g.withSource (draws g.strategy w count g.source).2) := by
  induction count generalizing g with
  | zero => exact .nil g
  | succ count ih => exact .cons (ih (g.lane w).2)

/-- **Lanes of operands.** An operand that no modulus touches is made up of consecutive lanes. -/
theorem drawsAs_of_modulusFor (h : g.modulusFor shape none = none) :
    g.DrawsAs shape (draws g.strategy shape.laneWidth shape.laneCount g.source).1
      (g.withSource (draws g.strategy shape.laneWidth shape.laneCount g.source).2) := by
  have hvector : g.vector shape =
      (Register.pack shape (draws g.strategy shape.laneWidth shape.laneCount g.source).1,
        g.withSource (draws g.strategy shape.laneWidth shape.laneCount g.source).2) := by
    rw [vector, fill_eq, h]
    exact congrArg (Register.pack shape ·, _) (List.map_id _)
  have hkept : ∀ v ∈ (draws g.strategy shape.laneWidth shape.laneCount g.source).1,
      shape.laneWidth.truncate v = v := fun v => truncate_of_mem_draws
  refine ⟨yields_draws _ _ g, length_draws, ?_, ?_, fun v hv => ?_, ?_, g.fits_vector shape⟩
  · rw [hvector]
    exact if_pos length_draws
  · rw [hvector]
  · exact LaneWidth.bounds_of_truncate_eq (hkept v hv)
  · rw [hvector, Register.lanes_pack length_draws]
    exact (List.map_congr_left hkept).trans (List.map_id _)

/-- **Vectors carry the lanes drawn.** From every state of a generator, by every strategy and
whatever modulus is set, a vector is packed from as many consecutive lanes as its shape has. The
source is left as these draws leave it, every lane lies in the signed range of its width, and the
vector fits its shape and has exactly these lanes. Without a modulus a scalar is the one lane of 32
bits that is drawn next. -/
theorem vector_carries_lanes (g : Generator σ) :
    (∀ width lane, ∃ values last, g.DrawsAs (.vector width lane) values last) ∧
      (g.shiftModulus = none →
        g.DrawsAs .scalar32 [(g.lane .w32).1] (g.lane .w32).2 ∧
          (g.vector .scalar32).1.scalar? = some (g.lane .w32).1) := by
  refine ⟨fun width lane => ⟨_, _, drawsAs_of_modulusFor rfl⟩, fun hmodulus => ?_⟩
  have hdraws : g.DrawsAs .scalar32 [(g.lane .w32).1] (g.lane .w32).2 :=
    drawsAs_of_modulusFor hmodulus
  refine ⟨hdraws, ?_⟩
  have hscalar : (g.vector .scalar32).1 = Register.scalar (g.lane .w32).1 :=
    (Except.ok.inj hdraws.packed).symm
  rw [hscalar, Register.scalar?_scalar]
  exact congrArg some (truncate_drawLane g.strategy .w32 g.source)

/-! ### Every second lane from the table -/

namespace Ticking

/-- A source that counts its draws and yields the count. Coins fall on either side in turn. -/
structure Ticks where
  count : Nat

instance : DrawSource Ticks where
  int8 s := (Int8.ofNat s.count, ⟨s.count + 1⟩)
  int16 s := (Int16.ofNat s.count, ⟨s.count + 1⟩)
  int32 s := (Int32.ofNat s.count, ⟨s.count + 1⟩)
  int64 s := (Int64.ofNat s.count, ⟨s.count + 1⟩)
  coin s := (s.count % 4 = 0, ⟨s.count + 1⟩)
  pick bound positive s := (⟨s.count % bound, Nat.mod_lt _ positive⟩, ⟨s.count + 1⟩)

/-- A generator without a modulus. -/
def generator : Generator Ticks := ⟨⟨0⟩, .mixed, none⟩

end Ticking

/-- Two of the four lanes come from the table, and so does the scalar. -/
theorem vector_carries_lanes_ticking :
    (∃ values last, Ticking.generator.DrawsAs (.vector .v128 .w32) values last) ∧
      (Ticking.generator.vector (.vector .v128 .w32)).1.lanes .w32 = [-9, 3, -5, 7] ∧
      Ticking.generator.shiftModulus = none ∧
      Ticking.generator.DrawsAs .scalar32 [-9] (Ticking.generator.lane .w32).2 ∧
      (Ticking.generator.vector .scalar32).1.scalar? = some (-9) := by
  obtain ⟨hvectors, hscalars⟩ := vector_carries_lanes Ticking.generator
  have hmodulus : Ticking.generator.shiftModulus = none := rfl
  have hlane : (Ticking.generator.lane .w32).1 = -9 := by decide
  obtain ⟨hdraws, hscalar⟩ := hscalars hmodulus
  rw [hlane] at hdraws hscalar
  exact ⟨hvectors .v128 .w32, by decide, hmodulus, hdraws, hscalar⟩

end Generator

end VectorTrial
