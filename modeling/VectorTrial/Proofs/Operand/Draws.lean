import VectorTrial.Operand.Generator
import VectorTrial.Proofs.Lane.Decomposition

/-!
# Draws and what a modulus does to them

An operand is drawn lane after lane, and only then is a modulus applied to each lane. What is drawn
and how much of the source is used up thus depend on the strategy and on the source alone. A modulus
takes the place of each lane's value by its remainder, which is neither negative nor too great for
the lane, so that packing changes nothing.

## Main definitions

* `VectorTrial.Generator.draws` — lanes as the source gives them.
* `VectorTrial.Generator.countLanes` — the lanes of a shift count under a modulus.
* `VectorTrial.Generator.ReducesCounts` — all that a modulus does to draws.

## Main results

* `VectorTrial.Generator.fill_eq` — an operand as its draws, reduced and packed.
* `VectorTrial.Generator.toInt_reduce` — the remainder that a modulus leaves of a lane.
* `VectorTrial.Generator.countLanes_some`, `VectorTrial.Generator.countLanes_none` — the lanes of a
  shift count are the draws, reduced if there is a modulus.
* `VectorTrial.Generator.vector_withShiftModulus` — a modulus changes no other vector.
* `VectorTrial.Generator.reducesCounts` — a positive modulus reduces counts, and nothing else.
-/

namespace VectorTrial.Generator

variable {σ : Type} [DrawSource σ] {g : Generator σ} {strategy : Strategy} {w : LaneWidth}
  {shape : Shape} {m : UInt32} {count : Nat} {s : σ}

/-! ### Draws -/

/-- Lanes drawn one after the other, as the source gives them. -/
def draws (strategy : Strategy) (w : LaneWidth) : Nat → σ → List Int64 × σ
  | 0, s => ([], s)
  | count + 1, s =>
    let (v, s) := drawLane strategy w s
    let (rest, s) := draws strategy w count s
    (v :: rest, s)

@[simp] theorem length_draws : (draws strategy w count s).1.length = count := by
  induction count generalizing s with
  | zero => rfl
  | succ count ih => exact congrArg Nat.succ ih

theorem truncate_uniformLane (w : LaneWidth) (s : σ) :
    w.truncate (uniformLane w s).1 = (uniformLane w s).1 := by
  cases w with
  | w8 => exact congrArg Int8.toInt64 (Int8.toInt8_toInt64 _)
  | w16 => exact congrArg Int16.toInt64 (Int16.toInt16_toInt64 _)
  | w32 => exact congrArg Int32.toInt64 (Int32.toInt32_toInt64 _)
  | w64 => rfl

/-- A drawn lane already lies in the range of its width. -/
theorem truncate_drawLane (strategy : Strategy) (w : LaneWidth) (s : σ) :
    w.truncate (drawLane strategy w s).1 = (drawLane strategy w s).1 := by
  have hinteresting : ∀ s : σ, w.truncate (interestingLane w s).1 = (interestingLane w s).1 :=
    fun s => w.truncate_truncate _
  cases strategy with
  | uniform => exact truncate_uniformLane w s
  | interesting => exact hinteresting s
  | mixed =>
    unfold drawLane
    dsimp only
    split
    · exact hinteresting _
    · exact truncate_uniformLane w _

theorem truncate_of_mem_draws {v : Int64} (h : v ∈ (draws strategy w count s).1) :
    w.truncate v = v := by
  induction count generalizing s with
  | zero => exact absurd h List.not_mem_nil
  | succ count ih =>
    rcases List.mem_cons.1 h with rfl | h
    · exact truncate_drawLane strategy w s
    · exact ih h

/-! ### Operands as draws -/

/-- Narrowing a lane value keeps the low bytes of its word, and these are what a lane holds. -/
theorem narrowedBytes_eq (w : LaneWidth) (v : Int64) : narrowedBytes w v = w.write v := by
  cases w with
  | w8 => exact littleEndian_congr (toNat_signExtend_modEq v (n := 8) (by decide))
  | w16 => exact littleEndian_congr (toNat_signExtend_modEq v (n := 16) (by decide))
  | w32 => exact littleEndian_congr (toNat_signExtend_modEq v (n := 32) (by decide))
  | w64 => rfl

/-- What is written over some chunks are the draws, each reduced for itself, as lanes. -/
theorem chunks_eq (w : LaneWidth) (modulus : Option UInt32) (count : Nat) (g : Generator σ) :
    chunks w modulus count g =
      (w.writeAll ((draws g.strategy w count g.source).1.map (reduceBy w modulus)),
        g.withSource (draws g.strategy w count g.source).2) := by
  induction count generalizing g with
  | zero => rfl
  | succ count ih =>
    rw [chunks]
    simp only [ih, narrowedBytes_eq]
    rfl

/-- The modulus that a request for an operand brings to bear: a scalar takes that of the
generator. -/
def modulusFor (g : Generator σ) (shape : Shape) (modulus : Option UInt32) : Option UInt32 :=
  if shape.isScalar then g.shiftModulus else modulus

/-- **Operands.** An operand is its draws, each reduced for itself, and packed. -/
theorem fill_eq (g : Generator σ) (shape : Shape) (modulus : Option UInt32) :
    g.fill shape modulus =
      (Register.pack shape ((draws g.strategy shape.laneWidth shape.laneCount g.source).1.map
          (reduceBy shape.laneWidth (g.modulusFor shape modulus))),
        g.withSource (draws g.strategy shape.laneWidth shape.laneCount g.source).2) := by
  rcases shape with ⟨width, lane⟩ | _
  · have hvector : ¬ (Shape.vector width lane).isScalar = true := Bool.false_ne_true
    have hcount := Register.length_bytes_div_bytes (Register.fits_pack (.vector width lane) [])
    rw [fill, if_neg hvector]
    simp only [Register.zero, hcount, chunks_eq]
    refine Prod.ext (Register.overwrite_writeAll ?_) rfl
    rw [List.length_map, length_draws]
  · rfl

/-! ### Remainders -/

/-- The modulus that takes effect is never more than there are values that are not negative. The cap
on the widest lanes is one too low for this, but no modulus comes near it. -/
theorem effectiveModulus_eq (w : LaneWidth) (m : UInt32) :
    effectiveModulus w m = ((min m.toNat (2 ^ (w.bits - 1)) : Nat) : Int) := by
  have hm : m.toNat < 2 ^ 32 := m.toNat_lt
  have hcap : w.maxSigned.toInt + 1 = 2 ^ (w.bits - 1) := by cases w <;> rfl
  have hword : Int64.maxValue.toInt = 2 ^ 63 - 1 := rfl
  rw [effectiveModulus, hcap, hword]
  cases w with
  | w64 =>
    norm_num [LaneWidth.bits]
    omega
  | _ => norm_num [LaneWidth.bits]

theorem effectiveModulus_pos (w : LaneWidth) (hm : 0 < m) : 0 < effectiveModulus w m := by
  rw [effectiveModulus_eq, Nat.cast_pos]
  exact lt_min (UInt32.lt_iff_toNat_lt.1 hm) (Nat.two_pow_pos _)

/-- A remainder is not negative, and it is below the modulus and in the range of its lane. -/
theorem emod_effectiveModulus_bounds (w : LaneWidth) (hm : 0 < m) (n : Int) :
    0 ≤ n % effectiveModulus w m ∧ n % effectiveModulus w m < m.toNat ∧
      n % effectiveModulus w m < 2 ^ (w.bits - 1) := by
  have hpos := effectiveModulus_pos w hm
  have hlt := Int.emod_lt_of_pos n hpos
  have hmodulus : effectiveModulus w m ≤ m.toNat := by
    rw [effectiveModulus_eq]
    exact_mod_cast min_le_left _ _
  have hlane : effectiveModulus w m ≤ 2 ^ (w.bits - 1) := by
    rw [effectiveModulus_eq]
    exact_mod_cast min_le_right _ _
  exact ⟨Int.emod_nonneg _ hpos.ne', hlt.trans_le hmodulus, hlt.trans_le hlane⟩

/-- **Remainders.** A modulus leaves the Euclidean remainder of a lane. -/
theorem toInt_reduce (w : LaneWidth) (hm : 0 < m) (v : Int64) :
    (reduce w m v).toInt = v.toInt % effectiveModulus w m := by
  obtain ⟨hlow, -, hhigh⟩ := emod_effectiveModulus_bounds w hm v.toInt
  have hbits : (2 : Int) ^ (w.bits - 1) ≤ 2 ^ 63 :=
    pow_le_pow_right₀ (by norm_num) (Nat.sub_le_sub_right w.bits_le 1)
  have hne : m ≠ 0 := UInt32.pos_iff_ne_zero.1 hm
  rw [reduce, if_neg hne]
  exact Int64.toInt_ofInt_of_le (by omega) (by omega)

/-- Packing changes no reduced lane. -/
theorem truncate_reduce (w : LaneWidth) (hm : 0 < m) (v : Int64) :
    w.truncate (reduce w m v) = reduce w m v := by
  obtain ⟨hlow, -, hhigh⟩ := emod_effectiveModulus_bounds w hm v.toInt
  have hhalf : ((2 ^ w.bits : Nat) : Int) = 2 * 2 ^ (w.bits - 1) := by
    rw [← pow_succ', Nat.sub_add_cancel w.bits_pos, Nat.cast_pow, Nat.cast_ofNat]
  rw [← Int64.toInt_inj, LaneWidth.toInt_truncate, toInt_reduce w hm,
    Int.bmod_eq_iff (Nat.two_pow_pos _), Int.sub_self]
  refine ⟨?_, ?_, Int.dvd_zero _⟩ <;> omega

/-! ### Shift counts and other operands -/

omit [DrawSource σ] in
theorem shiftModulus_withShiftModulus (g : Generator σ) (hm : 0 < m) :
    (g.withShiftModulus (some m)).shiftModulus = some m := by
  simp [withShiftModulus, hm]

/-- A shift count is its draws, each reduced by the modulus of the generator. -/
theorem shiftCount_eq (g : Generator σ) (shape : Shape) :
    g.shiftCount shape =
      (Register.pack shape ((draws g.strategy shape.laneWidth shape.laneCount g.source).1.map
          (reduceBy shape.laneWidth g.shiftModulus)),
        g.withSource (draws g.strategy shape.laneWidth shape.laneCount g.source).2) := by
  have hmodulus : g.modulusFor shape g.shiftModulus = g.shiftModulus := ite_self _
  rw [shiftCount, fill_eq, hmodulus]

/-- The lanes of the shift count that a generator draws under a modulus, if there is one. -/
def countLanes (g : Generator σ) (modulus : Option UInt32) (shape : Shape) : List Int64 :=
  ((g.withShiftModulus modulus).shiftCount shape).1.lanes shape.laneWidth

/-- **Shift counts.** With a modulus, the lanes of a shift count are the reduced draws. -/
theorem countLanes_some (g : Generator σ) (hm : 0 < m) (shape : Shape) :
    g.countLanes (some m) shape =
      (draws g.strategy shape.laneWidth shape.laneCount g.source).1.map
        (reduce shape.laneWidth m) := by
  rw [countLanes, shiftCount_eq, shiftModulus_withShiftModulus g hm]
  have hlength : ((draws g.strategy shape.laneWidth shape.laneCount g.source).1.map
      (reduce shape.laneWidth m)).length = shape.laneCount := by
    rw [List.length_map, length_draws]
  refine (Register.lanes_pack hlength).trans ?_
  rw [List.map_map]
  exact List.map_congr_left fun v _ => truncate_reduce shape.laneWidth hm v

/-- Without a modulus, the lanes of a shift count are the draws. -/
theorem countLanes_none (g : Generator σ) (shape : Shape) :
    g.countLanes none shape =
      (draws g.strategy shape.laneWidth shape.laneCount g.source).1 := by
  have hpacked : ((g.withShiftModulus none).shiftCount shape).1 =
      Register.pack shape (draws g.strategy shape.laneWidth shape.laneCount g.source).1 := by
    rw [shiftCount_eq]
    exact congrArg (Register.pack shape) (List.map_id _)
  rw [countLanes, hpacked, Register.lanes_pack length_draws]
  exact (List.map_congr_left fun v hv => truncate_of_mem_draws hv).trans (List.map_id _)

/-- A modulus does not change how much of the source a shift count uses up. -/
theorem shiftCount_withShiftModulus_snd (g : Generator σ) (modulus : Option UInt32)
    (shape : Shape) : ((g.withShiftModulus modulus).shiftCount shape).2 =
      (g.shiftCount shape).2.withShiftModulus modulus := by
  rw [shiftCount_eq, shiftCount_eq]
  rfl

/-- **Other operands.** A modulus changes no vector that is not a shift count. -/
theorem vector_withShiftModulus (g : Generator σ) (modulus : Option UInt32)
    (h : shape.isScalar = false) : (g.withShiftModulus modulus).vector shape =
      ((g.vector shape).1, (g.vector shape).2.withShiftModulus modulus) := by
  have hmodulus : ∀ g : Generator σ, g.modulusFor shape none = none :=
    fun g => if_neg (ne_true_of_eq_false h)
  rw [vector, vector, fill_eq, fill_eq, hmodulus, hmodulus]
  rfl

/-- **Reduced counts.** What a modulus does to the draw of an operand: a shift count is drawn as
without it, then each of its lanes is replaced by its remainder; a vector that is no shift count
stays as it is. -/
structure ReducesCounts (g : Generator σ) (m : UInt32) (shape : Shape) : Prop where
  lanes : (g.countLanes (some m) shape).map Int64.toInt = (g.countLanes none shape).map fun v =>
    v.toInt % ((min m.toNat (2 ^ (shape.laneWidth.bits - 1)) : Nat) : Int)
  bounds : ∀ v ∈ g.countLanes (some m) shape,
    0 ≤ v.toInt ∧ v.toInt < ((min m.toNat (2 ^ (shape.laneWidth.bits - 1)) : Nat) : Int)
  fits (modulus : Option UInt32) :
    ((g.withShiftModulus modulus).shiftCount shape).1.fits shape = true
  source : ((g.withShiftModulus (some m)).shiftCount shape).2.source =
    ((g.withShiftModulus none).shiftCount shape).2.source
  vector (h : shape.isScalar = false) : ((g.withShiftModulus (some m)).vector shape).1 =
    ((g.withShiftModulus none).vector shape).1
  vectorSource (h : shape.isScalar = false) :
    ((g.withShiftModulus (some m)).vector shape).2.source =
      ((g.withShiftModulus none).vector shape).2.source

theorem reducesCounts (g : Generator σ) (hm : 0 < m) (shape : Shape) : g.ReducesCounts m shape where
  lanes := by
    rw [countLanes_some g hm, countLanes_none, List.map_map, ← effectiveModulus_eq]
    exact List.map_congr_left fun v _ => toInt_reduce _ hm v
  bounds := by
    intro v hv
    rw [countLanes_some g hm] at hv
    obtain ⟨drawn, -, rfl⟩ := List.mem_map.1 hv
    rw [toInt_reduce _ hm, ← effectiveModulus_eq]
    have hpos := effectiveModulus_pos shape.laneWidth hm
    exact ⟨Int.emod_nonneg _ hpos.ne', Int.emod_lt_of_pos _ hpos⟩
  fits modulus := fits_shiftCount _ shape
  source := by
    rw [shiftCount_withShiftModulus_snd, shiftCount_withShiftModulus_snd]
    rfl
  vector h := by rw [vector_withShiftModulus g _ h, vector_withShiftModulus g _ h]
  vectorSource h := by
    rw [vector_withShiftModulus g _ h, vector_withShiftModulus g _ h]
    rfl

end VectorTrial.Generator
