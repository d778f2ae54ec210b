import Mathlib.Data.Nat.Digits.Defs
import VectorTrial.Operand.Keystream
import VectorTrial.Proofs.Trial.ShiftCounts

/-!
# Counts that are taken from several lanes

Some shifts take one count for all lanes: the low 64 bits of their second operand. The operand is
drawn lane by lane, and a modulus brings each lane below itself, not the number that these lanes
make up together. Only where a lane has 64 bits is the count itself below the modulus. Where lanes
are narrower, every lane of the count but the lowest weighs more than any modulus.

## Main definitions

* `VectorTrial.Register.quadword` — the low 64 bits of a register.
* `VectorTrial.Intrinsic.countsByQuadword` — the shifts that take their count from there.

## Main results

* `VectorTrial.Intrinsic.countsByQuadword_eq` — which symbols these shifts have.
* `VectorTrial.Register.quadword_eq` — the lanes are the digits of the low 64 bits.
* `VectorTrial.Run.quadword_count` — the counts that are drawn under a modulus.
-/

namespace VectorTrial

/-! ### Shifts by a vector -/

/-- The low 64 bits of a register, as an unsigned number. -/
def Register.quadword (r : Register) : Nat := ofLittleEndian (r.bytes.take 8)

namespace Intrinsic

/-- Whether an instruction shifts all lanes by the low 64 bits of its second operand. -/
def countsByQuadword (i : Intrinsic) : Bool :=
  match i.entry.operation with
  | .shift _ .quadword => true
  | _ => false

/-- The shifts by a vector, unlike those with an immediate count or a count for each lane, have
symbols in which one of three words occurs. -/
theorem countsByQuadword_eq (i : Intrinsic) :
    i.countsByQuadword = [".psrl.", ".psra.", ".psll."].any fun word =>
      decide (word.toByteArray.data.toList <:+: i.symbol.toByteArray.data.toList) := by
  have hall : ∀ k : Fin Catalog.size, (Intrinsic.mk k).countsByQuadword =
      [".psrl.", ".psra.", ".psll."].any fun word =>
        decide (word.toByteArray.data.toList <:+:
          (Intrinsic.mk k).symbol.toByteArray.data.toList) := by decide +kernel
  exact hall i.index

/-- The second operand of these shifts is a count in a vector of 128 bits. -/
theorem second_of_countsByQuadword {i : Intrinsic} (h : i.countsByQuadword = true) :
    i.hasShiftCount = true ∧ i.second = .vector .v128 i.second.laneWidth := by
  have hall : ∀ k : Fin Catalog.size, (Intrinsic.mk k).countsByQuadword = true →
      (Intrinsic.mk k).hasShiftCount = true ∧
        (Intrinsic.mk k).second = .vector .v128 (Intrinsic.mk k).second.laneWidth := by
    decide +kernel
  exact hall i.index h

end Intrinsic

/-! ### Lanes as digits -/

theorem take_groups {α : Type} (size : Nat) {k count : Nat} (h : k ≤ count) (xs : List α) :
    (groups size count xs).take k = groups size k xs := by
  induction k generalizing count xs with
  | zero => rfl
  | succ k ih =>
    obtain ⟨count, rfl⟩ : ∃ c, count = c + 1 := ⟨count - 1, by omega⟩
    rw [groups, groups, List.take_succ_cons, ih (Nat.le_of_succ_le_succ h)]

/-- Bytes in groups of equal length are digits of a larger base. -/
theorem ofLittleEndian_take {size count : Nat} {xs : List UInt8} (h : count * size ≤ xs.length) :
    ofLittleEndian (xs.take (count * size)) =
      Nat.ofDigits (256 ^ size) ((groups size count xs).map ofLittleEndian) := by
  induction count generalizing xs with
  | zero => simp [groups, ofLittleEndian]
  | succ count ih =>
    rw [Nat.succ_mul] at h
    have hfirst : (xs.take size).length = size := by
      rw [List.length_take]
      omega
    have hrest : count * size ≤ (xs.drop size).length := by
      rw [List.length_drop]
      omega
    rw [Nat.succ_mul, Nat.add_comm, List.take_add, ofLittleEndian_append, hfirst, ih hrest, groups,
      List.map_cons, Nat.ofDigits_cons]

/-- The bytes of a lane that is not negative show its value. -/
theorem LaneWidth.ofLittleEndian_of_nonneg {w : LaneWidth} {bytes : List UInt8}
    (hlength : bytes.length = w.bytes) (h : 0 ≤ (w.read bytes).toInt) :
    ofLittleEndian bytes = (w.read bytes).toInt.toNat := by
  have hbound : ofLittleEndian bytes < 2 ^ w.bits := by
    rw [two_pow_bits, ← hlength]
    exact ofLittleEndian_lt bytes
  rw [toInt_read] at h ⊢
  rw [Int.bmod_def] at h ⊢
  have hmod : (ofLittleEndian bytes : Int) % ((2 ^ w.bits : Nat) : Int) = ofLittleEndian bytes :=
    by exact_mod_cast Nat.mod_eq_of_lt hbound
  rw [hmod] at h ⊢
  split_ifs at h ⊢ with hhalf
  · rfl
  · omega

/-- **Lanes as digits.** In a register of 128 bits whose lanes are not negative, the lanes in the
low 64 bits are the digits of the number that these make up. -/
theorem Register.quadword_eq {r : Register} {w : LaneWidth} (hlength : r.bytes.length = 16)
    (hnonneg : ∀ v ∈ r.lanes w, 0 ≤ v.toInt) :
    r.quadword = Nat.ofDigits (2 ^ w.bits)
      (((r.lanes w).take (64 / w.bits)).map fun v => v.toInt.toNat) := by
  have height : 64 / w.bits * w.bytes = 8 := by cases w <;> rfl
  have hfew : 64 / w.bits ≤ 16 / w.bytes := by cases w <;> decide
  have hwhole : r.bytes.length = 16 / w.bytes * w.bytes := by
    rw [hlength]
    cases w <;> rfl
  have hlanes : r.lanes w = (groups w.bytes (16 / w.bytes) r.bytes).map w.read := by
    rw [lanes, chunks, hlength]
  rw [hlanes] at hnonneg ⊢
  rw [quadword, ← height, ofLittleEndian_take (by omega), LaneWidth.two_pow_bits, ← List.map_take,
    take_groups _ hfew, List.map_map]
  refine congrArg _ (List.map_congr_left fun bytes hbytes => ?_)
  have hmem : bytes ∈ groups w.bytes (16 / w.bytes) r.bytes := by
    rw [← take_groups _ hfew] at hbytes
    exact List.mem_of_mem_take hbytes
  exact LaneWidth.ofLittleEndian_of_nonneg (length_of_mem_groups hwhole hmem)
    (hnonneg _ (List.mem_map_of_mem hmem))

/-- A single lane, or lanes of zero, make up a number that is below what the lanes are below. -/
theorem Register.quadword_lt {r : Register} {w : LaneWidth} {m : UInt32} (hm : 0 < m.toNat)
    (hdigits : r.quadword = Nat.ofDigits (2 ^ w.bits)
      (((r.lanes w).take (64 / w.bits)).map fun v => v.toInt.toNat))
    (hbelow : ∀ v ∈ r.lanes w, v.toInt.toNat < m.toNat) (h : w = .w64 ∨ m = 1) :
    r.quadword < m.toNat := by
  rw [hdigits]
  rcases h with rfl | rfl
  · cases hread : r.lanes .w64 with
    | nil => exact hm
    | cons v rest =>
      rw [hread] at hbelow
      exact Nat.ofDigits_singleton.trans_lt (hbelow v List.mem_cons_self)
  · have hzero : ∀ v ∈ (r.lanes w).take (64 / w.bits), v.toInt.toNat = 0 := fun v hv =>
      Nat.lt_one_iff.1 (hbelow v (List.mem_of_mem_take hv))
    rw [List.map_congr_left hzero, List.map_const', Nat.ofDigits_replicate_zero]
    exact hm

/-! ### Counts under a modulus -/

/-- A modulus of valid settings is positive. -/
theorem Settings.pos_of_validate {settings : Settings} {m : UInt32}
    (hvalid : settings.validate = .ok ()) (hm : settings.shiftModulus = some m) : 0 < m := by
  obtain ⟨_, -, hmodulus⟩ := bind_eq_ok.1 hvalid
  rw [hm] at hmodulus
  refine UInt32.pos_iff_ne_zero.2 ?_
  rintro rfl
  cases hmodulus

namespace Run

variable {σ : Type} [DrawSource σ] {m : UInt32} {i : Intrinsic}

/-- The second operand that is drawn in a test of an instruction under a modulus. -/
def countOperand (g : Generator σ) (modulus : Option UInt32) (i : Intrinsic) : Register :=
  (drawOperands (g.withShiftModulus modulus) i).1.2

/-- **Drawn counts.** What is so of the count that is drawn for a shift by a vector: its lanes are
not negative and below the modulus, they are the digits of its low 64 bits, and these are below the
modulus where they are a single lane, or where the modulus is one. -/
structure LanesBelow (m : UInt32) (w : LaneWidth) (count : Register) : Prop where
  lanes : ∀ v ∈ count.lanes w,
    0 ≤ v.toInt ∧ v.toInt < ((min m.toNat (2 ^ (w.bits - 1)) : Nat) : Int)
  digits : count.quadword = Nat.ofDigits (2 ^ w.bits)
    (((count.lanes w).take (64 / w.bits)).map fun v => v.toInt.toNat)
  below (h : w = .w64 ∨ m = 1) : count.quadword < m.toNat

theorem lanesBelow_countOperand (hm : 0 < m) (h : i.countsByQuadword = true) (g : Generator σ) :
    LanesBelow m i.second.laneWidth (countOperand g (some m) i) := by
  obtain ⟨hcount, hsecond⟩ := Intrinsic.second_of_countsByQuadword h
  have hmodulus := g.shiftModulus_withShiftModulus hm
  have hpos : 0 < m.toNat := UInt32.lt_iff_toNat_lt.1 hm
  have hfits : (countOperand g (some m) i).fits i.second = true :=
    (fits_operands i (⟨g.withShiftModulus (some m), (), (), .new none⟩ : State σ Unit Unit)).2
  have hsize : ∀ w : LaneWidth, (Shape.vector .v128 w).byteSize = 16 :=
    fun w => by cases w <;> rfl
  have hlength : (countOperand g (some m) i).bytes.length = 16 := by
    rw [Register.length_bytes_of_fits hfits, Shape.laneCount_mul_bytes, hsecond, hsize]
  have hlanes : ∀ v ∈ (countOperand g (some m) i).lanes i.second.laneWidth, 0 ≤ v.toInt ∧
      v.toInt < ((min m.toNat (2 ^ (i.second.laneWidth.bits - 1)) : Nat) : Int) :=
    fun v hv => bounds_of_mem_count hm hmodulus hcount hv
  have hdigits := Register.quadword_eq hlength fun v hv => (hlanes v hv).1
  refine ⟨hlanes, hdigits, Register.quadword_lt hpos hdigits fun v hv => ?_⟩
  obtain ⟨hlow, hhigh⟩ := hlanes v hv
  have hmin : min m.toNat (2 ^ (i.second.laneWidth.bits - 1)) ≤ m.toNat := min_le_left _ _
  omega

/-! ### Counts above a modulus -/

/-- A source of ones. -/
structure Ones where

instance : DrawSource Ones where
  int8 s := (1, s)
  int16 s := (1, s)
  int32 s := (1, s)
  int64 s := (1, s)
  coin s := (false, s)
  -- The boundary value at this index is one.
  pick _ positive s := (⟨11 % _, Nat.mod_lt 11 positive⟩, s)

/-- By every strategy, all lanes that are drawn from a source of ones are one. -/
theorem draws_ones (strategy : Strategy) (w : LaneWidth) (count : Nat) :
    (Generator.draws strategy w count Ones.mk).1 = List.replicate count 1 := by
  induction count with
  | zero => rfl
  | succ count ih =>
    have hlane : Generator.drawLane strategy w Ones.mk = (1, Ones.mk) := by
      cases strategy <;> cases w <;> rfl
    rw [Generator.draws, hlane, List.replicate_succ]
    exact congrArg _ ih

/-- A modulus of two or more leaves a lane of one as it is. -/
theorem reduce_one (w : LaneWidth) (hm : 1 < m) : Generator.reduce w m 1 = 1 := by
  have hone : 1 < m.toNat := UInt32.lt_iff_toNat_lt.1 hm
  have hpos : 0 < m := UInt32.lt_iff_toNat_lt.2 (Nat.zero_lt_of_lt hone)
  have hlane : 1 < 2 ^ (w.bits - 1) := by cases w <;> decide
  have hmodulus : (1 : Int) < ((min m.toNat (2 ^ (w.bits - 1)) : Nat) : Int) := by
    exact_mod_cast lt_min hone hlane
  rw [← Int64.toInt_inj, Generator.toInt_reduce w hpos, Generator.effectiveModulus_eq]
  exact Int.emod_eq_of_lt (by decide) hmodulus

/-- **Counts above the modulus.** Where a lane is narrower than the count, lanes of one make up a
count that is above every modulus. -/
theorem le_quadword_ones (hm : 1 < m) (h : i.countsByQuadword = true)
    (hw : i.second.laneWidth ≠ .w64) (strategy : Strategy) :
    m.toNat ≤ (countOperand (Generator.new Ones.mk strategy) (some m) i).quadword := by
  obtain ⟨hcount, hsecond⟩ := Intrinsic.second_of_countsByQuadword h
  have hpos : 0 < m :=
    UInt32.lt_iff_toNat_lt.2 (Nat.zero_lt_of_lt (UInt32.lt_iff_toNat_lt.1 hm))
  have hstrategy : (((Generator.new Ones.mk strategy).withShiftModulus (some m)).vector
      i.first).2.strategy = strategy := by
    rw [Generator.vector, Generator.fill_eq]
    rfl
  have hlanes : (countOperand (Generator.new Ones.mk strategy) (some m) i).lanes
      i.second.laneWidth = List.replicate i.second.laneCount 1 := by
    rw [countOperand, lanes_count hpos (Generator.shiftModulus_withShiftModulus _ hpos) hcount,
      Generator.countLanes_some _ hpos, hstrategy, draws_ones, List.map_replicate, reduce_one _ hm]
  have hmax : m.toNat < 2 ^ 32 := m.toNat_lt
  rw [(lanesBelow_countOperand hpos h _).digits, hlanes, hsecond]
  have hdigits : ∀ w : LaneWidth, w ≠ .w64 → 2 ^ 32 ≤ Nat.ofDigits (2 ^ w.bits)
      (((List.replicate (Shape.vector .v128 w).laneCount (1 : Int64)).take (64 / w.bits)).map
        fun v => v.toInt.toNat) := by
    intro w hw
    cases w with
    | w64 => exact absurd rfl hw
    | _ => decide
  exact hmax.le.trans (hdigits _ hw)

/-- **Counts of shifts by a vector.** Under the modulus of valid settings, and from every state of a
generator, the count that is drawn for a shift by a vector has lanes that are not negative and below
the modulus, and these lanes are the digits of its low 64 bits. The number that they make up is
below the modulus where lanes have 64 bits and where the modulus is one. For every other such shift
and every other modulus there is, for each strategy, a generator that draws a count that is not. -/
theorem quadword_count {settings : Settings} (hvalid : settings.validate = .ok ())
    (hm : settings.shiftModulus = some m) (h : i.countsByQuadword = true) :
    (∀ {σ : Type} [DrawSource σ] (g : Generator σ),
      LanesBelow m i.second.laneWidth (countOperand g settings.shiftModulus i)) ∧
    (i.second.laneWidth ≠ .w64 → m ≠ 1 → ∀ strategy, ∃ g : Generator Ones,
      g.strategy = strategy ∧ m.toNat ≤ (countOperand g settings.shiftModulus i).quadword) := by
  have hpos := Settings.pos_of_validate hvalid hm
  rw [hm]
  refine ⟨fun g => lanesBelow_countOperand hpos h g, fun hw hne strategy => ?_⟩
  have hlarge : 1 < m := by
    have hone : 1 ≤ m.toNat := UInt32.lt_iff_toNat_lt.1 hpos
    have hne' : 1 ≠ m.toNat := fun heq => hne (UInt32.toNat_inj.1 heq.symm)
    exact UInt32.lt_iff_toNat_lt.2 (lt_of_le_of_ne hone hne')
  exact ⟨.new Ones.mk strategy, rfl, le_quadword_ones hlarge h hw strategy⟩

/-! ### Counts below sixteen -/

namespace BelowSixteen

/-- One test each of shifts by a vector of halfwords, words and quadwords, with a modulus of
sixteen. -/
def settings : Settings := ⟨1, ⟨8, 11⟩, false, .uniform, some 16, true⟩

/-- The shift of halfwords. -/
def halfwords : Intrinsic := ⟨⟨8, by decide⟩⟩

/-- The shift of quadwords. -/
def quadwords : Intrinsic := ⟨⟨10, by decide⟩⟩

/-- The generator of a seed of one. -/
def generator : Generator Keystream := .new (.ofSeed 1) .uniform

end BelowSixteen

open BelowSixteen

theorem quadword_count_belowSixteen :
    LanesBelow 16 .w16 (countOperand generator (some 16) halfwords) ∧
      (∃ g : Generator Ones, g.strategy = .mixed ∧
        16 ≤ (countOperand g (some 16) halfwords).quadword) ∧
      (countOperand generator (some 16) quadwords).quadword < 16 := by
  have hvalid : settings.validate = .ok () := rfl
  obtain ⟨hlanes, habove⟩ :=
    quadword_count (m := 16) (i := halfwords) hvalid rfl (by decide +kernel)
  obtain ⟨hlanes', -⟩ := quadword_count (m := 16) (i := quadwords) hvalid rfl (by decide +kernel)
  exact ⟨hlanes generator, habove (by decide +kernel) (by decide) .mixed,
    (hlanes' generator).below (Or.inl (by decide +kernel))⟩

/-- The lanes of a count of halfwords are 4, 2, 11 and 1. Each of them is below sixteen, but not the
number that they make up, by which the instruction shifts. -/
theorem quadword_halfwords :
    settings.validate = .ok () ∧ settings.shiftModulus = some 16 ∧
      halfwords.countsByQuadword = true ∧
      (countOperand generator settings.shiftModulus halfwords).quadword =
        4 + 2 * 2 ^ 16 + 11 * 2 ^ 32 + 1 * 2 ^ 48 ∧
      ¬ (countOperand generator settings.shiftModulus halfwords).quadword < 16 := by
  have hcount : (countOperand generator settings.shiftModulus halfwords).quadword =
      4 + 2 * 2 ^ 16 + 11 * 2 ^ 32 + 1 * 2 ^ 48 := by decide +kernel
  refine ⟨rfl, rfl, by decide +kernel, hcount, ?_⟩
  rw [hcount]
  decide

end Run

end VectorTrial
