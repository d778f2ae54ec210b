import VectorTrial.Lane.Register
import VectorTrial.Proofs.Lane.Truncation

/-!
# Reading lanes and packing them again

The lanes of a register hold all of its bits: packed again at the shape with the same register and
the same lane width, they give back the register.

## Main results

* `VectorTrial.littleEndian_ofLittleEndian` — bytes are the digits of the number that they show.
* `VectorTrial.LaneWidth.write_read` — the bytes of a lane are those that it was read from.
* `VectorTrial.Register.ofLanes_lanes` — the lanes of a register pack to the register.
* `VectorTrial.Register.overwrite_writeAll` — lanes written over a whole register.
-/

namespace VectorTrial

/-! ### Numbers as bytes -/

/-- The lowest bytes of a number do not depend on what stands above them. -/
theorem littleEndian_congr {count m n : Nat} (h : m ≡ n [MOD 256 ^ count]) :
    littleEndian count m = littleEndian count n := by
  induction count generalizing m n with
  | zero => rfl
  | succ count ih =>
    have hlow : m % 256 = n % 256 := h.of_dvd (Dvd.intro_left _ (pow_succ 256 count).symm)
    have hhigh : m / 256 ≡ n / 256 [MOD 256 ^ count] := by
      rw [pow_succ'] at h
      unfold Nat.ModEq at h ⊢
      rw [← Nat.mod_mul_right_div_self, ← Nat.mod_mul_right_div_self, h]
    rw [littleEndian, littleEndian, hlow, ih hhigh]

/-- Bytes are the digits of the number that they show. -/
theorem littleEndian_ofLittleEndian (bytes : List UInt8) :
    littleEndian bytes.length (ofLittleEndian bytes) = bytes := by
  induction bytes with
  | nil => rfl
  | cons b rest ih =>
    have hlow : (b.toNat + 256 * ofLittleEndian rest) % 256 = b.toNat := by
      rw [Nat.add_mul_mod_self_left, Nat.mod_eq_of_lt b.toNat_lt]
    have hhigh : (b.toNat + 256 * ofLittleEndian rest) / 256 = ofLittleEndian rest := by
      rw [Nat.add_mul_div_left _ _ (by norm_num), Nat.div_eq_of_lt b.toNat_lt, Nat.zero_add]
    rw [List.length_cons, ofLittleEndian, littleEndian, hlow, hhigh, ih, UInt8.ofNat_toNat]

/-! ### Groups of bytes -/

/-- Groups of equal length, put together again, are the list that they were cut from. -/
theorem flatten_groups {α : Type} {size count : Nat} {xs : List α}
    (h : xs.length = count * size) : (groups size count xs).flatten = xs := by
  induction count generalizing xs with
  | zero => rw [List.length_eq_zero_iff.1 (by omega : xs.length = 0)]; rfl
  | succ count ih =>
    have hrest : (xs.drop size).length = count * size := by
      rw [List.length_drop, h, Nat.succ_mul, Nat.add_sub_cancel]
    rw [groups, List.flatten_cons, ih hrest, List.take_append_drop]

theorem length_of_mem_groups {α : Type} {size count : Nat} {xs group : List α}
    (h : xs.length = count * size) (hgroup : group ∈ groups size count xs) :
    group.length = size := by
  induction count generalizing xs with
  | zero => cases hgroup
  | succ count ih =>
    rw [Nat.succ_mul] at h
    rcases List.mem_cons.1 hgroup with rfl | hgroup
    · rw [List.length_take, h]
      omega
    · exact ih (by rw [List.length_drop, h, Nat.add_sub_cancel]) hgroup

/-! ### Lanes -/

namespace LaneWidth

theorem two_pow_bits (w : LaneWidth) : 2 ^ w.bits = 256 ^ w.bytes := by
  cases w <;> rfl

/-- A lane is written with the low bits of its word only. -/
theorem write_eq_of_modEq {w : LaneWidth} {v : Int64} {n : Nat}
    (h : v.toInt ≡ n [ZMOD 2 ^ w.bits]) : w.write v = littleEndian w.bytes n := by
  refine littleEndian_congr (Int.natCast_modEq_iff.1 ?_)
  rw [← two_pow_bits, Nat.cast_pow]
  exact (toNat_modEq_toInt v w.bits_le).trans h

/-- The bytes of a lane are those that it was read from. -/
theorem write_read {w : LaneWidth} {bytes : List UInt8} (h : bytes.length = w.bytes) :
    w.write (w.read bytes) = bytes := by
  have hmod : (w.read bytes).toInt ≡ (ofLittleEndian bytes : Int) [ZMOD 2 ^ w.bits] := by
    refine (w.truncate_modEq _).trans ((toNat_modEq_toInt _ w.bits_le).symm.trans ?_)
    rw [toNat_toUInt64_ofNat, Int.natCast_mod, Nat.cast_pow]
    exact (Int.mod_modEq _ _).of_dvd (pow_dvd_pow 2 w.bits_le)
  rw [write_eq_of_modEq hmod, ← h, littleEndian_ofLittleEndian]

theorem writeAll_map_read {w : LaneWidth} {size : Nat} {parts : List (List UInt8)}
    (hsize : size = w.bytes) (h : ∀ part ∈ parts, part.length = size) :
    w.writeAll (parts.map w.read) = parts.flatten := by
  induction parts with
  | nil => rfl
  | cons part parts ih =>
    have hpart : part.length = w.bytes := hsize ▸ h part List.mem_cons_self
    have hrest := ih fun p hp => h p (List.mem_cons_of_mem _ hp)
    rw [List.map_cons, writeAll, List.flatMap_cons, write_read hpart, List.flatten_cons]
    exact congrArg (part ++ ·) hrest

end LaneWidth

namespace Register

theorem length_bytes_of_fits {r : Register} {shape : Shape} (h : r.fits shape = true) :
    r.bytes.length = shape.laneCount * shape.laneWidth.bytes := by
  rw [r.length_bytes, of_decide_eq_true h, Shape.byteSize_kind, Shape.laneCount_mul_bytes]

/-- As many lanes fit whole into a register as its shape has. -/
theorem length_bytes_div_bytes {r : Register} {shape : Shape} (h : r.fits shape = true) :
    r.bytes.length / shape.laneWidth.bytes = shape.laneCount := by
  rw [length_bytes_of_fits h, Nat.mul_div_cancel _ shape.laneWidth.bytes_pos]

theorem writeAll_lanes {r : Register} {w : LaneWidth} {count : Nat}
    (h : r.bytes.length = count * w.bytes) : w.writeAll (r.lanes w) = r.bytes := by
  have hcount : r.bytes.length / w.bytes = count := by
    rw [h, Nat.mul_div_cancel _ w.bytes_pos]
  rw [lanes, chunks, hcount, LaneWidth.writeAll_map_read rfl fun _ hp => length_of_mem_groups h hp,
    flatten_groups h]

/-- **Repacking.** A register that fits a shape is given back by its lanes at that shape. -/
theorem ofLanes_lanes {r : Register} {shape : Shape} (h : r.fits shape = true) :
    ofLanes shape (r.lanes shape.laneWidth) = .ok r := by
  have hbytes := length_bytes_of_fits h
  have hcount : (r.lanes shape.laneWidth).length = shape.laneCount := by
    rw [length_lanes, hbytes, Nat.mul_div_cancel _ shape.laneWidth.bytes_pos]
  have hpack : pack shape (r.lanes shape.laneWidth) = r := by
    obtain ⟨kind, bytes, hlength⟩ := r
    simp only [pack, mk.injEq]
    refine ⟨(of_decide_eq_true h).symm, ?_⟩
    rw [padTo_of_length_eq hcount]
    exact writeAll_lanes hbytes
  rw [ofLanes, if_pos hcount, hpack]

/-- Lanes that are written over a whole register are packed. -/
theorem overwrite_writeAll {shape : Shape} {values : List Int64}
    (h : values.length = shape.laneCount) :
    (zero shape).overwrite (shape.laneWidth.writeAll values) = pack shape values := by
  have hlength : (shape.laneWidth.writeAll values).length = (zero shape).bytes.length := by
    rw [LaneWidth.length_writeAll, h, Shape.laneCount_mul_bytes, (zero shape).length_bytes, zero,
      kind_pack, Shape.byteSize_kind]
  have hpad : padTo shape.laneCount values = values := padTo_of_length_eq h
  simp only [overwrite, pack, mk.injEq, hpad]
  refine ⟨rfl, ?_⟩
  rw [← hlength, List.take_length, hlength, List.drop_length, List.append_nil]

end Register

end VectorTrial
