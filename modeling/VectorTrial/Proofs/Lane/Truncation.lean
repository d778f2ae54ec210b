import Mathlib
import VectorTrial.Lane.Width

/-!
# The residue that a lane keeps

A lane of `b` bits keeps the residue of a word modulo `2 ^ b` and shows it as a number in the
signed range of `b` bits. Two words with the same residue give the same lane.

## Main results

* `VectorTrial.LaneWidth.toInt_truncate` — a truncated word as a balanced residue.
* `VectorTrial.LaneWidth.truncate_bounds`, `VectorTrial.LaneWidth.truncate_eq_self_iff` — the lane
  values are the words in the signed range of their width.
* `VectorTrial.toNat_modEq_toInt` — the signed and the unsigned reading of a word agree in their
  low bits.
-/

namespace VectorTrial

namespace LaneWidth

theorem bits_le (w : LaneWidth) : w.bits ≤ 64 := by
  cases w <;> decide

theorem toInt_truncate (w : LaneWidth) (v : Int64) :
    (w.truncate v).toInt = v.toInt.bmod (2 ^ w.bits) := by
  cases w with
  | w8 => exact (Int8.toInt_toInt64 _).trans (Int64.toInt_toInt8 v)
  | w16 => exact (Int16.toInt_toInt64 _).trans (Int64.toInt_toInt16 v)
  | w32 => exact (Int32.toInt_toInt64 _).trans (Int64.toInt_toInt32 v)
  | w64 => exact (Int.bmod_eq_of_le v.le_toInt v.toInt_lt).symm

/-- **Signed range.** A truncated word lies in the signed range of its lane. -/
theorem truncate_bounds (w : LaneWidth) (v : Int64) :
    -(2 ^ (w.bits - 1)) ≤ (w.truncate v).toInt ∧ (w.truncate v).toInt < 2 ^ (w.bits - 1) := by
  have hlow := Int.le_bmod (x := v.toInt) (Nat.two_pow_pos w.bits)
  have hhigh := Int.bmod_lt (x := v.toInt) (Nat.two_pow_pos w.bits)
  rw [← toInt_truncate] at hlow hhigh
  cases w <;> exact ⟨hlow, hhigh⟩

/-- Truncation keeps exactly the words in the signed range of its lane. -/
theorem truncate_eq_self_iff (w : LaneWidth) (v : Int64) :
    w.truncate v = v ↔ -(2 ^ (w.bits - 1)) ≤ v.toInt ∧ v.toInt < 2 ^ (w.bits - 1) := by
  refine ⟨fun h => h ▸ w.truncate_bounds v, fun ⟨hlow, hhigh⟩ => ?_⟩
  rw [← Int64.toInt_inj, toInt_truncate]
  cases w <;> exact Int.bmod_eq_of_le hlow hhigh

/-- A truncated word has the same low bits as the word. -/
theorem truncate_modEq (w : LaneWidth) (v : Int64) :
    (w.truncate v).toInt ≡ v.toInt [ZMOD 2 ^ w.bits] := by
  rw [toInt_truncate]
  have h : v.toInt.bmod (2 ^ w.bits) % ((2 ^ w.bits : Nat) : Int) =
      v.toInt % ((2 ^ w.bits : Nat) : Int) := Int.bmod_emod
  rwa [Nat.cast_pow] at h

end LaneWidth

/-- The signed and the unsigned reading of a word have the same low bits. -/
theorem toNat_modEq_toInt (v : Int64) {n : Nat} (h : n ≤ 64) :
    (v.toUInt64.toNat : Int) ≡ v.toInt [ZMOD 2 ^ n] := by
  have hword : v.toInt = (v.toUInt64.toNat : Int).bmod (2 ^ 64) := BitVec.toInt_eq_toNat_bmod _
  have hmod : v.toInt ≡ (v.toUInt64.toNat : Int) [ZMOD ((2 ^ 64 : Nat) : Int)] := by
    rw [hword]
    exact Int.bmod_emod
  rw [Nat.cast_pow] at hmod
  exact (hmod.of_dvd (pow_dvd_pow 2 h)).symm

/-- A word that is narrowed keeps its low bits. -/
theorem toNat_signExtend_modEq (v : Int64) {n : Nat} (h : n ≤ 64) :
    (v.toBitVec.signExtend n).toNat ≡ v.toUInt64.toNat [MOD 2 ^ n] := by
  rw [BitVec.signExtend_eq_setWidth_of_le _ h, BitVec.toNat_setWidth]
  exact Nat.mod_modEq _ _

theorem toNat_toUInt64_ofNat (k : Nat) : (Int64.ofNat k).toUInt64.toNat = k % 2 ^ 64 := rfl

end VectorTrial
