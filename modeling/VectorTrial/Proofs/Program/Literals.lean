import VectorTrial.Program.Verification
import VectorTrial.Proofs.Lane.Truncation

/-!
# Literals that fit their width

A word is written at a width of `b` bits when shifting it to the left by `64 - b` bits and back
gives the word again. That is so exactly for the words in the signed range of `b` bits, hence for
every lane value at the width of its lane.

## Main results

* `VectorTrial.Program.shift_back_iff` — the words that a shift to the left and back keeps.
* `VectorTrial.Program.checkLiteral_eq_ok_iff` — the words that can be written at a width.
* `VectorTrial.Program.checkLiteral_truncate` — a lane value can be written at its lane's width.
-/

namespace VectorTrial.Program

theorem toNat_smod_excess : ∀ e < 64, ((Int64.ofNat e).toBitVec.smod 64).toNat = e := by
  decide

/-- A word shifted to the left and back is the quotient of a balanced residue. -/
theorem toInt_shift_back {e : Nat} (he : e < 64) (v : Int64) :
    ((v <<< Int64.ofNat e) >>> Int64.ofNat e).toInt = (v.toInt * 2 ^ e).bmod (2 ^ 64) / 2 ^ e := by
  have hword : v.toInt = (v.toBitVec.toNat : Int).bmod (2 ^ 64) := BitVec.toInt_eq_toNat_bmod _
  rw [← Int64.toInt_toBitVec, Int64.toBitVec_shiftRight, Int64.toBitVec_shiftLeft,
    BitVec.sshiftRight', BitVec.shiftLeft_eq', toNat_smod_excess e he, BitVec.toInt_sshiftRight,
    BitVec.toInt_shiftLeft, Nat.shiftLeft_eq, Int.shiftRight_eq_div_pow, hword, Int.bmod_mul_bmod,
    Nat.cast_mul, Nat.cast_pow, Nat.cast_ofNat]

/-- A shift to the left and back keeps exactly the words that it can shift without loss. -/
theorem shift_back_iff {e : Nat} (he : e < 64) (v : Int64) :
    (v <<< Int64.ofNat e) >>> Int64.ofNat e = v ↔
      -(2 ^ (63 - e)) ≤ v.toInt ∧ v.toInt < 2 ^ (63 - e) := by
  have hpow : (2 : Int) ^ (63 - e) * 2 ^ e = 2 ^ 63 := by
    rw [← pow_add, Nat.sub_add_cancel (by omega)]
  have hpos : (0 : Int) < 2 ^ e := by positivity
  have hdvd : (2 : Int) ^ e ∣ (v.toInt * 2 ^ e).bmod (2 ^ 64) := by
    rw [Int.bmod_eq_self_sub_mul_bdiv]
    refine Int.dvd_sub (Dvd.intro_left _ rfl) (Dvd.dvd.mul_right ?_ _)
    rw [Nat.cast_pow]
    exact pow_dvd_pow 2 he.le
  have hbounds : (v.toInt * 2 ^ e).bmod (2 ^ 64) = v.toInt * 2 ^ e ↔
      -(2 ^ 63) ≤ v.toInt * 2 ^ e ∧ v.toInt * 2 ^ e < 2 ^ 63 := by
    rw [Int.bmod_eq_iff (by norm_num), Int.sub_self]
    norm_num
  rw [← Int64.toInt_inj, toInt_shift_back he, Int.ediv_eq_iff_eq_mul_left hpos.ne' hdvd, hbounds,
    ← hpow, ← neg_mul, mul_le_mul_iff_of_pos_right hpos, mul_lt_mul_iff_of_pos_right hpos]

theorem isSignExtension_iff {bits : UInt32} (hlow : 1 ≤ bits.toNat) (hhigh : bits.toNat ≤ 64)
    (v : Int64) : isSignExtension bits v = true ↔
      -(2 ^ (bits.toNat - 1)) ≤ v.toInt ∧ v.toInt < 2 ^ (bits.toNat - 1) := by
  have he : 63 - (64 - bits.toNat) = bits.toNat - 1 := by omega
  rw [isSignExtension, beq_iff_eq, shift_back_iff (by omega), he]

/-- **Literals.** The words that can be written at a width are those in its signed range. -/
theorem checkLiteral_eq_ok_iff {bits : UInt32} {v : Int64} :
    checkLiteral bits v = .ok () ↔
      (1 ≤ bits.toNat ∧ bits.toNat ≤ 64) ∧
        -(2 ^ (bits.toNat - 1)) ≤ v.toInt ∧ v.toInt < 2 ^ (bits.toNat - 1) := by
  unfold checkLiteral
  by_cases hbits : 1 ≤ bits.toNat ∧ bits.toNat ≤ 64
  · rw [if_pos hbits, ← isSignExtension_iff hbits.1 hbits.2]
    by_cases hsign : isSignExtension bits v = true
    · rw [if_pos hsign]
      exact ⟨fun _ => ⟨hbits, hsign⟩, fun _ => rfl⟩
    · rw [if_neg hsign]
      exact ⟨fun h => (nomatch h), fun h => absurd h.2 hsign⟩
  · rw [if_neg hbits]
    exact ⟨fun h => (nomatch h), fun h => absurd h.1 hbits⟩

theorem toNat_ofNat_bits (w : LaneWidth) : (UInt32.ofNat w.bits).toNat = w.bits := by
  cases w <;> rfl

/-- A lane value can be written at the width of its lane. -/
theorem checkLiteral_truncate (w : LaneWidth) (v : Int64) :
    checkLiteral (UInt32.ofNat w.bits) (w.truncate v) = .ok () := by
  rw [checkLiteral_eq_ok_iff, toNat_ofNat_bits]
  exact ⟨⟨w.bits_pos, w.bits_le⟩, w.truncate_bounds v⟩

end VectorTrial.Program
