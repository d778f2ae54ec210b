import VectorTrial.Lane.Shape
import VectorTrial.Proofs.Outcome

/-!
# Shapes by exact arithmetic

A number of lanes of some bits is the shape of a register if the lanes have a legal width and their
product, as numbers, is the width of a register. The product is taken with 32 bits and is refused
where it does not fit, so that no product is the width of a register by accident.

## Main results

* `VectorTrial.sizeProduct_eq_ok` — the product of two sizes.
* `VectorTrial.Shape.ofLanes_eq_ok` — which lanes make up a shape, and which shape it is.
* `VectorTrial.Shape.ofLanes_eq_error` — why other lanes are refused.
-/

namespace VectorTrial

theorem LaneWidth.ofBits_eq_ok {bits : UInt32} {lane : LaneWidth} :
    LaneWidth.ofBits bits = .ok lane ↔ lane.bits = bits.toNat := by
  unfold LaneWidth.ofBits
  cases h : LaneWidth.ofBits? bits.toNat with
  | some found =>
    have hfound := LaneWidth.ofBits?_eq_some h
    rw [Except.ok.injEq]
    refine ⟨fun heq => heq ▸ hfound, fun hlane => ?_⟩
    rw [← hlane, LaneWidth.ofBits?_bits] at h
    exact (Option.some.inj h).symm
  | none =>
    refine ⟨fun heq => (nomatch heq), fun hlane => ?_⟩
    rw [← hlane, LaneWidth.ofBits?_bits] at h
    cases h

theorem VectorWidth.ofBits_eq_ok {bits : UInt32} {w : VectorWidth} :
    VectorWidth.ofBits bits = .ok w ↔ w.bits = bits.toNat := by
  unfold VectorWidth.ofBits
  cases h : VectorWidth.ofBits? bits.toNat with
  | some found =>
    have hfound := VectorWidth.ofBits?_eq_some h
    rw [Except.ok.injEq]
    refine ⟨fun heq => heq ▸ hfound, fun hwidth => ?_⟩
    rw [← hwidth, VectorWidth.ofBits?_bits] at h
    exact (Option.some.inj h).symm
  | none =>
    refine ⟨fun heq => (nomatch heq), fun hwidth => ?_⟩
    rw [← hwidth, VectorWidth.ofBits?_bits] at h
    cases h

/-- The product of two sizes, if it is a size, is their product as numbers. -/
theorem sizeProduct_eq_ok {a b c : UInt32} :
    sizeProduct a b = .ok c ↔ c.toNat = a.toNat * b.toNat := by
  unfold sizeProduct
  by_cases h : a.toNat * b.toNat < UInt32.size
  · have hproduct : (a * b).toNat = a.toNat * b.toNat := by
      rw [UInt32.toNat_mul]
      exact Nat.mod_eq_of_lt h
    rw [if_pos h, Except.ok.injEq, ← UInt32.toNat_inj, hproduct, eq_comm]
  · rw [if_neg h]
    exact ⟨fun heq => (nomatch heq), fun heq => absurd (heq ▸ c.toNat_lt) h⟩

/-- **Shapes from lanes.** The layout of some lanes is that of the register which they fill. -/
theorem Shape.ofLanes_eq_ok {lanes bits : UInt32} {s : Shape} :
    Shape.ofLanes lanes bits = .ok s ↔ ∃ w lane, s = .vector w lane ∧ lane.bits = bits.toNat ∧
      w.bits = lanes.toNat * bits.toNat := by
  simp only [Shape.ofLanes, bind_eq_ok, LaneWidth.ofBits_eq_ok, VectorWidth.ofBits_eq_ok,
    sizeProduct_eq_ok]
  constructor
  · rintro ⟨lane, hlane, size, hsize, w, hw, h⟩
    cases h
    exact ⟨w, lane, rfl, hlane, hw.trans hsize⟩
  · rintro ⟨w, lane, rfl, hlane, hw⟩
    have hsize : (lanes * bits).toNat = lanes.toNat * bits.toNat := by
      rw [UInt32.toNat_mul, ← hw]
      cases w <;> rfl
    exact ⟨lane, hlane, _, hsize, w, hw.trans hsize.symm, rfl⟩

/-! ### Refusals -/

/-- The legal numbers of bits of a lane. -/
theorem LaneWidth.exists_bits_eq {n : Nat} :
    (∃ lane : LaneWidth, lane.bits = n) ↔ n ∈ [8, 16, 32, 64] := by
  constructor
  · rintro ⟨lane, rfl⟩
    cases lane <;> decide
  · intro h
    simp only [List.mem_cons, List.not_mem_nil, or_false] at h
    rcases h with rfl | rfl | rfl | rfl
    · exact ⟨.w8, rfl⟩
    · exact ⟨.w16, rfl⟩
    · exact ⟨.w32, rfl⟩
    · exact ⟨.w64, rfl⟩

/-- The legal numbers of bits of a register. -/
theorem VectorWidth.exists_bits_eq {n : Nat} :
    (∃ w : VectorWidth, w.bits = n) ↔ n ∈ [128, 256, 512] := by
  constructor
  · rintro ⟨w, rfl⟩
    cases w <;> decide
  · intro h
    simp only [List.mem_cons, List.not_mem_nil, or_false] at h
    rcases h with rfl | rfl | rfl
    · exact ⟨.v128, rfl⟩
    · exact ⟨.v256, rfl⟩
    · exact ⟨.v512, rfl⟩

theorem LaneWidth.ofBits_eq_error {bits : UInt32} {e : OperandError} :
    LaneWidth.ofBits bits = .error e ↔
      bits.toNat ∉ [8, 16, 32, 64] ∧ e = .unsupportedWidth bits.toNat := by
  rw [← LaneWidth.exists_bits_eq]
  simp only [← LaneWidth.ofBits_eq_ok]
  cases h : LaneWidth.ofBits bits with
  | ok lane => simp
  | error refused =>
    have hrefused : refused = .unsupportedWidth bits.toNat := by
      unfold LaneWidth.ofBits at h
      split at h <;> cases h
      rfl
    simp [hrefused, eq_comm]

theorem VectorWidth.ofBits_eq_error {bits : UInt32} {e : OperandError} :
    VectorWidth.ofBits bits = .error e ↔
      bits.toNat ∉ [128, 256, 512] ∧ e = .unsupportedWidth bits.toNat := by
  rw [← VectorWidth.exists_bits_eq]
  simp only [← VectorWidth.ofBits_eq_ok]
  cases h : VectorWidth.ofBits bits with
  | ok w => simp
  | error refused =>
    have hrefused : refused = .unsupportedWidth bits.toNat := by
      unfold VectorWidth.ofBits at h
      split at h <;> cases h
      rfl
    simp [hrefused, eq_comm]

theorem sizeProduct_eq_error {a b : UInt32} {e : OperandError} :
    sizeProduct a b = .error e ↔ UInt32.size ≤ a.toNat * b.toNat ∧ e = .sizeOverflow := by
  unfold sizeProduct
  by_cases h : a.toNat * b.toNat < UInt32.size
  · rw [if_pos h]
    exact ⟨fun heq => (nomatch heq), fun heq => absurd h (Nat.not_lt.2 heq.1)⟩
  · rw [if_neg h, Except.error.injEq, eq_comm]
    exact (and_iff_right (Nat.not_lt.1 h)).symm

/-- **Refused lanes.** The width of the lanes is judged first, then whether the product is a 32-bit
size at all, and the width of the register last. -/
theorem Shape.ofLanes_eq_error {lanes bits : UInt32} {e : OperandError} :
    Shape.ofLanes lanes bits = .error e ↔
      bits.toNat ∉ [8, 16, 32, 64] ∧ e = .unsupportedWidth bits.toNat ∨
      bits.toNat ∈ [8, 16, 32, 64] ∧
        (UInt32.size ≤ lanes.toNat * bits.toNat ∧ e = .sizeOverflow ∨
          lanes.toNat * bits.toNat < UInt32.size ∧
            lanes.toNat * bits.toNat ∉ [128, 256, 512] ∧
              e = .unsupportedWidth (lanes.toNat * bits.toNat)) := by
  have hdone (w : VectorWidth) (lane : LaneWidth) :
      ¬ (pure (Shape.vector w lane) : Except OperandError Shape) = .error e := fun h => nomatch h
  simp only [Shape.ofLanes, bind_eq_error, hdone, and_false, exists_false, or_false,
    LaneWidth.ofBits_eq_error, LaneWidth.ofBits_eq_ok, VectorWidth.ofBits_eq_error,
    sizeProduct_eq_error, sizeProduct_eq_ok]
  refine or_congr_right ?_
  rw [exists_and_right, LaneWidth.exists_bits_eq]
  refine and_congr_right fun _ => or_congr_right ?_
  constructor
  · rintro ⟨size, hsize, hrefused⟩
    rw [hsize] at hrefused
    exact ⟨hsize ▸ size.toNat_lt, hrefused⟩
  · rintro ⟨hlt, hrefused⟩
    exact ⟨UInt32.ofNat (lanes.toNat * bits.toNat), UInt32.toNat_ofNat_of_lt' hlt,
      by rwa [UInt32.toNat_ofNat_of_lt' hlt]⟩

end VectorTrial
