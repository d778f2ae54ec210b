import VectorTrial.Proofs.Lane.Decomposition
import VectorTrial.Proofs.Program.Synthesis

/-!
# Literals by exact range

The check of a literal shifts a word by as many bits as its width leaves over. A number of bits from
1 to 64 leaves over fewer bits than a word has; for any other, the difference or the shift would
leave its range, and the check refuses it before either is taken. What remains is a comparison with
the signed range of the width, so that at the width of a lane exactly the words pass that are lane
values.

## Main definitions

* `VectorTrial.Program.isSignExtension?`, `VectorTrial.Program.checkLiteral?` — the test of a word
  and the check of a literal, without a result where a step leaves its range.

## Main results

* `VectorTrial.Program.isSignExtension?_eq` — the widths for which the test has a result.
* `VectorTrial.Program.checkLiteral?_eq` — the check has a result for all widths.
* `VectorTrial.Program.checkLiteral_eq_ok_iff_truncate` — the literals at the width of a lane.
* `VectorTrial.Program.checkLiteral_exact` — which literals are accepted, and that all lanes are.
-/

namespace VectorTrial.Program

/-! ### Steps that may leave their range -/

/-- The difference of two sizes, if it is a size. -/
def sizeDifference? (a b : UInt32) : Option UInt32 := if b ≤ a then some (a - b) else none

/-- The number of bits to shift a word by, if the word has more. -/
def shiftCount? (count : UInt32) : Option Int64 :=
  if count < 64 then some (Int64.ofNat count.toNat) else none

/-- Whether a word is the sign extension of its lowest bits, if no step leaves its range. -/
def isSignExtension? (bits : UInt32) (value : Int64) : Option Bool := do
  let excess ← sizeDifference? 64 bits
  let high := value <<< (← shiftCount? excess)
  let back := high >>> (← shiftCount? excess)
  return back == value

/-- **Checked steps.** The check of a literal, if no step leaves its range. -/
def checkLiteral? (bits : UInt32) (value : Int64) : Option (Except Error Unit) :=
  if 1 ≤ bits.toNat ∧ bits.toNat ≤ 64 then do
    if ← isSignExtension? bits value then
      return .ok ()
    else
      return .error (.invalidLiteral (toString value ++ " does not fit in i" ++ toString bits))
  else some (.error (.invalidLiteral ("unsupported width i" ++ toString bits)))

theorem sizeDifference?_of_le {a b : UInt32} (h : b.toNat ≤ a.toNat) :
    ∃ c, sizeDifference? a b = some c ∧ c.toNat = a.toNat - b.toNat := by
  have hle : b ≤ a := UInt32.le_iff_toNat_le.2 h
  exact ⟨a - b, if_pos hle, UInt32.toNat_sub_of_le a b hle⟩

theorem sizeDifference?_of_lt {a b : UInt32} (h : a.toNat < b.toNat) :
    sizeDifference? a b = none :=
  if_neg fun hle => absurd (UInt32.le_iff_toNat_le.1 hle) (Nat.not_le.2 h)

/-- **Widths.** The test of a word keeps all its steps in range for the widths of 1 to 64 bits, and
for no others. -/
theorem isSignExtension?_eq (bits : UInt32) (v : Int64) :
    isSignExtension? bits v =
      if 1 ≤ bits.toNat ∧ bits.toNat ≤ 64 then some (isSignExtension bits v) else none := by
  unfold isSignExtension?
  by_cases hhigh : bits.toNat ≤ 64
  · obtain ⟨excess, hdifference, hexcess⟩ := sizeDifference?_of_le (a := 64) hhigh
    rw [hdifference]
    by_cases hlow : 1 ≤ bits.toNat
    · have hlt : excess < 64 := UInt32.lt_iff_toNat_lt.2 (hexcess ▸ Nat.sub_lt (by decide) hlow)
      have hcount : shiftCount? excess = some (Int64.ofNat (64 - bits.toNat)) :=
        (if_pos hlt).trans (congrArg (fun n => some (Int64.ofNat n)) hexcess)
      rw [if_pos ⟨hlow, hhigh⟩, Option.bind_eq_bind, Option.bind_some, hcount]
      rfl
    · -- Without any bits the whole word would be shifted out.
      have hzero : bits.toNat = 0 := Nat.lt_one_iff.1 (Nat.not_le.1 hlow)
      have hnotlt : ¬ excess < 64 := by
        rw [UInt32.lt_iff_toNat_lt, hexcess, hzero]
        decide
      have hcount : shiftCount? excess = none := if_neg hnotlt
      rw [if_neg fun h => hlow h.1, Option.bind_eq_bind, Option.bind_some, hcount]
      rfl
  · rw [sizeDifference?_of_lt (Nat.not_le.1 hhigh), if_neg fun h => hhigh h.2]
    rfl

theorem checkLiteral?_eq (bits : UInt32) (v : Int64) :
    checkLiteral? bits v = some (checkLiteral bits v) := by
  unfold checkLiteral? checkLiteral
  by_cases h : 1 ≤ bits.toNat ∧ bits.toNat ≤ 64
  · rw [if_pos h, if_pos h, isSignExtension?_eq, if_pos h]
    cases isSignExtension bits v with
    | false => rfl
    | true => rfl
  · rw [if_neg h, if_neg h]

/-! ### Literals at the width of a lane -/

/-- At the width of a lane the literals are the words that truncation keeps. -/
theorem checkLiteral_eq_ok_iff_truncate (w : LaneWidth) (v : Int64) :
    checkLiteral (UInt32.ofNat w.bits) v = .ok () ↔ w.truncate v = v := by
  rw [checkLiteral_eq_ok_iff, toNat_ofNat_bits, LaneWidth.truncate_eq_self_iff]
  exact and_iff_right ⟨w.bits_pos, w.bits_le⟩

/-- **Exact literals.** No step of the check leaves its range, and it accepts the words in the
signed range of a width of 1 to 64 bits. At the width of a lane these are the words that truncation
keeps; so all truncated words are accepted, and all lanes of a register, however they are read. -/
theorem checkLiteral_exact :
    (∀ (bits : UInt32) (v : Int64), checkLiteral? bits v = some (checkLiteral bits v) ∧
      (checkLiteral bits v = .ok () ↔ (1 ≤ bits.toNat ∧ bits.toNat ≤ 64) ∧
        -(2 ^ (bits.toNat - 1)) ≤ v.toInt ∧ v.toInt ≤ 2 ^ (bits.toNat - 1) - 1)) ∧
    ∀ w : LaneWidth,
      (∀ v, (checkLiteral (UInt32.ofNat w.bits) v = .ok () ↔ w.truncate v = v) ∧
        checkLiteral (UInt32.ofNat w.bits) (w.truncate v) = .ok ()) ∧
      ∀ r : Register,
        (∀ v ∈ r.lanes w, checkLiteral (UInt32.ofNat w.bits) v = .ok ()) ∧
        ∀ i v, r.lane? i w = some v → checkLiteral (UInt32.ofNat w.bits) v = .ok () := by
  refine ⟨fun bits v => ⟨checkLiteral?_eq bits v, ?_⟩, fun w =>
    ⟨fun v => ⟨checkLiteral_eq_ok_iff_truncate w v, checkLiteral_truncate w v⟩, fun r =>
      ⟨fun v => checkLiteral_of_mem_lanes, fun i v hlane => ?_⟩⟩⟩
  · rw [checkLiteral_eq_ok_iff, Int.le_sub_one_iff]
  · rw [r.lane?_eq_getElem?] at hlane
    exact checkLiteral_of_mem_lanes (List.mem_of_getElem? hlane)

/-! ### Lanes of bytes -/

/-- Lanes of 8 bits, the first of which does not fit. -/
def packedBytes : Register := .pack (.vector .v128 .w8) [200, -128, 127]

theorem checkLiteral_exact_packedBytes :
    (-56 ∈ packedBytes.lanes .w8 ∧ checkLiteral 8 (-56) = .ok ()) ∧
      (packedBytes.lane? 0 .w16 = some (-32568) ∧ checkLiteral 16 (-32568) = .ok ()) ∧
      ¬ checkLiteral 8 200 = .ok () ∧ checkLiteral 63 Int64.minValue ≠ .ok () ∧
      checkLiteral 64 Int64.minValue = .ok () := by
  obtain ⟨hrange, hlanes⟩ := checkLiteral_exact
  obtain ⟨hbytes, hreadBytes⟩ := hlanes .w8
  obtain ⟨-, hreadHalfwords⟩ := hlanes .w16
  have hbyte : -56 ∈ packedBytes.lanes .w8 := by decide
  have hhalfword : packedBytes.lane? 0 .w16 = some (-32568) := by decide
  have htruncated : LaneWidth.w8.truncate 200 ≠ 200 := by decide
  exact ⟨⟨hbyte, (hreadBytes packedBytes).1 _ hbyte⟩,
    ⟨hhalfword, (hreadHalfwords packedBytes).2 0 _ hhalfword⟩,
    fun h => htruncated ((hbytes 200).1.1 h),
    fun h => absurd ((hrange 63 Int64.minValue).2.1 h).2.1 (by decide),
    (hrange 64 Int64.minValue).2.2 (by decide)⟩

end VectorTrial.Program
