import VectorTrial.Proofs.Lane.Repacking

/-!
# Lanes at every width

A register can be read at every lane width, whatever width it was packed at. All readings show the
same bytes: a lane of double width is made up of two neighbouring lanes, the low bits of the first
and above them the second. Nothing is lost by reading, and what is packed is read again up to the
bits that do not fit into a lane.

## Main results

* `VectorTrial.ofLittleEndian_append` — the number of bytes that stand above other bytes.
* `VectorTrial.LaneWidth.read_write` — a word that is written to a lane is read as its truncation.
* `VectorTrial.LaneWidth.toInt_read_append` — a lane of double width as two lanes.
* `VectorTrial.Register.lane?_eq`, `VectorTrial.Register.lane?_eq_getElem?` — the bytes that a lane
  is read from, and its place among all lanes.
* `VectorTrial.Register.lanes_pack` — the lanes of a packed register.
* `VectorTrial.Register.lanes_lossless` — reading and packing at every width.
-/

namespace VectorTrial

/-! ### Numbers as bytes -/

/-- Bytes that stand above other bytes count as many times as these have values. -/
theorem ofLittleEndian_append (low high : List UInt8) :
    ofLittleEndian (low ++ high) =
      ofLittleEndian low + 256 ^ low.length * ofLittleEndian high := by
  induction low with
  | nil => simp [ofLittleEndian]
  | cons b rest ih =>
    rw [List.cons_append, ofLittleEndian, ofLittleEndian, ih, List.length_cons, pow_succ']
    ring

theorem ofLittleEndian_lt (bytes : List UInt8) : ofLittleEndian bytes < 256 ^ bytes.length := by
  induction bytes with
  | nil => exact Nat.one_pos
  | cons b rest ih =>
    have hb : b.toNat < 256 := b.toNat_lt
    rw [ofLittleEndian, List.length_cons, pow_succ']
    omega

/-- A balanced residue of double width: its low half is any residue, and its high half is balanced
again. -/
theorem bmod_two_halves {k : Nat} {a : Int} (hlow : 0 ≤ a) (hhigh : a < 2 * k) (b : Int) :
    (a + 2 * k * b).bmod (2 * k * (2 * k)) = a + 2 * k * b.bmod (2 * k) := by
  have hk : 0 < 2 * k := by omega
  have hge := Int.le_bmod (x := b) hk
  have hlt := Int.bmod_lt (x := b) hk
  obtain ⟨c, hc⟩ : ((2 * k : Nat) : Int) ∣ b.bmod (2 * k) - b := by
    rw [Int.bmod_eq_self_sub_mul_bdiv]
    exact ⟨-b.bdiv (2 * k), by ring⟩
  rw [Int.bmod_eq_iff (Nat.mul_pos hk hk)]
  push_cast at hge hlt hc ⊢
  have hhalf : (2 * (k : Int)) * (2 * k) / 2 = 2 * k * k := by
    rw [mul_assoc, Int.mul_ediv_cancel_left _ (by norm_num)]
    ring
  have hhalf' : ((2 * (k : Int)) * (2 * k) + 1) / 2 = 2 * k * k := by
    have hodd : (2 * (k : Int)) * (2 * k) + 1 = 1 + 2 * (2 * k * k) := by ring
    rw [hodd, Int.add_mul_ediv_left _ _ (by norm_num)]
    simp
  rw [hhalf, hhalf']
  have hmin : -(k : Int) ≤ b.bmod (2 * k) := by omega
  have hmax : b.bmod (2 * k) + 1 ≤ k := by omega
  refine ⟨by nlinarith, by nlinarith, ⟨c, ?_⟩⟩
  linear_combination 2 * (k : Int) * hc

/-! ### Groups of bytes -/

/-- Where the groups of a list stand in it. -/
theorem getElem?_groups {α : Type} (size count : Nat) (xs : List α) (i : Nat) :
    (groups size count xs)[i]? =
      if i < count then some ((xs.drop (i * size)).take size) else none := by
  induction count generalizing xs i with
  | zero => simp [groups]
  | succ count ih =>
    cases i with
    | zero => simp [groups]
    | succ i =>
      rw [groups, List.getElem?_cons_succ, ih, List.drop_drop]
      simp [Nat.succ_mul, Nat.add_comm]

/-- Lists of equal length, put together, are cut into themselves again. -/
theorem groups_flatten {α : Type} {size : Nat} {parts : List (List α)}
    (h : ∀ part ∈ parts, part.length = size) :
    groups size parts.length parts.flatten = parts := by
  induction parts with
  | nil => rfl
  | cons part parts ih =>
    have hpart : part.length = size := h part List.mem_cons_self
    have hrest := ih fun p hp => h p (List.mem_cons_of_mem _ hp)
    rw [List.length_cons, groups, List.flatten_cons, List.take_left' hpart, List.drop_left' hpart,
      hrest]

/-! ### Lanes -/

namespace LaneWidth

/-- A lane is read as the balanced residue of the number that its bytes show. -/
theorem toInt_read (w : LaneWidth) (bytes : List UInt8) :
    (w.read bytes).toInt = (ofLittleEndian bytes : Int).bmod (2 ^ w.bits) := by
  rw [read, toInt_truncate, Int64.toInt_ofNat']
  exact Int.bmod_bmod_of_dvd (pow_dvd_pow 2 w.bits_le)

/-- A word that is written to a lane is read as its truncation. -/
theorem read_write (w : LaneWidth) (v : Int64) : w.read (w.write v) = w.truncate v := by
  have hlow : ((v.toUInt64.toNat : Int)).bmod (2 ^ w.bits) = v.toInt.bmod (2 ^ w.bits) := by
    rw [← Int.emod_bmod, ← Int.emod_bmod v.toInt]
    have hmod := toNat_modEq_toInt v w.bits_le
    rw [← Nat.cast_ofNat, ← Nat.cast_pow] at hmod
    exact congrArg (Int.bmod · _) hmod
  rw [← Int64.toInt_inj, toInt_read, toInt_truncate, write, ofLittleEndian_littleEndian,
    Nat.pow_eq, ← two_pow_bits, Int.natCast_mod, Int.emod_bmod, hlow]

/-- **Double width.** A lane of double width is the low bits of one lane and above them another. -/
theorem toInt_read_append {w w' : LaneWidth} (hbits : w'.bits = 2 * w.bits) {low high : List UInt8}
    (hlow : low.length = w.bytes) : (w'.read (low ++ high)).toInt =
      (w.read low).toInt % 2 ^ w.bits + 2 ^ w.bits * (w.read high).toInt := by
  obtain ⟨k, hk⟩ : ∃ k, 2 ^ w.bits = 2 * k :=
    ⟨2 ^ (w.bits - 1), by rw [← pow_succ', Nat.sub_add_cancel w.bits_pos]⟩
  have hcast : (2 : Int) ^ w.bits = 2 * k := by exact_mod_cast hk
  have hdouble : 2 ^ w'.bits = 2 * k * (2 * k) := by rw [hbits, two_mul w.bits, pow_add, hk]
  have hbound : ofLittleEndian low < 2 * k := by
    rw [← hk, two_pow_bits, ← hlow]
    exact ofLittleEndian_lt low
  have hnumber : ((ofLittleEndian (low ++ high) : Nat) : Int) =
      ofLittleEndian low + 2 * k * ofLittleEndian high := by
    rw [ofLittleEndian_append, hlow, ← two_pow_bits, hk]
    push_cast
    ring
  have hfirst : (w.read low).toInt % (2 * k) = ofLittleEndian low := by
    have hmod : (w.read low).toInt % ((2 * k : Nat) : Int) = ofLittleEndian low := by
      rw [toInt_read, hk, Int.bmod_emod]
      exact_mod_cast Nat.mod_eq_of_lt hbound
    exact_mod_cast hmod
  rw [hcast, hfirst, toInt_read w', hnumber, hdouble,
    bmod_two_halves (Int.natCast_nonneg _) (by exact_mod_cast hbound), toInt_read w, hk]

theorem bytes_double {w w' : LaneWidth} (h : w'.bits = 2 * w.bits) : w'.bytes = 2 * w.bytes := by
  have hw := w.eight_mul_bytes
  have hw' := w'.eight_mul_bytes
  omega

end LaneWidth

/-! ### Sizes -/

/-- Registers of different kinds differ in size. -/
theorem RegisterKind.bitSize_injective : Function.Injective RegisterKind.bitSize := by
  intro k k'
  rcases k with _ | w <;> rcases k' with _ | w'
  · exact fun _ => rfl
  · cases w' <;> decide
  · cases w <;> decide
  · cases w <;> cases w' <;> decide

theorem Shape.bitSize_kind (s : Shape) : s.kind.bitSize = s.bitSize := by
  rcases s with ⟨w, lane⟩ | _
  · cases w <;> rfl
  · rfl

theorem Shape.isScalar_kind (s : Shape) : decide (s.kind = .scalar) = s.isScalar := by
  rcases s with ⟨w, lane⟩ | _
  · cases w <;> rfl
  · rfl

namespace Register

variable {r : Register} {w : LaneWidth} {shape : Shape}

/-! ### Reading -/

theorem length_lanes_eq (r : Register) (w : LaneWidth) :
    (r.lanes w).length = r.bitSize / w.bits := by
  rw [length_lanes, r.length_bytes, bitSize, RegisterKind.bitSize, ← w.eight_mul_bytes,
    Nat.mul_div_mul_left _ _ (by norm_num)]

/-- A lane of a register lies in the signed range of its width. -/
theorem bounds_of_mem_lanes {v : Int64} (h : v ∈ r.lanes w) :
    -(2 ^ (w.bits - 1)) ≤ v.toInt ∧ v.toInt < 2 ^ (w.bits - 1) := by
  obtain ⟨bytes, -, rfl⟩ := List.mem_map.1 h
  exact w.truncate_bounds _

/-- **Lanes.** Where there is a lane, it is read from its own bytes. -/
theorem lane?_eq (r : Register) (i : Nat) (w : LaneWidth) :
    r.lane? i w =
      if i < r.bytes.length / w.bytes then
        some (w.read ((r.bytes.drop (i * w.bytes)).take w.bytes))
      else none := by
  rw [lane?, chunks, getElem?_groups]
  split <;> rfl

/-- A single lane is the one at its place among all lanes. -/
theorem lane?_eq_getElem? (r : Register) (i : Nat) (w : LaneWidth) :
    r.lane? i w = (r.lanes w)[i]? :=
  List.getElem?_map.symm

theorem lane?_eq_none_iff (r : Register) (i : Nat) (w : LaneWidth) :
    r.lane? i w = none ↔ r.bitSize / w.bits ≤ i := by
  rw [lane?_eq_getElem?, List.getElem?_eq_none_iff, length_lanes_eq]

/-- **Pairs.** A lane of double width is read as two neighbouring lanes. -/
theorem lane?_double {w' : LaneWidth} (hbits : w'.bits = 2 * w.bits) {i : Nat} {v : Int64}
    (h : r.lane? i w' = some v) : ∃ low high, r.lane? (2 * i) w = some low ∧
      r.lane? (2 * i + 1) w = some high ∧
      v.toInt = low.toInt % 2 ^ w.bits + 2 ^ w.bits * high.toInt := by
  have hbytes : w'.bytes = 2 * w.bytes := LaneWidth.bytes_double hbits
  rw [lane?_eq] at h
  split at h
  · next hi =>
    have hroom : (2 * i + 1) + 1 ≤ r.bytes.length / w.bytes := by
      rw [← Nat.succ_le_iff, Nat.le_div_iff_mul_le w'.bytes_pos, hbytes] at hi
      rw [Nat.le_div_iff_mul_le w.bytes_pos]
      calc (2 * i + 1 + 1) * w.bytes = (i + 1) * (2 * w.bytes) := by ring
        _ ≤ r.bytes.length := hi
    have hlow : ((r.bytes.drop (2 * i * w.bytes)).take w.bytes).length = w.bytes := by
      have hend : (2 * i + 1) * w.bytes ≤ r.bytes.length := by
        rw [← Nat.le_div_iff_mul_le w.bytes_pos]
        omega
      rw [Nat.succ_mul] at hend
      rw [List.length_take, List.length_drop]
      omega
    have hsplit : (r.bytes.drop (i * w'.bytes)).take w'.bytes =
        (r.bytes.drop (2 * i * w.bytes)).take w.bytes ++
          (r.bytes.drop ((2 * i + 1) * w.bytes)).take w.bytes := by
      have hstart : i * w'.bytes = 2 * i * w.bytes := by
        rw [hbytes]
        ring
      rw [hstart, hbytes, two_mul w.bytes, List.take_add, List.drop_drop, Nat.succ_mul (2 * i)]
    refine ⟨_, _, by rw [lane?_eq, if_pos (by omega)], by rw [lane?_eq, if_pos (by omega)], ?_⟩
    rw [← Option.some.inj h, hsplit]
    exact LaneWidth.toInt_read_append hbits hlow
  · cases h

/-! ### Packing -/

/-- **Packed lanes.** The lanes of a packed register are the truncations of what was packed. -/
theorem lanes_pack {values : List Int64} (h : values.length = shape.laneCount) :
    (pack shape values).lanes shape.laneWidth = values.map shape.laneWidth.truncate := by
  have hcount :
      (pack shape values).bytes.length / shape.laneWidth.bytes =
        (values.map shape.laneWidth.write).length := by
    rw [(pack shape values).length_bytes, kind_pack, Shape.byteSize_kind,
      ← Shape.laneCount_mul_bytes, Nat.mul_div_cancel _ shape.laneWidth.bytes_pos, List.length_map,
      h]
  have hparts : ∀ part ∈ values.map shape.laneWidth.write, part.length = shape.laneWidth.bytes := by
    intro part hpart
    obtain ⟨v, -, rfl⟩ := List.mem_map.1 hpart
    exact shape.laneWidth.length_write v
  have hbytes : (pack shape values).bytes = (values.map shape.laneWidth.write).flatten := by
    have hpad : padTo shape.laneCount values = values := padTo_of_length_eq h
    change shape.laneWidth.writeAll (padTo shape.laneCount values) = _
    rw [hpad, LaneWidth.writeAll, List.flatMap_def]
  rw [lanes, chunks, hcount, hbytes, groups_flatten hparts, List.map_map]
  exact List.map_congr_left fun v _ => shape.laneWidth.read_write v

/-- A register has the kind that a shape asks for when it has the size and is scalar or not. -/
theorem fits_iff :
    r.fits shape = true ↔ r.bitSize = shape.bitSize ∧ r.isScalar = shape.isScalar := by
  have hsize : shape.kind.bitSize = shape.bitSize := Shape.bitSize_kind shape
  have hscalar : decide (shape.kind = .scalar) = shape.isScalar := Shape.isScalar_kind shape
  rw [← hsize, ← hscalar]
  constructor
  · intro h
    have hkind : r.kind = shape.kind := of_decide_eq_true h
    rw [bitSize, isScalar, hkind]
    exact ⟨rfl, rfl⟩
  · exact fun h => decide_eq_true (RegisterKind.bitSize_injective h.1)

/-- The bytes of a register are those of a shape just when the register fits the shape. -/
theorem ofBytes_bytes_iff : ofBytes shape r.bytes = .ok r ↔ r.fits shape = true := by
  unfold ofBytes
  constructor
  · intro h
    split at h
    · have hkind : r.kind = shape.kind := (congrArg kind (Except.ok.inj h)).symm
      exact decide_eq_true hkind
    · cases h
  · intro h
    have hkind : r.kind = shape.kind := of_decide_eq_true h
    have hlength : r.bytes.length = shape.byteSize := by
      rw [r.length_bytes, hkind, Shape.byteSize_kind]
    rw [dif_pos hlength]
    obtain ⟨kind, bytes, hbytes⟩ := r
    cases hkind
    rfl

/-! ### Every width -/

/-- **Nothing is lost at any width.** A register has as many lanes of a width as fit whole, each in
the signed range of the width, and a single lane is the one at its place among them, if there is
one. The lanes at a shape that the register fits, so those of a vector at every width and those of a
scalar at 32 bits, pack to the register. Conversely as many values as a shape has lanes pack to a
register whose lanes are their truncations, which are the balanced residues of the values, and any
other number of values is refused. A lane of double width is the residue of one lane and above it
the next. The bytes of a register are those of exactly the shapes that it fits, which are the shapes
of its size and, with it, scalar or not. -/
theorem lanes_lossless (r : Register) :
    (∀ w, (r.lanes w).length = r.bitSize / w.bits ∧
      (∀ v ∈ r.lanes w, -(2 ^ (w.bits - 1)) ≤ v.toInt ∧ v.toInt < 2 ^ (w.bits - 1)) ∧
      ∀ i, r.lane? i w = (r.lanes w)[i]? ∧ (r.lane? i w = none ↔ r.bitSize / w.bits ≤ i)) ∧
    (∀ shape, r.fits shape = true → ofLanes shape (r.lanes shape.laneWidth) = .ok r) ∧
    (∀ shape values, values.length = shape.laneCount →
      ∃ packed, ofLanes shape values = .ok packed ∧
        packed.lanes shape.laneWidth = values.map shape.laneWidth.truncate) ∧
    (∀ (w : LaneWidth) v, (w.truncate v).toInt = v.toInt.bmod (2 ^ w.bits)) ∧
    (∀ shape values, values.length ≠ shape.laneCount →
      ofLanes shape values =
        .error (.laneCountMismatch shape shape.laneCount values.length)) ∧
    (∀ w w' i v, w'.bits = 2 * w.bits → r.lane? i w' = some v →
      ∃ low high, r.lane? (2 * i) w = some low ∧ r.lane? (2 * i + 1) w = some high ∧
        v.toInt = low.toInt % 2 ^ w.bits + 2 ^ w.bits * high.toInt) ∧
    ∀ shape, (ofBytes shape r.bytes = .ok r ↔ r.fits shape = true) ∧
      (r.fits shape = true ↔ r.bitSize = shape.bitSize ∧ r.isScalar = shape.isScalar) := by
  refine ⟨fun w => ⟨r.length_lanes_eq w, fun v => bounds_of_mem_lanes, fun i =>
      ⟨r.lane?_eq_getElem? i w, ?_⟩⟩,
    fun shape => ofLanes_lanes, fun shape values hlength => ?_, LaneWidth.toInt_truncate,
    fun shape values hlength => if_neg hlength, fun w w' i v hbits => lane?_double hbits,
    fun shape => ⟨ofBytes_bytes_iff, fits_iff⟩⟩
  · exact r.lane?_eq_none_iff i w
  · exact ⟨pack shape values, if_pos hlength, lanes_pack hlength⟩

/-- Eight lanes of 16 bits, some of which do not fit. -/
def halfwords : List Int64 := [1, -1, 258, -32768, 65535, 6, 70000, 8]

/-- The register that they pack to. -/
def packedHalfwords : Register := pack (.vector .v128 .w16) halfwords

theorem lanes_lossless_halfwords :
    (packedHalfwords.fits (.vector .v128 .w64) = true ∧
      ofLanes (.vector .v128 .w64) (packedHalfwords.lanes .w64) = .ok packedHalfwords) ∧
    (halfwords.length = (Shape.vector .v128 .w16).laneCount ∧
      ∃ packed, ofLanes (.vector .v128 .w16) halfwords = .ok packed ∧
        packed.lanes .w16 = halfwords.map LaneWidth.w16.truncate) ∧
    (halfwords.length ≠ Shape.scalar32.laneCount ∧
      ofLanes .scalar32 halfwords = .error (.laneCountMismatch .scalar32 1 8)) ∧
    (packedHalfwords.lane? 1 .w32 = some (-2147483390) ∧
      ∃ low high, packedHalfwords.lane? 2 .w16 = some low ∧
        packedHalfwords.lane? 3 .w16 = some high ∧
        (-2147483390 : Int64).toInt = low.toInt % 2 ^ 16 + 2 ^ 16 * high.toInt) := by
  have hlane : packedHalfwords.lane? 1 .w32 = some (-2147483390) := by decide
  have hlength : halfwords.length = (Shape.vector .v128 .w16).laneCount := by decide
  have hlengths : halfwords.length ≠ Shape.scalar32.laneCount := by decide
  obtain ⟨-, hrepack, hpack, -, hrefused, hpair, -⟩ := lanes_lossless packedHalfwords
  exact ⟨⟨rfl, hrepack (.vector .v128 .w64) rfl⟩, ⟨hlength, hpack _ halfwords hlength⟩,
    ⟨hlengths, hrefused .scalar32 halfwords hlengths⟩,
    hlane, hpair .w16 .w32 1 (-2147483390) rfl hlane⟩

end Register

end VectorTrial
