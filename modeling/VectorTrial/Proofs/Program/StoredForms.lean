import VectorTrial.Lane.Json
import VectorTrial.Program.Json
import VectorTrial.Proofs.Json.Scanning
import VectorTrial.Proofs.Program.Evaluation

/-!
# Stored forms are read back

The readers of types, expressions and requests do not see in which order an object names its
members, on any value at all: a tag may stand behind the fields it decides. And each reader gives
back the value whose stored form it is given, as long as this form is not too deep to be kept. So
the text of a stored form, in any order of its members, is read back as the value it was written
for.

## Main results

* `VectorTrial.Program.Expr.ignoresOrder_ofJson?`,
  `VectorTrial.Program.Definition.ignoresOrder_ofJson?` — expressions and requests are read alike in
  any order of members.
* `VectorTrial.Program.Expr.ofJson?_toJson`, `VectorTrial.Program.Definition.ofJson?_toJson` — a
  stored expression or request is read back.
* `VectorTrial.Program.storedForms_readBack` — the texts of all stored forms are read back.
-/

namespace VectorTrial.Program

open Json

/-! ### The order of members -/

theorem Ty.ignoresOrder_ofKind? (kind : String) : IgnoresOrder (Ty.ofKind? kind) := by
  intro j j' h
  unfold Ty.ofKind?
  split
  · refine bind_eq_bind_of_rel (h.rel_record? _) fun fields fields' hfields => ?_
    rcases hfields with _ | ⟨hbits, _ | _⟩
    · rfl
    · simp only [ignoresOrder_word32? hbits]
    · rfl
  split
  · refine bind_eq_bind_of_rel (h.rel_record? _) fun fields fields' hfields => ?_
    rcases hfields with _ | ⟨hlanes, _ | ⟨hbits, _ | _⟩⟩
    · rfl
    · rfl
    · simp only [ignoresOrder_word32? hlanes, ignoresOrder_word32? hbits]
    · rfl
  · rfl

theorem Ty.ignoresOrder_ofJson? (levels : Nat) : IgnoresOrder (Ty.ofJson? levels) := by
  intro j j' h
  unfold Ty.ofJson?
  rw [h.isHeldWithin_eq]
  split
  · refine bind_eq_bind_of_rel (h.rel_tagged? _) ?_
    rintro ⟨kind, contents⟩ ⟨kind', contents'⟩ ⟨hkind, hcontents⟩
    simp only [ignoresOrder_str? hkind]
    exact congrArg _ (funext fun k => Ty.ignoresOrder_ofKind? k hcontents)
  · rfl

theorem Literal.ignoresOrder_ofJson? : IgnoresOrder Literal.ofJson? := by
  intro j j' h
  refine bind_eq_bind_of_rel (h.rel_record? _) fun fields fields' hfields => ?_
  rcases hfields with _ | ⟨hvalue, _ | ⟨hbits, _ | _⟩⟩
  · rfl
  · rfl
  · simp only [ignoresOrder_signed64? hvalue, ignoresOrder_word32? hbits]
  · rfl

theorem Expr.ignoresOrder_tagOfJson? (nested : Bool) : IgnoresOrder (Expr.tagOfJson? nested) :=
  ignoresOrder_of_flat (fun _ => rfl) fun _ => rfl

/-- By induction on the number of levels: the arguments of a call are read with one level less. -/
theorem Expr.ignoresOrder_ofNested? (fuel : Nat) (nested : Bool) :
    IgnoresOrder (Expr.ofNested? fuel nested) := by
  induction fuel generalizing nested with
  | zero => exact fun _ _ _ => rfl
  | succ fuel ih =>
    intro j j' h
    refine bind_eq_bind_of_rel (h.rel_tagged? _) ?_
    rintro ⟨tag, contents⟩ ⟨tag', contents'⟩ ⟨htag, hcontents⟩
    simp only [Expr.ignoresOrder_tagOfJson? nested htag]
    refine congrArg _ (funext fun tag => ?_)
    split
    · rw [Literal.ignoresOrder_ofJson? hcontents]
    split
    · refine bind_eq_bind_of_rel (hcontents.rel_record? _) fun fields fields' hfields => ?_
      rcases hfields with _ | ⟨hbits, _ | ⟨helements, _ | _⟩⟩
      · rfl
      · rfl
      · dsimp only
        rw [ignoresOrder_word32? hbits]
        refine congrArg _ (funext fun _ =>
          bind_eq_bind_of_rel helements.rel_arr? fun items items' hitems => ?_)
        rw [Literal.ignoresOrder_ofJson?.mapM_eq hitems]
      · rfl
    split
    · refine bind_eq_bind_of_rel (hcontents.rel_record? _) fun fields fields' hfields => ?_
      rcases hfields with _ | ⟨hname, _ | _⟩
      · rfl
      · simp only [ignoresOrder_str? hname]
      · rfl
    split
    · refine bind_eq_bind_of_rel (hcontents.rel_record? _) fun fields fields' hfields => ?_
      rcases hfields with _ | ⟨hcallee, _ | ⟨hargs, _ | _⟩⟩
      · rfl
      · rfl
      · dsimp only
        rw [ignoresOrder_str? hcallee]
        refine congrArg _ (funext fun _ =>
          bind_eq_bind_of_rel hargs.rel_arr? fun items items' hitems => ?_)
        rw [(ih true).mapM_eq hitems]
      · rfl
    · rfl

theorem Expr.ignoresOrder_ofJson? (levels : Nat) : IgnoresOrder (Expr.ofJson? levels) := by
  intro j j' h
  rw [Expr.ofJson?, Expr.ofJson?, h.isHeldWithin_eq, Expr.ignoresOrder_ofNested? _ _ h]

theorem Prototype.ignoresOrder_ofJson? (levels : Nat) :
    IgnoresOrder (Prototype.ofJson? levels) := by
  intro j j' h
  refine bind_eq_bind_of_rel (h.rel_record? _) fun fields fields' hfields => ?_
  rcases hfields with _ | ⟨hname, _ | ⟨hret, _ | ⟨hparams, _ | _⟩⟩⟩
  · rfl
  · rfl
  · rfl
  · dsimp only
    rw [ignoresOrder_str? hname, Ty.ignoresOrder_ofJson? _ hret]
    refine bind_eq_bind_of_rel hparams.rel_arr? fun items items' hitems => ?_
    rw [(Ty.ignoresOrder_ofJson? _).mapM_eq hitems]
  · rfl

theorem Definition.ignoresOrder_ofJson? (levels : Nat) :
    IgnoresOrder (Definition.ofJson? levels) := by
  intro j j' h
  refine bind_eq_bind_of_rel (h.rel_record? _) fun fields fields' hfields => ?_
  rcases hfields with _ | ⟨hprototype, _ | ⟨hbody, _ | _⟩⟩
  · rfl
  · rfl
  · simp only [Prototype.ignoresOrder_ofJson? _ hprototype, Expr.ignoresOrder_ofJson? _ hbody]
  · rfl

/-! ### Plain forms -/

@[simp] theorem isPlain_word32 (n : UInt32) : (nat n.toNat).IsPlain :=
  .int (Int.le_trans (by decide) (Int.natCast_nonneg _))
    (Int.ofNat_lt.2 (Nat.lt_trans n.toNat_lt (by decide)))

@[simp] theorem isPlain_int64 (n : Int64) : (Json.int n.toInt).IsPlain :=
  .int n.minValue_le_toInt (Int.lt_of_lt_of_le n.toInt_lt (by decide))

theorem Ty.depth_toJson (t : Ty) : t.toJson.depth = 1 := by cases t <;> rfl

theorem Ty.isPlain_toJson (t : Ty) : t.toJson.IsPlain := by
  cases t <;> simp [Ty.toJson]

theorem Literal.isPlain_toJson (l : Literal) : l.toJson.IsPlain := by
  simp [Literal.toJson, Literal.members]

theorem Expr.listToJson_eq_map (args : List Expr) : listToJson args = args.map Expr.toJson := by
  induction args with
  | nil => rfl
  | cons e rest ih => rw [listToJson, ih, List.map_cons]

theorem Expr.isPlain_toJson (e : Expr) : e.toJson.IsPlain := by
  induction e using Expr.induction with
  | literal l => simp [Expr.toJson, Literal.members]
  | vector elemBits elements =>
    simp [Expr.toJson, Literal.isPlain_toJson]
  | var name => simp [Expr.toJson]
  | call callee args ih => simpa [Expr.toJson, Expr.listToJson_eq_map] using ih

theorem Prototype.isPlain_toJson (p : Prototype) : p.toJson.IsPlain := by
  simp [Prototype.toJson, Ty.isPlain_toJson]

theorem Definition.isPlain_toJson (d : Definition) : d.toJson.IsPlain := by
  simp [Definition.toJson, Prototype.isPlain_toJson, Expr.isPlain_toJson]

/-! ### Reading back -/

-- The readers are opened by rewriting up to the fields of a record: evaluation would get stuck at
-- the comparison of a field with the bound of 32 bits.
@[simp] theorem word32?_nat (n : UInt32) : (nat n.toNat).word32? = some n := by
  have hlt := n.toNat_lt_size
  have hbounds : (0 : Int) ≤ n.toNat ∧ (n.toNat : Int) < UInt32.size := by omega
  rw [nat, word32?, if_pos hbounds, Int.toNat_natCast, UInt32.ofNat_toNat]

@[simp] theorem signed64?_int (n : Int64) : (Json.int n.toInt).signed64? = some n := by
  rw [signed64?, if_pos ⟨n.minValue_le_toInt, n.toInt_le⟩, Int64.ofInt_toInt]

theorem Literal.ofJson?_toJson (l : Literal) : Literal.ofJson? l.toJson = some l := by
  rw [Literal.ofJson?, Literal.toJson, bind_record?_obj (by rfl) (by decide)]
  dsimp only [Literal.members, List.map]
  rw [signed64?_int, word32?_nat]
  rfl

theorem Ty.ofKind?_int (bits : UInt32) :
    Ty.ofKind? "int" (.obj [("bits", nat bits.toNat)]) = some (.int bits) := by
  rw [Ty.ofKind?, if_pos rfl, bind_record?_obj (by rfl) (by decide)]
  dsimp only [List.map]
  rw [word32?_nat]
  rfl

theorem Ty.ofKind?_vector (lanes bits : UInt32) :
    Ty.ofKind? "vector" (.obj [("lanes", nat lanes.toNat), ("elem_bits", nat bits.toNat)]) =
      some (.vector lanes bits) := by
  rw [Ty.ofKind?, if_neg (by decide), if_pos rfl, bind_record?_obj (by rfl) (by decide)]
  dsimp only [List.map]
  rw [word32?_nat, word32?_nat]
  rfl

theorem Ty.ofJson?_toJson {t : Ty} {levels : Nat} (h : t.toJson.depth ≤ levels) :
    Ty.ofJson? levels t.toJson = some t := by
  rw [Ty.ofJson?, if_pos (t.isPlain_toJson.isHeldWithin_eq_true_iff.2 h)]
  cases t with
  | int bits =>
    rw [Ty.toJson, bind_tagged?_obj (by simp)]
    dsimp only [str?]
    rw [Option.bind_eq_bind, Option.bind_some, Ty.ofKind?_int]
  | vector lanes bits =>
    rw [Ty.toJson, bind_tagged?_obj (by simp)]
    dsimp only [str?]
    rw [Option.bind_eq_bind, Option.bind_some, Ty.ofKind?_vector]

/-- A list whose items are all read back is read back. -/
theorem mapM_map_eq_some {α : Type} {read : Json → Option α} {write : α → Json} {items : List α}
    (h : ∀ a ∈ items, read (write a) = some a) : (items.map write).mapM read = some items := by
  induction items with
  | nil => rfl
  | cons a items ih =>
    obtain ⟨ha, hitems⟩ := List.forall_mem_cons.1 h
    rw [List.map_cons, List.mapM_cons, ha, ih hitems]
    rfl

/-- An object is at least one level deep. -/
theorem exists_eq_succ_of_depth_obj_le {members : List (String × Json)} {fuel : Nat}
    (h : (obj members).depth ≤ fuel) : ∃ n, fuel = n + 1 :=
  Nat.exists_eq_add_one.2 (Nat.lt_of_lt_of_le (Nat.succ_pos _) h)

/-- By induction on the expression: the arguments of a call are two levels deeper than the call and
are read with one level less. -/
theorem Expr.ofNested?_toJson (e : Expr) {fuel : Nat} (nested : Bool) (h : e.toJson.depth ≤ fuel) :
    Expr.ofNested? fuel nested e.toJson = some e := by
  induction e using Expr.induction generalizing fuel nested with
  | literal l =>
    obtain ⟨fuel, rfl⟩ := exists_eq_succ_of_depth_obj_le h
    rw [Expr.ofNested?, Expr.toJson, bind_tagged?_obj (by simp [Literal.members])]
    change (do return Expr.literal (← Literal.ofJson? l.toJson)) = _
    rw [Literal.ofJson?_toJson]
    rfl
  | vector elemBits elements =>
    obtain ⟨fuel, rfl⟩ := exists_eq_succ_of_depth_obj_le h
    rw [Expr.ofNested?, Expr.toJson, bind_tagged?_obj (by simp)]
    dsimp only [tagOfJson?]
    rw [Option.bind_eq_bind, Option.bind_some, if_neg (by decide), if_pos rfl,
      bind_record?_obj (by rfl) (by decide)]
    dsimp only [List.map, arr?]
    rw [word32?_nat, Option.bind_eq_bind, Option.bind_some, Option.bind_eq_bind, Option.bind_some,
      mapM_map_eq_some fun l _ => Literal.ofJson?_toJson l]
    rfl
  | var name =>
    obtain ⟨fuel, rfl⟩ := exists_eq_succ_of_depth_obj_le h
    rw [Expr.ofNested?, Expr.toJson, bind_tagged?_obj (by simp)]
    rfl
  | call callee args ih =>
    obtain ⟨fuel, rfl⟩ := exists_eq_succ_of_depth_obj_le h
    have hargs (arg : Expr) (harg : arg ∈ args) :
        Expr.ofNested? fuel true arg.toJson = some arg := by
      refine ih arg harg true ?_
      have hdepth : listDepth (args.map Expr.toJson) ≤ fuel := by
        rw [Expr.toJson, Expr.listToJson_eq_map] at h
        simp only [depth, membersDepth] at h
        omega
      exact listDepth_le_iff.1 hdepth _ (List.mem_map_of_mem harg)
    rw [Expr.ofNested?, Expr.toJson, bind_tagged?_obj (by simp)]
    dsimp only [tagOfJson?]
    rw [Option.bind_eq_bind, Option.bind_some, if_neg (by decide), if_neg (by decide),
      if_neg (by decide), if_pos rfl, bind_record?_obj (by rfl) (by decide), Expr.listToJson_eq_map]
    dsimp only [List.map, arr?, str?]
    rw [Option.bind_eq_bind, Option.bind_some, Option.bind_some, mapM_map_eq_some hargs]
    rfl

/-- **Stored expressions.** An expression is read back from its stored form, if this is not too
deep. -/
theorem Expr.ofJson?_toJson {e : Expr} {levels : Nat} (h : e.toJson.depth ≤ levels) :
    Expr.ofJson? levels e.toJson = some e := by
  rw [Expr.ofJson?, if_pos (e.isPlain_toJson.isHeldWithin_eq_true_iff.2 h)]
  exact e.ofNested?_toJson false (Nat.le_succ_of_le h)

theorem Prototype.ofJson?_toJson {p : Prototype} {levels : Nat} (h : p.toJson.depth ≤ levels) :
    Prototype.ofJson? levels p.toJson = some p := by
  simp only [Prototype.toJson, depth, membersDepth] at h
  have hret : p.ret.toJson.depth ≤ levels - 1 := by omega
  have hparams (t : Ty) (ht : t ∈ p.params) : Ty.ofJson? (levels - 2) t.toJson = some t := by
    have hdepth : listDepth (p.params.map Ty.toJson) ≤ levels - 2 := by omega
    exact Ty.ofJson?_toJson (listDepth_le_iff.1 hdepth _ (List.mem_map_of_mem ht))
  rw [Prototype.ofJson?, Prototype.toJson, bind_record?_obj (by rfl) (by decide)]
  dsimp only [List.map, arr?, str?]
  rw [Option.bind_eq_bind, Option.bind_some, mapM_map_eq_some hparams, Ty.ofJson?_toJson hret]
  rfl

/-- **Stored requests.** A request is read back from its stored form, if this is not too deep. -/
theorem Definition.ofJson?_toJson {d : Definition} {levels : Nat} (h : d.toJson.depth ≤ levels) :
    Definition.ofJson? levels d.toJson = some d := by
  simp only [Definition.toJson, depth, membersDepth] at h
  rw [Definition.ofJson?, Definition.toJson, bind_record?_obj (by rfl) (by decide)]
  dsimp only [List.map]
  rw [Prototype.ofJson?_toJson (by omega), Expr.ofJson?_toJson (by omega)]
  rfl

/-! ### Texts -/

/-- A stored form that is plain is read back from its text, in any order of its members. -/
theorem bind_parse?_eq_some {α : Type} {write : Json → String} (hwrite : IsFaithful write)
    {read : Json → Option α} (hread : IgnoresOrder read) {a : α} {stored j : Json}
    (hplain : stored.IsPlain) (hback : read stored = some a) (h : stored.Reordered j) :
    (parse? (write j)).bind read = some a := by
  rw [hwrite j (hplain.of_reordered h), Option.bind_some, ← hread h, hback]

theorem isPlain_shape (s : Shape) : s.toJson.IsPlain := by
  cases s <;> simp [Shape.toJson]

/-- **Stored forms.** Under a faithful writer, the text of a stored shape, type, expression or
request is read back as the value it was written for. For types, expressions and requests the
members of any object may stand in another order. Expressions and requests nest arrays and objects
no deeper than what a reader keeps. -/
theorem storedForms_readBack {write : Json → String} (hwrite : IsFaithful write) :
    (∀ s : Shape, (parse? (write s.toJson)).bind Shape.ofJson? = some s) ∧
    (∀ (t : Ty) (j : Json), t.toJson.Reordered j →
      (parse? (write j)).bind (Ty.ofJson? storedLevels) = some t) ∧
    (∀ (e : Expr) (j : Json), e.toJson.depth ≤ storedLevels → e.toJson.Reordered j →
      (parse? (write j)).bind (Expr.ofJson? storedLevels) = some e) ∧
    ∀ (d : Definition) (j : Json), d.toJson.depth ≤ storedLevels → d.toJson.Reordered j →
      (parse? (write j)).bind (Definition.ofJson? storedLevels) = some d := by
  refine ⟨fun s => ?_, fun t j hj => ?_, fun e j hdepth hj => ?_, fun d j hdepth hj => ?_⟩
  · rw [hwrite _ (isPlain_shape s), Option.bind_some, Shape.ofJson?_toJson]
  · have hdepth : t.toJson.depth ≤ storedLevels := by
      rw [t.depth_toJson]
      decide
    exact bind_parse?_eq_some hwrite (Ty.ignoresOrder_ofJson? _) t.isPlain_toJson
      (Ty.ofJson?_toJson hdepth) hj
  · exact bind_parse?_eq_some hwrite (Expr.ignoresOrder_ofJson? _) e.isPlain_toJson
      (Expr.ofJson?_toJson hdepth) hj
  · exact bind_parse?_eq_some hwrite (Definition.ignoresOrder_ofJson? _) d.isPlain_toJson
      (Definition.ofJson?_toJson hdepth) hj

namespace TagsLast

/-- A call of a symbol with a quotation mark in its name, with the least integer of 64 bits. -/
def call : Expr := .call "\"max" [.literal ⟨Int64.minValue, 64⟩]

/-- The stored form of the literal with its tag behind the fields. -/
def storedLiteral : Json :=
  .obj [("bits", .nat 64), ("value", .int (-2 ^ 63)), ("type", .str "integer_literal")]

/-- The stored form of the call with its tag behind the fields, and so within it. -/
def storedCall : Json :=
  .obj [("args", .arr [storedLiteral]), ("callee", .str "\"max"), ("type", .str "call")]

theorem reordered_storedLiteral :
    (Expr.literal ⟨Int64.minValue, 64⟩).toJson.Reordered storedLiteral :=
  Reordered.obj_of_forall₂ (List.forall₂_same.2 fun m _ => ⟨rfl, .refl m.2⟩)
    (List.reverse_perm _).symm

theorem reordered_storedCall : call.toJson.Reordered storedCall := by
  have hargs : Reordered (.arr [(Expr.literal ⟨Int64.minValue, 64⟩).toJson])
      (.arr [storedLiteral]) :=
    .arr rfl (List.forall_mem_singleton.2 reordered_storedLiteral)
  have hmembers : List.Forall₂ MemberReordered call.toJson.members
      [("type", .str "call"), ("callee", .str "\"max"), ("args", .arr [storedLiteral])] :=
    .cons ⟨rfl, .refl _⟩ (.cons ⟨rfl, .refl _⟩ (.cons ⟨rfl, hargs⟩ .nil))
  exact Reordered.obj_of_forall₂ hmembers (List.reverse_perm _).symm

end TagsLast

theorem storedForms_readBack_tagsLast :
    IsFaithful pretty ∧ TagsLast.call.toJson.depth ≤ storedLevels ∧
      TagsLast.call.toJson.Reordered TagsLast.storedCall ∧
      (parse? TagsLast.storedCall.pretty).bind (Expr.ofJson? storedLevels) = some TagsLast.call :=
  have hdepth : TagsLast.call.toJson.depth ≤ storedLevels := by decide
  have hback := (storedForms_readBack isFaithful_pretty).2.2.1
  ⟨isFaithful_pretty, hdepth, TagsLast.reordered_storedCall,
    hback TagsLast.call TagsLast.storedCall hdepth TagsLast.reordered_storedCall⟩

end VectorTrial.Program
