import VectorTrial.Proofs.Outcome
import VectorTrial.Proofs.Program.Literals

/-!
# Well-formed functions

What verification means, said without it: a function is one block of calls with a return at its
end, every name is defined once and before its uses, every constant fits its width, and all types
agree. Verification passes exactly the functions of this form.

A vector constant with 2 ^ 32 elements or more has no type, since a type counts its elements with
32 bits. All statements on types are for functions without such constants.

## Main definitions

* `VectorTrial.Program.Value.HasType` — the types of an operand.
* `VectorTrial.Program.Call` — a call as it stands in a block.
* `VectorTrial.Program.Function.IsWellFormed` — the form of a function.

## Main results

* `VectorTrial.Program.checkInsts_eq_ok_iff` — the blocks that pass after some definitions.
* `VectorTrial.Program.Function.verify_eq_ok_iff` — verification passes the well-formed functions.
-/

namespace VectorTrial.Program

/-! ### Operands -/

/-- A word fits a width of 1 to 64 bits if it lies in the signed range of as many bits. -/
def Fits (bits : UInt32) (value : Int64) : Prop :=
  (1 ≤ bits.toNat ∧ bits.toNat ≤ 64) ∧
    -(2 ^ (bits.toNat - 1)) ≤ value.toInt ∧ value.toInt < 2 ^ (bits.toNat - 1)

/-- **Constants.** A constant has at least one element, and each element fits its width. -/
def Constant.WellFormed : Constant → Prop
  | int bits value => Fits bits value
  | vector bits elements => elements ≠ [] ∧ ∀ value ∈ elements, Fits bits value

/-- Whether the number of elements of a constant can be counted with 32 bits. -/
def Constant.IsShort : Constant → Prop
  | int _ _ => True
  | vector _ elements => elements.length < UInt32.size

/-- **The types of operands.** An integer has the type of its width and a vector constant the type
that counts its elements; a name has the type that is written at its use. -/
inductive Value.HasType : Value → Ty → Prop
  | int (bits : UInt32) (value : Int64) : HasType (.const (.int bits value)) (.int bits)
  | vector {lanes : UInt32} (bits : UInt32) {elements : List Int64}
      (h : elements.length = lanes.toNat) :
      HasType (.const (.vector bits elements)) (.vector lanes bits)
  | ref (name : String) (ty : Ty) : HasType (.ref name ty) ty

/-- Whether an operand is a short constant or no constant. -/
def Value.IsShort (v : Value) : Prop := ∀ c, v = .const c → c.IsShort

/-- An operand may stand after some definitions if it is a well-formed constant, or one of the
defined names with the type of its definition. -/
def Value.WellFormed (defined : Scope) : Value → Prop
  | const c => c.WellFormed
  | ref name ty => (name, ty) ∈ defined

theorem checkLiteral_eq_ok_iff_fits {bits : UInt32} {value : Int64} :
    checkLiteral bits value = .ok () ↔ Fits bits value :=
  checkLiteral_eq_ok_iff

theorem Constant.check_eq_ok_iff {c : Constant} : c.check = .ok () ↔ c.WellFormed := by
  cases c with
  | int bits value => exact checkLiteral_eq_ok_iff_fits
  | vector bits elements =>
    simp only [check, checkElements, WellFormed, List.isEmpty_iff]
    by_cases h : elements = []
    · simp [h]
    · rw [if_neg h, forM_eq_ok]
      simp only [checkLiteral_eq_ok_iff_fits, ne_eq, h, not_false_eq_true, true_and]

theorem Value.ty_eq_iff {v : Value} (h : v.IsShort) {ty : Ty} : v.ty = ty ↔ v.HasType ty := by
  constructor
  · rintro rfl
    cases v with
    | ref name ty => exact .ref name ty
    | const c =>
      cases c with
      | int bits value => exact .int bits value
      | vector bits elements =>
        refine .vector bits ?_
        rw [UInt32.toNat_ofNat', Nat.mod_eq_of_lt (h _ rfl)]
  · rintro (⟨bits, value⟩ | ⟨bits, hlength⟩ | ⟨name, ty⟩)
    · rfl
    · rw [Value.ty, Constant.ty, hlength, UInt32.ofNat_toNat]
    · rfl

theorem map_ty_eq_iff {vs : List Value} (h : ∀ v ∈ vs, v.IsShort) {types : List Ty} :
    vs.map Value.ty = types ↔ List.Forall₂ Value.HasType vs types := by
  induction vs generalizing types with
  | nil =>
    rw [List.map_nil, List.forall₂_nil_left_iff]
    exact eq_comm
  | cons v vs ih =>
    obtain ⟨hv, hvs⟩ := List.forall_mem_cons.1 h
    cases types with
    | nil => simp
    | cons ty types =>
      rw [List.map_cons, List.cons.injEq, List.forall₂_cons, Value.ty_eq_iff hv, ih hvs]

/-! ### Names -/

/-- Where no name is defined twice, a name is found with the type of its definition. -/
theorem lookup_eq_some_iff_mem {β : Type} {defined : List (String × β)}
    (h : (defined.map Prod.fst).Nodup) {name : String} {b : β} :
    defined.lookup name = some b ↔ (name, b) ∈ defined := by
  induction defined with
  | nil => simp
  | cons p rest ih =>
    obtain ⟨hfresh, hrest⟩ := List.nodup_cons.1 h
    obtain ⟨first, b'⟩ := p
    rw [List.lookup_cons, List.mem_cons]
    by_cases hname : name = first
    · subst hname
      have hnotMem : (name, b) ∉ rest := fun hmem => hfresh (List.mem_map.2 ⟨_, hmem, rfl⟩)
      simp [hnotMem, eq_comm]
    · rw [beq_false_of_ne hname]
      simp [ih hrest, hname]

theorem lookup_isSome_iff_mem {β : Type} {defined : List (String × β)} {name : String} :
    (defined.lookup name).isSome = true ↔ name ∈ defined.map Prod.fst := by
  rw [List.lookup_isSome_iff, List.mem_map]
  exact exists_congr fun p => and_congr_right fun _ => beq_iff_eq.trans eq_comm

/-- A scope lists the latest definition first. -/
theorem Value.check_eq_ok_iff {function : String} {defined : Scope}
    (h : (defined.map Prod.fst).Nodup) {v : Value} :
    v.check function defined.reverse = .ok () ↔ v.WellFormed defined := by
  cases v with
  | const c => exact Constant.check_eq_ok_iff
  | ref name ty =>
    have hlookup {b : Ty} : defined.reverse.lookup name = some b ↔ (name, b) ∈ defined := by
      rw [lookup_eq_some_iff_mem (by rwa [List.map_reverse, List.nodup_reverse]),
        List.mem_reverse]
    rw [check, WellFormed, ← hlookup]
    cases defined.reverse.lookup name with
    | none => simp
    | some b => by_cases hty : b = ty <;> simp [hty]

/-! ### Calls -/

/-- **Calls.** A call as it stands in a block. -/
structure Call where
  dest : String
  ty : Ty
  callee : String
  args : List Value

namespace Call

/-- The instruction of a call. -/
def inst (c : Call) : Inst := .call c.dest c.ty c.callee c.args

/-- The name that a call defines, with its type. -/
def definition (c : Call) : String × Ty := (c.dest, c.ty)

/-- The signature that a call asks of its symbol. -/
def signature (c : Call) : Signature := ⟨c.ty, c.args.map Value.ty⟩

theorem inst_inj {c c' : Call} : c.inst = c'.inst ↔ c = c' := by
  refine ⟨fun h => ?_, congrArg inst⟩
  cases c
  cases c'
  cases h
  rfl

/-- The calls of a block with a return at its end. -/
theorem inst_mem_block {c : Call} {calls : List Call} {result : Value} :
    c.inst ∈ calls.map inst ++ [.ret result] ↔ c ∈ calls := by
  refine ⟨fun h => ?_, fun h => List.mem_append_left _ (List.mem_map_of_mem h)⟩
  rcases List.mem_append.1 h with h | h
  · obtain ⟨c', hc', heq⟩ := List.mem_map.1 h
    exact inst_inj.1 heq ▸ hc'
  · exact nomatch List.mem_singleton.1 h

/-- **Well-formed calls.** A call may stand after some definitions if its operands may, and if the
module knows its symbol with the types of the operands and of the result. -/
structure WellFormed (m : Module) (defined : Scope) (c : Call) : Prop where
  operands : ∀ v ∈ c.args, v.WellFormed defined
  callee : ∃ params, m.signature? c.callee = some ⟨c.ty, params⟩ ∧
    List.Forall₂ Value.HasType c.args params

end Call

/-- Calls that may stand one after the other, the first of them after some definitions. -/
def CallsAfter (m : Module) (defined : Scope) (calls : List Call) : Prop :=
  ∀ before c after, calls = before ++ c :: after →
    c.WellFormed m (defined ++ before.map Call.definition)

theorem callsAfter_nil (m : Module) (defined : Scope) : CallsAfter m defined [] := by
  intro before c after h
  simp at h

theorem callsAfter_cons {m : Module} {defined : Scope} {c : Call} {calls : List Call} :
    CallsAfter m defined (c :: calls) ↔
      c.WellFormed m defined ∧ CallsAfter m (defined ++ [c.definition]) calls := by
  constructor
  · intro h
    refine ⟨by simpa using h [] c calls rfl, fun before c' after hcalls => ?_⟩
    have hc' := h (c :: before) c' after (by rw [hcalls, List.cons_append])
    rwa [List.append_assoc]
  · rintro ⟨hc, hcalls⟩ before c' after h
    cases before with
    | nil =>
      obtain ⟨rfl, rfl⟩ := List.cons.inj h
      simpa using hc
    | cons first before =>
      obtain ⟨rfl, hrest⟩ := List.cons.inj h
      have hc' := hcalls before c' after hrest
      rwa [List.append_assoc] at hc'

theorem checkArguments_eq_ok_iff {callee : String} {index : Nat} {params : List Ty}
    {args : List Value} (h : params.length = args.length) :
    checkArguments callee index params args = .ok () ↔ args.map Value.ty = params := by
  induction args generalizing index params with
  | nil =>
    rw [List.length_eq_zero_iff.1 h]
    simp [checkArguments]
  | cons arg args ih =>
    obtain ⟨param, params, rfl⟩ := List.exists_cons_of_length_eq_add_one h
    rw [checkArguments]
    by_cases hparam : param = arg.ty
    · rw [if_pos hparam, ih (Nat.succ.inj h)]
      simp [hparam]
    · rw [if_neg hparam]
      simp [Ne.symm hparam]

theorem checkCall_eq_ok_iff {m : Module} {function : String} {defined : Scope}
    (hnodup : (defined.map Prod.fst).Nodup) {c : Call} (hshort : ∀ v ∈ c.args, v.IsShort) :
    checkCall m function defined.reverse c.ty c.callee c.args = .ok () ↔
      c.WellFormed m defined := by
  have hoperands : c.args.forM (Value.check function defined.reverse) = .ok () ↔
      ∀ v ∈ c.args, v.WellFormed defined := by
    rw [forM_eq_ok]
    exact forall₂_congr fun v _ => Value.check_eq_ok_iff hnodup
  have hsplit : c.WellFormed m defined ↔ (∀ v ∈ c.args, v.WellFormed defined) ∧
      ∃ params, m.signature? c.callee = some ⟨c.ty, params⟩ ∧
        List.Forall₂ Value.HasType c.args params :=
    ⟨fun h => ⟨h.operands, h.callee⟩, fun h => ⟨h.1, h.2⟩⟩
  rw [checkCall, check_bind_eq_ok, hsplit, ← hoperands]
  refine and_congr_right fun _ => ?_
  cases m.signature? c.callee with
  | none => simp [throw, throwThe, MonadExceptOf.throw]
  | some signature =>
    simp only [ite_throw_bind_eq_ok, check_bind_eq_ok, ite_throw_eq_ok, ne_eq,
      not_not]
    constructor
    · rintro ⟨hlength, harguments, hret⟩
      rw [checkArguments_eq_ok_iff hlength, map_ty_eq_iff hshort] at harguments
      exact ⟨signature.params, by rw [hret], harguments⟩
    · rintro ⟨params, hsignature, harguments⟩
      obtain rfl := Option.some.inj hsignature
      have hlength : params.length = c.args.length := harguments.length_eq.symm
      exact ⟨hlength, (checkArguments_eq_ok_iff hlength).2 ((map_ty_eq_iff hshort).2 harguments),
        rfl⟩

/-! ### Functions -/

/-- The operands of an instruction. -/
def Inst.operands : Inst → List Value
  | call _ _ _ args => args
  | ret value => [value]

/-- The operands of all instructions of a function. -/
def Function.operands (f : Function) : List Value := f.insts.flatMap Inst.operands

/-- **Blocks.** The instructions that may stand after some definitions at the end of a function:
calls that define further names, and a return of a value that has the type of the function. -/
structure EndsAfter (m : Module) (ret : Ty) (defined : Scope) (insts : List Inst)
    (calls : List Call) (result : Value) : Prop where
  block : insts = calls.map Call.inst ++ [.ret result]
  names : ((defined ++ calls.map Call.definition).map Prod.fst).Nodup
  ordered : CallsAfter m defined calls
  operand : result.WellFormed (defined ++ calls.map Call.definition)
  returns : result.HasType ret

/-- **Well-formed functions.** A function is one block with the label `entry`, with calls and a
return at its end. The names of its parameters and calls differ; every operand is a well-formed
constant, or a parameter or an earlier call with the type of its definition; every call agrees with
the signature of its symbol, and the value returned has the type of the function. -/
def Function.IsWellFormed (m : Module) (f : Function) : Prop :=
  ∃ insts calls result, f.blocks = [⟨"entry", insts⟩] ∧
    EndsAfter m f.ret (Scope.ofParams f.params) insts calls result

variable {m : Module} {f : Function}

/-- A name may be defined next if it is none of those that are defined. -/
theorem nodup_append_singleton {β : Type} {defined : List (String × β)} {p : String × β} :
    ((defined ++ [p]).map Prod.fst).Nodup ↔
      (defined.map Prod.fst).Nodup ∧ p.1 ∉ defined.map Prod.fst := by
  rw [List.map_append, List.map_singleton, ← List.concat_eq_append, List.nodup_concat, and_comm]

theorem Scope.addParams_eq_ok_iff {function : String} {defined scope : Scope}
    {params : List Param} (hnodup : (defined.map Prod.fst).Nodup) :
    Scope.addParams function defined.reverse params = .ok scope ↔
      ((defined ++ Scope.ofParams params).map Prod.fst).Nodup ∧
        (defined ++ Scope.ofParams params).reverse = scope := by
  induction params generalizing defined with
  | nil => simp [addParams, ofParams, hnodup]
  | cons p params ih =>
    have hassoc : defined ++ ofParams (p :: params) =
        (defined ++ [(p.name, p.ty)]) ++ ofParams params := by
      simp [ofParams]
    have hscope : (p.name, p.ty) :: defined.reverse = (defined ++ [(p.name, p.ty)]).reverse := by
      simp
    rw [addParams, hassoc, hscope]
    by_cases hfresh : p.name ∈ defined.map Prod.fst
    · have hnot : ¬ (((defined ++ [(p.name, p.ty)]) ++ ofParams params).map Prod.fst).Nodup :=
        fun h => (nodup_append_singleton.1 (h.sublist
          ((List.sublist_append_left _ _).map _))).2 hfresh
      rw [if_pos (lookup_isSome_iff_mem.2 (by simpa using hfresh))]
      exact ⟨fun h => (nomatch h), fun h => absurd h.1 hnot⟩
    · rw [if_neg (mt lookup_isSome_iff_mem.1 (by simpa using hfresh))]
      exact ih (nodup_append_singleton.2 ⟨hnodup, hfresh⟩)

theorem not_endsAfter_nil {ret : Ty} {defined : Scope} {calls : List Call} {result : Value} :
    ¬ EndsAfter m ret defined [] calls result :=
  fun h => List.append_ne_nil_of_right_ne_nil _ (List.cons_ne_nil _ _) h.block.symm

theorem EndsAfter.nodup {ret : Ty} {defined : Scope} {insts : List Inst} {calls : List Call}
    {result : Value} (h : EndsAfter m ret defined insts calls result) :
    (defined.map Prod.fst).Nodup :=
  h.names.sublist ((List.sublist_append_left _ _).map _)

/-- A return ends its block. -/
theorem endsAfter_ret_iff {ret : Ty} {defined : Scope} (hnodup : (defined.map Prod.fst).Nodup)
    {value : Value} {rest : List Inst} :
    (∃ calls result, EndsAfter m ret defined (.ret value :: rest) calls result) ↔
      rest = [] ∧ value.WellFormed defined ∧ value.HasType ret := by
  constructor
  · rintro ⟨calls, result, h⟩
    obtain ⟨hblock, -, -, hoperand, hreturns⟩ := h
    cases calls with
    | nil =>
      obtain ⟨hvalue, rfl⟩ := List.cons.inj hblock
      cases hvalue
      exact ⟨rfl, by simpa using hoperand, hreturns⟩
    | cons c calls => exact nomatch (List.cons.inj hblock).1
  · rintro ⟨rfl, hoperand, hreturns⟩
    exact ⟨[], value, rfl, by simpa using hnodup, callsAfter_nil m defined,
      by simpa using hoperand, hreturns⟩

/-- A call defines a fresh name for the rest of its block. -/
theorem endsAfter_call_iff {ret : Ty} {defined : Scope} {c : Call} {rest : List Inst} :
    (∃ calls result, EndsAfter m ret defined (c.inst :: rest) calls result) ↔
      c.WellFormed m defined ∧
        ∃ calls result, EndsAfter m ret (defined ++ [c.definition]) rest calls result := by
  have hassoc (calls : List Call) : defined ++ (c :: calls).map Call.definition =
      defined ++ [c.definition] ++ calls.map Call.definition := by
    simp
  constructor
  · rintro ⟨calls, result, h⟩
    obtain ⟨hblock, hnames, hordered, hoperand, hreturns⟩ := h
    cases calls with
    | nil => exact nomatch (List.cons.inj hblock).1
    | cons first calls =>
      obtain ⟨hfirst, hrest⟩ := List.cons.inj hblock
      obtain rfl : c = first := Call.inst_inj.1 hfirst
      rw [hassoc] at hnames hoperand
      rw [callsAfter_cons] at hordered
      exact ⟨hordered.1, calls, result, hrest, hnames, hordered.2, hoperand, hreturns⟩
  · rintro ⟨hc, calls, result, h⟩
    refine ⟨c :: calls, result, ?_, ?_, ?_, ?_, h.returns⟩
    · rw [h.block]
      rfl
    · rw [hassoc]
      exact h.names
    · exact callsAfter_cons.2 ⟨hc, h.ordered⟩
    · rw [hassoc]
      exact h.operand

/-- The blocks that pass the check after some definitions. -/
theorem checkInsts_eq_ok_iff {defined : Scope} (hnodup : (defined.map Prod.fst).Nodup)
    {insts : List Inst} (hshort : ∀ i ∈ insts, ∀ v ∈ i.operands, v.IsShort) :
    checkInsts m f defined.reverse insts = .ok () ↔
      ∃ calls result, EndsAfter m f.ret defined insts calls result := by
  induction insts generalizing defined with
  | nil => exact ⟨fun h => (nomatch h), fun ⟨_, _, h⟩ => absurd h not_endsAfter_nil⟩
  | cons i rest ih =>
    obtain ⟨hi, hrest⟩ := List.forall_mem_cons.1 hshort
    cases i with
    | ret value =>
      rw [endsAfter_ret_iff hnodup]
      cases rest with
      | nil =>
        have hty : value.ty = f.ret ↔ value.HasType f.ret :=
          Value.ty_eq_iff (hi value List.mem_cons_self)
        rw [checkInsts, check_bind_eq_ok, ite_throw_eq_ok, Value.check_eq_ok_iff hnodup,
          ne_eq, not_not, hty, eq_self_iff_true, true_and]
      | cons next rest => exact ⟨fun h => (nomatch h), fun h => (nomatch h.1)⟩
    | call dest ty callee args =>
      let c : Call := ⟨dest, ty, callee, args⟩
      refine Iff.trans ?_ (endsAfter_call_iff (c := c)).symm
      cases rest with
      | nil => exact ⟨fun h => (nomatch h), fun ⟨_, _, _, h⟩ => absurd h not_endsAfter_nil⟩
      | cons next rest =>
        have hscope : (dest, ty) :: defined.reverse = (defined ++ [c.definition]).reverse := by
          simp [c, Call.definition]
        have hcall : checkCall m f.name defined.reverse ty callee args = .ok () ↔
            c.WellFormed m defined := checkCall_eq_ok_iff (c := c) hnodup hi
        rw [checkInsts, check_bind_eq_ok, hcall, ite_throw_bind_eq_ok, lookup_isSome_iff_mem,
          hscope, List.map_reverse, List.mem_reverse]
        refine and_congr_right fun _ => ?_
        constructor
        · rintro ⟨hfresh, hnext⟩
          exact (ih (nodup_append_singleton.2 ⟨hnodup, hfresh⟩) hrest).1 hnext
        · rintro ⟨calls, result, h⟩
          have hnodup' := h.nodup
          exact ⟨(nodup_append_singleton.1 hnodup').2, (ih hnodup' hrest).2 ⟨calls, result, h⟩⟩

/-- A call that passes asks of its symbol the signature that it has. -/
theorem signature?_of_checkCall {function : String} {scope : Scope} {c : Call}
    (h : checkCall m function scope c.ty c.callee c.args = .ok ()) :
    m.signature? c.callee = some c.signature := by
  rw [checkCall, check_bind_eq_ok] at h
  cases hsignature : m.signature? c.callee with
  | none =>
    rw [hsignature] at h
    exact nomatch h.2
  | some signature =>
    simp only [hsignature, ite_throw_bind_eq_ok, check_bind_eq_ok, ite_throw_eq_ok, ne_eq,
      not_not] at h
    obtain ⟨-, hlength, harguments, hret⟩ := h
    rw [Call.signature, hret, (checkArguments_eq_ok_iff hlength).1 harguments]

/-- A block that passes has calls and a return at its end, whatever its constants are. -/
theorem exists_calls_of_checkInsts {scope : Scope} {insts : List Inst}
    (h : checkInsts m f scope insts = .ok ()) :
    ∃ (calls : List Call) (result : Value), insts = calls.map Call.inst ++ [.ret result] ∧
      ∀ c ∈ calls, m.signature? c.callee = some c.signature := by
  induction insts generalizing scope with
  | nil => cases h
  | cons i rest ih =>
    cases i with
    | ret value =>
      cases rest with
      | nil => exact ⟨[], value, rfl, fun c hc => absurd hc List.not_mem_nil⟩
      | cons next rest => cases h
    | call dest ty callee args =>
      cases rest with
      | nil => cases h
      | cons next rest =>
        rw [checkInsts, check_bind_eq_ok, ite_throw_bind_eq_ok] at h
        obtain ⟨calls, result, hrest, hcalls⟩ := ih h.2.2
        let c : Call := ⟨dest, ty, callee, args⟩
        have hc : m.signature? c.callee = some c.signature := signature?_of_checkCall h.1
        exact ⟨c :: calls, result, congrArg _ hrest, List.forall_mem_cons.2 ⟨hc, hcalls⟩⟩

theorem Function.verify_eq_ok_iff_exists_block : f.verify m = .ok () ↔
    ∃ insts, f.blocks = [⟨entryLabel, insts⟩] ∧
      Scope.addParams f.name [] f.params >>= (checkInsts m f · insts) = .ok () := by
  unfold Function.verify
  split
  · next entry hblocks =>
    obtain ⟨label, insts⟩ := entry
    by_cases hlabel : label = entryLabel
    · subst hlabel
      simp [hblocks]
    · simp [hblocks, hlabel]
  · next hblocks =>
    refine ⟨fun h => (nomatch h), fun ⟨insts, h, _⟩ => ?_⟩
    exact absurd h (hblocks _)

/-- A function that passes has calls and a return at its end, whatever its constants are. -/
theorem Function.exists_calls_of_verify (h : f.verify m = .ok ()) :
    ∃ (calls : List Call) (result : Value), f.insts = calls.map Call.inst ++ [.ret result] ∧
      ∀ c ∈ calls, m.signature? c.callee = some c.signature := by
  obtain ⟨insts, hblocks, hcheck⟩ := verify_eq_ok_iff_exists_block.1 h
  obtain ⟨scope, -, hinsts⟩ := bind_eq_ok.1 hcheck
  rw [Function.insts, hblocks, List.flatMap_singleton]
  exact exists_calls_of_checkInsts hinsts

/-- **Verification.** A function passes verification if and only if it is well formed. -/
theorem Function.verify_eq_ok_iff (hshort : ∀ v ∈ f.operands, v.IsShort) :
    f.verify m = .ok () ↔ f.IsWellFormed m := by
  rw [verify_eq_ok_iff_exists_block]
  refine exists_congr fun insts => ?_
  simp only [exists_and_left]
  refine and_congr_right fun hblocks => ?_
  have hinsts : ∀ i ∈ insts, ∀ v ∈ i.operands, v.IsShort := by
    intro i hi v hv
    refine hshort v (List.mem_flatMap.2 ⟨i, ?_, hv⟩)
    simpa [Function.insts, hblocks] using hi
  have hnil : (([] : Scope).map Prod.fst).Nodup := List.nodup_nil
  have hparams (scope : Scope) : Scope.addParams f.name [] f.params = .ok scope ↔
      ((Scope.ofParams f.params).map Prod.fst).Nodup ∧ (Scope.ofParams f.params).reverse = scope :=
    Scope.addParams_eq_ok_iff hnil
  rw [bind_eq_ok]
  constructor
  · rintro ⟨scope, hscope, h⟩
    obtain ⟨hnodup, rfl⟩ := (hparams scope).1 hscope
    exact (checkInsts_eq_ok_iff hnodup hinsts).1 h
  · rintro ⟨calls, result, h⟩
    exact ⟨_, (hparams _).2 ⟨h.nodup, rfl⟩,
      (checkInsts_eq_ok_iff h.nodup hinsts).2 ⟨calls, result, h⟩⟩

end VectorTrial.Program
