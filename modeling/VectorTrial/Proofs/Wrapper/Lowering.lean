import Mathlib.Data.List.Forall2
import VectorTrial.Proofs.Instruction.Symbols
import VectorTrial.Proofs.Lane.Shapes
import VectorTrial.Proofs.Program.WellFormed
import VectorTrial.Proofs.Sequence.Partners
import VectorTrial.Wrapper.Lowering

/-!
# Functions with a native form

Which functions become wrappers, said without the lowering: all their types are those of a scalar
or of a register, all that they call are models, and no operand is a constant. What the wrapper of
such a function is follows the function line by line.

## Main definitions

* `VectorTrial.Program.Ty.IsNative` — the types of scalars and registers.
* `VectorTrial.Program.Function.IsNative` — the functions that have a native form.
* `VectorTrial.Wrapper.Realises` — what the wrapper of a function is.

## Main results

* `VectorTrial.Wrapper.shapeOf_eq_ok` — the layout that a type stands for.
* `VectorTrial.Wrapper.layouts_exact` — which lanes and which types are recognised as layouts.
* `VectorTrial.Wrapper.ofFunction_eq_ok` — the wrapper of a function that ends with a return.
* `VectorTrial.Wrapper.exists_ofFunction` — the functions that are lowered.
* `VectorTrial.Wrapper.unsupported_of_ofFunction` — the others are unsupported.
-/

namespace VectorTrial

open Program

/-! ### Types -/

namespace Program.Ty

/-- **Native types.** The type of a bare scalar, and the types of vectors whose elements have 8, 16,
32 or 64 bits and fill a register of 128, 256 or 512 bits. -/
def IsNative : Ty → Prop
  | int bits => bits = 32
  | vector lanes bits =>
    bits.toNat ∈ [8, 16, 32, 64] ∧ lanes.toNat * bits.toNat ∈ [128, 256, 512]

/-- Whether the number of bits of a type is a 32-bit size. -/
def FitsWord : Ty → Prop
  | int _ => True
  | vector lanes bits => lanes.toNat * bits.toNat < UInt32.size

/-- A vector type is that of a register which its elements fill. -/
theorem vector_eq_ofShape {lanes bits : UInt32} {w : VectorWidth} {lane : LaneWidth} :
    vector lanes bits = ofShape (.vector w lane) ↔
      lane.bits = bits.toNat ∧ w.bits = lanes.toNat * bits.toNat := by
  have hbits : UInt32.ofNat lane.bits = bits ↔ lane.bits = bits.toNat := by
    rw [← UInt32.toNat_inj, UInt32.toNat_ofNat_of_lt']
    cases lane <;> decide
  have hlanes : UInt32.ofNat (Shape.vector w lane).laneCount = lanes ↔
      (Shape.vector w lane).laneCount = lanes.toNat := by
    rw [← UInt32.toNat_inj, UInt32.toNat_ofNat_of_lt']
    cases w <;> cases lane <;> decide
  have hproduct : (Shape.vector w lane).laneCount * lane.bits = w.bits :=
    (Shape.vector w lane).laneCount_mul_bits
  rw [ofShape, vector.injEq, eq_comm, hlanes, @eq_comm _ bits, hbits, and_comm]
  refine and_congr_right fun hlane => ?_
  rw [← hproduct, hlane]
  exact ⟨fun h => h ▸ rfl, fun h => Nat.eq_of_mul_eq_mul_right (hlane ▸ lane.bits_pos) h⟩

/-- The native types are the types of layouts. -/
theorem isNative_iff {ty : Ty} : ty.IsNative ↔ ∃ s, ty = ofShape s := by
  constructor
  · intro h
    cases ty with
    | int bits => exact ⟨.scalar32, congrArg int h⟩
    | vector lanes bits =>
      obtain ⟨lane, hlane⟩ := LaneWidth.exists_bits_eq.2 h.1
      obtain ⟨w, hwidth⟩ := VectorWidth.exists_bits_eq.2 h.2
      exact ⟨.vector w lane, vector_eq_ofShape.2 ⟨hlane, hwidth⟩⟩
  · rintro ⟨s, rfl⟩
    rcases s with ⟨w, lane⟩ | _
    · obtain ⟨hlane, hwidth⟩ := vector_eq_ofShape.1 (rfl : ofShape (.vector w lane) = _)
      exact ⟨LaneWidth.exists_bits_eq.1 ⟨lane, hlane⟩, VectorWidth.exists_bits_eq.1 ⟨w, hwidth⟩⟩
    · rfl

end Program.Ty

/-! ### Functions -/

namespace Program

/-- Whether an operand is a name and no constant. -/
def Value.IsLocal (v : Value) : Prop := ∃ name ty, v = .ref name ty

/-- **Native functions.** The functions that have a native form: the parameters, the result and the
results of all calls have native types, all calls are of models, and no operand is a constant. -/
structure Function.IsNative (f : Function) : Prop where
  params : ∀ p ∈ f.params, p.ty.IsNative
  ret : f.ret.IsNative
  calls : ∀ dest ty callee args, Inst.call dest ty callee args ∈ f.insts →
    ty.IsNative ∧ ∃ i : Intrinsic, callee = i.symbol
  operands : ∀ v ∈ f.operands, v.IsLocal

/-- The types of the parameters, of the result and of the results of all calls. -/
def Function.types (f : Function) : List Ty :=
  f.params.map Param.ty ++ f.ret :: f.insts.filterMap fun
    | .call _ ty _ _ => some ty
    | .ret _ => none

end Program

namespace Wrapper

/-! ### Parts of a function -/

variable {function : String}

/-- **Layouts.** A type stands for a layout if it is the type of the layout. -/
theorem shapeOf_eq_ok {ty : Ty} {s : Shape} : shapeOf function ty = .ok s ↔ ty = .ofShape s := by
  refine ⟨fun h => ?_, fun h => h ▸ shapeOf_ofShape function s⟩
  unfold shapeOf at h
  split at h
  · split_ifs at h with hbits
    cases h
    exact congrArg Ty.int hbits
  · split at h
    · next shape hshape =>
      cases h
      obtain ⟨w, lane, rfl, hlane, hw⟩ := Shape.ofLanes_eq_ok.1 hshape
      exact Ty.vector_eq_ofShape.2 ⟨hlane, hw⟩
    · cases h
    · cases h

/-- A type of a 32-bit size that stands for no layout is unsupported. -/
theorem unsupported_of_shapeOf {ty : Ty} (hsize : ty.FitsWord) {e : WrapperError}
    (h : shapeOf function ty = .error e) : ∃ reason, e = .unsupported function reason := by
  unfold shapeOf at h
  split at h
  · split_ifs at h
    cases h
    exact ⟨_, rfl⟩
  · split at h
    · cases h
    · next lanes bits hoverflow =>
      rcases Shape.ofLanes_eq_error.1 hoverflow with ⟨-, heq⟩ | ⟨-, ⟨hle, -⟩ | ⟨-, -, heq⟩⟩
      · cases heq
      · exact absurd hsize (Nat.not_lt.2 hle)
      · cases heq
    · cases h
      exact ⟨_, rfl⟩

/-- **Layouts by exact arithmetic.** Lanes make up a shape if and only if they have 8, 16, 32 or 64
bits and their product, as a number, is 128, 256 or 512, and it is the shape with so many lanes of
so many bits. Other lanes are refused for the width that is not legal, but where the lanes have a
legal width and the product is no 32-bit size, the program stops instead. A type stands for a layout
if and only if it is the type of the layout. -/
theorem layouts_exact (lanes bits : UInt32) :
    ((∃ s, Shape.ofLanes lanes bits = .ok s) ↔
      bits.toNat ∈ [8, 16, 32, 64] ∧ lanes.toNat * bits.toNat ∈ [128, 256, 512]) ∧
    (∀ s, Shape.ofLanes lanes bits = .ok s ↔
      s.isScalar = false ∧ s.laneCount = lanes.toNat ∧ s.laneWidth.bits = bits.toNat) ∧
    (∀ n, Shape.ofLanes lanes bits = .error (.unsupportedWidth n) ↔
      bits.toNat ∉ [8, 16, 32, 64] ∧ n = bits.toNat ∨
      bits.toNat ∈ [8, 16, 32, 64] ∧ lanes.toNat * bits.toNat < UInt32.size ∧
        lanes.toNat * bits.toNat ∉ [128, 256, 512] ∧ n = lanes.toNat * bits.toNat) ∧
    (Shape.ofLanes lanes bits = .error .sizeOverflow ↔
      bits.toNat ∈ [8, 16, 32, 64] ∧ UInt32.size ≤ lanes.toNat * bits.toNat) ∧
    ∀ function ty s, shapeOf function ty = .ok s ↔ ty = .ofShape s := by
  refine ⟨⟨?_, ?_⟩, fun s => ⟨?_, ?_⟩, fun n => ?_, ?_, fun function ty s => shapeOf_eq_ok⟩
  · rintro ⟨s, hs⟩
    obtain ⟨w, lane, -, hlane, hw⟩ := Shape.ofLanes_eq_ok.1 hs
    exact ⟨LaneWidth.exists_bits_eq.1 ⟨lane, hlane⟩, VectorWidth.exists_bits_eq.1 ⟨w, hw⟩⟩
  · rintro ⟨hbits, hproduct⟩
    obtain ⟨lane, hlane⟩ := LaneWidth.exists_bits_eq.2 hbits
    obtain ⟨w, hw⟩ := VectorWidth.exists_bits_eq.2 hproduct
    exact ⟨.vector w lane, Shape.ofLanes_eq_ok.2 ⟨w, lane, rfl, hlane, hw⟩⟩
  · intro hs
    obtain ⟨w, lane, rfl, hlane, hw⟩ := Shape.ofLanes_eq_ok.1 hs
    have hcount : (Shape.vector w lane).laneCount * lane.bits = lanes.toNat * lane.bits :=
      (Shape.laneCount_mul_bits _).trans (hlane ▸ hw)
    exact ⟨rfl, Nat.eq_of_mul_eq_mul_right lane.bits_pos hcount, hlane⟩
  · rintro ⟨hscalar, hcount, hlane⟩
    cases s with
    | scalar32 => cases hscalar
    | vector w lane =>
      have hw : (Shape.vector w lane).laneCount * lane.bits = w.bits := Shape.laneCount_mul_bits _
      exact Shape.ofLanes_eq_ok.2 ⟨w, lane, rfl, hlane, by rw [← hw, hcount, ← hlane]; rfl⟩
  · simp [Shape.ofLanes_eq_error]
  · simp [Shape.ofLanes_eq_error]

/-- Lanes whose product is no 32-bit size, though it is 128 as a word: they are neither a shape nor
refused for a width. -/
theorem layouts_pastWords :
    (268435464 : UInt32) * 16 = 128 ∧
      ¬ (268435464 : UInt32).toNat * (16 : UInt32).toNat ∈ [128, 256, 512] ∧
      Shape.ofLanes 268435464 16 = .error .sizeOverflow ∧
      ¬ ∃ n, Shape.ofLanes 268435464 16 = .error (.unsupportedWidth n) := by
  have hstopped : Shape.ofLanes 268435464 16 = .error .sizeOverflow := by decide
  refine ⟨by decide, by decide, hstopped, ?_⟩
  rintro ⟨n, hn⟩
  rw [hstopped] at hn
  cases hn

theorem operandName_eq_ok {v : Value} {name : String} :
    operandName function v = .ok name ↔ ∃ ty, v = .ref name ty := by
  cases v with
  | const c => exact ⟨fun h => (nomatch h), fun ⟨_, h⟩ => (nomatch h)⟩
  | ref n ty => simp [operandName]

theorem operandNames_eq_ok {i : Intrinsic} {args : List Value} {first second : String} :
    operandNames function i args = .ok (first, second) ↔
      ∃ ty ty', args = [.ref first ty, .ref second ty'] := by
  unfold operandNames
  split
  · next a b =>
    simp only [bind_eq_ok, operandName_eq_ok]
    constructor
    · rintro ⟨x, ⟨ty, rfl⟩, y, ⟨ty', rfl⟩, h⟩
      cases h
      exact ⟨ty, ty', rfl⟩
    · rintro ⟨ty, ty', h⟩
      cases h
      exact ⟨first, ⟨ty, rfl⟩, second, ⟨ty', rfl⟩, rfl⟩
  · next args hargs =>
    refine ⟨fun h => (nomatch h), ?_⟩
    rintro ⟨ty, ty', rfl⟩
    exact absurd rfl (hargs _ _)

theorem instructionOf_eq_ok {symbol : String} {i : Intrinsic} :
    instructionOf function symbol = .ok i ↔ i.symbol = symbol := by
  rw [← Intrinsic.ofSymbol_eq_ok, instructionOf]
  cases Intrinsic.ofSymbol symbol <;> simp

/-- **Bindings.** What a binding has to be for a call: it binds the same name, the layout has the
type of the result, and the instruction whose model is called takes the same two names. -/
structure Binding.Realises (b : Binding) (c : Call) : Prop where
  name : b.name = c.dest
  type : c.ty = .ofShape b.shape
  callee : b.instruction.symbol = c.callee
  args : ∃ ty ty', c.args = [.ref b.first ty, .ref b.second ty']

/-- The bindings of a block are those of its calls, one to each. -/
theorem bindingsOf_eq_ok {calls : List Call} {result : Value} {bindings : List Binding} :
    bindingsOf function (calls.map Call.inst ++ [.ret result]) = .ok bindings ↔
      List.Forall₂ (fun c b => Binding.Realises b c) calls bindings := by
  induction calls generalizing bindings with
  | nil =>
    simp [bindingsOf]
  | cons c calls ih =>
    rw [List.map_cons, List.cons_append, Call.inst, bindingsOf]
    simp only [bind_eq_ok, instructionOf_eq_ok, shapeOf_eq_ok, Prod.exists, operandNames_eq_ok, ih]
    constructor
    · rintro ⟨i, hi, first, second, hargs, shape, hshape, rest, hrest, h⟩
      cases h
      exact .cons ⟨rfl, hshape, hi, hargs⟩ hrest
    · intro h
      cases h with
      | @cons _ b _ rest hb hrest =>
        obtain ⟨name, shape, i, first, second⟩ := b
        obtain ⟨rfl, hshape, hi, hargs⟩ := hb
        exact ⟨i, hi, first, second, hargs, shape, hshape, rest, hrest, rfl⟩

/-- Names with the types of their layouts. -/
def scopeOf (names : List (String × Shape)) : Scope := names.map fun p => (p.1, .ofShape p.2)

/-- The parameters of a wrapper are those of its function, with the layouts of their types. -/
theorem paramsOf_eq_ok {params : List Param} {names : List (String × Shape)} :
    paramsOf function params = .ok names ↔ Scope.ofParams params = scopeOf names := by
  induction params generalizing names with
  | nil =>
    cases names <;> simp [paramsOf, Scope.ofParams, scopeOf]
  | cons p params ih =>
    rw [paramsOf]
    simp only [bind_eq_ok, shapeOf_eq_ok, ih]
    constructor
    · rintro ⟨s, hs, rest, hrest, h⟩
      cases h
      rw [scopeOf, List.map_cons, ← hs]
      exact congrArg ((p.name, p.ty) :: ·) hrest
    · intro h
      cases names with
      | nil => cases h
      | cons q rest =>
        obtain ⟨hp, hrest⟩ := List.cons.inj h
        obtain ⟨hname, hty⟩ := Prod.mk.inj hp
        exact ⟨q.2, hty, rest, hrest, by rw [hname]; rfl⟩

/-! ### Wrappers of functions -/

/-- A block hands back what its return returns. -/
theorem lastReturned?_block (calls : List Call) (result : Value) :
    lastReturned? (calls.map Call.inst ++ [.ret result]) = some result := by
  rw [lastReturned?, List.reverse_append]
  rfl

/-- **Wrappers.** What the wrapper of a function with some calls and a return has to be. -/
structure Realises (w : Wrapper) (f : Function) (calls : List Call) (result : Value) : Prop where
  name : w.name = f.name
  params : Scope.ofParams f.params = scopeOf w.params
  ret : f.ret = .ofShape w.ret
  bindings : List.Forall₂ (fun c b => Binding.Realises b c) calls w.bindings
  returned : ∃ ty, result = .ref w.returned ty

variable {f : Function} {calls : List Call} {result : Value}

/-- **Lowering.** A function with some calls and a return is lowered to what its wrapper has to
be. -/
theorem ofFunction_eq_ok (hinsts : f.insts = calls.map Call.inst ++ [.ret result]) {w : Wrapper} :
    ofFunction f = .ok w ↔ w.Realises f calls result := by
  unfold ofFunction
  simp only [hinsts, lastReturned?_block, bind_eq_ok, paramsOf_eq_ok, shapeOf_eq_ok,
    bindingsOf_eq_ok, operandName_eq_ok]
  constructor
  · rintro ⟨params, hparams, ret, hret, bindings, hbindings, returned, hreturned, h⟩
    cases h
    exact ⟨rfl, hparams, hret, hbindings, hreturned⟩
  · rintro ⟨hname, hparams, hret, hbindings, hreturned⟩
    obtain ⟨name, params, ret, bindings, returned⟩ := w
    obtain rfl := hname
    exact ⟨params, hparams, ret, hret, bindings, hbindings, returned, hreturned, rfl⟩

/-- Native functions with some calls and a return. -/
theorem isNative_iff_of_insts (hinsts : f.insts = calls.map Call.inst ++ [.ret result]) :
    f.IsNative ↔ (∀ p ∈ f.params, p.ty.IsNative) ∧ f.ret.IsNative ∧
      (∀ c ∈ calls, c.ty.IsNative ∧ (∃ i : Intrinsic, c.callee = i.symbol) ∧
        ∀ v ∈ c.args, v.IsLocal) ∧ result.IsLocal := by
  have hcall {dest : String} {ty : Ty} {callee : String} {args : List Value} :
      Inst.call dest ty callee args ∈ f.insts ↔ Call.mk dest ty callee args ∈ calls := by
    rw [hinsts]
    exact Call.inst_mem_block (c := ⟨dest, ty, callee, args⟩)
  have hoperand {v : Value} : v ∈ f.operands ↔ (∃ c ∈ calls, v ∈ c.args) ∨ v = result := by
    rw [Function.operands, hinsts]
    simp [Inst.operands, Call.inst]
  constructor
  · rintro ⟨hparams, hret, hcalls, hoperands⟩
    refine ⟨hparams, hret, fun c hc => ?_, hoperands result (hoperand.2 (Or.inr rfl))⟩
    obtain ⟨hty, hcallee⟩ := hcalls c.dest c.ty c.callee c.args (hcall.2 hc)
    exact ⟨hty, hcallee, fun v hv => hoperands v (hoperand.2 (Or.inl ⟨c, hc, hv⟩))⟩
  · rintro ⟨hparams, hret, hcalls, hresult⟩
    refine ⟨hparams, hret, fun dest ty callee args h => ?_, fun v hv => ?_⟩
    · obtain ⟨hty, hcallee, -⟩ := hcalls _ (hcall.1 h)
      exact ⟨hty, hcallee⟩
    · rcases hoperand.1 hv with ⟨c, hc, hv⟩ | rfl
      · exact (hcalls c hc).2.2 v hv
      · exact hresult

/-- A call of a model on two names has a binding if its type is native. -/
theorem exists_realises {c : Call} (hty : c.ty.IsNative) {i : Intrinsic} (hi : c.callee = i.symbol)
    (hlength : c.args.length = 2) (hlocal : ∀ v ∈ c.args, v.IsLocal) :
    ∃ b, Binding.Realises b c := by
  obtain ⟨s, hs⟩ := Ty.isNative_iff.1 hty
  obtain ⟨v, v', hargs⟩ := List.length_eq_two.1 hlength
  rw [hargs] at hlocal
  obtain ⟨first, ty, hfirst⟩ := hlocal v List.mem_cons_self
  obtain ⟨second, ty', hsecond⟩ := hlocal v' (List.mem_cons_of_mem _ List.mem_cons_self)
  exact ⟨⟨c.dest, s, i, first, second⟩, rfl, hs, hi.symm, ty, ty', by rw [hargs, hfirst, hsecond]⟩

/-- **Lowered functions.** A function with some calls and a return, whose calls of models have two
arguments each, is lowered if and only if it is native. -/
theorem exists_ofFunction (hinsts : f.insts = calls.map Call.inst ++ [.ret result])
    (hlength : ∀ c ∈ calls, ∀ i : Intrinsic, c.callee = i.symbol → c.args.length = 2) :
    (∃ w, ofFunction f = .ok w) ↔ f.IsNative := by
  simp only [ofFunction_eq_ok hinsts, isNative_iff_of_insts hinsts]
  constructor
  · rintro ⟨w, -, hparams, hret, hbindings, ty, rfl⟩
    refine ⟨fun p hp => ?_, Ty.isNative_iff.2 ⟨w.ret, hret⟩, fun c hc => ?_, w.returned, ty, rfl⟩
    · have hmem : (p.name, p.ty) ∈ scopeOf w.params := by
        rw [← hparams]
        exact List.mem_map_of_mem hp
      obtain ⟨q, -, heq⟩ := List.mem_map.1 hmem
      exact Ty.isNative_iff.2 ⟨q.2, (Prod.mk.inj heq).2.symm⟩
    · obtain ⟨b, -, hb⟩ := exists_right_of_forall₂ hbindings c hc
      obtain ⟨ty, ty', hargs⟩ := hb.args
      refine ⟨Ty.isNative_iff.2 ⟨b.shape, hb.type⟩, ⟨b.instruction, hb.callee.symm⟩, ?_⟩
      rw [hargs]
      exact List.forall_mem_cons.2 ⟨⟨b.first, ty, rfl⟩,
        List.forall_mem_singleton.2 ⟨b.second, ty', rfl⟩⟩
  · rintro ⟨hparams, hret, hcalls, returned, ty, hreturned⟩
    have hnamed : ∀ p ∈ f.params, ∃ q : String × Shape, (q.1, Ty.ofShape q.2) = (p.name, p.ty) := by
      intro p hp
      obtain ⟨s, hs⟩ := Ty.isNative_iff.1 (hparams p hp)
      exact ⟨(p.name, s), by rw [hs]⟩
    obtain ⟨names, hnames⟩ := exists_forall₂ hnamed
    have hscope : Scope.ofParams f.params = scopeOf names :=
      (map_eq_map_of_forall₂ (fun _ _ hq => hq) hnames).symm
    obtain ⟨s, hs⟩ := Ty.isNative_iff.1 hret
    have hbindings : ∀ c ∈ calls, ∃ b, Binding.Realises b c := by
      intro c hc
      obtain ⟨hty, ⟨i, hi⟩, hlocal⟩ := hcalls c hc
      exact exists_realises hty hi (hlength c hc i hi) hlocal
    obtain ⟨bindings, hbindings⟩ := exists_forall₂ hbindings
    exact ⟨⟨f.name, names, s, bindings, returned⟩, rfl, hscope, hs, hbindings, ty, hreturned⟩

/-! ### Refusals -/

theorem unsupported_of_operandName {v : Value} {e : WrapperError}
    (h : operandName function v = .error e) : ∃ reason, e = .unsupported function reason := by
  cases v with
  | const c =>
    cases h
    exact ⟨_, rfl⟩
  | ref name ty => cases h

theorem unsupported_of_operandNames {i : Intrinsic} {args : List Value} {e : WrapperError}
    (h : operandNames function i args = .error e) :
    ∃ reason, e = .unsupported function reason := by
  unfold operandNames at h
  split at h
  · simp only [bind_eq_error] at h
    rcases h with h | ⟨first, -, h | ⟨second, -, h⟩⟩
    · exact unsupported_of_operandName h
    · exact unsupported_of_operandName h
    · cases h
  · cases h
    exact ⟨_, rfl⟩

theorem unsupported_of_instructionOf {symbol : String} {e : WrapperError}
    (h : instructionOf function symbol = .error e) :
    ∃ reason, e = .unsupported function reason := by
  unfold instructionOf at h
  split at h
  · cases h
  · cases h
    exact ⟨_, rfl⟩

theorem unsupported_of_paramsOf {params : List Param} (hsizes : ∀ p ∈ params, p.ty.FitsWord)
    {e : WrapperError} (h : paramsOf function params = .error e) :
    ∃ reason, e = .unsupported function reason := by
  induction params with
  | nil => cases h
  | cons p params ih =>
    obtain ⟨hp, hparams⟩ := List.forall_mem_cons.1 hsizes
    simp only [paramsOf, bind_eq_error] at h
    rcases h with h | ⟨s, -, h | ⟨rest, -, h⟩⟩
    · exact unsupported_of_shapeOf hp h
    · exact ih hparams h
    · cases h

theorem unsupported_of_bindingsOf {insts : List Inst}
    (hsizes : ∀ dest ty callee args, Inst.call dest ty callee args ∈ insts → ty.FitsWord)
    {e : WrapperError} (h : bindingsOf function insts = .error e) :
    ∃ reason, e = .unsupported function reason := by
  induction insts with
  | nil => cases h
  | cons inst insts ih =>
    have hrest := fun dest ty callee args hmem =>
      hsizes dest ty callee args (List.mem_cons_of_mem inst hmem)
    cases inst with
    | ret value => exact ih hrest h
    | call dest ty callee args =>
      simp only [bindingsOf, bind_eq_error] at h
      rcases h with h | ⟨i, -, h | ⟨⟨first, second⟩, -, h | ⟨s, -, h | ⟨others, -, h⟩⟩⟩⟩
      · exact unsupported_of_instructionOf h
      · exact unsupported_of_operandNames h
      · exact unsupported_of_shapeOf (hsizes dest ty callee args List.mem_cons_self) h
      · exact ih hrest h
      · cases h

/-- **Refusals.** A function whose types have 32-bit sizes is lowered or unsupported. -/
theorem unsupported_of_ofFunction (hsizes : ∀ ty ∈ f.types, ty.FitsWord) {e : WrapperError}
    (h : ofFunction f = .error e) : ∃ reason, e = .unsupported f.name reason := by
  have hparams : ∀ p ∈ f.params, p.ty.FitsWord := fun p hp =>
    hsizes p.ty (List.mem_append_left _ (List.mem_map_of_mem hp))
  have hret : f.ret.FitsWord := hsizes f.ret (List.mem_append_right _ List.mem_cons_self)
  have hcalls : ∀ dest ty callee args, Inst.call dest ty callee args ∈ f.insts → ty.FitsWord := by
    intro dest ty callee args hmem
    refine hsizes ty (List.mem_append_right _ (List.mem_cons_of_mem _ ?_))
    exact List.mem_filterMap.2 ⟨_, hmem, rfl⟩
  unfold ofFunction at h
  simp only [bind_eq_error] at h
  rcases h with h | ⟨params, -, h | ⟨ret, -, h | ⟨bindings, -, h⟩⟩⟩
  · exact unsupported_of_paramsOf hparams h
  · exact unsupported_of_shapeOf hret h
  · exact unsupported_of_bindingsOf hcalls h
  · split at h
    · cases h
      exact ⟨_, rfl⟩
    · rcases bind_eq_error.1 h with h | ⟨returned, -, h⟩
      · exact unsupported_of_operandName h
      · cases h

/-! ### Wrappers of modules -/

/-- A module is lowered function by function. -/
theorem ofModule_eq_ok {m : Module} {ws : List Wrapper} :
    ofModule m = .ok ws ↔ List.Forall₂ (fun f w => ofFunction f = .ok w) m.functions ws := by
  rw [ofModule]
  generalize m.functions = fs
  induction fs generalizing ws with
  | nil => simp [ofFunctions]
  | cons f fs ih =>
    rw [ofFunctions]
    simp only [bind_eq_ok, ih]
    constructor
    · rintro ⟨w, hw, rest, hrest, h⟩
      cases h
      exact .cons hw hrest
    · intro h
      cases h with
      | cons hw hrest => exact ⟨_, hw, _, hrest, rfl⟩

/-- A module is lowered when each of its functions is. -/
theorem exists_ofModule {m : Module} :
    (∃ ws, ofModule m = .ok ws) ↔ ∀ f ∈ m.functions, ∃ w, ofFunction f = .ok w := by
  simp only [ofModule_eq_ok]
  constructor
  · rintro ⟨ws, hws⟩ f hf
    obtain ⟨w, -, hw⟩ := exists_right_of_forall₂ hws f hf
    exact ⟨w, hw⟩
  · exact exists_forall₂

/-- A module that is refused has a function that is refused for the same cause. -/
theorem exists_of_ofModule_eq_error {m : Module} {e : WrapperError} (h : ofModule m = .error e) :
    ∃ f ∈ m.functions, ofFunction f = .error e := by
  rw [ofModule] at h
  generalize m.functions = fs at h
  induction fs with
  | nil => cases h
  | cons f fs ih =>
    simp only [ofFunctions, bind_eq_error] at h
    rcases h with h | ⟨w, -, h | ⟨ws, -, h⟩⟩
    · exact ⟨f, List.mem_cons_self, h⟩
    · obtain ⟨g, hg, hrefused⟩ := ih h
      exact ⟨g, List.mem_cons_of_mem _ hg, hrefused⟩
    · cases h

end Wrapper

end VectorTrial
