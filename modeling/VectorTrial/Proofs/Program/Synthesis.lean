import VectorTrial.Program.Synthetic
import VectorTrial.Proofs.Instruction.Symbols
import VectorTrial.Proofs.Lane.Repacking
import VectorTrial.Proofs.Program.Acceptance

/-!
# Functions around one value or call

The functions that are built for an instruction. One returns the constant that carries the bits of
a register, one calls a model on two such constants, and one calls it on its own parameters. All of
them pass verification when the types are those asked for, and the model is declared wherever
nothing but models is.

## Main definitions

* `VectorTrial.Program.Constant.ofRegister` — the constant of a register.
* `VectorTrial.Program.Function.returning`, `VectorTrial.Program.Function.calling`,
  `VectorTrial.Program.Function.forwarding` — the functions.

## Main results

* `VectorTrial.Program.Constant.ofLanes_elements` — the elements of a constant pack to the register
  that the constant was made of.
* `VectorTrial.Program.Module.exists_declare_model` — a model can be declared beside other models.
* `VectorTrial.Program.Definition.emit_constant`, `VectorTrial.Program.Definition.emit_call`,
  `VectorTrial.Program.Definition.emit_wrapper` — the functions that are built for a value, for a
  call on values and for a call on parameters.
-/

namespace VectorTrial.Program

/-! ### Constants of registers -/

/-- The constant of a register, read as lanes of a width. -/
def Constant.ofRegister (r : Register) (lane : LaneWidth) : Constant :=
  match r.scalar? with
  | some value => .int 32 value
  | none => .vector (UInt32.ofNat lane.bits) (r.lanes lane)

/-- The elements of a constant; an integer is its own element. -/
def Constant.elements : Constant → List Int64
  | int _ value => [value]
  | vector _ values => values

theorem Constant.ofRegister_of_scalar {r : Register} (h : r.isScalar = true) (lane : LaneWidth) :
    Constant.ofRegister r lane = .int 32 (LaneWidth.w32.read r.bytes) := by
  rw [ofRegister, Register.scalar?, if_pos h]

theorem Constant.ofRegister_of_vector {r : Register} (h : ¬ r.isScalar = true)
    (lane : LaneWidth) :
    Constant.ofRegister r lane = .vector (UInt32.ofNat lane.bits) (r.lanes lane) := by
  rw [ofRegister, Register.scalar?, if_neg h]

/-- A vector register has a lane at every width. -/
theorem lanes_ne_nil {r : Register} (h : ¬ r.isScalar = true) (lane : LaneWidth) :
    r.lanes lane ≠ [] := by
  have hlength : 0 < r.kind.byteSize / lane.bytes := by
    cases hkind : r.kind with
    | scalar => exact absurd (decide_eq_true hkind) h
    | vector w => cases w <;> cases lane <;> decide
  intro hnil
  rw [← r.length_bytes, ← Register.length_lanes, hnil] at hlength
  exact absurd hlength (Nat.lt_irrefl 0)

/-- The lanes of a register can be written at the width of their lane. -/
theorem checkLiteral_of_mem_lanes {r : Register} {lane : LaneWidth} {v : Int64}
    (h : v ∈ r.lanes lane) : checkLiteral (UInt32.ofNat lane.bits) v = .ok () := by
  obtain ⟨group, -, rfl⟩ := List.mem_map.1 h
  exact checkLiteral_truncate lane _

/-- The constant of a register passes verification. -/
theorem Constant.check_ofRegister (r : Register) (lane : LaneWidth) :
    (Constant.ofRegister r lane).check = .ok () := by
  by_cases h : r.isScalar = true
  · rw [ofRegister_of_scalar h]
    exact checkLiteral_truncate .w32 _
  · rw [ofRegister_of_vector h, Constant.check, checkElements, List.isEmpty_eq_false_iff.2
      (lanes_ne_nil h lane)]
    exact forM_eq_ok.2 fun v hv => checkLiteral_of_mem_lanes hv

theorem Constant.ty_ofRegister (r : Register) (lane : LaneWidth) :
    (Constant.ofRegister r lane).ty = Ty.ofRegister r lane := by
  by_cases h : r.isScalar = true
  · rw [ofRegister_of_scalar h, Ty.ofRegister, if_pos h]
    rfl
  · have hcount : r.kind.byteSize / lane.bytes = r.kind.bitSize / lane.bits := by
      cases r.kind with
      | scalar => cases lane <;> rfl
      | vector w => cases w <;> cases lane <;> rfl
    rw [ofRegister_of_vector h, Ty.ofRegister, if_neg h, Constant.ty, Register.length_lanes,
      r.length_bytes, hcount]
    rfl

/-- A register that fits a shape has the type of the shape. -/
theorem Ty.ofRegister_of_fits {r : Register} {shape : Shape} (h : r.fits shape = true) :
    Ty.ofRegister r shape.laneWidth = Ty.ofShape shape := by
  have hkind : r.kind = shape.kind := of_decide_eq_true h
  rw [Ty.ofRegister, Register.isScalar, Register.bitSize, hkind]
  cases shape with
  | vector w lane => cases w <;> cases lane <;> rfl
  | scalar32 => rfl

/-- **Types and kinds.** A register has the type of a shape exactly when it fits the shape. -/
theorem Ty.ofRegister_eq_iff_fits {r : Register} {shape : Shape} :
    Ty.ofRegister r shape.laneWidth = Ty.ofShape shape ↔ r.fits shape = true := by
  refine ⟨fun h => ?_, ofRegister_of_fits⟩
  rw [Ty.ofRegister, Register.isScalar, Register.bitSize] at h
  rw [Register.fits]
  generalize r.kind = kind at h ⊢
  cases kind with
  | scalar =>
    cases shape with
    | vector w lane => cases h
    | scalar32 => rfl
  | vector width =>
    cases shape with
    | vector w lane =>
      -- Registers of different widths have different numbers of lanes.
      cases width <;> cases w <;> cases lane <;> first | rfl | exact absurd h (by decide)
    | scalar32 => cases h

theorem Constant.elements_ofRegister {r : Register} {shape : Shape} (h : r.fits shape = true) :
    (Constant.ofRegister r shape.laneWidth).elements = r.lanes shape.laneWidth := by
  have hkind : r.kind = shape.kind := of_decide_eq_true h
  cases shape with
  | vector w lane =>
    have hvector : ¬ r.isScalar = true := by
      rw [Register.isScalar, hkind]
      exact Bool.false_ne_true
    rw [ofRegister_of_vector hvector]
    rfl
  | scalar32 =>
    have hscalar : r.isScalar = true := decide_eq_true hkind
    have hlength : r.bytes.length = 4 := r.length_bytes.trans (congrArg _ hkind)
    have htake : r.bytes.take 4 = r.bytes := List.take_of_length_le hlength.le
    have hlanes : r.lanes .w32 = [LaneWidth.w32.read (r.bytes.take 4)] := by
      rw [Register.lanes, Register.chunks, hlength]
      rfl
    rw [ofRegister_of_scalar hscalar, Shape.laneWidth, hlanes, htake]
    rfl

/-- **Operands in a program.** The elements of the constant of a register that fits a shape pack,
at that shape, to the register. -/
theorem Constant.ofLanes_elements {r : Register} {shape : Shape} (h : r.fits shape = true) :
    Register.ofLanes shape (Constant.ofRegister r shape.laneWidth).elements = .ok r := by
  rw [Constant.elements_ofRegister h, Register.ofLanes_lanes h]

/-- The type of the constant of a register that fits a shape. -/
theorem Constant.ty_of_fits {r : Register} {shape : Shape} (h : r.fits shape = true) :
    (Constant.ofRegister r shape.laneWidth).ty = Ty.ofShape shape := by
  rw [Constant.ty_ofRegister, Ty.ofRegister_of_fits h]

/-! ### The emission of literals -/

theorem emitElements_eq {bits : UInt32} {values : List Int64}
    (h : ∀ v ∈ values, checkLiteral bits v = .ok ()) :
    emitElements bits (values.map fun value => ⟨value, bits⟩) = .ok values := by
  induction values with
  | nil => rfl
  | cons v rest ih =>
    obtain ⟨hv, hrest⟩ := List.forall_mem_cons.1 h
    rw [List.map_cons, emitElements, if_neg (not_not.2 rfl), hv, ih hrest]
    rfl

/-- For the literal of a register its constant is emitted, and no instruction. -/
theorem Expr.emit_ofRegister (m : Module) (scope : Scope) (next : Nat) (r : Register)
    (lane : LaneWidth) :
    (Expr.ofRegister r lane).emit m scope next =
      .ok ⟨.const (.ofRegister r lane), [], next⟩ := by
  by_cases h : r.isScalar = true
  · have hliteral := checkLiteral_truncate .w32 (Int64.ofNat (ofLittleEndian r.bytes))
    rw [Expr.ofRegister, Constant.ofRegister_of_scalar h, Register.scalar?, if_pos h]
    exact bind_eq_ok.2 ⟨(), hliteral, rfl⟩
  · have helements : emitElements (UInt32.ofNat lane.bits)
        ((r.lanes lane).map fun value => ⟨value, UInt32.ofNat lane.bits⟩) = .ok (r.lanes lane) :=
      emitElements_eq fun v hv => checkLiteral_of_mem_lanes hv
    rw [Expr.ofRegister, Constant.ofRegister_of_vector h, Register.scalar?, if_neg h,
      Expr.ofValues, Expr.emit, List.isEmpty_map,
      List.isEmpty_eq_false_iff.2 (lanes_ne_nil h lane)]
    exact bind_eq_ok.2 ⟨_, helements, rfl⟩

/-- The refusal of a register as an argument of a call. -/
def misfit (callee : String) (index : Nat) (shape : Shape) (r : Register) : Error :=
  .typeMismatch (argumentPlace index callee) (.ofShape shape) (.ofRegister r shape.laneWidth)

/-- **Literal arguments.** The literal of a register is accepted as an argument exactly when the
register fits the shape of the parameter. -/
theorem emitArgs_ofRegister {m : Module} {scope : Scope} {callee : String} {index next : Nat}
    {shape : Shape} {params : List Ty} {r : Register} {args : List Expr} :
    emitArgs m scope callee index next (.ofShape shape :: params)
        (.ofRegister r shape.laneWidth :: args) =
      if r.fits shape = true then
        (emitArgs m scope callee (index + 1) next params args).map fun others =>
          ⟨.const (.ofRegister r shape.laneWidth) :: others.values, others.insts, others.next⟩
      else .error (misfit callee index shape r) := by
  have hiff : (Constant.ofRegister r shape.laneWidth).ty = .ofShape shape ↔
      r.fits shape = true := by
    rw [Constant.ty_ofRegister, Ty.ofRegister_eq_iff_fits]
  rw [emitArgs, Expr.emit_ofRegister]
  by_cases hfits : r.fits shape = true
  · rw [if_pos hfits]
    refine (if_neg (not_not.2 (hiff.2 hfits))).trans ?_
    cases emitArgs m scope callee (index + 1) next params args <;> rfl
  · rw [if_neg hfits, misfit, ← Constant.ty_ofRegister]
    exact if_pos (mt hiff.1 hfits)

/-! ### The two functions -/

/-- The function without parameters that returns a constant. -/
def Function.returning (name : String) (ret : Ty) (c : Constant) : Function where
  name := name
  ret := ret
  params := []
  blocks := [⟨entryLabel, [.ret (.const c)]⟩]

/-- The function without parameters that calls a symbol on constants and returns the result. -/
def Function.calling (name : String) (symbol : Prototype) (args : List Constant) : Function where
  name := name
  ret := symbol.ret
  params := []
  blocks := [⟨entryLabel,
    [.call (temporaryName 0) symbol.ret symbol.name (args.map .const),
      .ret (.ref (temporaryName 0) symbol.ret)]⟩]

theorem Function.verify_returning {m : Module} {name : String} {ret : Ty} {c : Constant}
    (hcheck : c.check = .ok ()) (hty : c.ty = ret) :
    (Function.returning name ret c).verify m = .ok () :=
  checkInsts_ret (m := m) (f := Function.returning name ret c) (v := .const c) hcheck hty

theorem Function.verify_calling {m : Module} {name : String} {symbol : Prototype}
    {args : List Constant} (hsymbol : m.signature? symbol.name = some symbol.signature)
    (hcheck : ∀ c ∈ args, c.check = .ok ()) (hty : args.map Constant.ty = symbol.params) :
    (Function.calling name symbol args).verify m = .ok () := by
  have htypes : (args.map Value.const).map Value.ty = symbol.params := by
    rw [List.map_map, ← hty]
    rfl
  have hoperands : ∀ v ∈ args.map Value.const, v.check name [] = .ok () := by
    intro v hv
    obtain ⟨c, hc, rfl⟩ := List.mem_map.1 hv
    exact hcheck c hc
  have hreturned : (Value.ref (temporaryName 0) symbol.ret).check name
      [(temporaryName 0, symbol.ret)] = .ok () := by
    simp [Value.check, List.lookup]
  have hcall : checkInsts m (Function.calling name symbol args) []
      [.call (temporaryName 0) symbol.ret symbol.name (args.map .const),
        .ret (.ref (temporaryName 0) symbol.ret)] = .ok () := by
    refine bind_eq_ok.2 ⟨(), checkCall_eq hsymbol hoperands htypes, ?_⟩
    exact checkInsts_ret (m := m) hreturned rfl
  exact hcall

/-- What is emitted for a request to return a register. -/
theorem Definition.emit_constant (m : Module) (scope : Scope) (name : String) (r : Register)
    (lane : LaneWidth) :
    (Definition.constant name r lane).emit m scope =
      .ok (.returning name (.ofRegister r lane) (.ofRegister r lane)) := by
  refine Definition.emit_eq_ok.2 ⟨_, Expr.emit_ofRegister m scope 0 r lane, rfl, ?_⟩
  exact Function.verify_returning (Constant.check_ofRegister r lane)
    (Constant.ty_ofRegister r lane)

/-- What becomes of a request to call the model of an instruction on two registers. The first of
them that does not fit is refused. -/
theorem Definition.emit_call_eq {m : Module} {i : Intrinsic} {op0 op1 : Register}
    (hmodel : m.signature? i.symbol = some i.model.signature) (scope : Scope) (name : String) :
    (Definition.call name i op0 op1).emit m scope =
      if op0.fits i.first = true then
        if op1.fits i.second = true then
          .ok (.calling name i.model
            [.ofRegister op0 i.first.laneWidth, .ofRegister op1 i.second.laneWidth])
        else .error (misfit i.symbol 1 i.second op1)
      else .error (misfit i.symbol 0 i.first op0) := by
  have hargs : emitArgs m scope i.symbol 0 0 i.model.params
      [.ofRegister op0 i.first.laneWidth, .ofRegister op1 i.second.laneWidth] =
      if op0.fits i.first = true then
        if op1.fits i.second = true then
          .ok ⟨[.const (.ofRegister op0 i.first.laneWidth),
            .const (.ofRegister op1 i.second.laneWidth)], [], 0⟩
        else .error (misfit i.symbol 1 i.second op1)
      else .error (misfit i.symbol 0 i.first op0) := by
    rw [Intrinsic.model, emitArgs_ofRegister, emitArgs_ofRegister]
    split_ifs <;> rfl
  have hbody : (Definition.call name i op0 op1).body.emit m scope 0 =
      emitArgs m scope i.symbol 0 0 i.model.params
        [.ofRegister op0 i.first.laneWidth, .ofRegister op1 i.second.laneWidth] >>=
      fun inner => .ok ⟨.ref (temporaryName inner.next) i.model.ret, inner.insts ++
        [.call (temporaryName inner.next) i.model.ret i.symbol inner.values], inner.next + 1⟩ := by
    rw [Definition.call, Expr.emit, hmodel]
    exact if_neg (not_not.2 rfl)
  rw [hargs] at hbody
  by_cases hfirst : op0.fits i.first = true
  · rw [if_pos hfirst] at hbody ⊢
    by_cases hsecond : op1.fits i.second = true
    · rw [if_pos hsecond] at hbody ⊢
      refine Definition.emit_eq_ok.2 ⟨_, hbody, rfl, ?_⟩
      refine Function.verify_calling hmodel ?_ ?_
      · exact List.forall_mem_cons.2 ⟨Constant.check_ofRegister _ _,
          List.forall_mem_singleton.2 (Constant.check_ofRegister _ _)⟩
      · rw [List.map_cons, List.map_singleton, Constant.ty_of_fits hfirst,
          Constant.ty_of_fits hsecond]
        rfl
    · rw [if_neg hsecond] at hbody ⊢
      exact bind_eq_error.2 (Or.inl hbody)
  · rw [if_neg hfirst] at hbody ⊢
    exact bind_eq_error.2 (Or.inl hbody)

/-- What is emitted for a request to call the model of an instruction on registers that fit. -/
theorem Definition.emit_call {m : Module} {i : Intrinsic} {op0 op1 : Register}
    (hmodel : m.signature? i.symbol = some i.model.signature)
    (hfirst : op0.fits i.first = true) (hsecond : op1.fits i.second = true) (scope : Scope)
    (name : String) :
    (Definition.call name i op0 op1).emit m scope =
      .ok (.calling name i.model
        [.ofRegister op0 i.first.laneWidth, .ofRegister op1 i.second.laneWidth]) := by
  rw [emit_call_eq hmodel, if_pos hfirst, if_pos hsecond]

/-! ### Modules that declare models -/

namespace Module

variable {m : Module} {i : Intrinsic}

/-- A name is free where no function has it and only models are declared, unless it is the symbol
of a model. -/
theorem contains_eq_false_of_models {name : String}
    (hmodels : ∀ d ∈ m.declarations, ∃ i : Intrinsic, d = i.model)
    (hsymbol : ∀ i : Intrinsic, i.symbol ≠ name) (hfunctions : ∀ f ∈ m.functions, f.name ≠ name) :
    m.contains name = false := by
  refine contains_eq_false.2 ⟨?_, function?_eq_none.2 hfunctions⟩
  by_contra hdeclared
  obtain ⟨d, hd⟩ := Option.ne_none_iff_exists'.1 hdeclared
  obtain ⟨hmem, hname⟩ := mem_of_declaration? hd
  obtain ⟨i, rfl⟩ := hmodels d hmem
  exact hsymbol i hname

/-- A model can be declared where its symbol is no function and only models are declared. -/
theorem exists_declare_model (hmodels : ∀ d ∈ m.declarations, ∃ i : Intrinsic, d = i.model)
    (hfunctions : ∀ f ∈ m.functions, f.name ≠ i.symbol) :
    ∃ m', m.declare i.model = .ok m' ∧ m'.declaration? i.symbol = some i.model ∧
      (∀ d ∈ m'.declarations, ∃ j : Intrinsic, d = j.model) ∧
      m' = { m with declarations := m'.declarations } := by
  have hagree : ∀ e, m.declaration? i.model.name = some e → e = i.model := by
    intro e he
    obtain ⟨hmem, hname⟩ := mem_of_declaration? he
    obtain ⟨j, rfl⟩ := hmodels e hmem
    rw [Intrinsic.symbol_injective hname]
  obtain ⟨m', hm'⟩ := exists_declare (function?_eq_none.2 hfunctions) hagree
  obtain ⟨-, hdeclared, -, hold, hrest⟩ := declare_eq_ok hm'
  refine ⟨m', hm', hdeclared, fun d hd => ?_, hrest⟩
  rcases hold d hd with rfl | hd
  · exact ⟨i, rfl⟩
  · exact hmodels d hd

end Module

/-! ### Calls on parameters -/

/-- The function that calls the model of an instruction on its own parameters and returns the
result. -/
def Function.forwarding (name : String) (i : Intrinsic) : Function where
  name := name
  ret := .ofShape i.result
  params := [⟨Prototype.paramName 0, .ofShape i.first⟩, ⟨Prototype.paramName 1, .ofShape i.second⟩]
  blocks := [⟨entryLabel,
    [.call (temporaryName 0) (.ofShape i.result) i.symbol
      [.ref (Prototype.paramName 0) (.ofShape i.first),
        .ref (Prototype.paramName 1) (.ofShape i.second)],
      .ret (.ref (temporaryName 0) (.ofShape i.result))]⟩]

theorem Function.verify_forwarding {m : Module} {i : Intrinsic}
    (hmodel : m.signature? i.symbol = some i.model.signature) (name : String) :
    (Function.forwarding name i).verify m = .ok () := by
  let first : Value := .ref (Prototype.paramName 0) (.ofShape i.first)
  let second : Value := .ref (Prototype.paramName 1) (.ofShape i.second)
  let scope : Scope := [(Prototype.paramName 1, .ofShape i.second),
    (Prototype.paramName 0, .ofShape i.first)]
  have hoperands : ∀ v ∈ [first, second], v.check name scope = .ok () := by
    refine List.forall_mem_cons.2 ⟨?_, List.forall_mem_singleton.2 ?_⟩
    · exact if_pos rfl
    · exact if_pos rfl
  have hcall : checkCall m name scope i.model.ret i.model.name [first, second] = .ok () :=
    checkCall_eq hmodel hoperands rfl
  have hreturned : (Value.ref (temporaryName 0) (.ofShape i.result)).check name
      ((temporaryName 0, .ofShape i.result) :: scope) = .ok () :=
    if_pos rfl
  have hinsts : checkInsts m (.forwarding name i) scope
      [.call (temporaryName 0) (.ofShape i.result) i.symbol [first, second],
        .ret (.ref (temporaryName 0) (.ofShape i.result))] = .ok () := by
    refine bind_eq_ok.2 ⟨(), hcall, ?_⟩
    exact checkInsts_ret (m := m) hreturned rfl
  exact hinsts

/-- What is emitted for a request to call the model of an instruction on parameters. -/
theorem Definition.emit_wrapper {m : Module} {i : Intrinsic}
    (hmodel : m.signature? i.symbol = some i.model.signature) (name : String) :
    (Definition.wrapper name i).emit m
      (Scope.ofParams (Definition.wrapper name i).prototype.namedParams) =
      .ok (.forwarding name i) := by
  let scope := Scope.ofParams (Definition.wrapper name i).prototype.namedParams
  have hlast : emitArgs m scope i.symbol 1 0 [.ofShape i.second]
      [.var (Prototype.paramName 1)] =
      .ok ⟨[.ref (Prototype.paramName 1) (.ofShape i.second)], [], 0⟩ := by
    refine bind_eq_ok.2 ⟨⟨.ref (Prototype.paramName 1) (.ofShape i.second), [], 0⟩, rfl, ?_⟩
    exact if_neg (not_not.2 rfl)
  have hargs : emitArgs m scope i.symbol 0 0 i.model.params
      [.var (Prototype.paramName 0), .var (Prototype.paramName 1)] =
      .ok ⟨[.ref (Prototype.paramName 0) (.ofShape i.first),
        .ref (Prototype.paramName 1) (.ofShape i.second)], [], 0⟩ := by
    refine bind_eq_ok.2 ⟨⟨.ref (Prototype.paramName 0) (.ofShape i.first), [], 0⟩, rfl, ?_⟩
    exact (if_neg (not_not.2 rfl)).trans (bind_eq_ok.2 ⟨_, hlast, rfl⟩)
  have hbody : (Definition.wrapper name i).body.emit m scope 0 =
      .ok ⟨.ref (temporaryName 0) (.ofShape i.result),
        [.call (temporaryName 0) (.ofShape i.result) i.symbol
          [.ref (Prototype.paramName 0) (.ofShape i.first),
            .ref (Prototype.paramName 1) (.ofShape i.second)]], 1⟩ := by
    rw [Definition.wrapper, Expr.emit, hmodel]
    refine (if_neg (not_not.2 rfl)).trans ?_
    exact bind_eq_ok.2 ⟨_, hargs, rfl⟩
  exact Definition.emit_eq_ok.2 ⟨_, hbody, rfl, Function.verify_forwarding hmodel name⟩

end VectorTrial.Program
