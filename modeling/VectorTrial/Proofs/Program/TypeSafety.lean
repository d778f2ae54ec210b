import VectorTrial.Proofs.Program.Evaluation
import VectorTrial.Proofs.Program.WellFormed

/-!
# Type safety

A function that passes verification runs without an error. Whatever the called symbols compute,
as long as it has the types of their signatures: on arguments that have the types of the
parameters, every operand is found, every call is made on values of the types that its symbol
asks for, and the value returned has the type of the function.

## Main definitions

* `VectorTrial.Program.Datum` — the values that programs compute with, and their types.
* `VectorTrial.Program.RespectsSignatures` — what called symbols may stand for.
* `VectorTrial.Program.Env.HasTypes` — the invariant of a run: defined names have values of
  their types.

## Main results

* `VectorTrial.Program.runInsts_of_endsAfter` — a well-formed block runs to its end.
* `VectorTrial.Program.Function.verify_sound_and_exact` — verification passes exactly the
  well-formed functions, and these run without a type error.
-/

namespace VectorTrial.Program

/-! ### Values -/

/-- **Values.** An integer of a number of bits, or any number of integers of as many bits each. -/
inductive Datum where
  | int (bits : UInt32) (value : BitVec bits.toNat)
  | vector (elemBits : UInt32) (elements : List (BitVec elemBits.toNat))

/-- The types of a value. -/
inductive Datum.HasType : Datum → Ty → Prop
  | int (bits : UInt32) (value : BitVec bits.toNat) : HasType (.int bits value) (.int bits)
  | vector {lanes : UInt32} (bits : UInt32) {elements : List (BitVec bits.toNat)}
      (h : elements.length = lanes.toNat) : HasType (.vector bits elements) (.vector lanes bits)

/-- The value of a constant. -/
def Constant.datum : Constant → Datum
  | int bits value => .int bits (.ofInt _ value.toInt)
  | vector bits elements => .vector bits (elements.map fun value => .ofInt _ value.toInt)

/-- The interpretation in which constants have their values and symbols compute what is given. -/
def Interpretation.ofSymbols (call : String → List Datum → Datum) : Interpretation Datum :=
  ⟨Constant.datum, call⟩

/-- **Signatures.** What the symbols that a module knows compute, from arguments of the types of
their parameters, has the type of their result. -/
def RespectsSignatures (m : Module) (call : String → List Datum → Datum) : Prop :=
  ∀ callee signature args, m.signature? callee = some signature →
    List.Forall₂ Datum.HasType args signature.params → (call callee args).HasType signature.ret

/-- A performed call is well typed if the module knows its symbol and its arguments have the types
of the parameters. -/
def IsWellTyped (m : Module) (performed : String × List Datum) : Prop :=
  ∃ signature, m.signature? performed.1 = some signature ∧
    List.Forall₂ Datum.HasType performed.2 signature.params

/-- Every defined name has a value of the type of its definition. -/
def Env.HasTypes (env : Env Datum) (defined : Scope) : Prop :=
  ∀ name ty, (name, ty) ∈ defined → ∃ a, env.lookup name = some a ∧ a.HasType ty

variable {m : Module} {f : Function} {call : String → List Datum → Datum} {env : Env Datum}
  {defined : Scope}

/-- To bind a fresh name to a value of its type keeps the values of the other names. -/
theorem Env.HasTypes.bind (h : Env.HasTypes env defined) {p : String × Ty} {a : Datum}
    (hfresh : p.1 ∉ defined.map Prod.fst) (ha : a.HasType p.2) :
    Env.HasTypes ((p.1, a) :: env) (defined ++ [p]) := by
  intro name ty hmem
  rcases List.mem_append.1 hmem with hmem | hmem
  · have hne : name ≠ p.1 := fun heq => hfresh (List.mem_map.2 ⟨_, hmem, heq⟩)
    rw [List.lookup_cons, beq_false_of_ne hne]
    exact h name ty hmem
  · obtain rfl := List.mem_singleton.1 hmem
    exact ⟨a, List.lookup_cons_self, ha⟩

/-- Parameters that are bound to arguments of their types have values of their types. -/
theorem hasTypes_params {params : List Param} {args : List Datum}
    (hnodup : ((Scope.ofParams params).map Prod.fst).Nodup)
    (hargs : List.Forall₂ Datum.HasType args (params.map Param.ty)) :
    Env.HasTypes ((params.map Param.name).zip args) (Scope.ofParams params) := by
  induction params generalizing args with
  | nil => exact fun _ _ h => absurd h List.not_mem_nil
  | cons p params ih =>
    obtain ⟨hfresh, hnodup⟩ := List.nodup_cons.1 hnodup
    rw [List.map_cons, List.forall₂_cons_right_iff] at hargs
    obtain ⟨a, rest, ha, hrest, rfl⟩ := hargs
    intro name ty hmem
    rw [List.map_cons, List.zip_cons_cons, List.lookup_cons]
    rcases List.mem_cons.1 hmem with hp | hmem
    · obtain ⟨rfl, rfl⟩ := Prod.mk.inj hp
      exact ⟨a, by simp, ha⟩
    · have hne : name ≠ p.name := fun heq => hfresh (List.mem_map.2 ⟨_, hmem, heq⟩)
      rw [beq_false_of_ne hne]
      exact ih hnodup hrest name ty hmem

/-! ### Operands -/

variable (call) in
/-- A well-formed operand has a value of its type. -/
theorem Value.eval_of_wellFormed {v : Value} {ty : Ty} (hv : v.WellFormed defined)
    (hty : v.HasType ty) (henv : Env.HasTypes env defined) :
    ∃ a, v.eval (.ofSymbols call) env = some a ∧ a.HasType ty := by
  cases hty with
  | int bits value => exact ⟨_, rfl, .int bits _⟩
  | vector bits h => exact ⟨_, rfl, .vector bits (by rw [List.length_map, h])⟩
  | ref name => exact henv name ty hv

variable (call) in
theorem mapM_eval_of_wellFormed {vs : List Value} {types : List Ty}
    (hvs : ∀ v ∈ vs, v.WellFormed defined) (htypes : List.Forall₂ Value.HasType vs types)
    (henv : Env.HasTypes env defined) :
    ∃ values, vs.mapM (Value.eval (.ofSymbols call) env) = some values ∧
      List.Forall₂ Datum.HasType values types := by
  induction htypes with
  | nil => exact ⟨[], rfl, .nil⟩
  | cons hty _ ih =>
    obtain ⟨hv, hvs⟩ := List.forall_mem_cons.1 hvs
    obtain ⟨a, heval, ha⟩ := Value.eval_of_wellFormed call hv hty henv
    obtain ⟨values, hmapM, hvalues⟩ := ih hvs
    exact ⟨a :: values, by simp [List.mapM_cons, heval, hmapM], .cons ha hvalues⟩

/-! ### Runs -/

/-- **Type safety of a block.** A well-formed block runs to its end where the names that are
defined before it have values of their types. -/
theorem runInsts_of_endsAfter (hcall : RespectsSignatures m call) {ret : Ty} {insts : List Inst}
    (h : ∃ calls result, EndsAfter m ret defined insts calls result)
    (henv : Env.HasTypes env defined) :
    ∃ value performed, runInsts (.ofSymbols call) env insts = some (value, performed) ∧
      value.HasType ret ∧ ∀ p ∈ performed, IsWellTyped m p := by
  have hnodup : (defined.map Prod.fst).Nodup := by
    obtain ⟨calls, result, h⟩ := h
    exact h.nodup
  induction insts generalizing defined env with
  | nil =>
    obtain ⟨calls, result, h⟩ := h
    exact absurd h not_endsAfter_nil
  | cons i rest ih =>
    cases i with
    | ret value =>
      obtain ⟨-, hvalue, hty⟩ := (endsAfter_ret_iff hnodup).1 h
      obtain ⟨a, heval, ha⟩ := Value.eval_of_wellFormed call hvalue hty henv
      refine ⟨a, [], ?_, ha, fun p hp => absurd hp List.not_mem_nil⟩
      rw [runInsts, heval, Option.map_some]
    | call dest ty callee args =>
      let c : Call := ⟨dest, ty, callee, args⟩
      obtain ⟨hc, hrest⟩ := (endsAfter_call_iff (c := c)).1 h
      obtain ⟨params, hsignature, htypes⟩ := hc.callee
      obtain ⟨values, hvalues, hargs⟩ :=
        mapM_eval_of_wellFormed call hc.operands htypes henv
      have hresult : (call callee values).HasType ty := hcall callee _ values hsignature hargs
      have hnext : ((defined ++ [c.definition]).map Prod.fst).Nodup := by
        obtain ⟨calls, result, hrest⟩ := hrest
        exact hrest.nodup
      have henv' : Env.HasTypes ((dest, call callee values) :: env) (defined ++ [c.definition]) :=
        henv.bind (p := c.definition) (nodup_append_singleton.1 hnext).2 hresult
      obtain ⟨value, performed, hrun, hvalue, hperformed⟩ := ih hrest henv' hnext
      refine ⟨value, (callee, values) :: performed, ?_, hvalue, ?_⟩
      · have hcalled : (Interpretation.ofSymbols call).call = call := rfl
        rw [runInsts, hvalues]
        simp [hcalled, hrun]
      · exact List.forall_mem_cons.2 ⟨⟨_, hsignature, hargs⟩, hperformed⟩

/-- A well-formed function returns a value of its type, and all its calls are well typed. -/
theorem Function.run_of_isWellFormed (h : f.IsWellFormed m) (hcall : RespectsSignatures m call)
    {args : List Datum} (hargs : List.Forall₂ Datum.HasType args f.signature.params) :
    ∃ value performed, f.run (.ofSymbols call) args = some (value, performed) ∧
      value.HasType f.ret ∧ ∀ p ∈ performed, IsWellTyped m p := by
  obtain ⟨insts, calls, result, hblocks, h⟩ := h
  have henv := hasTypes_params h.nodup hargs
  rw [Function.run, hblocks]
  exact runInsts_of_endsAfter hcall ⟨calls, result, h⟩ henv

/-- **Verification is sound and exact.** A function passes verification if and only if it is well
formed. If it passes, then for all symbols that respect their signatures and all arguments of the
types of its parameters it finds every operand, performs well-typed calls only, and returns a value
of its type. -/
theorem Function.verify_sound_and_exact (m : Module) (f : Function)
    (hshort : ∀ v ∈ f.operands, v.IsShort) :
    (f.verify m = .ok () ↔ f.IsWellFormed m) ∧
      (f.verify m = .ok () → ∀ call, RespectsSignatures m call →
        ∀ args, List.Forall₂ Datum.HasType args f.signature.params →
          ∃ value performed, f.run (.ofSymbols call) args = some (value, performed) ∧
            value.HasType f.ret ∧ ∀ p ∈ performed, IsWellTyped m p) := by
  have hiff := Function.verify_eq_ok_iff (m := m) hshort
  exact ⟨hiff, fun h call hcall args hargs => run_of_isWellFormed (hiff.1 h) hcall hargs⟩

/-! ### A function with a vector constant -/

namespace VectorSums

/-- Two lanes of 16 bits. -/
def lanes : Ty := .vector 2 16

/-- A module that knows a symbol with two vector parameters. -/
def module : Module := ⟨"sums", none, [⟨"sum", lanes, [lanes, lanes]⟩], []⟩

/-- A function that adds a constant to its parameter, and then its parameter once more. -/
def function : Function where
  name := "f"
  ret := lanes
  params := [⟨"i0", lanes⟩]
  blocks := [⟨"entry",
    [.call "calltmp" lanes "sum" [.ref "i0" lanes, .const (.vector 16 [1, -2])],
      .call "calltmp1" lanes "sum" [.ref "calltmp" lanes, .ref "i0" lanes],
      .ret (.ref "calltmp1" lanes)]⟩]

/-- The symbol returns its first argument. -/
def first (_ : String) (args : List Datum) : Datum := args.headD (.int 0 0)

/-- The argument of the function. -/
def argument : Datum := .vector 16 [5, 7]

theorem respectsSignatures_first : RespectsSignatures module first := by
  intro callee signature args hsignature hargs
  have hdeclared : signature = ⟨lanes, [lanes, lanes]⟩ := by
    simp only [module, Module.signature?, Module.function?, Module.declaration?, List.find?_nil,
      List.find?_singleton, Option.map_eq_some_iff] at hsignature
    obtain ⟨d, hd, rfl⟩ := hsignature
    split at hd
    · cases hd
      rfl
    · cases hd
  subst hdeclared
  cases hargs with
  | cons ha _ => exact ha

end VectorSums

theorem Function.verify_sound_and_exact_vectorSums :
    (∀ v ∈ VectorSums.function.operands, v.IsShort) ∧
      VectorSums.function.verify VectorSums.module = .ok () ∧
      VectorSums.function.IsWellFormed VectorSums.module ∧
      ∃ value performed, VectorSums.function.run (.ofSymbols VectorSums.first)
          [VectorSums.argument] = some (value, performed) ∧
        value.HasType VectorSums.lanes ∧ ∀ p ∈ performed, IsWellTyped VectorSums.module p := by
  have hshort : ∀ v ∈ VectorSums.function.operands, v.IsShort := by
    simp [VectorSums.function, Function.operands, Function.insts, Inst.operands, Value.IsShort,
      Constant.IsShort, UInt32.size]
  have hverify : VectorSums.function.verify VectorSums.module = .ok () := rfl
  have hargument : VectorSums.argument.HasType VectorSums.lanes := .vector 16 rfl
  obtain ⟨hexact, hsound⟩ :=
    Function.verify_sound_and_exact VectorSums.module VectorSums.function hshort
  exact ⟨hshort, hverify, hexact.1 hverify,
    hsound hverify VectorSums.first VectorSums.respectsSignatures_first [VectorSums.argument]
      (.cons hargument .nil)⟩

end VectorTrial.Program
