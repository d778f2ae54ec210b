import VectorTrial.Program.Synthetic
import VectorTrial.Proofs.Program.Linking
import VectorTrial.Proofs.Program.TypeSafety
import VectorTrial.Proofs.Wrapper.Body
import VectorTrial.Proofs.Wrapper.Lowering

/-!
# Lowering is faithful

A function was verified when it was built, so each of its calls agrees with the signature that its
symbol had then. Where models keep their own signatures, the calls of models are binary and have
the types of their instructions. Hence the bindings of a wrapper follow the calls of its function
one by one: each names operands of the right layouts that are known before it. By induction on
them a wrapper is well typed line by line, and it writes what the function returns.

## Main definitions

* `VectorTrial.Wrapper.KnowsCallees` — a module in which the models that a function calls have
  their own signatures.
* `VectorTrial.Wrapper.Follows` — bindings that follow the calls of a function.
* `VectorTrial.NativeSemantics.Implements` — native functions that compute what models stand for.
* `VectorTrial.Wrapper.Faithful` — what a wrapper has in common with its function.

## Main results

* `VectorTrial.Wrapper.Follows.typed`, `VectorTrial.Wrapper.Follows.exec` — bindings that follow
  calls are well typed, and compute what the calls compute.
* `VectorTrial.Wrapper.faithful_of_verify` — the wrapper of a verified function is faithful.
* `VectorTrial.Wrapper.ofModule_faithful` — which modules are lowered, and that their wrappers are
  faithful.
-/

namespace VectorTrial

open Program

namespace Wrapper

/-! ### Operands of a verified call -/

theorem mem_scopeOf {names : List (String × Shape)} {name : String} {s : Shape} :
    (name, Ty.ofShape s) ∈ scopeOf names ↔ (name, s) ∈ names := by
  rw [scopeOf, List.mem_map]
  constructor
  · rintro ⟨p, hp, heq⟩
    obtain ⟨hname, hty⟩ := Prod.mk.inj heq
    rw [← hname, ← Ty.ofShape_injective hty]
    exact hp
  · intro h
    exact ⟨(name, s), h, rfl⟩

theorem map_fst_scopeOf (names : List (String × Shape)) :
    (scopeOf names).map Prod.fst = names.map Prod.fst := by
  rw [scopeOf, List.map_map]
  rfl

theorem mem_typesOf {names : List (String × Shape)} {name : String} {s : Shape}
    (h : (name, s) ∈ names) : (name, s.nativeType) ∈ typesOf names :=
  List.mem_map.2 ⟨(name, s), h, rfl⟩

variable {m : Module} {f : Function} {w : Wrapper} {calls : List Call} {result : Value}
  {names : List (String × Shape)}

/-- **Known callees.** The models that a function calls have their own signatures. -/
def KnowsCallees (m : Module) (f : Function) : Prop :=
  ∀ i : Intrinsic, i.symbol ∈ f.callees → m.signature? i.symbol = some i.model.signature

/-- The operands of a verified call of a model have the layouts of its instruction, and so has its
result. -/
theorem Binding.Realises.layouts {b : Binding} {c : Call} (h : Binding.Realises b c)
    (hsignature : m.signature? c.callee = some b.instruction.model.signature)
    (hc : c.WellFormed m (scopeOf names)) :
    (b.first, b.instruction.first) ∈ names ∧ (b.second, b.instruction.second) ∈ names ∧
      b.shape = b.instruction.result := by
  obtain ⟨params, hparams, htypes⟩ := hc.callee
  obtain ⟨ty, ty', hargs⟩ := h.args
  obtain ⟨hret, rfl⟩ : Ty.ofShape b.instruction.result = c.ty ∧
      [Ty.ofShape b.instruction.first, Ty.ofShape b.instruction.second] = params :=
    Signature.mk.inj (Option.some.inj (hsignature.symm.trans hparams))
  have hoperands := hc.operands
  rw [hargs] at htypes hoperands
  obtain ⟨hfirst, hsecond⟩ := List.forall_mem_cons.1 hoperands
  cases htypes with
  | cons hty hrest =>
    cases hty
    cases hrest with
    | cons hty' _ =>
      cases hty'
      refine ⟨mem_scopeOf.1 hfirst, mem_scopeOf.1 (hsecond _ List.mem_cons_self), ?_⟩
      exact Ty.ofShape_injective (h.type.symm.trans hret.symm)

/-! ### Types -/

/-- The names of some bindings with their layouts. -/
def bound (bindings : List Binding) : List (String × Shape) :=
  bindings.map fun b => (b.name, b.shape)

theorem append_bound_cons (names : List (String × Shape)) (b : Binding) (bindings : List Binding) :
    names ++ bound (b :: bindings) = names ++ [(b.name, b.shape)] ++ bound bindings := by
  simp [bound]

/-- A call defines the name of its binding, with the type of its layout. -/
theorem Binding.Realises.scopeOf_append {b : Binding} {c : Call} (h : Binding.Realises b c) :
    scopeOf names ++ [c.definition] = scopeOf (names ++ [(b.name, b.shape)]) := by
  rw [Call.definition, ← h.name, h.type]
  simp [scopeOf]

theorem map_definition_eq {bindings : List Binding}
    (h : List.Forall₂ (fun c b => Binding.Realises b c) calls bindings) :
    calls.map Call.definition = scopeOf (bound bindings) := by
  rw [scopeOf, bound, List.map_map]
  refine (map_eq_map_of_forall₂ (fun c b hb => ?_) h).symm
  rw [Call.definition, ← hb.name, hb.type]
  rfl

/-- The second operand of a binding fits if its name is known with the layout of the operand. -/
theorem fits_secondOperand {b : Binding} (h : (b.second, b.instruction.second) ∈ names) :
    b.secondOperand.Fits (typesOf names) b.instruction := by
  have hmem := mem_typesOf h
  unfold Binding.secondOperand
  by_cases hscalar : b.instruction.hasScalarOperand = true
  · rw [if_pos hscalar]
    have hshape : b.instruction.second = .scalar32 := by
      unfold Intrinsic.hasScalarOperand at hscalar
      cases hsecond : b.instruction.second with
      | vector width lane => rw [hsecond] at hscalar; cases hscalar
      | scalar32 => rfl
    rw [hshape] at hmem
    exact ⟨hscalar, hmem⟩
  · rw [if_neg hscalar]
    exact ⟨eq_false_of_ne_true hscalar, _, Shape.heldBy_nativeType _, hmem⟩

/-- **Bindings in order.** Bindings that follow some calls: each belongs to its call, both operands
are names that are known with the layouts of its instruction, it has the layout of the result, and
its own name is known to the bindings after it. -/
inductive Follows : List (String × Shape) → List Call → List Binding → Prop
  | nil {names : List (String × Shape)} : Follows names [] []
  | cons {names : List (String × Shape)} {c : Call} {b : Binding} {calls : List Call}
      {bindings : List Binding} (hb : Binding.Realises b c)
      (hfirst : (b.first, b.instruction.first) ∈ names)
      (hsecond : (b.second, b.instruction.second) ∈ names)
      (hshape : b.shape = b.instruction.result)
      (hrest : Follows (names ++ [(b.name, b.shape)]) calls bindings) :
      Follows names (c :: calls) (b :: bindings)

/-- The bindings of verified calls of models follow them. -/
theorem follows_of_ordered {bindings : List Binding}
    (hbindings : List.Forall₂ (fun c b => Binding.Realises b c) calls bindings)
    (hsignatures : ∀ c ∈ calls, ∀ i : Intrinsic, i.symbol = c.callee →
      m.signature? c.callee = some i.model.signature)
    (hordered : CallsAfter m (scopeOf names) calls) : Follows names calls bindings := by
  induction hbindings generalizing names with
  | nil => exact .nil
  | @cons c b calls bindings hb _ ih =>
    obtain ⟨hsignature, hsignatures⟩ := List.forall_mem_cons.1 hsignatures
    obtain ⟨hc, hordered⟩ := callsAfter_cons.1 hordered
    obtain ⟨hfirst, hsecond, hshape⟩ := hb.layouts (hsignature _ hb.callee) hc
    rw [hb.scopeOf_append] at hordered
    exact .cons hb hfirst hsecond hshape (ih hsignatures hordered)

/-- **Typed bindings.** Bindings that follow calls are well typed one after the other. -/
theorem Follows.typed {bindings : List Binding} (h : Follows names calls bindings)
    (hnodup : ((names ++ bound bindings).map Prod.fst).Nodup) {inputs : List String}
    {output : String} {rest : List Statement}
    (hrest : Statement.Typed inputs output (typesOf (names ++ bound bindings)) rest) :
    Statement.Typed inputs output (typesOf names) (bindings.map Binding.statement ++ rest) := by
  induction h with
  | nil => simpa [bound] using hrest
  | @cons names c b calls bindings hb hfirst hsecond hshape _ ih =>
    rw [append_bound_cons] at hnodup hrest
    have hfresh : b.name ∉ (typesOf names).map Prod.fst := by
      rw [map_fst_typesOf]
      exact (nodup_append_singleton.1
        (hnodup.sublist ((List.sublist_append_left _ _).map Prod.fst))).2
    have hknown : typesOf names ++ [(b.name, b.instruction.result.nativeType)] =
        typesOf (names ++ [(b.name, b.shape)]) := by
      rw [hshape]
      simp [typesOf]
    have hnext := ih hnodup hrest
    rw [List.map_cons, List.cons_append, Binding.statement, hshape]
    refine .call hfresh (mem_typesOf hfirst) (Shape.heldBy_nativeType _)
      (fits_secondOperand hsecond) (Shape.heldBy_nativeType _) ?_
    rw [hknown]
    exact hnext

end Wrapper

/-! ### Values -/

/-- Native functions that compute what models stand for: the native function of an instruction, on
two operands, what the model of the instruction returns for them. -/
def NativeSemantics.Implements {α : Type} (N : NativeSemantics α) (I : Interpretation α) : Prop :=
  ∀ (i : Intrinsic) (a b : α), I.call i.symbol [a, b] = N.apply i a b

namespace Wrapper

variable {m : Module} {f : Function} {w : Wrapper} {calls : List Call}
  {names : List (String × Shape)} {α : Type} {N : NativeSemantics α} {I : Interpretation α}

/-- The second operand of a binding has the value that its native function takes. -/
theorem operand_secondOperand {b : Binding} {env : Env α} {value : α}
    (h : env.lookup b.second = some value) : N.operand env b.secondOperand =
      some (if b.instruction.hasScalarOperand then N.move value else value) := by
  unfold Binding.secondOperand
  split_ifs
  · rw [NativeSemantics.operand, h, Option.map_some]
  · rw [NativeSemantics.operand, h]

/-- A call computes with the values that its binding names. -/
theorem Binding.Realises.runInsts_cons {b : Binding} {c : Call} (h : Binding.Realises b c)
    {env : Env α} {x y : α} (hx : env.lookup b.first = some x) (hy : env.lookup b.second = some y)
    (rest : List Inst) : runInsts I env (c.inst :: rest) =
      (runInsts I ((b.name, I.call b.instruction.symbol [x, y]) :: env) rest).map fun p =>
        (p.1, (c.callee, [x, y]) :: p.2) := by
  obtain ⟨ty, ty', hargs⟩ := h.args
  have hvalues : c.args.mapM (Value.eval I env) = some [x, y] := by
    rw [hargs]
    simp [List.mapM_cons, Value.eval, hx, hy]
  rw [Call.inst, runInsts, hvalues, h.name, h.callee]
  simp only [Option.bind_eq_bind, Option.bind_some]
  cases runInsts I ((c.dest, I.call c.callee [x, y]) :: env) rest <;> rfl

/-- **Known values.** All of some names have values. -/
def Holds (env : Env α) (names : List (String × Shape)) : Prop :=
  ∀ p ∈ names, ∃ a, env.lookup p.1 = some a

/-- A name that is bound has a value beside the earlier ones. -/
theorem Holds.cons {env : Env α} (h : Holds env names) (name : String) (s : Shape) (a : α) :
    Holds ((name, a) :: env) (names ++ [(name, s)]) := by
  intro p hp
  rw [List.lookup_cons]
  split
  · exact ⟨a, rfl⟩
  · next hother =>
    rcases List.mem_append.1 hp with hp | hp
    · exact h p hp
    · rw [List.mem_singleton.1 hp] at hother
      simp at hother

/-- What two environments agree on they agree on when one name is bound in both. -/
theorem lookup_cons_congr {env env' : Env α}
    (h : ∀ name, env'.lookup name = env.lookup name) (bound : String × α) (name : String) :
    (bound :: env').lookup name = (bound :: env).lookup name := by
  rw [List.lookup_cons, List.lookup_cons, h]

/-- **Executed bindings.** Where the same names have the same values, calls and the bindings that
follow them come to the same value. -/
theorem Follows.exec {bindings : List Binding} (h : Follows names calls bindings)
    (hI : N.Implements I) {env env' : Env α} (hagree : ∀ name, env'.lookup name = env.lookup name)
    (hholds : Holds env names) {returned : String} {s : Shape}
    (hreturned : (returned, s) ∈ names ++ bound bindings) (ty : Ty) (type : String)
    (inputs : List α) :
    ∃ value performed,
      runInsts I env (calls.map Call.inst ++ [.ret (.ref returned ty)]) =
        some (value, performed) ∧
      N.exec inputs env' (bindings.map Binding.statement ++ [.write type returned]) =
        some value := by
  induction h generalizing env env' with
  | nil =>
    obtain ⟨a, ha⟩ := hholds (returned, s) (by simpa [bound] using hreturned)
    have hvalue : Value.eval I env (.ref returned ty) = some a := ha
    refine ⟨a, [], ?_, (hagree returned).trans ha⟩
    rw [List.map_nil, List.nil_append, runInsts, hvalue, Option.map_some]
  | @cons names c b calls bindings hb hfirst hsecond _ _ ih =>
    obtain ⟨x, hx⟩ := hholds _ hfirst
    obtain ⟨y, hy⟩ := hholds _ hsecond
    rw [append_bound_cons] at hreturned
    obtain ⟨value, performed, hrun, hexec⟩ :=
      ih (lookup_cons_congr hagree (b.name, I.call b.instruction.symbol [x, y]))
        (hholds.cons b.name b.shape _) hreturned
    refine ⟨value, (c.callee, [x, y]) :: performed, ?_, ?_⟩
    · rw [List.map_cons, List.cons_append, hb.runInsts_cons hx hy, hrun]
      rfl
    · rw [hI] at hexec
      rw [List.map_cons, List.cons_append, Binding.statement, NativeSemantics.exec, hagree, hx,
        operand_secondOperand ((hagree b.second).trans hy)]
      exact hexec

/-! ### Functions -/

/-- Names that differ are found in a list and in its reverse alike. -/
theorem lookup_reverse {env : Env α} (h : (env.map Prod.fst).Nodup) (name : String) :
    env.reverse.lookup name = env.lookup name := by
  have hreverse : (env.reverse.map Prod.fst).Nodup := by
    rwa [List.map_reverse, List.nodup_reverse]
  ext a
  rw [lookup_eq_some_iff_mem hreverse, lookup_eq_some_iff_mem h, List.mem_reverse]

/-- **Faithful wrappers.** A wrapper has the name of its function and the layouts of its signature.
Its features are those of the instructions whose models the function calls, each once and in
ascending order. Its text is a head with the text of its body. The body is well typed, where the
types of the parameters and of the output hold their layouts: it binds each name once and before its
uses, and every operand has a type that holds what its native function takes. Where native functions
compute what models stand for, the body writes what the function returns. -/
structure Faithful (f : Function) (w : Wrapper) : Prop where
  name : w.name = f.name
  params : f.params.map Param.ty = w.paramShapes.map Ty.ofShape
  ret : f.ret = .ofShape w.ret
  ascending : w.features.Pairwise (· < ·)
  features : ∀ feature, feature ∈ w.features ↔
    ∃ i : Intrinsic, i.symbol ∈ f.callees ∧ feature ∈ i.featureNames
  text : w.source = w.head ++ String.join (w.body.map Statement.text) ++ "\x7d\n"
  typed : ∃ inputs output, List.Forall₂ Shape.HeldBy w.paramShapes inputs ∧ w.ret.HeldBy output ∧
    Statement.Typed inputs output [] w.body
  computes {α : Type} (N : NativeSemantics α) (I : Interpretation α) (hI : N.Implements I)
    (args : List α) (hargs : args.length = f.params.length) :
    ∃ value performed, f.run I args = some (value, performed) ∧ N.exec args [] w.body = some value

/-- The features of a wrapper are those of the instructions whose models are called. -/
theorem mem_features (hinsts : f.insts = calls.map Call.inst ++ [.ret result])
    (hbindings : List.Forall₂ (fun c b => Binding.Realises b c) calls w.bindings)
    {feature : String} : feature ∈ w.features ↔
      ∃ i : Intrinsic, i.symbol ∈ f.callees ∧ feature ∈ i.featureNames := by
  rw [features, mem_ascending, List.mem_flatMap]
  constructor
  · rintro ⟨b, hb, hfeature⟩
    obtain ⟨c, hc, hrealises⟩ := exists_left_of_forall₂ hbindings b hb
    refine ⟨b.instruction, (Function.mem_callees_of_insts hinsts).2 ⟨c, hc, ?_⟩, hfeature⟩
    exact hrealises.callee.symm
  · rintro ⟨i, hi, hfeature⟩
    obtain ⟨c, hc, hcallee⟩ := (Function.mem_callees_of_insts hinsts).1 hi
    obtain ⟨b, hb, hrealises⟩ := exists_right_of_forall₂ hbindings c hc
    have hinstruction : b.instruction = i :=
      Intrinsic.symbol_injective (hrealises.callee.trans hcallee)
    exact ⟨b, hb, hinstruction ▸ hfeature⟩

/-- A verified function whose models have their own signatures is lowered if and only if it is
native. -/
theorem exists_ofFunction_of_verify (hverify : f.verify m = .ok ()) (hknows : KnowsCallees m f) :
    (∃ w, ofFunction f = .ok w) ↔ f.IsNative := by
  obtain ⟨calls, result, hinsts, hsignatures⟩ := Function.exists_calls_of_verify hverify
  refine exists_ofFunction hinsts fun c hc i hi => ?_
  have hmodel := hknows i ((Function.mem_callees_of_insts hinsts).2 ⟨c, hc, hi⟩)
  rw [← hi, hsignatures c hc] at hmodel
  have hlength : c.signature.params.length = c.args.length := List.length_map _
  rw [← hlength, Option.some.inj hmodel]
  rfl

/-- **Lowered functions.** What is known of a verified function and its wrapper: the function is
one block of calls, and the wrapper follows it line by line. The names of the wrapper differ, and
the value that it writes is one of them. -/
structure Lowered (f : Function) (w : Wrapper) (calls : List Call) (ty : Ty) : Prop where
  blocks : f.blocks = [⟨"entry", calls.map Call.inst ++ [.ret (.ref w.returned ty)]⟩]
  params : Scope.ofParams f.params = scopeOf w.params
  follows : Follows w.params calls w.bindings
  nodup : ((w.params ++ bound w.bindings).map Prod.fst).Nodup
  returned : (w.returned, w.ret) ∈ w.params ++ bound w.bindings

theorem exists_lowered (hverify : f.verify m = .ok ()) (hknows : KnowsCallees m f)
    (h : ofFunction f = .ok w) : ∃ calls ty, Lowered f w calls ty := by
  have hnative : f.IsNative := (exists_ofFunction_of_verify hverify hknows).1 ⟨w, h⟩
  -- A native function has no constants, so verification means that it is well formed.
  have hshort : ∀ v ∈ f.operands, v.IsShort := by
    intro v hv c hc
    obtain ⟨name, ty, hlocal⟩ := hnative.operands v hv
    rw [hlocal] at hc
    cases hc
  obtain ⟨insts, calls, result, hblocks, hends⟩ := (Function.verify_eq_ok_iff hshort).1 hverify
  have hinsts : f.insts = calls.map Call.inst ++ [.ret result] := by
    rw [Function.insts, hblocks, List.flatMap_singleton]
    exact hends.block
  obtain ⟨-, hparams, hret, hbindings, ty, hresult⟩ := (ofFunction_eq_ok hinsts).1 h
  have hdefined : Scope.ofParams f.params ++ calls.map Call.definition =
      scopeOf (w.params ++ bound w.bindings) := by
    rw [hparams, map_definition_eq hbindings, scopeOf, scopeOf, scopeOf, List.map_append]
  have hsignatures : ∀ c ∈ calls, ∀ i : Intrinsic, i.symbol = c.callee →
      m.signature? c.callee = some i.model.signature := by
    intro c hc i hi
    rw [← hi]
    exact hknows i ((Function.mem_callees_of_insts hinsts).2 ⟨c, hc, hi.symm⟩)
  have hfollows := follows_of_ordered hbindings hsignatures (hparams ▸ hends.ordered)
  refine ⟨calls, ty, ?_, hparams, hfollows, ?_, ?_⟩
  · rw [hblocks, hends.block, hresult]
  · rw [← map_fst_scopeOf, ← hdefined]
    exact hends.names
  · have hoperand := hends.operand
    have hreturns := hends.returns
    rw [hresult, hdefined] at hoperand
    rw [hresult, hret] at hreturns
    cases hreturns
    exact mem_scopeOf.1 hoperand

namespace Lowered

variable {ty : Ty}

theorem nodup_params (h : Lowered f w calls ty) : (w.params.map Prod.fst).Nodup :=
  h.nodup.sublist ((List.sublist_append_left _ _).map Prod.fst)

/-- The body of a wrapper is well typed. -/
theorem typed (h : Lowered f w calls ty) :
    Statement.Typed (w.paramShapes.map Shape.nativeType) w.ret.nativeType [] w.body := by
  have hwrite : Statement.Typed (w.paramShapes.map Shape.nativeType) w.ret.nativeType
      (typesOf (w.params ++ bound w.bindings)) [.write w.ret.nativeType w.returned] :=
    .write (mem_typesOf h.returned)
  have hcalls := h.follows.typed h.nodup hwrite
  have hshapes : w.paramShapes.map Shape.nativeType = w.params.map fun p => p.2.nativeType := by
    rw [paramShapes, List.map_map]
    rfl
  rw [body, List.append_assoc]
  exact Statement.typed_reads [] h.nodup_params hshapes hcalls

/-! #### Values of the parameters -/

theorem names_params (h : Lowered f w calls ty) :
    f.params.map Param.name = w.params.map Prod.fst := by
  have hfirst := congrArg (List.map Prod.fst) h.params
  rw [map_fst_scopeOf, Scope.ofParams, List.map_map] at hfirst
  exact hfirst

theorem length_params (h : Lowered f w calls ty) : f.params.length = w.params.length := by
  have hlength := congrArg List.length h.names_params
  rwa [List.length_map, List.length_map] at hlength

theorem run_eq (h : Lowered f w calls ty) (I : Interpretation α) (args : List α) :
    f.run I args = runInsts I ((w.params.map Prod.fst).zip args)
      (calls.map Call.inst ++ [.ret (.ref w.returned ty)]) := by
  rw [Function.run, h.blocks, h.names_params]
  rfl

theorem map_fst_zip {args : List α} (hargs : args.length = w.params.length) :
    ((w.params.map Prod.fst).zip args).map Prod.fst = w.params.map Prod.fst :=
  List.map_fst_zip (by rw [List.length_map, hargs])

theorem holds_zip {args : List α} (hargs : args.length = w.params.length) :
    Holds ((w.params.map Prod.fst).zip args) w.params := by
  intro p hp
  refine Option.isSome_iff_exists.1 (lookup_isSome_iff_mem.2 ?_)
  rw [map_fst_zip hargs]
  exact List.mem_map_of_mem hp

/-- The body of a wrapper writes what its function returns. -/
theorem computes (h : Lowered f w calls ty) (hI : N.Implements I) {args : List α}
    (hargs : args.length = f.params.length) :
    ∃ value performed, f.run I args = some (value, performed) ∧
      N.exec args [] w.body = some value := by
  rw [h.length_params] at hargs
  have hdistinct : (((w.params.map Prod.fst).zip args).map Prod.fst).Nodup := by
    rw [map_fst_zip hargs]
    exact h.nodup_params
  obtain ⟨value, performed, hrun, hexec⟩ := h.follows.exec hI (lookup_reverse hdistinct)
    (holds_zip hargs) h.returned ty w.ret.nativeType args
  refine ⟨value, performed, (h.run_eq I args).trans hrun, ?_⟩
  have hreads := N.exec_reads (List.nil_append args).symm hargs []
    (w.bindings.map Binding.statement ++ [.write w.ret.nativeType w.returned])
  rw [List.append_nil] at hreads
  rw [body, List.append_assoc]
  exact hreads.trans hexec

end Lowered

/-- **Faithful lowering.** The wrapper of a verified function whose models have their own signatures
is faithful. -/
theorem faithful_of_verify (hverify : f.verify m = .ok ()) (hknows : KnowsCallees m f)
    (h : ofFunction f = .ok w) : Faithful f w := by
  obtain ⟨calls, ty, hlowered⟩ := exists_lowered hverify hknows h
  have hinsts : f.insts = calls.map Call.inst ++ [.ret (.ref w.returned ty)] := by
    rw [Function.insts, hlowered.blocks, List.flatMap_singleton]
  obtain ⟨hname, hparams, hret, hbindings, -⟩ := (ofFunction_eq_ok hinsts).1 h
  have htypes : f.params.map Param.ty = w.paramShapes.map Ty.ofShape := by
    have hsecond := congrArg (List.map Prod.snd) hparams
    rw [Scope.ofParams, scopeOf, List.map_map, List.map_map] at hsecond
    rw [paramShapes, List.map_map]
    exact hsecond
  have hinputs : List.Forall₂ Shape.HeldBy w.paramShapes (w.paramShapes.map Shape.nativeType) :=
    List.forall₂_map_right_iff.2 (List.forall₂_same.2 fun s _ => s.heldBy_nativeType)
  exact ⟨hname, htypes, hret, pairwise_ascending _, fun _ => mem_features hinsts hbindings,
    source_eq w, ⟨_, _, hinputs, w.ret.heldBy_nativeType, hlowered.typed⟩,
    fun N I hI args hargs => hlowered.computes hI hargs⟩

/-! ### Modules -/

/-- Where models are declared with their own signatures, a function verified with declarations that
are still there knows its callees, unless a function then had the name of a model. -/
theorem knowsCallees_of_verify {m m₀ : Module} (hverify : f.verify m₀ = .ok ())
    (hnamed : ∀ g ∈ m₀.functions, ∀ i : Intrinsic, g.name ≠ i.symbol)
    (hstays : ∀ d ∈ m₀.declarations, d ∈ m.declarations)
    (hdeclared : ∀ d ∈ m.declarations, ∀ i : Intrinsic, d.name = i.symbol →
      d.signature = i.model.signature) : KnowsCallees m₀ f := by
  intro i hi
  obtain ⟨signature, hsignature⟩ := Function.exists_signature?_of_verify hverify hi
  have hfunction : m₀.function? i.symbol = none :=
    Module.function?_eq_none.2 fun g hg => hnamed g hg i
  rcases Module.contains_eq_true.1 (Module.contains_of_signature? hsignature) with
    ⟨d, hd, hname⟩ | ⟨g, hg, hname⟩
  · obtain ⟨d', hd'⟩ : ∃ d', m₀.declaration? i.symbol = some d' := by
      refine Option.isSome_iff_exists.1 (List.find?_isSome.2 ⟨d, hd, ?_⟩)
      exact beq_iff_eq.2 hname
    obtain ⟨hmem, hname'⟩ := Module.mem_of_declaration? hd'
    rw [Module.signature?_of_declared hfunction hd', hdeclared d' (hstays d' hmem) i hname']
  · exact absurd hname (hnamed g hg i)

/-- No two functions of a module that comes of changes to a new builder share a name. -/
theorem nodup_names_changes (name : String) (cs : List Change) :
    (((Builder.new name).changes cs).module.functions.map Function.name).Nodup := by
  have hreached : Builder.ReachedBy (fun _ => True) (.new name) ((Builder.new name).changes cs) :=
    ⟨cs, fun _ _ => trivial, rfl⟩
  exact (hreached.module (Module.hasDistinctSymbols_empty name)
    fun b c _ h => (b.becomes_change c).distinct h).functions

/-- **Faithful libraries.** Every function has a faithful wrapper, in order, and no two wrappers
share a name. The text names what the wrappers use of the standard library, and goes on with the
wrappers one after the other. -/
structure FaithfulLibrary (fs : List Function) (ws : List Wrapper) : Prop where
  wrappers : List.Forall₂ Faithful fs ws
  names : (ws.map Wrapper.name).Nodup
  text : library ws = "// Generated execution wrappers. Do not edit.\n" ++
    "#![allow(unused_unsafe, non_snake_case, unused_imports)]\n\n" ++
    "use core::arch::x86_64::*;\nuse core::ptr::\x7bread_unaligned, write_unaligned\x7d;\n" ++
    String.join (ws.map fun w =>
      "\n" ++ w.head ++ String.join (w.body.map Statement.text) ++ "\x7d\n")

/-- Faithful wrappers of functions whose names differ make a faithful library. -/
theorem faithfulLibrary_of_forall₂ {fs : List Function} {ws : List Wrapper}
    (h : List.Forall₂ Faithful fs ws) (hnames : (fs.map Function.name).Nodup) :
    FaithfulLibrary fs ws where
  wrappers := h
  names := by
    have hsame : ws.map Wrapper.name = fs.map Function.name :=
      map_eq_map_of_forall₂ (fun _ _ hw => hw.name) h
    rwa [hsame]
  text := library_eq ws

/-- **Faithful lowering.** Take a module that comes of any changes to a new builder. Let its models
be declared with their own signatures and the types of its functions have 32-bit sizes. At no time
may a function have had the name of a model, since another one could have called it before it was
erased. Then the module is lowered if and only if all its functions are native. If it is refused,
one of them is unsupported. If it is lowered, it has a faithful library. -/
theorem ofModule_faithful (name : String) (cs : List Change) {m : Module}
    (hm : m = ((Builder.new name).changes cs).module)
    (hdeclared : ∀ d ∈ m.declarations, ∀ i : Intrinsic, d.name = i.symbol →
      d.signature = i.model.signature)
    (hnamed : ∀ earlier, earlier <+: cs →
      ∀ f ∈ ((Builder.new name).changes earlier).module.functions,
        ∀ i : Intrinsic, f.name ≠ i.symbol)
    (hsizes : ∀ f ∈ m.functions, ∀ ty ∈ f.types, ty.FitsWord) :
    ((∃ ws, ofModule m = .ok ws) ↔ ∀ f ∈ m.functions, f.IsNative) ∧
      (∀ e, ofModule m = .error e → ∃ f ∈ m.functions, ∃ reason, e = .unsupported f.name reason) ∧
      ∀ ws, ofModule m = .ok ws → FaithfulLibrary m.functions ws := by
  have hbuilt : ∀ f ∈ m.functions, ∃ m₀, f.verify m₀ = .ok () ∧ KnowsCallees m₀ f := by
    intro f hf
    rw [hm] at hf
    rcases Builder.exists_verify_of_mem hf with hf | ⟨earlier, later, rfl, hverify⟩
    · cases hf
    · refine ⟨_, hverify, knowsCallees_of_verify hverify (hnamed earlier ⟨later, rfl⟩) ?_ hdeclared⟩
      rw [hm, Builder.changes_append]
      exact fun d hd => (Builder.declarations_changes _ later).subset hd
  refine ⟨?_, fun e he => ?_, fun ws hws => ?_⟩
  · rw [exists_ofModule]
    refine forall₂_congr fun f hf => ?_
    obtain ⟨m₀, hverify, hknows⟩ := hbuilt f hf
    exact exists_ofFunction_of_verify hverify hknows
  · obtain ⟨f, hf, hrefused⟩ := exists_of_ofModule_eq_error he
    exact ⟨f, hf, unsupported_of_ofFunction (hsizes f hf) hrefused⟩
  · have hlowered := (List.forall₂_and_left _ _).2 ⟨hbuilt, ofModule_eq_ok.1 hws⟩
    have hfaithful : List.Forall₂ Faithful m.functions ws := by
      refine hlowered.imp fun f w hw => ?_
      obtain ⟨⟨m₀, hverify, hknows⟩, hw⟩ := hw
      exact faithful_of_verify hverify hknows hw
    refine faithfulLibrary_of_forall₂ hfaithful ?_
    rw [hm]
    exact nodup_names_changes name cs

/-! ### A nested call with a scalar -/

namespace ShiftedMean

/-- The average of words. -/
def average : Intrinsic := ⟨⟨2, by decide⟩⟩

/-- The shift of words by a scalar count. -/
def shift : Intrinsic := ⟨⟨20, by decide⟩⟩

/-- The average of two vectors, shifted by a count. -/
def definition : Definition where
  prototype := ⟨"mean", .vector 16 16, [.vector 16 16, .vector 16 16, .i32]⟩
  body := .call shift.symbol [.call average.symbol [.var "i0", .var "i1"], .var "i2"]

/-- The function is built once its models are declared. Before that it is refused. -/
def changes : List Change :=
  [.build definition, .declare shift.model, .declare average.model, .build definition]

/-- The module after the changes. -/
def module : Module := ((Builder.new "m").changes changes).module

/-- The only wrapper of the module. -/
def wrapper : Wrapper where
  name := "mean"
  params := [("i0", .vector .v256 .w16), ("i1", .vector .v256 .w16), ("i2", .scalar32)]
  ret := .vector .v256 .w16
  bindings := [⟨"calltmp", .vector .v256 .w16, average, "i0", "i1"⟩,
    ⟨"calltmp1", .vector .v256 .w16, shift, "calltmp", "i2"⟩]
  returned := "calltmp1"

theorem functions_changes : ∀ earlier ∈ changes.inits,
    ∀ f ∈ ((Builder.new "m").changes earlier).module.functions, f.name = "mean" := by
  decide +kernel

theorem signature_of_declared : ∀ d ∈ module.declarations, ∀ i : Intrinsic, d.name = i.symbol →
    d.signature = i.model.signature := by
  have hdeclarations : module.declarations = [average.model, shift.model] := rfl
  rw [hdeclarations, List.forall_mem_cons, List.forall_mem_singleton]
  refine ⟨fun i hi => ?_, fun i hi => ?_⟩
  · rw [Intrinsic.symbol_injective hi.symm]
  · rw [Intrinsic.symbol_injective hi.symm]

end ShiftedMean

theorem ofModule_faithful_shiftedMean : (∀ f ∈ ShiftedMean.module.functions, f.IsNative) ∧
    ofModule ShiftedMean.module = .ok [ShiftedMean.wrapper] ∧
    FaithfulLibrary ShiftedMean.module.functions [ShiftedMean.wrapper] := by
  have hlowered : ofModule ShiftedMean.module = .ok [ShiftedMean.wrapper] := rfl
  have hnamed : ∀ earlier, earlier <+: ShiftedMean.changes →
      ∀ f ∈ ((Builder.new "m").changes earlier).module.functions,
        ∀ i : Intrinsic, f.name ≠ i.symbol := by
    intro earlier hearlier f hf i hi
    have hname := ShiftedMean.functions_changes earlier ((List.mem_inits _ _).2 hearlier) f hf
    exact i.symbol_ne_of_firstByte (by decide) (hi.symm.trans hname)
  have hsizes : ∀ f ∈ ShiftedMean.module.functions, ∀ ty ∈ f.types, ty.FitsWord := by
    have htypes : ∀ f ∈ ShiftedMean.module.functions,
        ∀ ty ∈ f.types, ty ∈ [Ty.vector 16 16, Ty.i32] := by
      decide +kernel
    intro f hf ty hty
    have hmem := htypes f hf ty hty
    fin_cases hmem
    · exact (by decide : (16 : UInt32).toNat * (16 : UInt32).toNat < UInt32.size)
    · exact trivial
  obtain ⟨hnative, -, hfaithful⟩ :=
    ofModule_faithful "m" ShiftedMean.changes rfl ShiftedMean.signature_of_declared hnamed hsizes
  exact ⟨hnative.1 ⟨_, hlowered⟩, hlowered, hfaithful _ hlowered⟩

/-! ### A function in the place of a model -/

namespace ReplacedModel

/-- The average of words. -/
def average : Intrinsic := ⟨(0 : Fin 107)⟩

/-- A function of one vector with the name of a model. -/
def sameName : Definition where
  prototype := ⟨average.symbol, .vector 8 16, [.vector 8 16]⟩
  body := .var "i0"

/-- A call of it. -/
def caller : Definition where
  prototype := ⟨"f", .vector 8 16, [.vector 8 16]⟩
  body := .call average.symbol [.var "i0"]

/-- The model is declared when the function with its name has been called and erased. -/
def changes : List Change :=
  [.build sameName, .build caller, .erase average.symbol, .declare average.model]

/-- The module after the changes. -/
def module : Module := ((Builder.new "m").changes changes).module

/-- The only function that is left. -/
def function : Function where
  name := "f"
  ret := .vector 8 16
  params := [⟨"i0", .vector 8 16⟩]
  blocks := [⟨"entry", [.call "calltmp" (.vector 8 16) average.symbol [.ref "i0" (.vector 8 16)],
    .ret (.ref "calltmp" (.vector 8 16))]⟩]

theorem functions_module : module.functions = [function] := rfl

theorem declarations_module : module.declarations = [average.model] := rfl

theorem isNative_type : (Ty.vector 8 16).IsNative :=
  Ty.isNative_iff.2 ⟨.vector .v128 .w16, rfl⟩

theorem isNative_function : function.IsNative where
  params := List.forall_mem_singleton.2 isNative_type
  ret := isNative_type
  calls _ _ _ _ h := by
    have hcall := (List.mem_cons.1 h).resolve_right (by simp)
    cases hcall
    exact ⟨isNative_type, average, rfl⟩
  operands v hv := by
    have hlocals : v = .ref "i0" (.vector 8 16) ∨ v = .ref "calltmp" (.vector 8 16) := by
      simpa [function, Function.operands, Function.insts, Inst.operands] using hv
    rcases hlocals with rfl | rfl <;> exact ⟨_, _, rfl⟩

end ReplacedModel

/-- **Replaced models.** It does not suffice that no function is left with the name of a model. A
function that was called under this name before the model was declared may have taken one operand,
and the call is refused although the function around it is native. -/
theorem ofModule_replacedModel :
    (∀ d ∈ ReplacedModel.module.declarations, ∀ i : Intrinsic, d.name = i.symbol →
      d.signature = i.model.signature) ∧
    (∀ f ∈ ReplacedModel.module.functions, (∀ i : Intrinsic, f.name ≠ i.symbol) ∧
      (∀ ty ∈ f.types, ty.FitsWord) ∧ f.IsNative) ∧
    ofModule ReplacedModel.module =
      .error (.unsupported "f" "sse2_pavg_w takes 2 operands, got 1") := by
  rw [ReplacedModel.functions_module, ReplacedModel.declarations_module, List.forall_mem_singleton,
    List.forall_mem_singleton]
  refine ⟨fun i hi => ?_, ⟨fun i => ?_, ?_, ReplacedModel.isNative_function⟩, rfl⟩
  · rw [Intrinsic.symbol_injective hi.symm]
  · exact (i.symbol_ne_of_firstByte (by decide)).symm
  · have hty : (Ty.vector 8 16).FitsWord :=
      (by decide : (8 : UInt32).toNat * (16 : UInt32).toNat < UInt32.size)
    have htypes : ∀ ty ∈ ReplacedModel.function.types, ty = .vector 8 16 := by
      decide +kernel
    intro ty hmem
    rwa [htypes ty hmem]

end Wrapper

end VectorTrial
