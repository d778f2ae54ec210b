import VectorTrial.Proofs.Program.CodeGeneration
import VectorTrial.Proofs.Program.Linking
import VectorTrial.Proofs.Program.Typing

/-!
# Accepted requests

The instructions that are emitted for an expression pass verification: they define intermediate
results that are new, each before its uses, and every operand and call is checked by the same rules
that its emission follows. Of a function that was emitted, verification can only refuse the value
that it returns, for a type other than the one asked for. So a request is accepted exactly when its
name is free and its body has the type asked for.

## Main definitions

* `VectorTrial.Program.Passes` — instructions that pass the check, whatever follows them.
* `VectorTrial.Program.Scope.IsReady` — the names that are defined while an expression is emitted.

## Main results

* `VectorTrial.Program.Expr.emit_accepted` — emitted instructions pass.
* `VectorTrial.Program.Definition.verify_assemble` — what verification says of an emitted function.
* `VectorTrial.Program.Builder.build_eq_ok_iff_hasType` — the requests that are accepted.
-/

namespace VectorTrial.Program

variable {m : Module} {f : Function} {scope : Scope} {next : Nat}

/-! ### Single instructions -/

theorem checkCall_eq {function : String} {symbol : Prototype} {args : List Value}
    (hsymbol : m.signature? symbol.name = some symbol.signature)
    (hcheck : ∀ v ∈ args, v.check function scope = .ok ())
    (hty : args.map Value.ty = symbol.params) :
    checkCall m function scope symbol.ret symbol.name args = .ok () := by
  have hlength : symbol.params.length = args.length := by
    rw [← hty, List.length_map]
  refine bind_eq_ok.2 ⟨(), forM_eq_ok.2 hcheck, ?_⟩
  rw [hsymbol]
  refine (if_neg (not_not.2 hlength)).trans ?_
  refine bind_eq_ok.2 ⟨(), (checkArguments_eq_ok_iff hlength).2 hty, ?_⟩
  exact if_neg (not_not.2 rfl)

/-- Of a return whose operand passes, only the type is judged. -/
theorem checkInsts_ret_eq {v : Value} (hcheck : v.check f.name scope = .ok ()) :
    checkInsts m f scope [.ret v] =
      if v.ty = f.ret then .ok ()
      else .error (.typeMismatch ("return of " ++ f.name) f.ret v.ty) := by
  rw [checkInsts, hcheck]
  by_cases hty : v.ty = f.ret
  · rw [if_pos hty]
    exact if_neg (not_not.2 hty)
  · rw [if_neg hty]
    exact if_pos hty

theorem checkInsts_ret {v : Value} (hcheck : v.check f.name scope = .ok ()) (hty : v.ty = f.ret) :
    checkInsts m f scope [.ret v] = .ok () :=
  (checkInsts_ret_eq hcheck).trans (if_pos hty)

/-! ### Instructions in a block -/

/-- Some instructions pass the check where the names of `before` are defined, and leave the names of
`after` to the instructions that follow. -/
def Passes (m : Module) (f : Function) (before : Scope) (insts : List Inst) (after : Scope) :
    Prop :=
  ∀ i rest, checkInsts m f before (insts ++ i :: rest) = checkInsts m f after (i :: rest)

theorem Passes.nil (before : Scope) : Passes m f before [] before := fun _ _ => rfl

theorem Passes.append {before middle after : Scope} {insts insts' : List Inst}
    (h : Passes m f before insts middle) (h' : Passes m f middle insts' after) :
    Passes m f before (insts ++ insts') after := by
  intro i rest
  cases insts' with
  | nil => rw [List.append_nil, h, ← h' i rest, List.nil_append]
  | cons i' insts' => rw [List.append_assoc, List.cons_append, h, ← List.cons_append, h']

theorem Passes.call {before : Scope} {dest callee : String} {ty : Ty} {args : List Value}
    (hcall : checkCall m f.name before ty callee args = .ok ())
    (hfresh : before.lookup dest = none) :
    Passes m f before [.call dest ty callee args] ((dest, ty) :: before) := by
  intro i rest
  rw [List.singleton_append, checkInsts, hcall, hfresh]
  rfl

/-- Whatever is defined later, the check of a settled operand stays. -/
theorem Value.Settled.check_eq {high : Nat} {value : Value} (h : value.Settled next)
    {function : String} {before after : Scope} (hkeeps : Keeps next high before after) :
    value.check function after = value.check function before := by
  cases value with
  | const _ => rfl
  | ref name ty => rw [Value.check, Value.check, hkeeps name fun k hk _ => h k hk]

/-! ### Emitted instructions -/

/-- **Names while an expression is emitted.** The variables in scope are defined with their types,
none of them is called like an intermediate result, and no intermediate result with a number from
`next` on is defined. -/
structure Scope.IsReady (scope : Scope) (next : Nat) (defined : Scope) : Prop where
  inScope : ∀ name ty, scope.lookup name = some ty → defined.lookup name = some ty
  apart : ∀ name ty, scope.lookup name = some ty → ∀ k, name ≠ temporaryName k
  fresh : ∀ k, next ≤ k → defined.lookup (temporaryName k) = none

/-- Further intermediate results are defined. -/
theorem Scope.IsReady.keeps {high : Nat} {before after : Scope} (h : scope.IsReady next before)
    (hkeeps : Keeps next high before after) (hle : next ≤ high) : scope.IsReady high after where
  inScope name ty hname := by
    rw [hkeeps name fun k _ _ => h.apart name ty hname k, h.inScope name ty hname]
  apart := h.apart
  fresh k hk := by
    rw [hkeeps _ fun j _ hj heq => (hj.trans_le hk).ne' (temporaryName_injective heq),
      h.fresh k (hle.trans hk)]

/-- What is emitted for an expression is accepted: its instructions pass and define intermediate
results with numbers from `next` on only, and its operand passes after them. -/
def Emitted.Accepted (m : Module) (f : Function) (before : Scope) (next : Nat) (out : Emitted) :
    Prop :=
  ∃ after, Passes m f before out.insts after ∧ Keeps next out.next before after ∧
    next ≤ out.next ∧ out.value.check f.name after = .ok () ∧ out.value.Settled out.next

/-- What is emitted for the arguments of a call is accepted at the types of the parameters. -/
def EmittedArgs.Accepted (m : Module) (f : Function) (before : Scope) (next : Nat)
    (params : List Ty) (out : EmittedArgs) : Prop :=
  ∃ after, Passes m f before out.insts after ∧ Keeps next out.next before after ∧
    next ≤ out.next ∧ (∀ v ∈ out.values, v.check f.name after = .ok ()) ∧
    out.values.map Value.ty = params

variable (f) in
theorem emitArgs_accepted {callee : String} {args : List Expr}
    (hargs : ∀ arg ∈ args, ∀ {next before out}, scope.IsReady next before →
      arg.emit m scope next = .ok out → out.Accepted m f before next)
    {index : Nat} {params : List Ty} {before : Scope} {out : EmittedArgs}
    (hlength : params.length = args.length) (hready : scope.IsReady next before)
    (h : emitArgs m scope callee index next params args = .ok out) :
    out.Accepted m f before next params := by
  induction args generalizing index next params before out with
  | nil =>
    obtain rfl := List.length_eq_zero_iff.1 hlength
    cases h
    exact ⟨before, .nil before, .refl next before, le_rfl, fun v hv => absurd hv List.not_mem_nil,
      rfl⟩
  | cons arg args ih =>
    obtain ⟨param, params, rfl⟩ := List.exists_cons_of_length_eq_add_one hlength
    obtain ⟨harg, hrest⟩ := List.forall_mem_cons.1 hargs
    obtain ⟨first, others, hfirst, hty, hothers, rfl⟩ := emitArgs_cons_eq_ok h
    obtain ⟨middle, hpasses, hkeeps, hle, hcheck, hsettled⟩ := harg hready hfirst
    obtain ⟨after, hpasses', hkeeps', hle', hchecks, htypes⟩ :=
      ih hrest (Nat.succ.inj hlength) (hready.keeps hkeeps hle) hothers
    refine ⟨after, hpasses.append hpasses', hkeeps.trans hkeeps' hle hle', hle.trans hle', ?_, ?_⟩
    · -- The first operand was settled before the other arguments were emitted.
      exact List.forall_mem_cons.2 ⟨(hsettled.check_eq hkeeps').trans hcheck, hchecks⟩
    · rw [List.map_cons, hty, htypes]

variable (f) in
/-- **Emitted instructions pass.** Where the variables in scope are defined, the instructions that
are emitted for an expression pass, and so does the operand that holds its value. -/
theorem Expr.emit_accepted {e : Expr} {before : Scope} {out : Emitted}
    (hready : scope.IsReady next before) (h : e.emit m scope next = .ok out) :
    out.Accepted m f before next := by
  induction e generalizing next before out with
  | literal l =>
    obtain ⟨hcheck, -⟩ := check_bind_eq_ok.1 h
    rw [emit_literal_eq_ok h]
    exact ⟨before, .nil before, .refl next before, le_rfl, hcheck, trivial⟩
  | vector bits elements =>
    have hout := emit_vector_eq_ok h
    unfold emit at h
    split at h
    · cases h
    · next hne =>
      obtain ⟨values, hvalues, -⟩ := bind_eq_ok.1 h
      obtain ⟨hfit, -⟩ := emitElements_eq_ok_iff.1 hvalues
      have hcheck : (Constant.vector bits (elements.map Literal.value)).check = .ok () := by
        refine Constant.check_eq_ok_iff.2 ⟨?_, fun value hvalue => ?_⟩
        · exact mt List.map_eq_nil_iff.1 (mt List.isEmpty_iff.2 hne)
        · obtain ⟨l, hl, rfl⟩ := List.mem_map.1 hvalue
          exact (hfit l hl).2
      rw [hout]
      exact ⟨before, .nil before, .refl next before, le_rfl, hcheck, trivial⟩
  | var name =>
    obtain ⟨ty, hname, rfl⟩ := emit_var_eq_ok h
    have hcheck : (Value.ref name ty).check f.name before = .ok () := by
      rw [Value.check, hready.inScope name ty hname]
      exact if_pos rfl
    exact ⟨before, .nil before, .refl next before, le_rfl, hcheck,
      fun k _ => hready.apart name ty hname k⟩
  | call callee args ih =>
    obtain ⟨signature, inner, hsignature, hlength, hinner, rfl⟩ := emit_call_eq_ok h
    obtain ⟨middle, hpasses, hkeeps, hle, hchecks, htypes⟩ :=
      emitArgs_accepted f (fun arg harg _ _ _ => ih arg harg) hlength hready hinner
    have hfresh : middle.lookup (temporaryName inner.next) = none :=
      (hready.keeps hkeeps hle).fresh inner.next le_rfl
    let symbol : Prototype := ⟨callee, signature.ret, signature.params⟩
    have hsymbol : m.signature? symbol.name = some symbol.signature := hsignature
    have hcall : checkCall m f.name middle signature.ret callee inner.values = .ok () :=
      checkCall_eq hsymbol hchecks htypes
    refine ⟨(temporaryName inner.next, signature.ret) :: middle,
      hpasses.append (.call hcall hfresh), hkeeps.trans (.bind inner.next middle _) hle
        (Nat.le_succ _), hle.trans (Nat.le_succ _), ?_, ?_⟩
    · rw [Value.check, List.lookup_cons_self]
      exact if_pos rfl
    · intro k hk hname
      exact absurd hk (temporaryName_injective hname ▸ Nat.not_succ_le_self _)

/-! ### Emitted functions -/

/-- The parameters of a prototype have different names. -/
theorem nodup_namedParams (p : Prototype) :
    ((Scope.ofParams p.namedParams).map Prod.fst).Nodup := by
  have hfrom (types : List Ty) (start : Nat) :
      ((Scope.ofParams (Prototype.paramsFrom start types)).map Prod.fst).Nodup := by
    induction types generalizing start with
    | nil => exact List.nodup_nil
    | cons ty types ih =>
      refine List.nodup_cons.2 ⟨fun hmem => ?_, ih (start + 1)⟩
      obtain ⟨⟨_, ty'⟩, hp, rfl⟩ := List.mem_map.1 hmem
      obtain ⟨index, hname, -⟩ :=
        lookup_paramsFrom.1 ((lookup_eq_some_iff_mem (ih (start + 1))).2 hp)
      have hindex := paramName_injective hname
      omega
  exact hfrom p.params 0

/-- Before the first instruction of a function its parameters are defined and nothing else. -/
theorem isReady_namedParams (p : Prototype) :
    (Scope.ofParams p.namedParams).IsReady 0 (Scope.ofParams p.namedParams).reverse := by
  have hnodup := nodup_namedParams p
  have hlookup (name : String) (ty : Ty) : (Scope.ofParams p.namedParams).reverse.lookup name =
      some ty ↔ (Scope.ofParams p.namedParams).lookup name = some ty := by
    rw [lookup_eq_some_iff_mem hnodup, lookup_eq_some_iff_mem, List.mem_reverse]
    rwa [List.map_reverse, List.nodup_reverse]
  have hapart (name : String) (ty : Ty) (h : (Scope.ofParams p.namedParams).lookup name = some ty)
      (k : Nat) : name ≠ temporaryName k := by
    obtain ⟨index, rfl, -⟩ := lookup_namedParams.1 h
    exact paramName_ne_temporaryName index k
  refine ⟨fun name ty h => (hlookup name ty).2 h, hapart, fun k _ => ?_⟩
  by_contra hdefined
  obtain ⟨ty, hty⟩ := Option.ne_none_iff_exists'.1 hdefined
  exact hapart _ ty ((hlookup _ ty).1 hty) k rfl

/-- **Verification of emitted functions.** Once the body of a request was emitted, verification
judges the type of the value returned and nothing else. -/
theorem Definition.verify_assemble {d : Definition} {out : Emitted}
    (h : d.body.emit m (Scope.ofParams d.prototype.namedParams) 0 = .ok out) :
    (d.assemble out).verify m =
      if out.value.ty = d.prototype.ret then .ok ()
      else .error (.typeMismatch ("return of " ++ d.name) d.prototype.ret out.value.ty) := by
  obtain ⟨after, hpasses, -, -, hcheck, -⟩ :=
    Expr.emit_accepted (d.assemble out) (isReady_namedParams d.prototype) h
  have hparams : Scope.addParams d.name [] d.prototype.namedParams =
      .ok (Scope.ofParams d.prototype.namedParams).reverse :=
    (@Scope.addParams_eq_ok_iff _ [] _ _ List.nodup_nil).2
      ⟨nodup_namedParams d.prototype, rfl⟩
  calc
    (d.assemble out).verify m
        = Scope.addParams d.name [] d.prototype.namedParams >>= fun scope =>
          checkInsts m (d.assemble out) scope (out.insts ++ [.ret out.value]) := rfl
    _ = checkInsts m (d.assemble out) (Scope.ofParams d.prototype.namedParams).reverse
          (out.insts ++ [.ret out.value]) := by
      rw [hparams]
      rfl
    _ = checkInsts m (d.assemble out) after [.ret out.value] := hpasses _ _
    _ = _ := checkInsts_ret_eq hcheck

/-- What becomes of a request whose name is free. -/
theorem Definition.emit_eq (d : Definition) :
    d.emit m (Scope.ofParams d.prototype.namedParams) =
      match d.body.emit m (Scope.ofParams d.prototype.namedParams) 0 with
      | .error e => .error e
      | .ok out =>
        if out.value.ty = d.prototype.ret then .ok (d.assemble out)
        else .error (.typeMismatch ("return of " ++ d.name) d.prototype.ret out.value.ty) := by
  unfold Definition.emit
  cases hout : d.body.emit m (Scope.ofParams d.prototype.namedParams) 0 with
  | error e => rfl
  | ok out =>
    change ((d.assemble out).verify m >>= fun _ => pure (d.assemble out)) = _
    rw [verify_assemble hout]
    by_cases hty : out.value.ty = d.prototype.ret
    · simp only [if_pos hty]
      rfl
    · simp only [if_neg hty]
      rfl

namespace Builder

/-- A function is built exactly when its name is free and its body can be emitted at its type. -/
theorem build_eq_ok_iff {b : Builder} {d : Definition} :
    (∃ f, (b.build d).1 = .ok f) ↔ b.module.contains d.name = false ∧
      ∃ out, d.body.emit b.module (Scope.ofParams d.prototype.namedParams) 0 = .ok out ∧
        out.value.ty = d.prototype.ret := by
  rw [build_eq, Definition.emit_eq]
  cases hfree : b.module.contains d.name with
  | true => simp
  | false =>
    cases hout : d.body.emit b.module (Scope.ofParams d.prototype.namedParams) 0 with
    | error e => simp
    | ok out => by_cases hty : out.value.ty = d.prototype.ret <;> simp [hty]

/-- **Accepted requests.** A builder builds exactly the functions whose name is neither defined nor
declared and whose body has the type asked for, by the typing rules. Once the body was emitted,
verification can refuse the function for the type of the value returned, and for nothing else. -/
theorem build_eq_ok_iff_hasType (b : Builder) (d : Definition) (hshort : d.body.IsShort) :
    ((∃ f, (b.build d).1 = .ok f) ↔
        ((∀ f ∈ b.module.functions, f.name ≠ d.name) ∧
          ∀ e ∈ b.module.declarations, e.name ≠ d.name) ∧
        d.body.HasType b.module d.prototype.params d.prototype.ret) ∧
      ∀ out, d.body.emit b.module (Scope.ofParams d.prototype.namedParams) 0 = .ok out →
        (d.assemble out).verify b.module =
          if out.value.ty = d.prototype.ret then .ok ()
          else .error (.typeMismatch ("return of " ++ d.name) d.prototype.ret out.value.ty) := by
  have hfree : b.module.contains d.name = false ↔ (∀ f ∈ b.module.functions, f.name ≠ d.name) ∧
      ∀ e ∈ b.module.declarations, e.name ≠ d.name := by
    rw [← Bool.not_eq_true, Module.contains_eq_true, not_or, and_comm]
    simp
  refine ⟨?_, fun out hout => Definition.verify_assemble hout⟩
  rw [build_eq_ok_iff, hfree, Expr.hasType_iff_emit hshort 0]

end Builder

/-! ### A nested call with a vector literal -/

namespace NestedLiteral

/-- Four lanes of 8 bits. -/
def lanes : Ty := .vector 4 8

/-- A builder that knows a symbol on vectors and integers. -/
def builder : Builder := .ofModule ⟨"nested", none, [⟨"shift", lanes, [lanes, .i32]⟩], []⟩

/-- A request that calls the symbol on the result of an inner call and on a parameter. -/
def request : Definition where
  prototype := ⟨"f", lanes, [.i32]⟩
  body := .call "shift"
    [.call "shift" [.ofValues 8 [1, -128, 127, 0], .int 3 32], .var "i0"]

theorem isShort_request : request.body.IsShort := by
  refine .call "shift" (List.forall_mem_cons.2 ⟨.call "shift" ?_, ?_⟩)
  · exact List.forall_mem_cons.2
      ⟨.vector 8 (by decide), List.forall_mem_singleton.2 (.literal _)⟩
  · exact List.forall_mem_singleton.2 (.var "i0")

end NestedLiteral

theorem Builder.build_eq_ok_iff_hasType_nestedLiteral :
    NestedLiteral.request.body.IsShort ∧
      (∃ f, (NestedLiteral.builder.build NestedLiteral.request).1 = .ok f) ∧
      NestedLiteral.request.body.HasType NestedLiteral.builder.module [.i32] NestedLiteral.lanes :=
  have hshort := NestedLiteral.isShort_request
  have hbuilt : ∃ f, (NestedLiteral.builder.build NestedLiteral.request).1 = .ok f := ⟨_, rfl⟩
  ⟨hshort, hbuilt,
    ((build_eq_ok_iff_hasType NestedLiteral.builder NestedLiteral.request hshort).1.1 hbuilt).2⟩

end VectorTrial.Program
