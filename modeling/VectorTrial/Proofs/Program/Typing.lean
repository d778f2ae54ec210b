import VectorTrial.Proofs.Program.Emission
import VectorTrial.Proofs.Program.Evaluation
import VectorTrial.Proofs.Program.WellFormed

/-!
# Types of expressions

Which types an expression has, said without emission: by rules, one for each form of expression.
Instructions can be emitted for an expression exactly when it has a type, and the operand that holds
its value then has this type.

A vector literal with 2 ^ 32 elements or more has no type, since a type counts its elements with
32 bits, and expressions with such literals are left out.

## Main definitions

* `VectorTrial.Program.Expr.HasType` — the typing rules.
* `VectorTrial.Program.Expr.IsShort` — expressions without overlong vector literals.

## Main results

* `VectorTrial.Program.lookup_namedParams` — what a prototype says of a name.
* `VectorTrial.Program.Expr.hasType_iff_emit` — an expression has a type when it can be emitted.
-/

namespace VectorTrial.Program

/-! ### Typing rules -/

/-- **Typing rules.** The types of an expression where parameters named `i0`, `i1`, … have the
given types and a module knows the called symbols. -/
inductive Expr.HasType (m : Module) (params : List Ty) : Expr → Ty → Prop
  /-- An integer literal that fits its width. -/
  | literal {l : Literal} (h : Fits l.bits l.value) : HasType m params (.literal l) (.int l.bits)
  /-- A vector literal with at least one element, all of them of its width. -/
  | vector {bits lanes : UInt32} {elements : List Literal} (hne : elements ≠ [])
      (hfit : ∀ l ∈ elements, l.bits = bits ∧ Fits bits l.value)
      (hlanes : elements.length = lanes.toNat) :
      HasType m params (.vector bits elements) (.vector lanes bits)
  /-- A parameter. -/
  | var {index : Nat} {ty : Ty} (h : params[index]? = some ty) :
      HasType m params (.var (Prototype.paramName index)) ty
  /-- A call with an argument of its type for each parameter of the symbol. -/
  | call {callee : String} {args : List Expr} {signature : Signature}
      (hsignature : m.signature? callee = some signature)
      (hargs : List.Forall₂ (HasType m params) args signature.params) :
      HasType m params (.call callee args) signature.ret

/-- **Short literals.** Every vector literal of an expression has less than 2 ^ 32 elements. -/
inductive Expr.IsShort : Expr → Prop
  | literal (l : Literal) : IsShort (.literal l)
  | vector (bits : UInt32) {elements : List Literal} (h : elements.length < UInt32.size) :
      IsShort (.vector bits elements)
  | var (name : String) : IsShort (.var name)
  | call (callee : String) {args : List Expr} (h : ∀ arg ∈ args, IsShort arg) :
      IsShort (.call callee args)

namespace Expr.HasType

variable {m : Module} {params : List Ty} {ty : Ty}

theorem literal_iff {l : Literal} :
    HasType m params (.literal l) ty ↔ Fits l.bits l.value ∧ .int l.bits = ty := by
  constructor
  · rintro ⟨h⟩
    exact ⟨h, rfl⟩
  · rintro ⟨h, rfl⟩
    exact .literal h

theorem vector_iff {bits : UInt32} {elements : List Literal}
    (hshort : elements.length < UInt32.size) :
    HasType m params (.vector bits elements) ty ↔ elements ≠ [] ∧
      (∀ l ∈ elements, l.bits = bits ∧ Fits bits l.value) ∧
      .vector (UInt32.ofNat elements.length) bits = ty := by
  constructor
  · rintro (_ | ⟨hne, hfit, hlanes⟩)
    exact ⟨hne, hfit, by rw [hlanes, UInt32.ofNat_toNat]⟩
  · rintro ⟨hne, hfit, rfl⟩
    exact .vector hne hfit (by rw [UInt32.toNat_ofNat', Nat.mod_eq_of_lt hshort])

theorem var_iff {name : String} : HasType m params (.var name) ty ↔
    ∃ index, name = Prototype.paramName index ∧ params[index]? = some ty := by
  constructor
  · rintro (_ | _ | h)
    exact ⟨_, rfl, h⟩
  · rintro ⟨index, rfl, h⟩
    exact .var h

theorem call_iff {callee : String} {args : List Expr} :
    HasType m params (.call callee args) ty ↔ ∃ signature, m.signature? callee = some signature ∧
      List.Forall₂ (HasType m params) args signature.params ∧ signature.ret = ty := by
  constructor
  · rintro (_ | _ | _ | ⟨hsignature, hargs⟩)
    exact ⟨_, hsignature, hargs, rfl⟩
  · rintro ⟨signature, hsignature, hargs, rfl⟩
    exact .call hsignature hargs

end Expr.HasType

/-! ### Parameters -/

theorem paramName_injective {j k : Nat} (h : Prototype.paramName j = Prototype.paramName k) :
    j = k := by
  simpa [Prototype.paramName] using h

theorem lookup_paramsFrom {start : Nat} {types : List Ty} {name : String} {ty : Ty} :
    (Scope.ofParams (Prototype.paramsFrom start types)).lookup name = some ty ↔
      ∃ index, name = Prototype.paramName (start + index) ∧ types[index]? = some ty := by
  induction types generalizing start with
  | nil => simp [Prototype.paramsFrom, Scope.ofParams]
  | cons first types ih =>
    have hrest := @ih (start + 1)
    rw [Prototype.paramsFrom, Scope.ofParams, List.map_cons, List.lookup_cons]
    by_cases hname : name = Prototype.paramName start
    · subst hname
      rw [beq_self_eq_true]
      constructor
      · rintro ⟨rfl⟩
        exact ⟨0, rfl, rfl⟩
      · rintro ⟨index, hindex, hty⟩
        obtain rfl : index = 0 := by simpa using paramName_injective hindex
        exact hty
    · rw [beq_false_of_ne hname]
      refine hrest.trans (Iff.intro ?_ ?_)
      · rintro ⟨index, hindex, hty⟩
        exact ⟨index + 1, by rw [hindex, Nat.add_assoc, Nat.add_comm 1], hty⟩
      · rintro ⟨index, hindex, hty⟩
        cases index with
        | zero => exact absurd hindex hname
        | succ index => exact ⟨index, by rw [hindex, Nat.add_assoc, Nat.add_comm 1], hty⟩

/-- **Parameters.** A name is in the scope of a prototype if it names a parameter by its place. -/
theorem lookup_namedParams {p : Prototype} {name : String} {ty : Ty} :
    (Scope.ofParams p.namedParams).lookup name = some ty ↔
      ∃ index, name = Prototype.paramName index ∧ p.params[index]? = some ty := by
  rw [Prototype.namedParams, lookup_paramsFrom]
  simp only [Nat.zero_add]

/-! ### Emission -/

variable {m : Module} {scope : Scope} {params : List Ty}

theorem emitElements_eq_ok_iff {bits : UInt32} {elements : List Literal} {values : List Int64} :
    emitElements bits elements = .ok values ↔
      (∀ l ∈ elements, l.bits = bits ∧ Fits bits l.value) ∧
        values = elements.map Literal.value := by
  constructor
  · intro h
    refine ⟨?_, emitElements_eq_ok h⟩
    induction elements generalizing values with
    | nil => exact fun l hl => absurd hl List.not_mem_nil
    | cons l rest ih =>
      unfold emitElements at h
      split at h
      · cases h
      · next hbits =>
        obtain ⟨hcheck, h⟩ := check_bind_eq_ok.1 h
        obtain ⟨others, hothers, -⟩ := bind_eq_ok.1 h
        have hl : l.bits = bits := not_not.1 hbits
        exact List.forall_mem_cons.2
          ⟨⟨hl, hl ▸ checkLiteral_eq_ok_iff_fits.1 hcheck⟩, ih hothers⟩
  · rintro ⟨hfit, rfl⟩
    induction elements with
    | nil => rfl
    | cons l rest ih =>
      obtain ⟨⟨rfl, hl⟩, hrest⟩ := List.forall_mem_cons.1 hfit
      rw [emitElements, if_neg (not_not.2 rfl)]
      exact check_bind_eq_ok.2 ⟨checkLiteral_eq_ok_iff_fits.2 hl,
        bind_eq_ok.2 ⟨_, ih hrest, rfl⟩⟩

/-- The arguments of a call can be emitted, if each of them can at its type. -/
theorem forall₂_iff_emitArgs (callee : String) (index next : Nat) {args : List Expr}
    {types : List Ty} (hlength : types.length = args.length)
    (h : ∀ arg ∈ args, ∀ next ty, arg.HasType m params ty ↔
      ∃ out, arg.emit m scope next = .ok out ∧ out.value.ty = ty) :
    List.Forall₂ (Expr.HasType m params) args types ↔
      ∃ out, emitArgs m scope callee index next types args = .ok out := by
  induction args generalizing index next types with
  | nil =>
    obtain rfl := List.length_eq_zero_iff.1 hlength
    exact ⟨fun _ => ⟨_, rfl⟩, fun _ => .nil⟩
  | cons arg args ih =>
    obtain ⟨ty, types, rfl⟩ := List.exists_cons_of_length_eq_add_one hlength
    obtain ⟨harg, hargs⟩ := List.forall_mem_cons.1 h
    have hrest (index next : Nat) := ih index next (Nat.succ.inj hlength) hargs
    rw [List.forall₂_cons]
    constructor
    · rintro ⟨hty, htypes⟩
      obtain ⟨first, hfirst, hvalue⟩ := (harg next ty).1 hty
      obtain ⟨others, hothers⟩ := (hrest (index + 1) first.next).1 htypes
      refine ⟨⟨first.value :: others.values, first.insts ++ others.insts, others.next⟩, ?_⟩
      unfold emitArgs
      refine bind_eq_ok.2 ⟨first, hfirst, ?_⟩
      rw [if_neg (not_not.2 hvalue)]
      exact bind_eq_ok.2 ⟨others, hothers, rfl⟩
    · rintro ⟨out, hout⟩
      obtain ⟨first, others, hfirst, hvalue, hothers, -⟩ := emitArgs_cons_eq_ok hout
      exact ⟨(harg next ty).2 ⟨first, hfirst, hvalue⟩, (hrest _ _).2 ⟨others, hothers⟩⟩

/-- **Types and emission.** An expression has a type exactly when instructions can be emitted for
it, with an operand of this type. -/
theorem Expr.hasType_iff_emit {p : Prototype} {e : Expr} (hshort : e.IsShort) (next : Nat)
    (ty : Ty) : e.HasType m p.params ty ↔
      ∃ out, e.emit m (Scope.ofParams p.namedParams) next = .ok out ∧ out.value.ty = ty := by
  induction e generalizing next ty with
  | literal l =>
    rw [HasType.literal_iff, ← checkLiteral_eq_ok_iff_fits]
    constructor
    · rintro ⟨hcheck, rfl⟩
      exact ⟨_, check_bind_eq_ok.2 ⟨hcheck, rfl⟩, rfl⟩
    · rintro ⟨out, hout, rfl⟩
      obtain ⟨hcheck, -⟩ := check_bind_eq_ok.1 hout
      rw [emit_literal_eq_ok hout]
      exact ⟨hcheck, rfl⟩
  | vector bits elements =>
    obtain _ | ⟨_, hlength⟩ := hshort
    rw [HasType.vector_iff hlength]
    constructor
    · rintro ⟨hne, hfit, rfl⟩
      refine ⟨⟨.const (.vector bits (elements.map Literal.value)), [], next⟩, ?_, ?_⟩
      · rw [emit, if_neg (mt List.isEmpty_iff.1 hne)]
        exact bind_eq_ok.2 ⟨_, emitElements_eq_ok_iff.2 ⟨hfit, rfl⟩, rfl⟩
      · rw [Value.ty, Constant.ty, List.length_map]
    · rintro ⟨out, hout, rfl⟩
      have hvalue := emit_vector_eq_ok hout
      unfold emit at hout
      split at hout
      · cases hout
      · next hne =>
        obtain ⟨values, hvalues, -⟩ := bind_eq_ok.1 hout
        refine ⟨mt List.isEmpty_iff.2 hne, (emitElements_eq_ok_iff.1 hvalues).1, ?_⟩
        rw [hvalue, Value.ty, Constant.ty, List.length_map]
  | var name =>
    rw [HasType.var_iff, ← lookup_namedParams]
    constructor
    · intro h
      exact ⟨⟨.ref name ty, [], next⟩, by rw [emit, h], rfl⟩
    · rintro ⟨out, hout, rfl⟩
      obtain ⟨ty, hname, rfl⟩ := emit_var_eq_ok hout
      exact hname
  | call callee args ih =>
    obtain _ | _ | _ | ⟨_, hargs⟩ := hshort
    have hiff (index : Nat) {types : List Ty} (hlength : types.length = args.length) :=
      forall₂_iff_emitArgs callee index next hlength fun arg harg =>
        ih arg harg (hargs arg harg)
    rw [HasType.call_iff]
    constructor
    · rintro ⟨signature, hsignature, htypes, rfl⟩
      have hlength : signature.params.length = args.length := htypes.length_eq.symm
      obtain ⟨inner, hinner⟩ := (hiff 0 hlength).1 htypes
      refine ⟨⟨.ref (temporaryName inner.next) signature.ret, inner.insts ++
        [.call (temporaryName inner.next) signature.ret callee inner.values], inner.next + 1⟩, ?_,
        rfl⟩
      rw [emit, hsignature]
      refine (if_neg (not_not.2 hlength)).trans ?_
      exact bind_eq_ok.2 ⟨inner, hinner, rfl⟩
    · rintro ⟨out, hout, rfl⟩
      obtain ⟨signature, inner, hsignature, hlength, hinner, rfl⟩ := emit_call_eq_ok hout
      exact ⟨signature, hsignature, (hiff 0 hlength).2 ⟨inner, hinner⟩, rfl⟩

end VectorTrial.Program
