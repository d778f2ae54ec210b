import Mathlib
import VectorTrial.Program.Builder
import VectorTrial.Proofs.Outcome

/-!
# Emitted instructions

What is known of an expression once instructions were emitted for it, for each form of expression,
and which names the emitted instructions use.

## Main results

* `VectorTrial.Program.temporaryName_injective` — different intermediate results have different
  names.
* `VectorTrial.Program.paramName_ne_temporaryName` — no parameter is named like an intermediate
  result.
* `VectorTrial.Program.emit_call_eq_ok` — what was emitted for a call.
-/

namespace VectorTrial.Program

/-! ### Names of parameters and intermediate results -/

theorem temporaryName_injective {j k : Nat} (h : temporaryName j = temporaryName k) : j = k := by
  cases j with
  | zero =>
    cases k with
    | zero => rfl
    | succ k => exact absurd (congrArg String.length h) (by simp [temporaryName])
  | succ j =>
    cases k with
    | zero => exact absurd (congrArg String.length h) (by simp [temporaryName])
    | succ k => simpa [temporaryName] using h

theorem paramName_ne_temporaryName (index k : Nat) :
    Prototype.paramName index ≠ temporaryName k := by
  intro h
  have hchars := congrArg String.toList h
  cases k <;> simp [temporaryName, Prototype.paramName, String.toList_append] at hchars

/-! ### What emission yields -/

variable {m : Module} {scope : Scope} {next : Nat}

theorem emitElements_eq_ok {elemBits : UInt32} {elements : List Literal} {values : List Int64}
    (h : emitElements elemBits elements = .ok values) : values = elements.map Literal.value := by
  induction elements generalizing values with
  | nil => cases h; rfl
  | cons element rest ih =>
    unfold emitElements at h
    split at h
    · cases h
    · obtain ⟨_, -, h⟩ := bind_eq_ok.1 h
      obtain ⟨others, hothers, h⟩ := bind_eq_ok.1 h
      cases h
      rw [ih hothers, List.map_cons]

theorem emit_literal_eq_ok {l : Literal} {out : Emitted}
    (h : Expr.emit m scope next (.literal l) = .ok out) :
    out = ⟨.const (.int l.bits l.value), [], next⟩ := by
  obtain ⟨_, -, h⟩ := bind_eq_ok.1 h
  cases h
  rfl

theorem emit_vector_eq_ok {elemBits : UInt32} {elements : List Literal} {out : Emitted}
    (h : Expr.emit m scope next (.vector elemBits elements) = .ok out) :
    out = ⟨.const (.vector elemBits (elements.map Literal.value)), [], next⟩ := by
  unfold Expr.emit at h
  split at h
  · cases h
  · obtain ⟨values, hvalues, h⟩ := bind_eq_ok.1 h
    cases h
    rw [emitElements_eq_ok hvalues]

theorem emit_var_eq_ok {name : String} {out : Emitted}
    (h : Expr.emit m scope next (.var name) = .ok out) :
    ∃ ty, scope.lookup name = some ty ∧ out = ⟨.ref name ty, [], next⟩ := by
  unfold Expr.emit at h
  split at h
  · next ty hty => cases h; exact ⟨ty, hty, rfl⟩
  · cases h

theorem emit_call_eq_ok {callee : String} {args : List Expr} {out : Emitted}
    (h : Expr.emit m scope next (.call callee args) = .ok out) :
    ∃ signature inner, m.signature? callee = some signature ∧
      signature.params.length = args.length ∧
      emitArgs m scope callee 0 next signature.params args = .ok inner ∧
      out = ⟨.ref (temporaryName inner.next) signature.ret,
        inner.insts ++ [.call (temporaryName inner.next) signature.ret callee inner.values],
        inner.next + 1⟩ := by
  unfold Expr.emit at h
  split at h
  · cases h
  · next signature hsignature =>
    split at h
    · cases h
    · next hlength =>
      obtain ⟨inner, hinner, h⟩ := bind_eq_ok.1 h
      cases h
      exact ⟨signature, inner, hsignature, not_not.1 hlength, hinner, rfl⟩

theorem emitArgs_cons_eq_ok {callee : String} {index : Nat} {param : Ty} {params : List Ty}
    {arg : Expr} {args : List Expr} {out : EmittedArgs}
    (h : emitArgs m scope callee index next (param :: params) (arg :: args) = .ok out) :
    ∃ first others, arg.emit m scope next = .ok first ∧ first.value.ty = param ∧
      emitArgs m scope callee (index + 1) first.next params args = .ok others ∧
      out = ⟨first.value :: others.values, first.insts ++ others.insts, others.next⟩ := by
  unfold emitArgs at h
  obtain ⟨first, hfirst, h⟩ := bind_eq_ok.1 h
  split at h
  · cases h
  · next hty =>
    obtain ⟨others, hothers, h⟩ := bind_eq_ok.1 h
    cases h
    exact ⟨first, others, hfirst, not_not.1 hty, hothers, rfl⟩

end VectorTrial.Program
