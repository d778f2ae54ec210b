import VectorTrial.Proofs.Program.Building
import VectorTrial.Proofs.Program.Emission
import VectorTrial.Proofs.Program.Evaluation

/-!
# Code generation preserves meaning

The instructions emitted for an expression compute its value. They bind only intermediate results
with numbers from a given one on, so what was computed before stays in place while the remaining
arguments of a call are computed. Parameters and intermediate results never share a name.

## Main definitions

* `VectorTrial.Program.Leads` — what instructions do before whatever follows them.
* `VectorTrial.Program.Keeps` — only some intermediate results were bound.
* `VectorTrial.Program.Value.Settled` — no later intermediate result changes an operand.

## Main results

* `VectorTrial.Program.Expr.emit_computes` — the emitted instructions compute the expression.
* `VectorTrial.Program.run_of_build` — a built function returns the value of its body and performs
  the same calls.
-/

namespace VectorTrial.Program

variable {m : Module} {scope : Scope} {next : Nat}

/-! ### Straight-line execution -/

variable {α : Type} (I : Interpretation α)

/-- Some instructions, executed where names have the values `env`, perform `calls` and leave the
values `after` to whatever instructions follow. -/
def Leads (env : Env α) (insts : List Inst) (calls : Calls α) (after : Env α) : Prop :=
  ∀ rest, runInsts I env (insts ++ rest) =
    (runInsts I after rest).map fun (value, later) => (value, calls ++ later)

theorem Leads.nil (env : Env α) : Leads I env [] [] env := by
  intro rest
  simp

variable {I}

theorem Leads.append {env middle after : Env α} {insts insts' : List Inst} {calls calls' : Calls α}
    (h : Leads I env insts calls middle) (h' : Leads I middle insts' calls' after) :
    Leads I env (insts ++ insts') (calls ++ calls') after := by
  intro rest
  rw [List.append_assoc, h, h', Option.map_map]
  congr 1
  funext ⟨value, later⟩
  simp

theorem Leads.call {env : Env α} {args : List Value} {values : List α}
    (h : args.mapM (Value.eval I env) = some values) (dest callee : String) (ty : Ty) :
    Leads I env [.call dest ty callee args] [(callee, values)]
      ((dest, I.call callee values) :: env) := by
  intro rest
  rw [List.singleton_append, runInsts, h]
  simp only [bind, pure, Option.bind_some, List.singleton_append, Option.map_eq_bind]
  rfl

/-! ### Intermediate results -/

/-- Between two environments, only intermediate results with numbers from `low` on and below
`high` were bound. -/
def Keeps (low high : Nat) (env after : Env α) : Prop :=
  ∀ name, (∀ k, low ≤ k → k < high → name ≠ temporaryName k) →
    after.lookup name = env.lookup name

theorem Keeps.refl (low : Nat) (env : Env α) : Keeps low low env env := fun _ _ => rfl

theorem Keeps.trans {low middle high : Nat} {env env' env'' : Env α} (h : Keeps low middle env env')
    (h' : Keeps middle high env' env'') (hlow : low ≤ middle) (hhigh : middle ≤ high) :
    Keeps low high env env'' := by
  intro name hname
  rw [h' name fun k hk => hname k (hlow.trans hk), h name fun k hk hk' =>
    hname k hk (hk'.trans_le hhigh)]

theorem Keeps.bind (low : Nat) (env : Env α) (a : α) :
    Keeps low (low + 1) env ((temporaryName low, a) :: env) := by
  intro name hname
  have hne : (name == temporaryName low) = false :=
    beq_false_of_ne (hname low le_rfl (Nat.lt_succ_self low))
  rw [List.lookup_cons, hne]

/-- No intermediate result with a number from `next` on is read by an operand. -/
def Value.Settled (next : Nat) : Value → Prop
  | .const _ => True
  | .ref name _ => ∀ k, next ≤ k → name ≠ temporaryName k

/-- Whatever is bound later, a settled operand keeps its value. -/
theorem Value.Settled.eval_eq {next high : Nat} {value : Value} (h : value.Settled next)
    {env after : Env α} (hkeeps : Keeps next high env after) :
    value.eval I after = value.eval I env := by
  cases value with
  | const _ => rfl
  | ref name ty => exact hkeeps name fun k hk _ => h k hk

/-! ### Emitted instructions -/

/-- Every variable in scope has a value, and none of them is called like an intermediate
result. -/
def Binds (scope : Scope) (env : Env α) : Prop :=
  ∀ name ty, scope.lookup name = some ty →
    (∃ a, env.lookup name = some a) ∧ ∀ k, name ≠ temporaryName k

/-- The variables in scope have the same values in two environments. -/
def Agree (scope : Scope) (env env' : Env α) : Prop :=
  ∀ name ty, scope.lookup name = some ty → env'.lookup name = env.lookup name

theorem Agree.keeps {env env' env'' : Env α} (h : Agree scope env env') (hbinds : Binds scope env)
    {low high : Nat} (hkeeps : Keeps low high env' env'') : Agree scope env env'' := by
  intro name ty hname
  rw [hkeeps name fun k _ _ => (hbinds name ty hname).2 k, h name ty hname]

/-- What the instructions emitted for an expression do, started where the variables in scope have
their values: they perform the calls of the expression, bind intermediate results from `next` on
only, and leave its value in the operand that was emitted. -/
def Emitted.Computes (I : Interpretation α) (env start : Env α) (next : Nat) (e : Expr)
    (out : Emitted) : Prop :=
  ∃ value calls after, e.eval I env = some (value, calls) ∧
    Leads I start out.insts calls after ∧ Keeps next out.next start after ∧ next ≤ out.next ∧
    out.value.eval I after = some value ∧ out.value.Settled out.next

/-- What the instructions emitted for the arguments of a call do. -/
def EmittedArgs.Compute (I : Interpretation α) (env start : Env α) (next : Nat)
    (args : List Expr) (out : EmittedArgs) : Prop :=
  ∃ values calls after, evalArgs I env args = some (values, calls) ∧
    Leads I start out.insts calls after ∧ Keeps next out.next start after ∧ next ≤ out.next ∧
    out.values.mapM (Value.eval I after) = some values

theorem emitArgs_compute {env : Env α} (hbinds : Binds scope env) (callee : String)
    {args : List Expr} (hargs : ∀ arg ∈ args, ∀ {next start out}, Agree scope env start →
      Expr.emit m scope next arg = .ok out → out.Computes I env start next arg)
    {index : Nat} {params : List Ty} {start : Env α} {out : EmittedArgs}
    (hlength : params.length = args.length) (hagree : Agree scope env start)
    (h : emitArgs m scope callee index next params args = .ok out) :
    out.Compute I env start next args := by
  induction args generalizing index next params start out with
  | nil =>
    rw [List.length_eq_zero_iff.1 hlength] at h
    cases h
    exact ⟨[], [], start, rfl, .nil I start, .refl next start, le_rfl, rfl⟩
  | cons arg args ih =>
    obtain ⟨param, params, rfl⟩ := List.exists_cons_of_length_eq_add_one hlength
    obtain ⟨first, others, hfirst, -, hothers, rfl⟩ := emitArgs_cons_eq_ok h
    obtain ⟨value, calls, middle, heval, hleads, hkeeps, hle, hvalue, hsettled⟩ :=
      hargs arg List.mem_cons_self hagree hfirst
    obtain ⟨values, calls', after, heval', hleads', hkeeps', hle', hvalues⟩ :=
      ih (fun a ha => hargs a (List.mem_cons_of_mem _ ha)) (Nat.succ.inj hlength)
        (hagree.keeps hbinds hkeeps) hothers
    refine ⟨value :: values, calls ++ calls', after, ?_, hleads.append hleads',
      hkeeps.trans hkeeps' hle hle', hle.trans hle', ?_⟩
    · exact (evalArgs_cons_eq_some I).2 ⟨_, _, _, _, heval, heval', rfl, rfl⟩
    · -- The first operand was settled before the other arguments were computed.
      have hstays : first.value.eval I after = some value := (hsettled.eval_eq hkeeps').trans hvalue
      simp [List.mapM_cons, hstays, hvalues]

/-- **Code generation.** The instructions emitted for an expression compute it. -/
theorem Expr.emit_computes {env : Env α} (hbinds : Binds scope env) {e : Expr} {start : Env α}
    {out : Emitted} (hagree : Agree scope env start) (h : e.emit m scope next = .ok out) :
    out.Computes I env start next e := by
  induction e generalizing next start out with
  | literal l =>
    rw [emit_literal_eq_ok h]
    exact ⟨_, _, start, rfl, .nil I start, .refl next start, le_rfl, rfl, trivial⟩
  | vector elemBits elements =>
    rw [emit_vector_eq_ok h]
    exact ⟨_, _, start, rfl, .nil I start, .refl next start, le_rfl, rfl, trivial⟩
  | var name =>
    obtain ⟨ty, hname, rfl⟩ := emit_var_eq_ok h
    obtain ⟨⟨a, ha⟩, hne⟩ := hbinds name ty hname
    refine ⟨a, [], start, ?_, .nil I start, .refl next start, le_rfl, ?_, fun k _ => hne k⟩
    · rw [Expr.eval, ha, Option.map_some]
    · exact (hagree name ty hname).trans ha
  | call callee args ih =>
    obtain ⟨signature, inner, -, hlength, hinner, rfl⟩ := emit_call_eq_ok h
    obtain ⟨values, calls, middle, heval, hleads, hkeeps, hle, hvalues⟩ :=
      emitArgs_compute hbinds callee (fun arg harg _ _ _ => ih arg harg) hlength hagree hinner
    have hcall := Leads.call hvalues (temporaryName inner.next) callee signature.ret
    refine ⟨I.call callee values, calls ++ [(callee, values)], _, ?_, hleads.append hcall,
      hkeeps.trans (.bind inner.next middle _) hle (Nat.le_succ _), hle.trans (Nat.le_succ _),
      ?_, ?_⟩
    · rw [Expr.eval, heval, Option.map_some]
    · rw [Value.eval, List.lookup_cons_self]
    · intro k hk hname
      have heq : inner.next = k := temporaryName_injective hname
      exact absurd hk (heq ▸ Nat.not_succ_le_self _)

/-! ### Built functions -/

theorem lookup_positional {types : List Ty} {args : List α} (hlength : args.length = types.length)
    {index : Nat} {name : String} {ty : Ty}
    (h : (Scope.ofParams (Prototype.paramsFrom index types)).lookup name = some ty) :
    (∃ a, (positional index args).lookup name = some a) ∧
      ∃ k, name = Prototype.paramName k := by
  induction types generalizing index args with
  | nil => cases h
  | cons t types ih =>
    obtain ⟨a, rest, rfl⟩ := List.exists_cons_of_length_eq_add_one hlength
    simp only [Prototype.paramsFrom, Scope.ofParams, List.map_cons, List.lookup_cons] at h
    rw [positional, List.lookup_cons]
    cases hname : name == Prototype.paramName index with
    | true => exact ⟨⟨a, rfl⟩, index, eq_of_beq hname⟩
    | false =>
      rw [hname] at h
      exact ih (Nat.succ.inj hlength) h

/-- The parameters of a prototype, bound to arguments by position, have values, and no intermediate
result hides them. -/
theorem binds_positional {types : List Ty} {args : List α} (hlength : args.length = types.length) :
    Binds (Scope.ofParams (Prototype.paramsFrom 0 types)) (positional 0 args) := by
  intro name ty h
  obtain ⟨hvalue, index, rfl⟩ := lookup_positional hlength h
  exact ⟨hvalue, paramName_ne_temporaryName index⟩

/-- **Code generation preserves meaning.** Whatever a builder holds: a function that it has built
returns, on any arguments and under any interpretation, the value of the body asked for with the
parameters `i0`, `i1`, … bound to the arguments. It performs the same calls in the same order, and
these are the calls of the body, each of them once and after the calls in its arguments. -/
theorem run_of_build {b : Builder} {d : Definition} {f : Function} (h : (b.build d).1 = .ok f)
    (I : Interpretation α) {args : List α} (hargs : args.length = d.prototype.params.length) :
    ∃ value calls, f.run I args = some (value, calls) ∧
      d.body.eval I (positional 0 args) = some (value, calls) ∧
      calls.map Prod.fst = d.body.callSymbols := by
  obtain ⟨-, ⟨out, hout, rfl⟩, -, -⟩ := Builder.build_eq_ok h
  obtain ⟨value, calls, after, heval, hleads, -, -, hvalue, -⟩ :=
    Expr.emit_computes (I := I) (binds_positional hargs) (fun _ _ _ => rfl) hout
  refine ⟨value, calls, ?_, heval, Expr.symbols_eval I heval⟩
  have hbound := zip_paramsFrom hargs 0
  calc
    (d.assemble out).run I args
        = runInsts I (((Prototype.paramsFrom 0 d.prototype.params).map Param.name).zip args)
          (out.insts ++ [.ret out.value]) := rfl
    _ = (runInsts I after [.ret out.value]).map fun (a, later) => (a, calls ++ later) := by
      rw [hbound, hleads]
    _ = some (value, calls) := by
      simp only [runInsts, hvalue, Option.map_some, List.append_nil]

/-! ### A nested call with mixed arguments -/

namespace NestedCall

/-- A builder that knows a symbol with two parameters. -/
def builder : Builder := .ofModule ⟨"nested", none, [⟨"avg", .i32, [.i32, .i32]⟩], []⟩

/-- A request that calls the symbol on a parameter, a literal and an inner call. -/
def request : Definition where
  prototype := ⟨"f", .i32, [.i32, .i32]⟩
  body := .call "avg"
    [.call "avg" [.var "i1", .int 7 32], .call "avg" [.var "i0", .var "i1"]]

/-- The function built for the request. -/
def built : Function where
  name := "f"
  ret := .i32
  params := [⟨"i0", .i32⟩, ⟨"i1", .i32⟩]
  blocks := [⟨"entry",
    [.call "calltmp" .i32 "avg" [.ref "i1" .i32, .const (.int 32 7)],
      .call "calltmp1" .i32 "avg" [.ref "i0" .i32, .ref "i1" .i32],
      .call "calltmp2" .i32 "avg" [.ref "calltmp" .i32, .ref "calltmp1" .i32],
      .ret (.ref "calltmp2" .i32)]⟩]

/-- Integers, with sums that tell their terms apart in place of the symbol. -/
def integers : Interpretation Int where
  constant
    | .int _ value => value.toInt
    | .vector _ values => values.length
  call _ args := args.foldl (fun sum a => 10 * sum + a) 1

end NestedCall

theorem run_of_build_nested :
    (NestedCall.builder.build NestedCall.request).1 = .ok NestedCall.built ∧
      [3, 5].length = NestedCall.request.prototype.params.length ∧
      ∃ value calls, NestedCall.built.run NestedCall.integers [3, 5] = some (value, calls) ∧
        NestedCall.request.body.eval NestedCall.integers (positional 0 [3, 5]) =
          some (value, calls) ∧
        calls.map Prod.fst = NestedCall.request.body.callSymbols :=
  ⟨rfl, rfl, run_of_build (b := NestedCall.builder) rfl NestedCall.integers rfl⟩

end VectorTrial.Program
