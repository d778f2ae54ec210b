import Mathlib.Data.List.Basic
import VectorTrial.Program.Function

/-!
# What programs compute

An expression and the function built for it are given a meaning of their own. Constants and called
symbols may stand for anything: an *interpretation* says what they are, with values in any type.
Beside its value, a computation tells which calls it performed, in order, each with the values of
its arguments.

## Main definitions

* `VectorTrial.Program.Interpretation` — what constants and called symbols stand for.
* `VectorTrial.Program.Expr.eval` — the value of an expression and the calls that it performs.
* `VectorTrial.Program.Function.run` — the execution of a built function.
* `VectorTrial.Program.Expr.callSymbols` — the symbols of the calls of an expression, each call
  after those that its arguments hold.

## Main results

* `VectorTrial.Program.Expr.symbols_eval` — evaluation performs each call of an expression once.
-/

namespace VectorTrial.Program

/-- **Interpretations.** What constants stand for and what called symbols compute. -/
structure Interpretation (α : Type) where
  constant : Constant → α
  call : String → List α → α

/-- Names with their values, the latest binding of a name first. -/
abbrev Env (α : Type) := List (String × α)

/-- Performed calls in order, each with the values of its arguments. -/
abbrev Calls (α : Type) := List (String × List α)

variable {α : Type} (I : Interpretation α)

/-! ### Expressions -/

mutual

/-- **Evaluation.** The value of an expression and the calls that it performs: those of its
arguments from left to right and then its own. There is no value where a variable is unbound. -/
def Expr.eval (env : Env α) : Expr → Option (α × Calls α)
  | .literal ⟨value, bits⟩ => some (I.constant (.int bits value), [])
  | .vector elemBits elements =>
    some (I.constant (.vector elemBits (elements.map Literal.value)), [])
  | .var name => (env.lookup name).map fun a => (a, [])
  | .call callee args =>
    (evalArgs env args).map fun (values, calls) =>
      (I.call callee values, calls ++ [(callee, values)])

/-- The values of the arguments of a call, and the calls that they perform. -/
def evalArgs (env : Env α) : List Expr → Option (List α × Calls α)
  | [] => some ([], [])
  | arg :: args => do
    let (value, first) ← Expr.eval env arg
    let (values, others) ← evalArgs env args
    return (value :: values, first ++ others)

end

mutual

/-- The symbols of all calls in an expression, one for each call: those of the arguments from left
to right, and then the symbol of the call that uses them. -/
def Expr.callSymbols : Expr → List String
  | .literal _ => []
  | .vector _ _ => []
  | .var _ => []
  | .call callee args => callSymbolsIn args ++ [callee]

/-- The symbols of all calls in some expressions. -/
def callSymbolsIn : List Expr → List String
  | [] => []
  | e :: rest => Expr.callSymbols e ++ callSymbolsIn rest

end

/-- To prove something of all expressions it is enough to prove it of calls whose arguments all
have it, and of expressions without arguments. -/
@[elab_as_elim, induction_eliminator]
theorem Expr.induction {P : Expr → Prop} (literal : ∀ value, P (.literal value))
    (vector : ∀ elemBits elements, P (.vector elemBits elements)) (var : ∀ name, P (.var name))
    (call : ∀ callee args, (∀ arg ∈ args, P arg) → P (.call callee args)) (e : Expr) : P e :=
  @Expr.rec P (fun args => ∀ arg ∈ args, P arg) literal vector var call
    (fun _ h => absurd h List.not_mem_nil)
    (fun _ _ hhead htail => List.forall_mem_cons.2 ⟨hhead, htail⟩) e

theorem evalArgs_cons_eq_some {env : Env α} {arg : Expr} {args : List Expr} {values : List α}
    {calls : Calls α} : evalArgs I env (arg :: args) = some (values, calls) ↔
      ∃ value first others rest, Expr.eval I env arg = some (value, first) ∧
        evalArgs I env args = some (others, rest) ∧
        values = value :: others ∧ calls = first ++ rest := by
  simp only [evalArgs, bind, pure, Option.bind_eq_some_iff, Option.some.injEq, Prod.exists,
    Prod.mk.injEq]
  constructor
  · rintro ⟨value, first, harg, others, rest, hargs, rfl, rfl⟩
    exact ⟨value, first, others, rest, harg, hargs, rfl, rfl⟩
  · rintro ⟨value, first, others, rest, harg, hargs, rfl, rfl⟩
    exact ⟨value, first, harg, others, rest, hargs, rfl, rfl⟩

/-- Each call of an expression is performed exactly once, after the calls in its arguments. -/
theorem Expr.symbols_eval {env : Env α} {e : Expr} {value : α} {calls : Calls α}
    (h : e.eval I env = some (value, calls)) : calls.map Prod.fst = e.callSymbols := by
  induction e generalizing value calls with
  | literal l =>
    simp only [Expr.eval, Option.some.injEq, Prod.mk.injEq] at h
    rw [← h.2, Expr.callSymbols, List.map_nil]
  | vector elemBits elements =>
    simp only [Expr.eval, Option.some.injEq, Prod.mk.injEq] at h
    rw [← h.2, Expr.callSymbols, List.map_nil]
  | var name =>
    simp only [Expr.eval, Option.map_eq_some_iff, Prod.mk.injEq] at h
    obtain ⟨_, _, _, rfl⟩ := h
    rw [Expr.callSymbols, List.map_nil]
  | call callee args ih =>
    have hargs : ∀ {values : List α} {inner : Calls α},
        evalArgs I env args = some (values, inner) → inner.map Prod.fst = callSymbolsIn args := by
      clear h
      induction args with
      | nil =>
        intro values inner h
        simp only [evalArgs, Option.some.injEq, Prod.mk.injEq] at h
        rw [← h.2, callSymbolsIn, List.map_nil]
      | cons arg args ihargs =>
        intro values inner h
        obtain ⟨v, first, others, rest, harg, hrest, -, rfl⟩ := (evalArgs_cons_eq_some I).1 h
        rw [List.map_append, callSymbolsIn, ih arg List.mem_cons_self harg,
          ihargs (fun a ha => ih a (List.mem_cons_of_mem _ ha)) hrest]
    simp only [Expr.eval, Option.map_eq_some_iff, Prod.exists, Prod.mk.injEq] at h
    obtain ⟨values, inner, hinner, -, rfl⟩ := h
    rw [List.map_append, Expr.callSymbols, hargs hinner, List.map_cons, List.map_nil]

/-! ### Built functions -/

/-- The value of an operand. -/
def Value.eval (env : Env α) : Value → Option α
  | .const constant => some (I.constant constant)
  | .ref name _ => env.lookup name

/-- **Execution.** The value that a list of instructions returns and the calls that it performs,
one instruction after the other. A call binds its name to what the symbol computes from the
current values of the operands. There is no value where an operand is unbound or no instruction
returns. -/
def runInsts : Env α → List Inst → Option (α × Calls α)
  | _, [] => none
  | env, .ret value :: _ => (value.eval I env).map fun a => (a, [])
  | env, .call dest _ callee args :: rest => do
    let values ← args.mapM (Value.eval I env)
    let (result, calls) ← runInsts ((dest, I.call callee values) :: env) rest
    return (result, (callee, values) :: calls)

/-- The execution of a function on argument values: its first block, with the parameters bound in
order. -/
def Function.run (f : Function) (args : List α) : Option (α × Calls α) :=
  f.blocks.head?.bind fun entry => runInsts I ((f.params.map Param.name).zip args) entry.insts

/-- The names `i0`, `i1` and so on, from a position on, bound to values in order. -/
def positional : Nat → List α → Env α
  | _, [] => []
  | index, a :: rest => (Prototype.paramName index, a) :: positional (index + 1) rest

theorem zip_paramsFrom {types : List Ty} {args : List α} (h : args.length = types.length)
    (index : Nat) :
    ((Prototype.paramsFrom index types).map Param.name).zip args = positional index args := by
  induction types generalizing args index with
  | nil => rw [List.length_eq_zero_iff.1 h]; rfl
  | cons ty types ih =>
    obtain ⟨a, rest, rfl⟩ := List.exists_cons_of_length_eq_add_one h
    rw [Prototype.paramsFrom, List.map_cons, List.zip_cons_cons, positional,
      ih (Nat.succ.inj h) (index + 1)]

end VectorTrial.Program
