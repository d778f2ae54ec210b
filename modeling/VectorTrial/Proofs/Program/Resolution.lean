import VectorTrial.Proofs.Program.Emission
import VectorTrial.Proofs.Program.Evaluation
import VectorTrial.Proofs.Program.WellFormed
import VectorTrial.Program.Text

/-!
# What programs ask of their module

Of a module, emission and verification read the signatures of the called symbols and nothing else.
Two modules that agree on these give the same function or the same error, and a function that
passes calls known symbols only. The text of some functions of a module shows, beside its head and
these functions, the declarations of the symbols that they call.

## Main results

* `VectorTrial.Program.Function.verify_congr` — verification reads the signatures of callees.
* `VectorTrial.Program.Function.exists_signature?_of_verify` — the callees of a verified function
  are known.
* `VectorTrial.Program.Definition.emit_congr` — emission reads the signatures of the called symbols.
* `VectorTrial.Program.Module.functionsNamed_eq_ok` — the functions that are shown for some names.
* `VectorTrial.Program.Module.renderFunctions_congr` — the text of some functions reads the
  declarations of the called symbols.
-/

namespace VectorTrial.Program

variable {m m' : Module} {f : Function}

/-! ### Verification -/

theorem Function.mem_callees {callee : String} :
    callee ∈ f.callees ↔ ∃ i ∈ f.insts, i.callee? = some callee := by
  rw [callees, mem_distinct, List.mem_filterMap]

theorem checkCall_congr {function callee : String} {scope : Scope} {ty : Ty} {args : List Value}
    (h : m'.signature? callee = m.signature? callee) :
    checkCall m' function scope ty callee args = checkCall m function scope ty callee args := by
  rw [checkCall, checkCall, h]

theorem checkInsts_congr {scope : Scope} {insts : List Inst}
    (h : ∀ i ∈ insts, ∀ callee, i.callee? = some callee →
      m'.signature? callee = m.signature? callee) :
    checkInsts m' f scope insts = checkInsts m f scope insts := by
  induction insts generalizing scope with
  | nil => rfl
  | cons i rest ih =>
    obtain ⟨hi, hrest⟩ := List.forall_mem_cons.1 h
    cases i with
    | ret value => cases rest <;> rfl
    | call dest ty callee args =>
      cases rest with
      | nil => rfl
      | cons next rest =>
        rw [checkInsts, checkInsts, checkCall_congr (hi callee rfl), ih hrest]

/-- **Verification.** The outcome depends on the signatures of the callees only. -/
theorem Function.verify_congr
    (h : ∀ callee ∈ f.callees, m'.signature? callee = m.signature? callee) :
    f.verify m' = f.verify m := by
  unfold Function.verify
  split
  · next entry hblocks =>
    have hentry : f.insts = entry.insts := by
      rw [Function.insts, hblocks, List.flatMap_singleton]
    have hinsts (scope : Scope) :
        checkInsts m' f scope entry.insts = checkInsts m f scope entry.insts :=
      checkInsts_congr fun i hi callee hcallee =>
        h callee (mem_callees.2 ⟨i, hentry ▸ hi, hcallee⟩)
    simp only [hinsts]
  · rfl

/-- The callees of a function that is a list of calls with a return. -/
theorem Function.mem_callees_of_insts {calls : List Call} {result : Value}
    (hinsts : f.insts = calls.map Call.inst ++ [.ret result]) {callee : String} :
    callee ∈ f.callees ↔ ∃ c ∈ calls, c.callee = callee := by
  rw [mem_callees, hinsts]
  constructor
  · rintro ⟨inst, hinst, hcallee⟩
    rcases List.mem_append.1 hinst with hinst | hinst
    · obtain ⟨c, hc, rfl⟩ := List.mem_map.1 hinst
      exact ⟨c, hc, Option.some.inj hcallee⟩
    · cases List.mem_singleton.1 hinst
      cases hcallee
  · rintro ⟨c, hc, rfl⟩
    exact ⟨c.inst, Call.inst_mem_block.2 hc, rfl⟩

/-- **Verified functions.** The module knows every callee of a function that passes. -/
theorem Function.exists_signature?_of_verify (h : f.verify m = .ok ()) {callee : String}
    (hcallee : callee ∈ f.callees) : ∃ signature, m.signature? callee = some signature := by
  obtain ⟨calls, result, hinsts, hcalls⟩ := exists_calls_of_verify h
  obtain ⟨c, hc, rfl⟩ := (mem_callees_of_insts hinsts).1 hcallee
  exact ⟨c.signature, hcalls c hc⟩

/-! ### Emission -/

theorem mem_callSymbolsIn {args : List Expr} {name : String} :
    name ∈ callSymbolsIn args ↔ ∃ arg ∈ args, name ∈ arg.callSymbols := by
  induction args with
  | nil => simp [callSymbolsIn]
  | cons arg args ih => simp [callSymbolsIn, ih]

theorem emitArgs_congr {scope : Scope} {callee : String} {args : List Expr}
    (h : ∀ arg ∈ args, ∀ next, arg.emit m' scope next = arg.emit m scope next) {index next : Nat}
    {params : List Ty} : emitArgs m' scope callee index next params args =
      emitArgs m scope callee index next params args := by
  induction args generalizing index next params with
  | nil => cases params <;> rfl
  | cons arg args ih =>
    obtain ⟨harg, hargs⟩ := List.forall_mem_cons.1 h
    cases params with
    | nil => rfl
    | cons param params => simp only [emitArgs, harg, ih hargs]

theorem Expr.emit_congr {scope : Scope} {e : Expr}
    (h : ∀ name ∈ e.callSymbols, m'.signature? name = m.signature? name) (next : Nat) :
    e.emit m' scope next = e.emit m scope next := by
  induction e generalizing next with
  | literal value => rfl
  | vector elemBits elements => rfl
  | var name => rfl
  | call callee args ih =>
    have hargs : ∀ arg ∈ args, ∀ next, arg.emit m' scope next = arg.emit m scope next := by
      intro arg harg next
      refine ih arg harg (fun name hname => h name ?_) next
      rw [Expr.callSymbols, List.mem_append]
      exact Or.inl (mem_callSymbolsIn.2 ⟨arg, harg, hname⟩)
    have hcallee : m'.signature? callee = m.signature? callee :=
      h callee (by simp [Expr.callSymbols])
    simp only [Expr.emit, hcallee, emitArgs_congr hargs]

theorem callees_emitArgs {scope : Scope} {callee : String} {args : List Expr}
    (h : ∀ arg ∈ args, ∀ {next out}, arg.emit m scope next = .ok out →
      out.insts.filterMap Inst.callee? = arg.callSymbols) {index next : Nat} {params : List Ty}
    {out : EmittedArgs} (hlength : params.length = args.length)
    (hout : emitArgs m scope callee index next params args = .ok out) :
    out.insts.filterMap Inst.callee? = callSymbolsIn args := by
  induction args generalizing index next params out with
  | nil =>
    rw [List.length_eq_zero_iff.1 hlength] at hout
    cases hout
    rfl
  | cons arg args ih =>
    obtain ⟨param, params, rfl⟩ := List.exists_cons_of_length_eq_add_one hlength
    obtain ⟨harg, hargs⟩ := List.forall_mem_cons.1 h
    obtain ⟨first, others, hfirst, -, hothers, rfl⟩ := emitArgs_cons_eq_ok hout
    rw [List.filterMap_append, harg hfirst, ih hargs (Nat.succ.inj hlength) hothers, callSymbolsIn]

/-- The symbols that the emitted instructions call are those of the expression, in order. -/
theorem Expr.callees_emit {scope : Scope} {next : Nat} {e : Expr} {out : Emitted}
    (h : e.emit m scope next = .ok out) :
    out.insts.filterMap Inst.callee? = e.callSymbols := by
  induction e generalizing next out with
  | literal l => rw [emit_literal_eq_ok h]; rfl
  | vector elemBits elements => rw [emit_vector_eq_ok h]; rfl
  | var name =>
    obtain ⟨ty, -, rfl⟩ := emit_var_eq_ok h
    rfl
  | call callee args ih =>
    obtain ⟨signature, inner, -, hlength, hinner, rfl⟩ := emit_call_eq_ok h
    rw [List.filterMap_append, callees_emitArgs (fun arg harg _ _ => ih arg harg) hlength hinner,
      Expr.callSymbols]
    rfl

theorem Definition.callees_assemble {d : Definition} {scope : Scope} {next : Nat} {out : Emitted}
    (h : d.body.emit m scope next = .ok out) {callee : String} :
    callee ∈ (d.assemble out).callees ↔ callee ∈ d.body.callSymbols := by
  rw [← Expr.callees_emit h, Function.callees, mem_distinct, assemble, Function.insts,
    List.flatMap_singleton, List.filterMap_append]
  simp [Inst.callee?]

/-- **Emission.** The function that is emitted for a request depends on the signatures of the
symbols that its body calls only. -/
theorem Definition.emit_congr {d : Definition} {scope : Scope}
    (h : ∀ name ∈ d.body.callSymbols, m'.signature? name = m.signature? name) :
    d.emit m' scope = d.emit m scope := by
  have hbody : d.body.emit m' scope 0 = d.body.emit m scope 0 := Expr.emit_congr h 0
  unfold Definition.emit
  rw [hbody]
  cases hout : d.body.emit m scope 0 with
  | error e => rfl
  | ok out =>
    have hverify : (d.assemble out).verify m' = (d.assemble out).verify m :=
      Function.verify_congr fun callee hcallee => h callee ((callees_assemble hout).1 hcallee)
    change ((d.assemble out).verify m' >>= fun _ => pure (d.assemble out)) = _
    rw [hverify]
    rfl

/-! ### Texts -/

namespace Module

/-- The functions of some names are those that are found under the names, one after another. -/
theorem functionsNamed_eq_ok {names : List String} {fs : List Function} :
    m.functionsNamed names = .ok fs ↔ names.map m.function? = fs.map some := by
  induction names generalizing fs with
  | nil =>
    rw [functionsNamed, Except.ok.injEq, List.map_nil, eq_comm (a := []), eq_comm (a := []),
      List.map_eq_nil_iff]
  | cons name names ih =>
    rw [functionsNamed, List.map_cons, eq_comm (b := fs.map some), List.map_eq_cons_iff]
    cases m.function? name with
    | none => simp
    | some f =>
      simp only [bind_eq_ok, ih, Option.some.injEq]
      constructor
      · rintro ⟨rest, hrest, h⟩
        cases h
        exact ⟨f, rest, rfl, rfl, hrest.symm⟩
      · rintro ⟨f', rest, rfl, rfl, hrest⟩
        exact ⟨rest, hrest.symm, rfl⟩

theorem functionsNamed_congr {names : List String}
    (h : ∀ name ∈ names, m'.function? name = m.function? name) :
    m'.functionsNamed names = m.functionsNamed names := by
  induction names with
  | nil => rfl
  | cons name names ih =>
    obtain ⟨hname, hnames⟩ := List.forall_mem_cons.1 h
    rw [functionsNamed, functionsNamed, hname, ih hnames]

theorem map_name_of_functionsNamed {names : List String} {fs : List Function}
    (h : m.functionsNamed names = .ok fs) : fs.map Function.name = names := by
  rw [functionsNamed_eq_ok] at h
  induction names generalizing fs with
  | nil =>
    rw [List.map_eq_nil_iff.1 h.symm]
    rfl
  | cons name names ih =>
    obtain ⟨f, rest, rfl, hf, hrest⟩ := List.map_eq_cons_iff.1 h.symm
    have hname := List.find?_some hf.symm
    rw [List.map_cons, ih hrest.symm, beq_iff_eq.1 hname]

theorem mem_of_functionsNamed {names : List String} {fs : List Function}
    (h : m.functionsNamed names = .ok fs) {f : Function} (hf : f ∈ fs) :
    f ∈ m.functions ∧ f.name ∈ names := by
  have hfound : some f ∈ names.map m.function? :=
    functionsNamed_eq_ok.1 h ▸ List.mem_map_of_mem hf
  obtain ⟨name, -, hfound⟩ := List.mem_map.1 hfound
  exact ⟨List.mem_of_find?_eq_some hfound, map_name_of_functionsNamed h ▸ List.mem_map_of_mem hf⟩

theorem neededDeclarations_congr {fs : List Function}
    (h : ∀ f ∈ fs, ∀ callee ∈ f.callees, m'.declaration? callee = m.declaration? callee) :
    m'.neededDeclarations fs = m.neededDeclarations fs := by
  refine List.filterMap_congr fun callee hcallee => ?_
  rw [calledSymbols, mem_ascending, List.mem_flatMap] at hcallee
  obtain ⟨f, hf, hcallee⟩ := hcallee
  exact h f hf callee hcallee

/-- **Texts.** The text of some functions depends on the head of the module, these functions and the
declarations of the symbols that they call. -/
theorem renderFunctions_congr (hname : m'.name = m.name) (htriple : m'.triple = m.triple)
    {names : List String} (hfunctions : ∀ name ∈ names, m'.function? name = m.function? name)
    (h : ∀ f ∈ m.functions, f.name ∈ names → ∀ callee ∈ f.callees,
      m'.declaration? callee = m.declaration? callee) :
    m'.renderFunctions names = m.renderFunctions names := by
  rw [renderFunctions, renderFunctions, functionsNamed_congr hfunctions]
  cases hnamed : m.functionsNamed names with
  | error e => rfl
  | ok fs =>
    have hneeded : m'.neededDeclarations fs = m.neededDeclarations fs := by
      refine neededDeclarations_congr fun f hf => ?_
      obtain ⟨hmem, hlisted⟩ := mem_of_functionsNamed hnamed hf
      exact h f hmem hlisted
    have hheader : m'.header = m.header := by
      unfold header
      rw [hname, htriple]
    have hrender : m'.render fs = m.render fs := by
      unfold render
      rw [hneeded, hheader]
    exact congrArg Except.ok hrender

end Module

end VectorTrial.Program
