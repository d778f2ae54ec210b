import VectorTrial.Proofs.Program.Changes
import VectorTrial.Proofs.Program.ReadingBack

/-!
# Written modules are unambiguous

From the text of a module one can read back its name, its target, its functions and the
declarations of the symbols that these call. The names of parameters and intermediate results are
words by themselves, since every function of a module was emitted for a request; that the other
names are words is asked for.

## Main definitions

* `VectorTrial.Program.Module.IsReachable` — modules that changes to a new builder lead to.
* `VectorTrial.Program.Module.HasPlainNames` — the names that a module's text shows are words.
* `VectorTrial.Program.Module.functionsText`, `VectorTrial.Program.Module.declarationsText` — the
  sections of a module's text after its header.

## Main results

* `VectorTrial.Program.Definition.hasPlainLocals_assemble` — emission makes up words only.
* `VectorTrial.Program.Module.parts_eq_of_text_eq` — reachable modules with plain names and the same
  text have the same parts.
-/

namespace VectorTrial.Program

open Text

variable {m m' : Module}

/-! ### Names of parameters and intermediate results -/

theorem isWord_append_number {s : String} (hs : IsWord s) (n : Nat) : IsWord (s ++ toString n) := by
  refine ⟨fun h => hs.1 (String.append_eq_empty_iff.1 h).1, fun c hc => ?_⟩
  rw [String.toList_append] at hc
  rcases List.mem_append.1 hc with hc | hc
  · exact hs.2 c hc
  · exact isWordChar_of_isDigit (isDigit_of_mem_repr hc)

theorem isWord_temporaryName (k : Nat) : IsWord (temporaryName k) := by
  have hbase : IsWord "calltmp" := by decide
  cases k with
  | zero => exact hbase
  | succ k => exact isWord_append_number hbase (k + 1)

theorem isWord_of_mem_paramsFrom {index : Nat} {types : List Ty} {p : Param}
    (h : p ∈ Prototype.paramsFrom index types) : IsWord p.name := by
  induction types generalizing index with
  | nil => exact absurd h List.not_mem_nil
  | cons ty rest ih =>
    rcases List.mem_cons.1 h with rfl | h
    · exact isWord_append_number (by decide) index
    · exact ih h

section Emission

variable {scope : Scope} {next : Nat}

theorem emitArgs_plain {callee : String} {args : List Expr}
    (h : ∀ arg ∈ args, ∀ {next out}, arg.emit m scope next = .ok out →
      out.value.IsPlain ∧ ∀ i ∈ out.insts, i.HasPlainLocals) {index next : Nat} {params : List Ty}
    {out : EmittedArgs} (hout : emitArgs m scope callee index next params args = .ok out) :
    (∀ v ∈ out.values, v.IsPlain) ∧ ∀ i ∈ out.insts, i.HasPlainLocals := by
  induction args generalizing index next params out with
  | nil =>
    obtain rfl : ⟨[], [], next⟩ = out := by cases params <;> exact Except.ok.inj hout
    simp
  | cons arg args ih =>
    obtain ⟨harg, hargs⟩ := List.forall_mem_cons.1 h
    cases params with
    | nil =>
      obtain rfl : ⟨[], [], next⟩ = out := Except.ok.inj hout
      simp
    | cons param params =>
      obtain ⟨first, others, hfirst, -, hothers, rfl⟩ := emitArgs_cons_eq_ok hout
      obtain ⟨hvalue, hinsts⟩ := harg hfirst
      obtain ⟨hvalues, hrest⟩ := ih hargs hothers
      exact ⟨List.forall_mem_cons.2 ⟨hvalue, hvalues⟩, List.forall_mem_append.2 ⟨hinsts, hrest⟩⟩

/-- Where the names in scope are words, so are all names that emission yields. -/
theorem Expr.emit_plain (hscope : ∀ name ty, scope.lookup name = some ty → IsWord name) {e : Expr}
    {out : Emitted} (h : e.emit m scope next = .ok out) :
    out.value.IsPlain ∧ ∀ i ∈ out.insts, i.HasPlainLocals := by
  induction e generalizing next out with
  | literal l =>
    rw [emit_literal_eq_ok h]
    exact ⟨trivial, fun i hi => absurd hi List.not_mem_nil⟩
  | vector elemBits elements =>
    rw [emit_vector_eq_ok h]
    exact ⟨trivial, fun i hi => absurd hi List.not_mem_nil⟩
  | var name =>
    obtain ⟨ty, hty, rfl⟩ := emit_var_eq_ok h
    exact ⟨hscope name ty hty, fun i hi => absurd hi List.not_mem_nil⟩
  | call callee args ih =>
    obtain ⟨signature, inner, -, -, hinner, rfl⟩ := emit_call_eq_ok h
    obtain ⟨hvalues, hinsts⟩ := emitArgs_plain (fun arg harg _ _ => ih arg harg) hinner
    have hdest := isWord_temporaryName inner.next
    refine ⟨hdest, List.forall_mem_append.2 ⟨hinsts, fun i hi => ?_⟩⟩
    obtain rfl := List.mem_singleton.1 hi
    exact ⟨hdest, hvalues⟩

end Emission

/-- **Emitted names.** The names of parameters and intermediate results in the function that is
emitted for a request are words. -/
theorem Definition.hasPlainLocals_assemble {d : Definition} {out : Emitted}
    (h : d.body.emit m (Scope.ofParams d.prototype.namedParams) 0 = .ok out) :
    (d.assemble out).HasPlainLocals := by
  have hparams : ∀ p ∈ d.prototype.namedParams, IsWord p.name :=
    fun p hp => isWord_of_mem_paramsFrom hp
  have hscope (name : String) (ty : Ty)
      (hty : (Scope.ofParams d.prototype.namedParams).lookup name = some ty) : IsWord name := by
    obtain ⟨before, after, hmem, -⟩ := List.lookup_eq_some_iff.1 hty
    have hpair : (name, ty) ∈ Scope.ofParams d.prototype.namedParams := by simp [hmem]
    obtain ⟨p, hp, hname⟩ := List.mem_map.1 hpair
    exact (Prod.mk.inj hname).1 ▸ hparams p hp
  obtain ⟨hvalue, hinsts⟩ := Expr.emit_plain hscope h
  refine ⟨hparams, _, rfl, List.forall_mem_append.2 ⟨hinsts, fun i hi => ?_⟩⟩
  obtain rfl := List.mem_singleton.1 hi
  exact hvalue

namespace Module

theorem Becomes.hasPlainLocals {c : Change} (hc : m.Becomes c m')
    (h : ∀ f ∈ m.functions, f.HasPlainLocals) : ∀ f ∈ m'.functions, f.HasPlainLocals := by
  cases hc with
  | kept => exact h
  | aimed triple => exact h
  | declared hfree => exact h
  | built hout hfree hverify =>
    refine List.forall_mem_append.2 ⟨h, fun f hf => ?_⟩
    obtain rfl := List.mem_singleton.1 hf
    exact Definition.hasPlainLocals_assemble hout
  | erased name => exact fun f hf => h f (List.mem_of_mem_eraseP hf)

/-- **Reachable modules.** The modules that changes to a new builder lead to. -/
def IsReachable (m : Module) : Prop :=
  ∃ name cs, ((Builder.new name).changes cs).module = m

end Module

theorem Builder.changes_hasPlainLocals {b : Builder}
    (h : ∀ f ∈ b.module.functions, f.HasPlainLocals) (cs : List Change) :
    ∀ f ∈ (b.changes cs).module.functions, f.HasPlainLocals := by
  induction cs generalizing b with
  | nil => exact h
  | cons c cs ih => exact ih ((b.becomes_change c).hasPlainLocals h)

namespace Module

theorem IsReachable.hasPlainLocals (h : m.IsReachable) : ∀ f ∈ m.functions, f.HasPlainLocals := by
  obtain ⟨name, cs, rfl⟩ := h
  exact Builder.changes_hasPlainLocals (fun f hf => absurd hf List.not_mem_nil) cs

/-! ### Sections of a module's text -/

/-- **Plain names.** The names of a module, of its target, of its functions and of the symbols that
these call are words. -/
structure HasPlainNames (m : Module) : Prop where
  name : IsWord m.name
  triple : ∀ triple, m.triple = some triple → IsWord triple
  functions : ∀ f ∈ m.functions, IsWord f.name
  callees : ∀ f ∈ m.functions, ∀ callee ∈ f.callees, IsWord callee

/-- The header is told from what follows it, which does not begin like the line of a target. -/
theorem header_inj (h : m.HasPlainNames) (h' : m'.HasPlainNames) {r r' : List Char}
    (hr : r.head? ≠ some 't') (hr' : r'.head? ≠ some 't')
    (heq : m.header.toList ++ r = m'.header.toList ++ r') :
    m.name = m'.name ∧ m.triple = m'.triple ∧ r = r' := by
  obtain ⟨name, triple, declarations, functions⟩ := m
  obtain ⟨name', triple', declarations', functions'⟩ := m'
  unfold header at heq
  simp only [String.toList_append, List.append_assoc] at heq
  obtain ⟨rfl, hsource⟩ := readable_word.before h.name h'.name (List.append_cancel_left heq) rfl
  have htriple :=
    List.append_cancel_left (List.append_cancel_left (List.append_cancel_left hsource))
  cases triple with
  | none =>
    cases triple' with
    | none => exact ⟨rfl, rfl, htriple⟩
    | some triple' =>
      have htarget : r = _ := htriple
      exact absurd (by simp [htarget]) hr
  | some triple =>
    cases triple' with
    | none =>
      have htarget : _ = r' := htriple
      exact absurd (by simp [← htarget]) hr'
    | some triple' =>
      simp only [String.toList_append, List.append_assoc] at htriple
      obtain ⟨rfl, hrest⟩ := readable_word.before (h.triple triple rfl) (h'.triple triple' rfl)
        (List.append_cancel_left htriple) rfl
      exact ⟨rfl, rfl, hrest⟩

/-- Where the functions of a module's text end: at its own end or before a declaration. -/
def EndsFunctions (r : List Char) : Prop := r = [] ∨ ∃ rest, r = "\ndeclare ".toList ++ rest

/-- The section of functions of a module's text. -/
def functionsText (fs : List Function) : String := String.join (fs.map fun f => "\n" ++ f.text)

theorem functionsText_inj {fs fs' : List Function} (h : ∀ f ∈ fs, f.IsPlain)
    (h' : ∀ f ∈ fs', f.IsPlain) {r r' : List Char} (hr : EndsFunctions r) (hr' : EndsFunctions r')
    (heq : (functionsText fs).toList ++ r = (functionsText fs').toList ++ r') :
    fs = fs' ∧ r = r' := by
  have hitem : Readable Function.IsPlain (fun f => "\n" ++ f.text) (fun _ => True) := by
    intro x y r r' hx hy _ _ heq
    simp only [String.toList_append, List.append_assoc] at heq
    exact readable_function hx hy trivial trivial (List.append_cancel_left heq)
  have hcloses (r : List Char) (_ : EndsFunctions r) : True := trivial
  -- A function and a declaration part at their third letter.
  have hnext (f : Function) (_ : f.IsPlain) (r : List Char) : True ∧
      ¬ EndsFunctions (("\n" ++ f.text).toList ++ r) := by
    unfold EndsFunctions Function.text
    simp
  exact hitem.series hcloses hnext h h' hr hr' heq

/-- The section of declarations of a module's text. -/
def declarationsText (ds : List Prototype) : String :=
  if ds.isEmpty then "" else "\n" ++ String.join (ds.map Prototype.text)

theorem endsFunctions_declarationsText (ds : List Prototype) :
    EndsFunctions (declarationsText ds).toList := by
  cases ds with
  | nil => exact Or.inl rfl
  | cons d ds =>
    have htext : declarationsText (d :: ds) = "\n" ++ String.join ((d :: ds).map Prototype.text) :=
      rfl
    refine Or.inr ?_
    rw [htext, List.map_cons, String.join_cons]
    unfold Prototype.text
    simp

theorem declarationsText_inj {ds ds' : List Prototype} (h : ∀ d ∈ ds, IsWord d.name)
    (h' : ∀ d ∈ ds', IsWord d.name)
    (heq : (declarationsText ds).toList = (declarationsText ds').toList) : ds = ds' := by
  have hcloses (r : List Char) (_ : r = []) : True := trivial
  have hnext (d : Prototype) (_ : IsWord d.name) (r : List Char) : True ∧
      ¬ d.text.toList ++ r = [] := by
    unfold Prototype.text
    simp
  have hjoin : (String.join (ds.map Prototype.text)).toList ++ [] =
      (String.join (ds'.map Prototype.text)).toList ++ [] := by
    cases ds with
    | nil =>
      cases ds' with
      | nil => rfl
      | cons d' ds' => simp [declarationsText] at heq
    | cons d ds =>
      cases ds' with
      | nil => simp [declarationsText] at heq
      | cons d' ds' => simpa [declarationsText] using heq
  exact (readable_declaration.series hcloses hnext h h' rfl rfl hjoin).1

/-! ### Whole modules -/

theorem text_eq (m : Module) : m.text =
    m.header ++ functionsText m.functions ++
      declarationsText (m.neededDeclarations m.functions) := rfl

/-- After the header a module's text goes on with an empty line, or not at all. -/
theorem head?_functions_ne (fs : List Function) {r : List Char} (hr : EndsFunctions r) :
    ((functionsText fs).toList ++ r).head? ≠ some 't' := by
  cases fs with
  | nil => rcases hr with rfl | ⟨rest, rfl⟩ <;> simp [functionsText]
  | cons f fs => simp [functionsText]

theorem HasPlainNames.isWord_of_mem_neededDeclarations (h : m.HasPlainNames) {d : Prototype}
    (hd : d ∈ m.neededDeclarations m.functions) : IsWord d.name := by
  obtain ⟨callee, hcallee, hdeclaration⟩ := List.mem_filterMap.1 hd
  rw [calledSymbols, mem_ascending, List.mem_flatMap] at hcallee
  obtain ⟨f, hf, hcallee⟩ := hcallee
  rw [(mem_of_declaration? hdeclaration).2]
  exact h.callees f hf callee hcallee

/-- The needed declarations tell how each called symbol is declared. -/
theorem declaration?_of_neededDeclarations {fs : List Function}
    (h : m.neededDeclarations fs = m'.neededDeclarations fs) {f : Function} (hf : f ∈ fs)
    {callee : String} (hcallee : callee ∈ f.callees) {d : Prototype}
    (hd : m.declaration? callee = some d) : m'.declaration? callee = some d := by
  have hcalled : callee ∈ calledSymbols fs := mem_ascending.2 (List.mem_flatMap.2 ⟨f, hf, hcallee⟩)
  have hmem : d ∈ m'.neededDeclarations fs := h ▸ List.mem_filterMap.2 ⟨callee, hcalled, hd⟩
  obtain ⟨callee', -, hd'⟩ := List.mem_filterMap.1 hmem
  rwa [← (mem_of_declaration? hd).2, (mem_of_declaration? hd').2]

/-- **Written modules are unambiguous.** Two modules that changes to new builders lead to, with
plain names and the same text, have the same name, the same target, the same functions in the same
order, and the same declarations of the symbols that these call. -/
theorem parts_eq_of_text_eq (hm : m.IsReachable) (hm' : m'.IsReachable) (h : m.HasPlainNames)
    (h' : m'.HasPlainNames) (htext : m.text = m'.text) :
    m.name = m'.name ∧ m.triple = m'.triple ∧ m.functions = m'.functions ∧
      ∀ f ∈ m.functions, ∀ callee ∈ f.callees, m.declaration? callee = m'.declaration? callee := by
  have hplain {m : Module} (hm : m.IsReachable) (h : m.HasPlainNames) :
      ∀ f ∈ m.functions, f.IsPlain :=
    fun f hf => ⟨h.functions f hf, hm.hasPlainLocals f hf, h.callees f hf⟩
  have hchars : m.header.toList ++ ((functionsText m.functions).toList ++
        (declarationsText (m.neededDeclarations m.functions)).toList) =
      m'.header.toList ++ ((functionsText m'.functions).toList ++
        (declarationsText (m'.neededDeclarations m'.functions)).toList) := by
    have hlists := congrArg String.toList htext
    rw [text_eq, text_eq] at hlists
    simpa only [String.toList_append, List.append_assoc] using hlists
  have hends := endsFunctions_declarationsText (m.neededDeclarations m.functions)
  have hends' := endsFunctions_declarationsText (m'.neededDeclarations m'.functions)
  obtain ⟨hname, htriple, hrest⟩ := header_inj h h' (head?_functions_ne _ hends)
    (head?_functions_ne _ hends') hchars
  obtain ⟨hfunctions, hneeded⟩ := functionsText_inj (hplain hm h) (hplain hm' h') hends hends' hrest
  have hdeclarations := declarationsText_inj (fun _ hd => h.isWord_of_mem_neededDeclarations hd)
    (fun _ hd => h'.isWord_of_mem_neededDeclarations hd) hneeded
  refine ⟨hname, htriple, hfunctions, fun f hf callee hcallee => ?_⟩
  rw [← hfunctions] at hdeclarations
  refine Option.ext fun d => ⟨fun hd => ?_, fun hd => ?_⟩
  · exact declaration?_of_neededDeclarations hdeclarations hf hcallee hd
  · exact declaration?_of_neededDeclarations hdeclarations.symm hf hcallee hd

end Module

/-! ### One text of two histories -/

namespace TwoHistories

/-- Two lanes of 16 bits. -/
def lanes : Ty := .vector 2 16

/-- A symbol that is called. -/
def called : Prototype := ⟨"sum.v2-i16", lanes, [lanes]⟩

/-- A symbol that nothing calls. -/
def uncalled : Prototype := ⟨"max", .i32, [.i32, .i32]⟩

/-- A function that calls the symbol. -/
def caller : Definition := ⟨⟨"src", lanes, []⟩, .call called.name [.ofValues 16 [1, -2]]⟩

/-- A function without calls. -/
def constant : Definition := ⟨⟨"tgt", .i32, []⟩, .int 7 32⟩

/-- The changes that lead straight to the caller. -/
def direct : List Change := [.declare called, .build caller, .setTriple "x86_64"]

/-- The changes that lead to the caller past another function and another symbol. -/
def roundabout : List Change :=
  [.setTriple "x86_64", .declare uncalled, .build constant, .declare called, .build caller,
    .erase "tgt"]

/-- The function that is built for the caller. -/
def built : Function :=
  ⟨"src", lanes, [], [⟨"entry", [.call "calltmp" lanes "sum.v2-i16" [.const (.vector 16 [1, -2])],
    .ret (.ref "calltmp" lanes)]⟩]⟩

/-- A module with the built function and some declarations. -/
def module (declarations : List Prototype) : Module :=
  ⟨"m", some "x86_64", declarations, [built]⟩

theorem hasPlainNames_module (declarations : List Prototype) :
    (module declarations).HasPlainNames where
  name := (by decide : IsWord "m")
  triple triple h := by
    obtain rfl : "x86_64" = triple := Option.some.inj h
    decide
  functions f hf := by
    obtain rfl : f = built := List.mem_singleton.1 hf
    decide
  callees f hf callee hcallee := by
    obtain rfl : f = built := List.mem_singleton.1 hf
    obtain rfl : callee = "sum.v2-i16" := List.mem_singleton.1 hcallee
    decide

end TwoHistories

theorem Module.parts_eq_of_text_eq_twoHistories :
    ((Builder.new "m").changes TwoHistories.direct).module.text =
        ((Builder.new "m").changes TwoHistories.roundabout).module.text ∧
      ((Builder.new "m").changes TwoHistories.direct).module.declarations ≠
        ((Builder.new "m").changes TwoHistories.roundabout).module.declarations ∧
      ((Builder.new "m").changes TwoHistories.direct).module.functions =
        ((Builder.new "m").changes TwoHistories.roundabout).module.functions := by
  have hdirect : ((Builder.new "m").changes TwoHistories.direct).module =
      TwoHistories.module [TwoHistories.called] := rfl
  have hroundabout : ((Builder.new "m").changes TwoHistories.roundabout).module =
      TwoHistories.module [TwoHistories.uncalled, TwoHistories.called] := rfl
  have htext : ((Builder.new "m").changes TwoHistories.direct).module.text =
      ((Builder.new "m").changes TwoHistories.roundabout).module.text := by
    rw [hdirect, hroundabout]
    rfl
  have hparts := parts_eq_of_text_eq ⟨"m", TwoHistories.direct, rfl⟩
    ⟨"m", TwoHistories.roundabout, rfl⟩ (hdirect ▸ TwoHistories.hasPlainNames_module _)
    (hroundabout ▸ TwoHistories.hasPlainNames_module _) htext
  exact ⟨htext, by rw [hdirect, hroundabout]; decide, hparts.2.2.1⟩

end VectorTrial.Program
