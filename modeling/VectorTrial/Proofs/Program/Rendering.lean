import VectorTrial.Proofs.Program.Linking
import VectorTrial.Proofs.Program.WrittenModules
import VectorTrial.Proofs.Text.ByteOrder

/-!
# What a text of some functions shows

A module can be cut down to functions that it defines. The text has these functions in the order in
which they are asked for, and after them the declarations of the symbols that they call, each once
and in the order of the bytes of their names. Nothing else of the module is seen. So the text speaks
of no unknown symbol where every callee of its functions is among them or declared.

## Main definitions

* `VectorTrial.Program.Function.CallsSymbol` — a function calls a symbol.
* `VectorTrial.Program.Module.Defines` — a module has a function of a name.
* `VectorTrial.Program.Module.Shows` — what a text shows of a module.
* `VectorTrial.Program.IsClosed` — no symbol is unknown to the functions and declarations of a text.

## Main results

* `VectorTrial.Program.Module.functionsNamed_eq_error` — the first missing name is reported.
* `VectorTrial.Program.Module.mem_neededDeclarations`,
  `VectorTrial.Program.Module.pairwise_neededDeclarations` — which declarations are shown, and in
  which order.
* `VectorTrial.Program.Module.isClosed_neededDeclarations` — where a text is closed.
* `VectorTrial.Program.Module.renderFunctions_exact` — what texts of some functions show.
-/

namespace VectorTrial.Program

open Text

/-- Whether one of the instructions of a function calls a symbol. -/
def Function.CallsSymbol (f : Function) (symbol : String) : Prop :=
  ∃ i ∈ f.insts, i.callee? = some symbol

/-- **Closed texts.** Every symbol that one of the functions calls is one of the functions, or one
of the declarations. -/
def IsClosed (fs : List Function) (ds : List Prototype) : Prop :=
  ∀ f ∈ fs, ∀ symbol, f.CallsSymbol symbol →
    (∃ g ∈ fs, g.name = symbol) ∨ ∃ d ∈ ds, d.name = symbol

namespace Module

variable {m m' : Module} {names : List String} {fs : List Function}

/-- Whether a module has a function of a name. -/
def Defines (m : Module) (name : String) : Prop := ∃ f ∈ m.functions, f.name = name

/-- **What a text shows of a module.** Its head, some functions in order, and the declarations of
those declared symbols that one of these functions calls, each once, in ascending order of the bytes
of their names. -/
structure Shows (m : Module) (fs : List Function) (ds : List Prototype) (text : String) : Prop where
  text_eq : text = m.header ++ functionsText fs ++ declarationsText ds
  mem_iff : ∀ d, d ∈ ds ↔ d ∈ m.declarations ∧ ∃ f ∈ fs, f.CallsSymbol d.name
  ascending : ds.Pairwise fun d e => utf8 d.name < utf8 e.name

/-! ### Names that are found -/

theorem IsReachable.hasDistinctSymbols (h : m.IsReachable) : m.HasDistinctSymbols := by
  obtain ⟨name, cs, rfl⟩ := h
  exact Builder.changes_distinct (hasDistinctSymbols_empty name) cs

theorem defines_iff {name : String} : m.Defines name ↔ ∃ f, m.function? name = some f := by
  rw [← Option.isSome_iff_exists, function?, List.find?_isSome]
  simp only [Defines, beq_iff_eq]

theorem not_defines_iff {name : String} : ¬ m.Defines name ↔ m.function? name = none := by
  rw [function?_eq_none, Defines, not_exists]
  simp only [not_and, ne_eq]

theorem HasDistinctSymbols.function?_eq_some_iff (h : m.HasDistinctSymbols) {name : String}
    {f : Function} : m.function? name = some f ↔ f ∈ m.functions ∧ f.name = name := by
  constructor
  · intro hf
    have hname := List.find?_some hf
    exact ⟨List.mem_of_find?_eq_some hf, beq_iff_eq.1 hname⟩
  · rintro ⟨hf, rfl⟩
    obtain ⟨g, hg⟩ := defines_iff.1 ⟨f, hf, rfl⟩
    have hname := List.find?_some hg
    rw [hg, List.inj_on_of_nodup_map h.functions (List.mem_of_find?_eq_some hg) hf
      (beq_iff_eq.1 hname)]

theorem HasDistinctSymbols.declaration?_eq_some_iff (h : m.HasDistinctSymbols) {name : String}
    {d : Prototype} : m.declaration? name = some d ↔ d ∈ m.declarations ∧ d.name = name := by
  constructor
  · exact mem_of_declaration?
  · rintro ⟨hd, rfl⟩
    exact (h.stored d).1 hd

theorem functionsNamed_eq_error_iff_find? {e : Error} :
    m.functionsNamed names = .error e ↔
      ∃ name, names.find? (fun name => (m.function? name).isNone) = some name ∧
        e = .functionNotFound name := by
  induction names with
  | nil => simp [functionsNamed]
  | cons name names ih =>
    rw [functionsNamed, List.find?_cons]
    cases m.function? name with
    | none => simp [eq_comm (a := e)]
    | some f => rw [bind_pure_eq_error, ih, Option.isNone_some]

/-- **Missing names.** The first name that no function has is the one that is reported. -/
theorem functionsNamed_eq_error {e : Error} :
    m.functionsNamed names = .error e ↔
      ∃ before name after, names = before ++ name :: after ∧ (∀ first ∈ before, m.Defines first) ∧
        ¬ m.Defines name ∧ e = .functionNotFound name := by
  have hfound (name : String) : (!(m.function? name).isNone) = true ↔ m.Defines name := by
    rw [Option.not_isNone, Option.isSome_iff_exists, defines_iff]
  simp only [functionsNamed_eq_error_iff_find?, List.find?_eq_some_iff_append, hfound,
    Option.isNone_iff_eq_none, ← not_defines_iff]
  constructor
  · rintro ⟨name, ⟨hmissing, before, after, hnames, hbefore⟩, he⟩
    exact ⟨before, name, after, hnames, hbefore, hmissing, he⟩
  · rintro ⟨before, name, after, hnames, hbefore, hmissing, he⟩
    exact ⟨name, ⟨hmissing, before, after, hnames, hbefore⟩, he⟩

/-! ### Needed declarations -/

theorem mem_neededDeclarations (h : m.HasDistinctSymbols) {d : Prototype} :
    d ∈ m.neededDeclarations fs ↔ d ∈ m.declarations ∧ ∃ f ∈ fs, f.CallsSymbol d.name := by
  simp only [neededDeclarations, calledSymbols, List.mem_filterMap, mem_ascending, List.mem_flatMap,
    Function.mem_callees, h.declaration?_eq_some_iff]
  constructor
  · rintro ⟨_, hcalled, hd, rfl⟩
    exact ⟨hd, hcalled⟩
  · rintro ⟨hd, hcalled⟩
    exact ⟨d.name, hcalled, hd, rfl⟩

theorem pairwise_neededDeclarations (m : Module) (fs : List Function) :
    (m.neededDeclarations fs).Pairwise fun d e => utf8 d.name < utf8 e.name := by
  refine (pairwise_ascending _).filterMap _ fun symbol symbol' hlt d hd e he => ?_
  rw [(mem_of_declaration? hd).2, (mem_of_declaration? he).2]
  exact utf8_lt_utf8.2 hlt

theorem HasDistinctSymbols.shows_render (h : m.HasDistinctSymbols) (fs : List Function) :
    m.Shows fs (m.neededDeclarations fs) (m.render fs) where
  text_eq := rfl
  mem_iff _ := mem_neededDeclarations h
  ascending := pairwise_neededDeclarations m fs

/-- **Closed texts.** A text is closed when its functions pass verification and call no function of
the module that is not among them. -/
theorem isClosed_neededDeclarations (h : m.HasDistinctSymbols)
    (hverify : ∀ f ∈ fs, f.verify m = .ok ())
    (hcalls : ∀ f ∈ fs, ∀ symbol, f.CallsSymbol symbol → m.Defines symbol →
      ∃ g ∈ fs, g.name = symbol) :
    IsClosed fs (m.neededDeclarations fs) := by
  intro f hf symbol hcall
  obtain ⟨signature, hsignature⟩ :=
    Function.exists_signature?_of_verify (hverify f hf) (Function.mem_callees.2 hcall)
  rcases contains_eq_true.1 (contains_of_signature? hsignature) with ⟨d, hd, rfl⟩ | hdefined
  · exact Or.inr ⟨d, (mem_neededDeclarations h).2 ⟨hd, f, hf, hcall⟩, rfl⟩
  · exact Or.inl (hcalls f hf symbol hcall hdefined)

/-! ### Texts -/

theorem renderFunctions_eq_ok {text : String} :
    m.renderFunctions names = .ok text ↔
      ∃ fs, m.functionsNamed names = .ok fs ∧ m.render fs = text := by
  simp only [renderFunctions, bind_eq_ok, pure, Except.pure, Except.ok.injEq]

theorem renderFunctions_eq_error {e : Error} :
    m.renderFunctions names = .error e ↔ m.functionsNamed names = .error e :=
  bind_pure_eq_error

theorem exists_renderFunctions_iff :
    (∃ text, m.renderFunctions names = .ok text) ↔ ∀ name ∈ names, m.Defines name := by
  constructor
  · rintro ⟨text, htext⟩ name hname
    obtain ⟨fs, hfs, -⟩ := renderFunctions_eq_ok.1 htext
    rw [← map_name_of_functionsNamed hfs] at hname
    obtain ⟨f, hf, rfl⟩ := List.mem_map.1 hname
    exact ⟨f, (mem_of_functionsNamed hfs hf).1, rfl⟩
  · intro h
    exact exists_renderFunctions fun name hname => defines_iff.1 (h name hname)

/-- Two modules with the same head give the same text for some names where they have the same
functions under these names and the same declarations of the symbols that these functions call. -/
theorem HasDistinctSymbols.renderFunctions_eq (h : m.HasDistinctSymbols)
    (h' : m'.HasDistinctSymbols) (hname : m'.name = m.name) (htriple : m'.triple = m.triple)
    (hfunctions : ∀ f : Function, f.name ∈ names → (f ∈ m'.functions ↔ f ∈ m.functions))
    (hdeclarations : ∀ f ∈ m.functions, f.name ∈ names → ∀ d : Prototype, f.CallsSymbol d.name →
      (d ∈ m'.declarations ↔ d ∈ m.declarations)) :
    m'.renderFunctions names = m.renderFunctions names := by
  refine renderFunctions_congr hname htriple (fun name hlisted => Option.ext fun f => ?_)
    fun f hf hlisted callee hcallee => Option.ext fun d => ?_
  · rw [h.function?_eq_some_iff, h'.function?_eq_some_iff, and_congr_left_iff]
    rintro rfl
    exact hfunctions f hlisted
  · rw [h.declaration?_eq_some_iff, h'.declaration?_eq_some_iff, and_congr_left_iff]
    rintro rfl
    exact hdeclarations f hf hlisted d (Function.mem_callees.1 hcallee)

/-- **What texts of some functions show.** Take a module that changes to a new builder lead to, and
any names. The text for these names exists if and only if every one of them is that of a function;
otherwise the first one that is not is reported. The text shows the functions of the names, in the
order of the names, and exactly the declarations that these functions need. It is closed where the
module passes verification and the functions call no other function of the module. The text of the
whole module shows all functions, and it is closed where the module passes verification. The text
does not depend on other functions or declarations, nor on the order in which they were added. -/
theorem renderFunctions_exact (hm : m.IsReachable) (names : List String) :
    ((∃ text, m.renderFunctions names = .ok text) ↔ ∀ name ∈ names, m.Defines name) ∧
    (∀ e, m.renderFunctions names = .error e ↔
      ∃ before name after, names = before ++ name :: after ∧ (∀ first ∈ before, m.Defines first) ∧
        ¬ m.Defines name ∧ e = .functionNotFound name) ∧
    (∀ text, m.renderFunctions names = .ok text →
      ∃ fs ds, fs.map Function.name = names ∧ (∀ f ∈ fs, f ∈ m.functions) ∧ m.Shows fs ds text ∧
        (m.verify = .ok () →
          (∀ f ∈ fs, ∀ symbol, f.CallsSymbol symbol → m.Defines symbol → symbol ∈ names) →
            IsClosed fs ds)) ∧
    (∃ ds, m.Shows m.functions ds m.text ∧ (m.verify = .ok () → IsClosed m.functions ds)) ∧
    ∀ m' : Module, m'.IsReachable → m'.name = m.name → m'.triple = m.triple →
      (∀ f : Function, f.name ∈ names → (f ∈ m'.functions ↔ f ∈ m.functions)) →
      (∀ f ∈ m.functions, f.name ∈ names → ∀ d : Prototype, f.CallsSymbol d.name →
        (d ∈ m'.declarations ↔ d ∈ m.declarations)) →
      m'.renderFunctions names = m.renderFunctions names := by
  have hdistinct := hm.hasDistinctSymbols
  refine ⟨exists_renderFunctions_iff, fun e => ?error, fun text htext => ?ok, ?whole, ?other⟩
  case error => exact renderFunctions_eq_error.trans functionsNamed_eq_error
  case ok =>
    obtain ⟨fs, hfs, rfl⟩ := renderFunctions_eq_ok.1 htext
    have hnames : fs.map Function.name = names := map_name_of_functionsNamed hfs
    have hmem : ∀ f ∈ fs, f ∈ m.functions := fun f hf => (mem_of_functionsNamed hfs hf).1
    refine ⟨fs, m.neededDeclarations fs, hnames, hmem, hdistinct.shows_render fs,
      fun hverify hcalls => ?_⟩
    refine isClosed_neededDeclarations hdistinct
      (fun f hf => verify_eq_ok_iff.1 hverify f (hmem f hf)) fun f hf symbol hcall hdefined => ?_
    have hlisted : symbol ∈ fs.map Function.name := hnames ▸ hcalls f hf symbol hcall hdefined
    exact List.mem_map.1 hlisted
  case whole =>
    refine ⟨m.neededDeclarations m.functions, hdistinct.shows_render m.functions, fun hverify => ?_⟩
    exact isClosed_neededDeclarations hdistinct (verify_eq_ok_iff.1 hverify)
      fun _ _ _ _ hdefined => hdefined
  case other =>
    intro m' hm' hname htriple hfunctions hdeclarations
    exact hdistinct.renderFunctions_eq hm'.hasDistinctSymbols hname htriple hfunctions hdeclarations

end Module

/-! ### A module cut down -/

namespace CutDown

/-- A symbol with one parameter. -/
def symbol (name : String) : Prototype := ⟨name, .i32, [.i32]⟩

/-- A function that calls two symbols, one of them twice. -/
def inner : Definition :=
  ⟨⟨"f", .i32, [.i32]⟩, .call "zeta" [.call "alpha" [.call "zeta" [.var "i0"]]]⟩

/-- A function that calls the first one. -/
def outer : Definition := ⟨⟨"g", .i32, []⟩, .call "f" [.int 7 32]⟩

/-- A function that calls a third symbol. -/
def other : Definition := ⟨⟨"h", .i32, [.i32]⟩, .call "beta" [.var "i0"]⟩

/-- The module with the first two functions and what they call. -/
def small : Module :=
  ((Builder.new "m").changes
    [.declare (symbol "alpha"), .declare (symbol "zeta"), .build inner, .build outer]).module

/-- The module with all three functions, where the symbols are declared in another order. -/
def whole : Module :=
  ((Builder.new "m").changes [.declare (symbol "zeta"), .declare (symbol "beta"), .build other,
    .declare (symbol "alpha"), .build inner, .build outer]).module

theorem isReachable_small : small.IsReachable := ⟨_, _, rfl⟩

theorem isReachable_whole : whole.IsReachable := ⟨_, _, rfl⟩

/-- The functions under two names call no function under another name. -/
theorem mem_names_of_callsSymbol {f : Function} (hf : f ∈ whole.functions)
    (hlisted : f.name ∈ ["g", "f"]) {callee : String} (hcall : f.CallsSymbol callee)
    (hdefined : whole.Defines callee) : callee ∈ ["g", "f"] := by
  have hfound : (whole.function? callee).isSome = true :=
    Option.isSome_iff_exists.2 (Module.defines_iff.1 hdefined)
  have hcalls : ∀ f ∈ whole.functions, f.name ∈ ["g", "f"] → ∀ callee ∈ f.callees,
      (whole.function? callee).isSome = true → callee ∈ ["g", "f"] := by decide +kernel
  exact hcalls f hf hlisted callee (Function.mem_callees.2 hcall) hfound

end CutDown

/-- The third function and the symbol that it calls are not shown. -/
theorem Module.renderFunctions_exact_cutDown :
    (∃ fs ds text, CutDown.whole.renderFunctions ["g", "f"] = .ok text ∧
      fs.map Function.name = ["g", "f"] ∧ CutDown.whole.Shows fs ds text ∧ IsClosed fs ds ∧
      CutDown.symbol "beta" ∉ ds) ∧
    CutDown.whole.renderFunctions ["g", "x", "y"] = .error (.functionNotFound "x") ∧
    CutDown.small.renderFunctions ["g", "f"] = CutDown.whole.renderFunctions ["g", "f"] := by
  obtain ⟨hexists, -, hshown, -, hother⟩ :=
    renderFunctions_exact CutDown.isReachable_whole ["g", "f"]
  obtain ⟨-, hmissing, -⟩ := renderFunctions_exact CutDown.isReachable_whole ["g", "x", "y"]
  have hverify : CutDown.whole.verify = .ok () := by decide +kernel
  have hfunctions : CutDown.whole.functions.map Function.name = ["h", "f", "g"] := by
    decide +kernel
  have hdefines (name : String) : CutDown.whole.Defines name ↔ name ∈ ["h", "f", "g"] := by
    rw [← hfunctions, List.mem_map, Defines]
  have huncalled : ∀ f ∈ CutDown.whole.functions, f.name ∈ ["g", "f"] → "beta" ∉ f.callees := by
    decide +kernel
  have hadded : ∃ h : Function, h.name = "h" ∧
      CutDown.whole.functions = h :: CutDown.small.functions := ⟨_, rfl, rfl⟩
  have hdeclared : CutDown.small.declarations = [CutDown.symbol "alpha", CutDown.symbol "zeta"] ∧
      CutDown.whole.declarations =
        [CutDown.symbol "alpha", CutDown.symbol "beta", CutDown.symbol "zeta"] := ⟨rfl, rfl⟩
  refine ⟨?shown, (hmissing _).2 ⟨["g"], "x", ["y"], rfl, ?found, ?missing, rfl⟩, ?other⟩
  case found => simp [hdefines]
  case missing => simp [hdefines]
  case shown =>
    obtain ⟨text, htext⟩ := hexists.2 (by simp [hdefines])
    obtain ⟨fs, ds, hnames, hmem, hshows, hclosed⟩ := hshown text htext
    have hlisted {f : Function} (hf : f ∈ fs) : f.name ∈ ["g", "f"] :=
      hnames ▸ List.mem_map_of_mem hf
    have hclosed := hclosed hverify fun f hf callee hcall hdefined =>
      CutDown.mem_names_of_callsSymbol (hmem f hf) (hlisted hf) hcall hdefined
    refine ⟨fs, ds, text, htext, hnames, hshows, hclosed, fun hbeta => ?_⟩
    obtain ⟨-, f, hf, hcall⟩ := (hshows.mem_iff _).1 hbeta
    exact huncalled f (hmem f hf) (hlisted hf) (Function.mem_callees.2 hcall)
  case other =>
    refine hother _ CutDown.isReachable_small rfl rfl (fun f hlisted => ?_)
      fun f hf hlisted d hcall => ?_
    · obtain ⟨h, hname, hfunctions⟩ := hadded
      rw [hfunctions, List.mem_cons, or_iff_right]
      rintro rfl
      exact absurd hlisted (hname ▸ by decide)
    · have hne : d ≠ CutDown.symbol "beta" := by
        rintro rfl
        exact huncalled f hf hlisted (Function.mem_callees.2 hcall)
      rw [hdeclared.1, hdeclared.2]
      simp [hne]

end VectorTrial.Program
