import VectorTrial.Proofs.Program.Linking
import VectorTrial.Proofs.Program.Synthesis

/-!
# All or nothing

Between two requests a builder has no function under way and no names in scope, so its module can be
taken at any time. A refused request changes nothing: what was in scope while the body was emitted
is forgotten again. A function that was built is the last of its module, and to erase it gives back
the builder as it was before. Only the functions for an instruction take two steps, a declaration
and a build, and of these the first may stay when the second is refused.

## Main definitions

* `VectorTrial.Program.Builder.IsClear` — builders between two requests.
* `VectorTrial.Program.Builder.AddsModel` — a builder that has one more model declared, if any.
* `VectorTrial.Program.Builder.IsAtomic` — what every request does to a builder.

## Main results

* `VectorTrial.Program.Builder.isClear_changes` — changes leave a builder clear.
* `VectorTrial.Program.Builder.build_of_error`, `VectorTrial.Program.Builder.erase_build` — a
  refused build changes nothing, and an accepted one can be undone.
* `VectorTrial.Program.Builder.isAtomic_changes` — all requests are atomic after any changes.
-/

namespace VectorTrial.Program

/-! ### Erasures -/

namespace Module

variable {m : Module}

/-- The first function of a name is erased. -/
theorem erase_eq {before after : List Function} {f : Function}
    (hfunctions : m.functions = before ++ f :: after) (hbefore : ∀ g ∈ before, g.name ≠ f.name) :
    m.erase f.name = (some f, { m with functions := before ++ after }) := by
  have hskip : ∀ g ∈ before, ¬ (g.name == f.name) = true :=
    fun g hg => mt beq_iff_eq.1 (hbefore g hg)
  have hfind : (f :: after).find? (fun g => g.name == f.name) = some f :=
    List.find?_cons_of_pos (beq_self_eq_true f.name)
  have hdrop : (f :: after).eraseP (fun g => g.name == f.name) = after :=
    List.eraseP_cons_of_pos (beq_self_eq_true f.name)
  have hfound : m.function? f.name = some f := by
    rw [function?, hfunctions, List.find?_append, List.find?_eq_none.2 hskip, Option.none_or, hfind]
  have herased : m.functions.eraseP (fun g => g.name == f.name) = before ++ after := by
    rw [hfunctions, List.eraseP_append_right _ hskip, hdrop]
  rw [erase, hfound, herased]

/-- Where names are distinct, exactly the function of a name is erased. -/
theorem erase_of_mem (h : m.HasDistinctSymbols) {f : Function} (hf : f ∈ m.functions) :
    ∃ before after, m.functions = before ++ f :: after ∧
      (∀ g ∈ before ++ after, g.name ≠ f.name) ∧
      m.erase f.name = (some f, { m with functions := before ++ after }) := by
  obtain ⟨before, after, hfunctions⟩ := List.append_of_mem hf
  have hnodup := h.functions
  rw [hfunctions, List.map_append, List.map_cons, List.nodup_middle, List.nodup_cons,
    ← List.map_append] at hnodup
  have hother : ∀ g ∈ before ++ after, g.name ≠ f.name :=
    fun g hg hname => hnodup.1 (hname ▸ List.mem_map_of_mem hg)
  exact ⟨before, after, hfunctions, hother,
    erase_eq hfunctions fun g hg => hother g (List.mem_append_left _ hg)⟩

/-- To erase the function of a name that no function has changes nothing. -/
theorem erase_of_not_mem {name : String} (h : ∀ f ∈ m.functions, f.name ≠ name) :
    m.erase name = (none, m) := by
  have hnone : m.function? name = none := function?_eq_none.2 h
  have hfunctions : m.functions.eraseP (fun f => f.name == name) = m.functions :=
    functions_erase_of_eq_none hnone
  rw [erase, hnone, hfunctions]

/-- To erase the function that was added last under a new name gives back the module. -/
theorem erase_append {f : Function} (h : ∀ g ∈ m.functions, g.name ≠ f.name) :
    (m.append f).erase f.name = (some f, m) := by
  have herase : (m.append f).erase f.name =
      (some f, { m.append f with functions := m.functions ++ [] }) := erase_eq rfl h
  rw [herase, List.append_nil]
  rfl

/-- A declared symbol may be declared again. -/
theorem declare_of_mem (h : m.HasDistinctSymbols) {d : Prototype} (hd : d ∈ m.declarations) :
    m.declare d = .ok m := by
  have hfunction : m.function? d.name = none :=
    function?_eq_none.2 fun f hf hname => h.disjoint f hf d hd hname.symm
  rw [declare, hfunction, (h.stored d).1 hd]
  simp

/-- A declaration leaves the module as it is, or adds a symbol that was new. -/
theorem eq_or_eq_withDeclaration {m' : Module} {d : Prototype} (h : m.declare d = .ok m') :
    m' = m ∨ m.contains d.name = false ∧ m' = m.withDeclaration d := by
  cases becomes_of_declare h with
  | kept => exact Or.inl rfl
  | declared hfree => exact Or.inr ⟨hfree, rfl⟩

end Module

namespace Builder

variable {b : Builder}

/-! ### Clear builders -/

/-- **Clear builders.** No function is under way and no name is in scope. -/
structure IsClear (b : Builder) : Prop where
  scope : b.scope = []
  building : b.building = none

theorem IsClear.finish_eq (h : b.IsClear) : b.finish = b := by
  cases b
  obtain ⟨rfl, rfl⟩ := h
  rfl

/-- The module of a clear builder can be taken. -/
theorem IsClear.release?_eq (h : b.IsClear) : b.release? = some b.module := by
  rw [release?, isIdle, h.building]
  rfl

theorem isClear_new (name : String) : (new name).IsClear := ⟨rfl, rfl⟩

/-- **Refused builds.** A clear builder that refuses a function is as it was. -/
theorem build_of_error (h : b.IsClear) {d : Definition} {e : Error}
    (he : (b.build d).1 = .error e) : (b.build d).2 = b := by
  rw [build_eq] at he ⊢
  split
  · rfl
  · next hfree =>
    rw [if_neg hfree] at he
    cases hemit : d.emit b.module (Scope.ofParams d.prototype.namedParams) with
    | error e => exact h.finish_eq
    | ok f =>
      rw [hemit] at he
      cases he

/-- **Accepted builds.** A clear builder adds the function at the end of its module. -/
theorem build_of_ok (h : b.IsClear) {d : Definition} {f : Function}
    (hf : (b.build d).1 = .ok f) :
    f.name = d.name ∧ b.module.contains d.name = false ∧
      (b.build d).2 = { b with module := b.module.append f } := by
  obtain ⟨hfree, ⟨out, -, rfl⟩, -, hadded⟩ := build_eq_ok hf
  refine ⟨rfl, hfree, ?_⟩
  rw [hadded, added, h.finish_eq]

/-- **Builds can be undone.** To erase a function that was just built gives back the builder. -/
theorem erase_build (h : b.IsClear) {d : Definition} {f : Function}
    (hf : (b.build d).1 = .ok f) : (b.build d).2.erase d.name = (some f, b) := by
  obtain ⟨hname, hfree, hadded⟩ := build_of_ok h hf
  have hnew : ∀ g ∈ b.module.functions, g.name ≠ f.name :=
    Module.function?_eq_none.1 (hname ▸ (Module.contains_eq_false.1 hfree).2)
  rw [hadded, erase, ← hname, Module.erase_append hnew]

/-- **Refused declarations.** A builder that refuses a declaration is as it was. -/
theorem declare_of_fst_eq_error {d : Prototype} {e : Error} (he : (b.declare d).1 = .error e) :
    (b.declare d).2 = b := by
  cases h : b.module.declare d with
  | error e' => rw [declare_of_error h]
  | ok m =>
    rw [declare_of_ok h] at he
    cases he

/-- **Accepted declarations.** A symbol is declared if it was new, and otherwise nothing changes. -/
theorem declare_of_fst_eq_ok {d : Prototype} (hd : (b.declare d).1 = .ok ()) :
    (b.declare d).2 = b ∨ b.module.contains d.name = false ∧
      (b.declare d).2 = { b with module := b.module.withDeclaration d } := by
  cases h : b.module.declare d with
  | error e =>
    rw [declare_of_error h] at hd
    cases hd
  | ok m =>
    rw [declare_of_ok h]
    rcases Module.eq_or_eq_withDeclaration h with rfl | ⟨hnew, rfl⟩
    · exact Or.inl rfl
    · exact Or.inr ⟨hnew, rfl⟩

/-- A change leaves a builder clear. -/
theorem isClear_change (h : b.IsClear) (c : Change) : (b.change c).IsClear := by
  cases c with
  | declare d =>
    cases hdeclared : b.module.declare d with
    | error e =>
      rw [change, declare_of_error hdeclared]
      exact h
    | ok m =>
      rw [change, declare_of_ok hdeclared]
      exact ⟨h.scope, h.building⟩
  | build d =>
    rw [change]
    cases hbuilt : (b.build d).1 with
    | error e =>
      rw [build_of_error h hbuilt]
      exact h
    | ok f =>
      rw [(build_of_ok h hbuilt).2.2]
      exact ⟨h.scope, h.building⟩
  | setTriple triple => exact ⟨h.scope, h.building⟩
  | erase name => exact ⟨h.scope, h.building⟩

/-- Changes leave a builder clear. -/
theorem isClear_changes (h : b.IsClear) (cs : List Change) : (b.changes cs).IsClear := by
  induction cs generalizing b with
  | nil => exact h
  | cons c cs ih => exact ih (isClear_change h c)

/-! ### Functions for an instruction -/

/-- **One more model.** A builder is another one, or another one that declares the model of an
instruction whose symbol was new to it. -/
def AddsModel (b : Builder) (i : Intrinsic) (b' : Builder) : Prop :=
  b' = b ∨ b.module.contains i.symbol = false ∧
    b' = { b with module := b.module.withDeclaration i.model }

/-- Of a function for an instruction that is refused, at most the model stays. -/
theorem buildWithModel_of_error (h : b.IsClear) {i : Intrinsic} {d : Definition} {e : Error}
    (he : (b.buildWithModel i d).1 = .error e) : b.AddsModel i (b.buildWithModel i d).2 := by
  have hmodel := isClear_change h (.declare i.model)
  rw [change] at hmodel
  unfold buildWithModel declareModel at he ⊢
  cases hdeclared : (b.declare i.model).1 with
  | error e' =>
    have hsame := declare_of_fst_eq_error hdeclared
    rw [← Prod.eta (b.declare i.model), hdeclared]
    exact Or.inl hsame
  | ok _ =>
    have hadds := declare_of_fst_eq_ok hdeclared
    rw [← Prod.eta (b.declare i.model), hdeclared] at he ⊢
    rw [AddsModel, build_of_error hmodel he]
    exact hadds

/-! ### All requests -/

/-- **Atomic requests.** What every request does to a builder: all that was asked for, or
nothing. -/
structure IsAtomic (b : Builder) : Prop where
  /-- No function is under way and no name is in scope. -/
  clear : b.IsClear
  /-- The module can be taken. -/
  released : b.release? = some b.module
  /-- A declaration that is refused changes nothing. -/
  declare_refused : ∀ d e, (b.declare d).1 = .error e → (b.declare d).2 = b
  /-- A symbol that is declared was new, or nothing changes. -/
  declare_accepted : ∀ d, (b.declare d).1 = .ok () → (b.declare d).2 = b ∨
    b.module.contains d.name = false ∧
      (b.declare d).2 = { b with module := b.module.withDeclaration d }
  /-- To declare a symbol again with the same signature changes nothing. -/
  declare_again : ∀ d ∈ b.module.declarations, b.declare d = (.ok (), b)
  /-- A function that is refused changes nothing. -/
  build_refused : ∀ d e, (b.build d).1 = .error e → (b.build d).2 = b
  /-- A function that is built comes last, and nothing else changes. -/
  build_accepted : ∀ d f, (b.build d).1 = .ok f → f.name = d.name ∧
    (b.build d).2 =
      { b with module := { b.module with functions := b.module.functions ++ [f] } }
  /-- To erase a function that was built gives back the builder as it was before. -/
  build_undone : ∀ d f, (b.build d).1 = .ok f → (b.build d).2.erase d.name = (some f, b)
  /-- To erase a function removes it and no other, and the others keep their order. -/
  erase_defined : ∀ f ∈ b.module.functions, ∃ before after,
    b.module.functions = before ++ f :: after ∧ (∀ g ∈ before ++ after, g.name ≠ f.name) ∧
      b.erase f.name =
        (some f, { b with module := { b.module with functions := before ++ after } })
  /-- To erase any other name changes nothing. -/
  erase_undefined : ∀ name, (∀ f ∈ b.module.functions, f.name ≠ name) → b.erase name = (none, b)
  /-- Of a refused function that calls a model on values, at most the model stays. -/
  buildCall_refused : ∀ name i op0 op1 e, (b.buildCall name i op0 op1).1 = .error e →
    b.AddsModel i (b.buildCall name i op0 op1).2
  /-- Of a refused function that calls a model on parameters, at most the model stays. -/
  buildWrapper_refused : ∀ name i e, (b.buildWrapper name i).1 = .error e →
    b.AddsModel i (b.buildWrapper name i).2

/-- Requests to a clear builder whose symbols are distinct are atomic. -/
theorem isAtomic (h : b.IsClear) (hdistinct : b.module.HasDistinctSymbols) : b.IsAtomic where
  clear := h
  released := h.release?_eq
  declare_refused _ _ he := declare_of_fst_eq_error he
  declare_accepted _ hd := declare_of_fst_eq_ok hd
  declare_again _ hd := declare_of_ok (Module.declare_of_mem hdistinct hd)
  build_refused _ _ he := build_of_error h he
  build_accepted _ _ hf := ⟨(build_of_ok h hf).1, (build_of_ok h hf).2.2⟩
  build_undone _ _ hf := erase_build h hf
  erase_defined f hf := by
    obtain ⟨before, after, hfunctions, hother, herase⟩ := Module.erase_of_mem hdistinct hf
    exact ⟨before, after, hfunctions, hother, by rw [erase, herase]⟩
  erase_undefined name hname := by rw [erase, Module.erase_of_not_mem hname]
  buildCall_refused _ _ _ _ _ he := buildWithModel_of_error h he
  buildWrapper_refused _ _ _ he := buildWithModel_of_error h he

/-- **All or nothing.** After any changes to a new builder, refused or not, every request does all
that was asked for or changes nothing; a refused function for an instruction leaves at most the
model of the instruction behind. -/
theorem isAtomic_changes (name : String) (cs : List Change) : ((new name).changes cs).IsAtomic :=
  isAtomic (isClear_changes (isClear_new name) cs)
    (changes_distinct (Module.hasDistinctSymbols_empty name) cs)

end Builder

end VectorTrial.Program
