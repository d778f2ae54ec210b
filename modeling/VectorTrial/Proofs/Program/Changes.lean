import Mathlib.Data.List.Nodup
import Mathlib.Logic.Relation
import VectorTrial.Proofs.Program.Lookup
import VectorTrial.Proofs.Program.Resolution

/-!
# Modules under change

A builder's module changes by declarations, builds, targets and erasures, and each of these may be
refused. Whatever the order, no two symbols ever share a name.

## Main definitions

* `VectorTrial.Program.Builder.change`, `VectorTrial.Program.Builder.changes` — the builder after
  one change or many.
* `VectorTrial.Program.Builder.ReachedBy` — one builder comes from another by changes of a kind.
* `VectorTrial.Program.Module.Becomes` — what one change can do to a module.
* `VectorTrial.Program.Module.HasDistinctSymbols` — no two symbols share a name.

## Main results

* `VectorTrial.Program.Builder.becomes_change` — what a change does to the module of a builder.
* `VectorTrial.Program.Module.Becomes.declarations_sublist` — a change keeps all declarations.
* `VectorTrial.Program.Module.Becomes.distinct` — a change keeps the symbols distinct.
-/

namespace VectorTrial.Program

/-! ### Changes -/

/-- **Changes.** What may be asked of a builder. -/
inductive Change where
  | declare (d : Prototype)
  | build (d : Definition)
  | setTriple (triple : String)
  | erase (name : String)

/-- Whether a change removes the function of a name from a module. -/
def Change.Removes (m : Module) (name : String) : Change → Prop
  | .erase erased => erased = name ∧ (m.function? name).isSome = true
  | _ => False

namespace Builder

/-- The builder after a change. -/
def change (b : Builder) : Change → Builder
  | .declare d => (b.declare d).2
  | .build d => (b.build d).2
  | .setTriple triple => b.setTriple triple
  | .erase name => (b.erase name).2

/-- The builder after some changes. -/
def changes (b : Builder) (cs : List Change) : Builder := cs.foldl change b

theorem changes_append (b : Builder) (cs later : List Change) :
    b.changes (cs ++ later) = (b.changes cs).changes later :=
  List.foldl_append

/-- Whether a builder comes from another one by changes of some kind only. -/
def ReachedBy (allowed : Change → Prop) (b b' : Builder) : Prop :=
  ∃ cs, (∀ c ∈ cs, allowed c) ∧ b' = b.changes cs

theorem ReachedBy.refl (allowed : Change → Prop) (b : Builder) : ReachedBy allowed b b :=
  ⟨[], fun _ hc => absurd hc List.not_mem_nil, rfl⟩

theorem ReachedBy.change {allowed : Change → Prop} {b b' : Builder} (h : ReachedBy allowed b b')
    {c : Change} (hc : allowed c) : ReachedBy allowed b (b'.change c) := by
  obtain ⟨cs, hcs, rfl⟩ := h
  refine ⟨cs ++ [c], List.forall_mem_append.2 ⟨hcs, List.forall_mem_singleton.2 hc⟩, ?_⟩
  rw [changes_append]
  rfl

theorem ReachedBy.trans {allowed : Change → Prop} {b b' b'' : Builder}
    (h : ReachedBy allowed b b') (h' : ReachedBy allowed b' b'') : ReachedBy allowed b b'' := by
  obtain ⟨cs, hcs, rfl⟩ := h
  obtain ⟨cs', hcs', rfl⟩ := h'
  exact ⟨cs ++ cs', List.forall_mem_append.2 ⟨hcs, hcs'⟩, (changes_append b cs cs').symm⟩

theorem ReachedBy.mono {allowed allowed' : Change → Prop} {b b' : Builder}
    (h : ReachedBy allowed b b') (himp : ∀ c, allowed c → allowed' c) :
    ReachedBy allowed' b b' := by
  obtain ⟨cs, hcs, rfl⟩ := h
  exact ⟨cs, fun c hc => himp c (hcs c hc), rfl⟩

/-- What holds of the module of a builder and is kept by changes of some kind holds after them. -/
theorem ReachedBy.module {allowed : Change → Prop} {b b' : Builder} (h : ReachedBy allowed b b')
    {P : Module → Prop} (hstart : P b.module)
    (hkept : ∀ (b : Builder) (c : Change), allowed c → P b.module → P (b.change c).module) :
    P b'.module := by
  obtain ⟨cs, hcs, rfl⟩ := h
  induction cs generalizing b with
  | nil => exact hstart
  | cons c cs ih =>
    obtain ⟨hc, hcs⟩ := List.forall_mem_cons.1 hcs
    exact ih (hkept b c hc hstart) hcs

end Builder

namespace Module

/-- The module with one more declaration. -/
def withDeclaration (m : Module) (d : Prototype) : Module :=
  { m with declarations := insertBy Prototype.name d m.declarations }

/-- **One change.** What a change can do to a module: nothing, unless it removes a function, or what
it asks for, where names are free and the new function passes. -/
inductive Becomes (m : Module) : Change → Module → Prop
  | kept {c : Change} (h : ∀ name, ¬ c.Removes m name) : Becomes m c m
  | declared {d : Prototype} (hfree : m.contains d.name = false) :
      Becomes m (.declare d) (m.withDeclaration d)
  | built {d : Definition} {out : Emitted}
      (hout : d.body.emit m (Scope.ofParams d.prototype.namedParams) 0 = .ok out)
      (hfree : m.contains (d.assemble out).name = false)
      (hverify : (d.assemble out).verify m = .ok ()) :
      Becomes m (.build d) (m.append (d.assemble out))
  | aimed (triple : String) : Becomes m (.setTriple triple) (m.setTriple triple)
  | erased (name : String) : Becomes m (.erase name) (m.erase name).2

end Module

theorem Module.becomes_of_declare {m m' : Module} {d : Prototype} (h : m.declare d = .ok m') :
    m.Becomes (.declare d) m' := by
  unfold Module.declare at h
  split at h
  · cases h
  · next hfunction =>
    split at h
    · split at h
      · cases h
        exact .kept fun _ => not_false
      · cases h
    · next hdeclaration =>
      cases h
      have hfree : m.contains d.name = false :=
        contains_eq_false.2 ⟨hdeclaration, Option.not_isSome_iff_eq_none.1 hfunction⟩
      exact .declared hfree

/-- The module of a builder after a change. -/
theorem Builder.becomes_change (b : Builder) (c : Change) :
    b.module.Becomes c (b.change c).module := by
  cases c with
  | declare d =>
    cases h : b.module.declare d with
    | error e =>
      rw [change, declare_of_error h]
      exact .kept fun _ => not_false
    | ok m =>
      rw [change, declare_of_ok h]
      exact Module.becomes_of_declare h
  | build d =>
    cases h : (b.build d).1 with
    | error e =>
      have hmodule : (b.build d).2.module = b.module := by
        rw [build_eq] at h ⊢
        split
        · rfl
        · next hfree =>
          rw [if_neg hfree] at h
          cases hemit : d.emit b.module (Scope.ofParams d.prototype.namedParams) with
          | error e => rfl
          | ok f =>
            rw [hemit] at h
            cases h
      rw [change, hmodule]
      exact .kept fun _ => not_false
    | ok f =>
      obtain ⟨hfree, ⟨out, hout, rfl⟩, hverify, hadded⟩ := build_eq_ok h
      rw [change, hadded]
      exact .built hout hfree hverify
  | setTriple triple => exact .aimed triple
  | erase name => exact .erased name

namespace Module

variable {m m' : Module} {c : Change}

/-! ### Declarations -/

/-- A symbol that is found was declared before or by the change. -/
theorem Becomes.declared_or (hc : m.Becomes c m') {d : Prototype} (hd : d ∈ m'.declarations) :
    c = .declare d ∨ d ∈ m.declarations := by
  cases hc with
  | kept => exact Or.inr hd
  | aimed triple => exact Or.inr hd
  | built hout hfree hverify => exact Or.inr hd
  | erased name => exact Or.inr hd
  | declared hfree =>
    rcases mem_insertBy Prototype.name hd with rfl | hd
    · exact Or.inl rfl
    · exact Or.inr hd

/-- **Declarations stay.** A change keeps all declarations in their order. -/
theorem Becomes.declarations_sublist (hc : m.Becomes c m') :
    m.declarations.Sublist m'.declarations := by
  cases hc with
  | kept => exact List.Sublist.refl _
  | aimed triple => exact List.Sublist.refl _
  | built hout hfree hverify => exact List.Sublist.refl _
  | erased name => exact List.Sublist.refl _
  | declared hfree =>
    refine sublist_insertBy Prototype.name fun e he hname => ?_
    have hfound := List.find?_eq_none.1 (contains_eq_false.1 hfree).1 e he
    exact hfound (beq_iff_eq.2 hname)

/-- What is found under a declared name is still found after a change. -/
theorem Becomes.declaration?_eq (hc : m.Becomes c m') {name : String} {d : Prototype}
    (hd : m.declaration? name = some d) : m'.declaration? name = some d := by
  cases hc with
  | kept => exact hd
  | aimed triple => exact hd
  | built hout hfree hverify => exact hd
  | erased name => exact hd
  | @declared new hfree =>
    have hne : new.name ≠ name := by
      rintro rfl
      rw [(contains_eq_false.1 hfree).1] at hd
      cases hd
    rw [declaration?, withDeclaration, find?_insertBy, if_neg hne]
    exact hd

/-! ### Distinct symbols -/

/-- **Distinct symbols.** The functions of a module have different names, none of them is declared,
and every declaration is found under its own name. -/
structure HasDistinctSymbols (m : Module) : Prop where
  functions : (m.functions.map Function.name).Nodup
  disjoint : ∀ f ∈ m.functions, ∀ d ∈ m.declarations, d.name ≠ f.name
  stored : ∀ d, d ∈ m.declarations ↔ m.declaration? d.name = some d

theorem hasDistinctSymbols_empty (name : String) : (empty name).HasDistinctSymbols where
  functions := List.nodup_nil
  disjoint _ h := absurd h List.not_mem_nil
  stored d := by simp [empty, declaration?]

theorem stored_of_insertBy {d : Prototype} (hfree : m.contains d.name = false)
    (h : m.HasDistinctSymbols) (e : Prototype) :
    e ∈ (m.withDeclaration d).declarations ↔
      (m.withDeclaration d).declaration? e.name = some e := by
  refine ⟨fun he => ?_, fun he => (mem_of_declaration? he).1⟩
  rcases mem_insertBy Prototype.name he with rfl | he
  · rw [declaration?, withDeclaration, find?_insertBy, if_pos rfl]
  · exact (Becomes.declared hfree).declaration?_eq ((h.stored e).1 he)

/-- **Distinct symbols.** A change keeps the symbols of a module distinct. -/
theorem Becomes.distinct (hc : m.Becomes c m') (h : m.HasDistinctSymbols) :
    m'.HasDistinctSymbols := by
  cases hc with
  | kept => exact h
  | aimed triple => exact ⟨h.functions, h.disjoint, h.stored⟩
  | declared hfree =>
    refine ⟨h.functions, fun f hf e he => ?_, stored_of_insertBy hfree h⟩
    rcases mem_insertBy Prototype.name he with rfl | he
    · exact Ne.symm (function?_eq_none.1 (contains_eq_false.1 hfree).2 f hf)
    · exact h.disjoint f hf e he
  | @built d out hout hfree hverify =>
    obtain ⟨hdeclaration, hfunction⟩ := contains_eq_false.1 hfree
    refine ⟨?_, fun f hf e he => ?_, h.stored⟩
    · have hnew : (d.assemble out).name ∉ m.functions.map Function.name := by
        rw [List.mem_map]
        rintro ⟨f, hf, hname⟩
        exact function?_eq_none.1 hfunction f hf hname
      rw [append, List.map_append, List.map_singleton, ← List.concat_eq_append]
      exact h.functions.concat hnew
    · rcases List.mem_append.1 hf with hf | hf
      · exact h.disjoint f hf e he
      · obtain rfl := List.mem_singleton.1 hf
        intro hname
        have hfound := (h.stored e).1 he
        rw [hname, hdeclaration] at hfound
        cases hfound
  | erased name =>
    refine ⟨h.functions.sublist ((List.eraseP_sublist).map _), fun f hf => ?_, h.stored⟩
    exact h.disjoint f (List.mem_of_mem_eraseP hf)

end Module

end VectorTrial.Program
