import VectorTrial.Proofs.Program.Changes

/-!
# Modules whose calls are linked

As long as no function is erased while another one calls it, a builder's module stays linked: every
function passes verification, every callee is declared or stands before its caller, and a call
never comes to mean another signature. Only the new function is verified when it is built; that
the older ones still pass follows from what they can ask of the module.

## Main definitions

* `VectorTrial.Program.Module.IsLinked` — every function passes and stands after its callees.
* `VectorTrial.Program.Module.Calls` — the call graph.
* `VectorTrial.Program.Builder.Careful` — no change erases a function that is still called.

## Main results

* `VectorTrial.Program.Module.Becomes.signature?_eq` — a change keeps the signatures of the symbols
  that it does not remove.
* `VectorTrial.Program.Module.Becomes.verify_eq_ok` — a function that passes still does after a
  change that removes nothing that it calls.
* `VectorTrial.Program.Module.Becomes.linked` — a careful change keeps a module linked.
* `VectorTrial.Program.Module.IsLinked.acyclic` — no function of a linked module calls itself, not
  even through others.
* `VectorTrial.Program.Builder.changes_keep_wellFormed` — what all changes keep.
-/

namespace VectorTrial.Program

/-! ### Removals -/

/-- Whether no function that is left calls what a change removes. -/
def Change.KeepsCallees (m : Module) (c : Change) : Prop :=
  ∀ name, c.Removes m name → ∀ f ∈ (m.erase name).2.functions, name ∉ f.callees

/-- **Careful changes.** None of the changes removes a function that a remaining one calls. -/
def Builder.Careful : Builder → List Change → Prop
  | _, [] => True
  | b, c :: cs => c.KeepsCallees b.module ∧ Careful (b.change c) cs

namespace Module

variable {m m' : Module} {c : Change}

theorem contains_eq_true {name : String} : m.contains name = true ↔
    (∃ d ∈ m.declarations, d.name = name) ∨ ∃ f ∈ m.functions, f.name = name := by
  simp [contains, declaration?, function?]

theorem contains_of_signature? {name : String} {signature : Signature}
    (h : m.signature? name = some signature) : m.contains name = true := by
  by_contra hnot
  obtain ⟨hdeclaration, hfunction⟩ := contains_eq_false.1 (eq_false_of_ne_true hnot)
  rw [signature?, hfunction, hdeclaration] at h
  cases h

theorem function?_erase_of_ne {name erased : String} (h : name ≠ erased) :
    (m.erase erased).2.function? name = m.function? name := by
  have hfind (fs : List Function) : (fs.eraseP fun f => f.name == erased).find?
      (fun f => f.name == name) = fs.find? fun f => f.name == name := by
    induction fs with
    | nil => rfl
    | cons f fs ih =>
      rw [List.eraseP_cons]
      by_cases hf : f.name = erased
      · have hother : (f.name == name) = false := beq_false_of_ne (hf ▸ h.symm)
        rw [beq_iff_eq.2 hf, List.find?_cons, hother]
        rfl
      · rw [beq_false_of_ne hf, Bool.cond_false, List.find?_cons, List.find?_cons, ih]
  exact hfind m.functions

/-- To erase the function of a name that no function has changes nothing. -/
theorem functions_erase_of_eq_none {name : String} (h : m.function? name = none) :
    (m.erase name).2.functions = m.functions :=
  List.eraseP_of_forall_not fun f hf => by simpa using function?_eq_none.1 h f hf

/-- **Signatures.** A change keeps the signature of every known symbol that it does not remove. -/
theorem Becomes.signature?_eq (hc : m.Becomes c m') {name : String}
    (hknown : m.contains name = true) (hkept : ¬ c.Removes m name) :
    m'.signature? name = m.signature? name := by
  cases hc with
  | kept => rfl
  | aimed triple => rfl
  | @declared d hfree =>
    have hne : d.name ≠ name := by
      rintro rfl
      rw [hfree] at hknown
      cases hknown
    have hdeclaration : (m.withDeclaration d).declaration? name = m.declaration? name := by
      rw [declaration?, withDeclaration, find?_insertBy, if_neg hne]
      rfl
    rw [signature?, signature?, hdeclaration]
    rfl
  | @built d out hout hfree hverify =>
    have hne : (d.assemble out).name ≠ name := by
      rintro rfl
      rw [hfree] at hknown
      cases hknown
    rw [signature?, signature?, function?_append, if_neg hne, Option.or_none]
    rfl
  | erased erased =>
    have hfunction : (m.erase erased).2.function? name = m.function? name := by
      by_cases hne : name = erased
      · subst hne
        have hnone : m.function? name = none :=
          Option.not_isSome_iff_eq_none.1 fun hsome => hkept ⟨rfl, hsome⟩
        rw [function?, functions_erase_of_eq_none hnone]
        rfl
      · exact function?_erase_of_ne hne
    rw [signature?, signature?, hfunction]
    rfl

/-- A function that passes still does after a change that removes nothing that it calls. -/
theorem Becomes.verify_eq_ok (hc : m.Becomes c m') {f : Function} (hf : f.verify m = .ok ())
    (hkept : ∀ callee ∈ f.callees, ¬ c.Removes m callee) : f.verify m' = .ok () := by
  rw [← hf]
  refine Function.verify_congr fun callee hcallee => ?_
  obtain ⟨signature, hsignature⟩ := Function.exists_signature?_of_verify hf hcallee
  exact hc.signature?_eq (contains_of_signature? hsignature) (hkept callee hcallee)

/-! ### Linked modules -/

/-- **Linked modules.** Every function passes verification, and everything that it calls is
declared or a function that stands before it. -/
structure IsLinked (m : Module) : Prop where
  verified : m.verify = .ok ()
  ordered : ∀ f ∈ m.functions, ∀ callee ∈ f.callees,
    (∃ d ∈ m.declarations, d.name = callee) ∨
      ∃ g, [g, f].Sublist m.functions ∧ g.name = callee

theorem isLinked_empty (name : String) : (empty name).IsLinked where
  verified := rfl
  ordered _ h := absurd h List.not_mem_nil

theorem verify_eq_ok_iff : m.verify = .ok () ↔ ∀ f ∈ m.functions, f.verify m = .ok () :=
  forM_eq_ok

/-- The module knows the callees of its functions. -/
theorem IsLinked.contains_callee (h : m.IsLinked) {f : Function} (hf : f ∈ m.functions)
    {callee : String} (hcallee : callee ∈ f.callees) : m.contains callee = true := by
  obtain ⟨signature, hsignature⟩ :=
    Function.exists_signature?_of_verify (verify_eq_ok_iff.1 h.verified f hf) hcallee
  exact contains_of_signature? hsignature

/-- A function that is left after a change stands in the module before it, or was built. -/
theorem Becomes.mem_functions (hc : m.Becomes c m') {f : Function} (hf : f ∈ m'.functions) :
    f ∈ m.functions ∨ f.verify m = .ok () ∧ m'.functions = m.functions ++ [f] := by
  cases hc with
  | kept => exact Or.inl hf
  | aimed triple => exact Or.inl hf
  | declared hfree => exact Or.inl hf
  | built hout hfree hverify =>
    rcases List.mem_append.1 hf with hf | hf
    · exact Or.inl hf
    · obtain rfl := List.mem_singleton.1 hf
      exact Or.inr ⟨hverify, rfl⟩
  | erased name => exact Or.inl (List.mem_of_mem_eraseP hf)

/-- A careful change removes nothing that a function calls which is left. -/
theorem Becomes.not_removes (hc : m.Becomes c m') (hcareful : c.KeepsCallees m) {f : Function}
    (hf : f ∈ m'.functions) {callee : String} (hcallee : callee ∈ f.callees) :
    ¬ c.Removes m callee := by
  intro hremoves
  cases hc with
  | kept h => exact h callee hremoves
  | aimed triple => exact hremoves
  | declared hfree => exact hremoves
  | built hout hfree hverify => exact hremoves
  | erased erased =>
    obtain rfl : erased = callee := hremoves.1
    exact hcareful erased hremoves f hf hcallee

/-- Where names are distinct, a function that is left after a change was not removed. -/
theorem Becomes.not_removes_self (hc : m.Becomes c m') (hdistinct : m.HasDistinctSymbols)
    {f : Function} (hf : f ∈ m'.functions) : ¬ c.Removes m f.name := by
  intro hremoves
  cases hc with
  | kept h => exact h f.name hremoves
  | aimed triple => exact hremoves
  | declared hfree => exact hremoves
  | built hout hfree hverify => exact hremoves
  | erased erased =>
    obtain rfl : erased = f.name := hremoves.1
    obtain ⟨a, first, rest, hfirst, ha, hfunctions, herase⟩ := List.exists_of_eraseP
      (List.mem_of_mem_eraseP hf) (p := fun g => g.name == f.name) (beq_self_eq_true f.name)
    have hnodup := hdistinct.functions
    rw [hfunctions, List.map_append, List.map_cons, List.nodup_append] at hnodup
    rcases List.mem_append.1 (herase ▸ hf : f ∈ first ++ rest) with hmem | hmem
    · exact hfirst f hmem (beq_self_eq_true f.name)
    · have haname : a.name = f.name := beq_iff_eq.1 ha
      exact (List.nodup_cons.1 hnodup.2.1).1 (haname ▸ List.mem_map_of_mem hmem)

/-- Where one function stands before another, it does so after a change that removes neither. -/
theorem Becomes.sublist (hc : m.Becomes c m') {f g : Function} (hg : ¬ c.Removes m g.name)
    (hf : ¬ c.Removes m f.name) (h : [g, f].Sublist m.functions) :
    [g, f].Sublist m'.functions := by
  cases hc with
  | kept => exact h
  | aimed triple => exact h
  | declared hfree => exact h
  | built hout hfree hverify => exact h.trans (List.sublist_append_left _ _)
  | erased erased =>
    have hother {x : Function} (hx : x ∈ m.functions)
        (hkept : ¬ (Change.erase erased).Removes m x.name) : (x.name == erased) = false := by
      refine beq_false_of_ne fun hname => hkept ⟨hname.symm, ?_⟩
      exact Option.isSome_iff_ne_none.2 fun hnone => function?_eq_none.1 hnone x hx rfl
    have hg' := hother (h.subset List.mem_cons_self) hg
    have hf' := hother (h.subset (List.mem_cons_of_mem _ List.mem_cons_self)) hf
    have hpair : [g, f].eraseP (fun x => x.name == erased) = [g, f] := by
      simp [hg', hf']
    rw [← hpair]
    exact h.eraseP

/-- **Linked modules.** A careful change keeps a module linked. -/
theorem Becomes.linked (hc : m.Becomes c m') (hdistinct : m.HasDistinctSymbols)
    (hcareful : c.KeepsCallees m) (h : m.IsLinked) : m'.IsLinked := by
  have hverify : ∀ f ∈ m'.functions, f.verify m = .ok () := by
    intro f hf
    rcases hc.mem_functions hf with hf | ⟨hverify, -⟩
    · exact verify_eq_ok_iff.1 h.verified f hf
    · exact hverify
  refine ⟨verify_eq_ok_iff.2 fun f hf => ?_, fun f hf callee hcallee => ?_⟩
  · exact hc.verify_eq_ok (hverify f hf) fun _ hcallee => hc.not_removes hcareful hf hcallee
  · rcases hc.mem_functions hf with hold | ⟨hverify, hfunctions⟩
    · rcases h.ordered f hold callee hcallee with ⟨d, hd, hname⟩ | ⟨g, hsublist, rfl⟩
      · exact Or.inl ⟨d, hc.declarations_sublist.subset hd, hname⟩
      · exact Or.inr ⟨g, hc.sublist (hc.not_removes hcareful hf hcallee)
          (hc.not_removes_self hdistinct hf) hsublist, rfl⟩
    · -- The callees of the new function were known before it was added.
      obtain ⟨signature, hsignature⟩ := Function.exists_signature?_of_verify hverify hcallee
      rcases contains_eq_true.1 (contains_of_signature? hsignature) with
        ⟨d, hd, hname⟩ | ⟨g, hg, rfl⟩
      · exact Or.inl ⟨d, hc.declarations_sublist.subset hd, hname⟩
      · refine Or.inr ⟨g, ?_, rfl⟩
        rw [hfunctions]
        exact (List.singleton_sublist.2 hg).append (List.Sublist.refl [f])

/-! ### The call graph -/

/-- **Calls.** A function of one name calls a symbol of another. -/
def Calls (m : Module) (caller callee : String) : Prop :=
  ∃ f ∈ m.functions, f.name = caller ∧ callee ∈ f.callees

end Module

theorem idxOf_lt_idxOf_of_sublist {a b : String} {names : List String} (hnodup : names.Nodup)
    (h : [a, b].Sublist names) : names.idxOf a < names.idxOf b := by
  induction names with
  | nil => cases h
  | cons x names ih =>
    obtain ⟨hx, hnodup⟩ := List.nodup_cons.1 hnodup
    have hcons {y : String} (hy : y ∈ names) : (x :: names).idxOf y = names.idxOf y + 1 :=
      List.idxOf_cons_ne _ fun heq => hx (heq ▸ hy)
    cases h with
    | cons _ h =>
      rw [hcons (h.subset List.mem_cons_self),
        hcons (h.subset (List.mem_cons_of_mem _ List.mem_cons_self))]
      exact Nat.succ_lt_succ (ih hnodup h)
    | cons_cons _ h =>
      rw [hcons (List.singleton_sublist.1 h), List.idxOf_cons_self]
      exact Nat.succ_pos _

variable {m m' : Module} {c : Change}

namespace Module

/-- **No recursion.** Along calls one comes to declared symbols or to functions that stand ever
earlier, so no function calls itself, not even through others. -/
theorem IsLinked.acyclic (h : m.IsLinked) (hdistinct : m.HasDistinctSymbols) (name : String) :
    ¬ Relation.TransGen m.Calls name name := by
  let position (name : String) : Nat := (m.functions.map Function.name).idxOf name
  have hundeclared {caller callee : String} (hcall : m.Calls caller callee) :
      ¬ ∃ d ∈ m.declarations, d.name = caller := by
    obtain ⟨f, hf, rfl, -⟩ := hcall
    rintro ⟨d, hd, hname⟩
    exact hdistinct.disjoint f hf d hd hname
  have hstep {caller callee : String} (hcall : m.Calls caller callee) :
      (∃ d ∈ m.declarations, d.name = callee) ∨ position callee < position caller := by
    obtain ⟨f, hf, rfl, hcallee⟩ := hcall
    rcases h.ordered f hf callee hcallee with hdeclared | ⟨g, hsublist, rfl⟩
    · exact Or.inl hdeclared
    · exact Or.inr (idxOf_lt_idxOf_of_sublist hdistinct.functions (hsublist.map Function.name))
  have hpath {caller callee : String} (hcalls : Relation.TransGen m.Calls caller callee) :
      (∃ d ∈ m.declarations, d.name = callee) ∨ position callee < position caller := by
    induction hcalls with
    | single hcall => exact hstep hcall
    | tail _ hcall ih =>
      rcases ih with hdeclared | hlt
      · exact absurd hdeclared (hundeclared hcall)
      · exact (hstep hcall).imp_right fun hlt' => hlt'.trans hlt
  intro hcycle
  obtain ⟨callee, hcall, -⟩ := Relation.TransGen.head'_iff.1 hcycle
  rcases hpath hcycle with hdeclared | hlt
  · exact hundeclared hcall hdeclared
  · exact Nat.lt_irrefl _ hlt

/-- A function is left by a change that does not ask to erase its name. -/
theorem Becomes.mem_functions_of_ne (hc : m.Becomes c m') {f : Function} (hf : f ∈ m.functions)
    (hne : c ≠ .erase f.name) : f ∈ m'.functions := by
  cases hc with
  | kept => exact hf
  | aimed triple => exact hf
  | declared hfree => exact hf
  | built hout hfree hverify => exact List.mem_append_left _ hf
  | erased erased =>
    have hname : ¬ (f.name == erased) = true := fun heq => hne (beq_iff_eq.1 heq ▸ rfl)
    exact (List.mem_eraseP_of_neg (p := fun g : Function => g.name == erased) hname).2 hf

end Module

/-! ### All changes -/

namespace Builder

variable {b : Builder}

theorem changes_distinct (h : b.module.HasDistinctSymbols) (cs : List Change) :
    (b.changes cs).module.HasDistinctSymbols := by
  induction cs generalizing b with
  | nil => exact h
  | cons c cs ih => exact ih ((b.becomes_change c).distinct h)

/-- Changes keep all declarations in their order. -/
theorem declarations_changes (b : Builder) (cs : List Change) :
    b.module.declarations.Sublist (b.changes cs).module.declarations := by
  induction cs generalizing b with
  | nil => exact List.Sublist.refl _
  | cons c cs ih => exact (b.becomes_change c).declarations_sublist.trans (ih (b.change c))

/-- A function that was not there before some changes passed verification in between. -/
theorem exists_verify_of_mem {cs : List Change} {f : Function}
    (hf : f ∈ (b.changes cs).module.functions) :
    f ∈ b.module.functions ∨
      ∃ earlier later, cs = earlier ++ later ∧ f.verify (b.changes earlier).module = .ok () := by
  induction cs generalizing b with
  | nil => exact Or.inl hf
  | cons c cs ih =>
    rcases ih hf with hf | ⟨earlier, later, rfl, hverify⟩
    · rcases (b.becomes_change c).mem_functions hf with hf | ⟨hverify, -⟩
      · exact Or.inl hf
      · exact Or.inr ⟨[], c :: cs, rfl, hverify⟩
    · exact Or.inr ⟨c :: earlier, later, rfl, hverify⟩

theorem careful_append {cs later : List Change} :
    b.Careful (cs ++ later) ↔ b.Careful cs ∧ (b.changes cs).Careful later := by
  induction cs generalizing b with
  | nil => simp [Careful, changes]
  | cons c cs ih =>
    rw [List.cons_append, Careful, Careful, ih, and_assoc]
    rfl

theorem changes_linked (hdistinct : b.module.HasDistinctSymbols) (h : b.module.IsLinked)
    {cs : List Change} (hcareful : b.Careful cs) : (b.changes cs).module.IsLinked := by
  induction cs generalizing b with
  | nil => exact h
  | cons c cs ih =>
    have hc := b.becomes_change c
    exact ih (hc.distinct hdistinct) (hc.linked hdistinct hcareful.1 h) hcareful.2

/-- **Calls stay resolved.** Under careful changes that do not erase it, a function stays in the
module, and its calls keep the signatures that they resolve to. -/
theorem changes_keep_calls (hdistinct : b.module.HasDistinctSymbols) (h : b.module.IsLinked)
    {cs : List Change} (hcareful : b.Careful cs) {f : Function} (hf : f ∈ b.module.functions)
    (hkept : ∀ c ∈ cs, c ≠ .erase f.name) :
    f ∈ (b.changes cs).module.functions ∧ ∀ callee ∈ f.callees,
      (b.changes cs).module.signature? callee = b.module.signature? callee := by
  induction cs generalizing b with
  | nil => exact ⟨hf, fun _ _ => rfl⟩
  | cons c cs ih =>
    obtain ⟨hc, hcs⟩ := List.forall_mem_cons.1 hkept
    have hbecomes := b.becomes_change c
    have hf' := hbecomes.mem_functions_of_ne hf hc
    obtain ⟨hmem, hlater⟩ := ih (hbecomes.distinct hdistinct)
      (hbecomes.linked hdistinct hcareful.1 h) hcareful.2 hf' hcs
    refine ⟨hmem, fun callee hcallee => (hlater callee hcallee).trans ?_⟩
    exact hbecomes.signature?_eq (h.contains_callee hf hcallee)
      (hbecomes.not_removes hcareful.1 hf' hcallee)

/-- **Modules stay well formed.** After any changes to a new builder, no two symbols of its module
share a name, and every declaration is found under its own. If none of the changes removes a
function that a remaining one calls, then the module passes verification, every callee is declared
or stands before its caller, no function calls itself, not even through others, and whatever is
declared, built or erased later, the calls of a function that is not erased keep the signatures that
they resolve to. -/
theorem changes_keep_wellFormed (name : String) (cs later : List Change) :
    ((new name).changes cs).module.HasDistinctSymbols ∧
      ((new name).Careful (cs ++ later) →
        ((new name).changes cs).module.IsLinked ∧
        (∀ caller, ¬ Relation.TransGen ((new name).changes cs).module.Calls caller caller) ∧
        ∀ f ∈ ((new name).changes cs).module.functions, (∀ c ∈ later, c ≠ .erase f.name) →
          f ∈ ((new name).changes (cs ++ later)).module.functions ∧
          ∀ callee ∈ f.callees, ∃ signature,
            ((new name).changes cs).module.signature? callee = some signature ∧
            ((new name).changes (cs ++ later)).module.signature? callee = some signature) := by
  have hempty : (new name).module.HasDistinctSymbols := Module.hasDistinctSymbols_empty name
  have hdistinct := changes_distinct hempty cs
  refine ⟨hdistinct, fun hcareful => ?_⟩
  obtain ⟨hcs, hlater⟩ := careful_append.1 hcareful
  have hlinked := changes_linked hempty (Module.isLinked_empty name) hcs
  refine ⟨hlinked, hlinked.acyclic hdistinct, fun f hf hkept => ?_⟩
  obtain ⟨hmem, hcalls⟩ := changes_keep_calls hdistinct hlinked hlater hf hkept
  rw [changes_append]
  refine ⟨hmem, fun callee hcallee => ?_⟩
  obtain ⟨signature, hsignature⟩ := Function.exists_signature?_of_verify
    (Module.verify_eq_ok_iff.1 hlinked.verified f hf) hcallee
  exact ⟨signature, hsignature, (hcalls callee hcallee).trans hsignature⟩

end Builder

/-! ### A history with refusals -/

namespace RefusedChanges

/-- The name and signature of a symbol with one parameter. -/
def symbol : Prototype := ⟨"sym", .i32, [.i32]⟩

/-- A function that calls the symbol. -/
def first : Definition := ⟨⟨"f", .i32, [.i32]⟩, .call "sym" [.var "i0"]⟩

/-- A function that calls the first function. -/
def second : Definition := ⟨⟨"g", .i32, []⟩, .call "f" [.int 7 32]⟩

/-- The functions are built before and after the symbol is declared, and the second is erased. -/
def changes : List Change :=
  [.build first, .declare symbol, .build first, .build second, .erase "g", .build second]

/-- Later changes, all but one of them refused. -/
def later : List Change := [.declare { symbol with ret := .int 8 }, .build first, .setTriple "t"]

theorem careful_changes : (Builder.new "m").Careful (changes ++ later) := by
  refine ⟨?_, ?_, ?_, ?_, ?erased, ?_, ?_, ?_, ?_, trivial⟩
  case erased =>
    rintro name ⟨rfl, -⟩
    decide
  all_goals exact fun _ h => h.elim

end RefusedChanges

theorem Builder.changes_keep_wellFormed_refusedChanges :
    (Builder.new "m").Careful (RefusedChanges.changes ++ RefusedChanges.later) ∧
      ((Builder.new "m").changes RefusedChanges.changes).module.HasDistinctSymbols ∧
      ((Builder.new "m").changes RefusedChanges.changes).module.IsLinked ∧
      ((Builder.new "m").changes RefusedChanges.changes).module.functions.map Function.name =
        ["f", "g"] ∧
      ∀ f ∈ ((Builder.new "m").changes RefusedChanges.changes).module.functions,
        f ∈ ((Builder.new "m").changes
          (RefusedChanges.changes ++ RefusedChanges.later)).module.functions := by
  have hcareful := RefusedChanges.careful_changes
  obtain ⟨hdistinct, hlinked, -, hcalls⟩ :=
    (Builder.changes_keep_wellFormed "m" RefusedChanges.changes RefusedChanges.later).imp_right
      fun h => h hcareful
  have hkept (f : Function) : ∀ c ∈ RefusedChanges.later, c ≠ .erase f.name := by
    simp [RefusedChanges.later]
  exact ⟨hcareful, hdistinct, hlinked, rfl, fun f hf => (hcalls f hf (hkept f)).1⟩

end VectorTrial.Program
