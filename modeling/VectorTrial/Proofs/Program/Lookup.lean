import Mathlib.Data.List.Basic
import Mathlib.Data.String.Basic
import VectorTrial.Program.Text
import VectorTrial.Proofs.Program.Building

/-!
# Symbols of a module that changes

What is found under a name after a module was changed: a declaration touches its own name only, a
function that is added at the end hides nothing, and to erase a function leaves all others.

## Main results

* `VectorTrial.find?_insertBy` — what is found in an ascending list after an insertion.
* `VectorTrial.Program.Module.declare_eq_ok` — what a declaration does to a module.
* `VectorTrial.Program.Module.function?_append` — what is found after a function was added.
* `VectorTrial.Program.Module.exists_renderFunctions` — a module can be cut down to functions that
  it has.
-/

namespace VectorTrial

/-! ### Ascending lists -/

section InsertBy

variable {α : Type} (key : α → String)

theorem mem_insertBy {a x : α} {xs : List α} (h : x ∈ insertBy key a xs) : x = a ∨ x ∈ xs := by
  induction xs with
  | nil => exact Or.inl (List.mem_singleton.1 h)
  | cons b rest ih =>
    unfold insertBy at h
    split_ifs at h with hlt heq
    · exact List.mem_cons.1 h
    · rcases List.mem_cons.1 h with h | h
      · exact Or.inl h
      · exact Or.inr (List.mem_cons_of_mem _ h)
    · rcases List.mem_cons.1 h with h | h
      · exact Or.inr (h ▸ List.mem_cons_self)
      · exact (ih h).imp_right (List.mem_cons_of_mem _)

/-- An inserted item is found under its key, and all other keys find what they found before. -/
theorem find?_insertBy (a : α) (xs : List α) (k : String) :
    (insertBy key a xs).find? (fun x => key x == k) =
      if key a = k then some a else xs.find? (fun x => key x == k) := by
  have hfind : ∀ (x : α) (rest : List α), (x :: rest).find? (fun x => key x == k) =
      if key x = k then some x else rest.find? (fun x => key x == k) := by
    intro x rest
    by_cases hx : key x = k
    · rw [if_pos hx, List.find?_cons, beq_iff_eq.2 hx]
    · rw [if_neg hx, List.find?_cons, beq_eq_false_iff_ne.2 hx]
  induction xs with
  | nil => exact hfind a []
  | cons b rest ih =>
    by_cases hlt : key a < key b
    · rw [insertBy, if_pos hlt, hfind]
    rw [insertBy, if_neg hlt]
    by_cases heq : key a = key b
    · -- The item whose place is taken has the same key.
      rw [if_pos heq, hfind, hfind, heq]
      by_cases hk : key b = k
      · rw [if_pos hk, if_pos hk]
      · rw [if_neg hk, if_neg hk, if_neg hk]
    · rw [if_neg heq, hfind, hfind, ih]
      by_cases hb : key b = k
      · rw [if_pos hb, if_pos hb, if_neg fun ha => heq (ha.trans hb.symm)]
      · rw [if_neg hb, if_neg hb]

/-- An item with a new key takes no place. -/
theorem sublist_insertBy {a : α} {xs : List α} (hnew : ∀ x ∈ xs, key x ≠ key a) :
    xs.Sublist (insertBy key a xs) := by
  induction xs with
  | nil => exact List.nil_sublist _
  | cons b rest ih =>
    obtain ⟨hb, hrest⟩ := List.forall_mem_cons.1 hnew
    unfold insertBy
    split_ifs with hlt heq
    · exact List.sublist_cons_self a (b :: rest)
    · exact absurd heq.symm hb
    · exact (ih hrest).cons_cons b

/-- An item is put at its place. -/
theorem pairwise_insertBy {a : α} {xs : List α} (h : xs.Pairwise fun x y => key x < key y) :
    (insertBy key a xs).Pairwise fun x y => key x < key y := by
  induction xs with
  | nil => exact List.pairwise_singleton _ _
  | cons b rest ih =>
    obtain ⟨hb, hrest⟩ := List.pairwise_cons.1 h
    unfold insertBy
    split_ifs with hlt heq
    · exact List.pairwise_cons.2
        ⟨List.forall_mem_cons.2 ⟨hlt, fun x hx => hlt.trans (hb x hx)⟩, h⟩
    · exact List.pairwise_cons.2 ⟨fun x hx => heq ▸ hb x hx, hrest⟩
    · have hgt : key b < key a := (lt_or_gt_of_ne heq).resolve_left hlt
      refine List.pairwise_cons.2 ⟨fun x hx => ?_, ih hrest⟩
      rcases mem_insertBy key hx with rfl | hx
      · exact hgt
      · exact hb x hx

end InsertBy

/-- Names in order ascend, so none of them is listed twice. -/
theorem pairwise_ascending (names : List String) : (ascending names).Pairwise (· < ·) := by
  induction names with
  | nil => exact List.Pairwise.nil
  | cons name names ih => exact pairwise_insertBy id ih

namespace Program.Module

/-! ### Names that are found -/

theorem mem_of_declaration? {m : Module} {name : String} {d : Prototype}
    (h : m.declaration? name = some d) : d ∈ m.declarations ∧ d.name = name := by
  have hname := List.find?_some h
  exact ⟨List.mem_of_find?_eq_some h, beq_iff_eq.1 hname⟩

theorem function?_eq_none {m : Module} {name : String} :
    m.function? name = none ↔ ∀ f ∈ m.functions, f.name ≠ name := by
  simp [function?]

theorem contains_eq_false {m : Module} {name : String} :
    m.contains name = false ↔ m.declaration? name = none ∧ m.function? name = none := by
  simp [contains]

theorem signature?_of_declared {m : Module} {name : String} {d : Prototype}
    (hfunction : m.function? name = none) (hdeclared : m.declaration? name = some d) :
    m.signature? name = some d.signature := by
  rw [signature?, hfunction, hdeclared, Option.map_some]

/-- A module can be cut down to functions that it has. -/
theorem exists_renderFunctions {m : Module} {names : List String}
    (h : ∀ name ∈ names, ∃ f, m.function? name = some f) :
    ∃ text, m.renderFunctions names = .ok text := by
  have hnamed : ∃ functions, m.functionsNamed names = .ok functions := by
    induction names with
    | nil => exact ⟨[], rfl⟩
    | cons name names ih =>
      obtain ⟨⟨f, hf⟩, hnames⟩ := List.forall_mem_cons.1 h
      obtain ⟨rest, hrest⟩ := ih hnames
      refine ⟨f :: rest, ?_⟩
      rw [functionsNamed, hf]
      exact bind_eq_ok.2 ⟨rest, hrest, rfl⟩
  obtain ⟨functions, hfunctions⟩ := hnamed
  exact ⟨m.render functions, bind_eq_ok.2 ⟨functions, hfunctions, rfl⟩⟩

/-! ### Changes -/

/-- **Declarations.** A declaration is accepted where its name is not that of a function and not
declared otherwise. It changes what is found under its own name only. -/
theorem declare_eq_ok {m m' : Module} {d : Prototype} (h : m.declare d = .ok m') :
    m.function? d.name = none ∧ m'.declaration? d.name = some d ∧
      (∀ name, name ≠ d.name → m'.declaration? name = m.declaration? name) ∧
      (∀ e ∈ m'.declarations, e = d ∨ e ∈ m.declarations) ∧
      m' = { m with declarations := m'.declarations } := by
  unfold declare at h
  split at h
  · cases h
  · next hfunction =>
    have hnone : m.function? d.name = none := Option.not_isSome_iff_eq_none.1 hfunction
    split at h
    · next existing hexisting =>
      split at h
      · next hsame =>
        cases h
        exact ⟨hnone, hsame ▸ hexisting, fun _ _ => rfl, fun e he => Or.inr he, rfl⟩
      · cases h
    · cases h
      refine ⟨hnone, ?_, ?_, fun e he => mem_insertBy Prototype.name he, rfl⟩
      · rw [declaration?, find?_insertBy, if_pos rfl]
      · intro name hname
        rw [declaration?, find?_insertBy, if_neg (Ne.symm hname)]
        rfl

/-- A name that is not that of a function is declared, unless it is declared otherwise. -/
theorem exists_declare {m : Module} {d : Prototype} (hfunction : m.function? d.name = none)
    (hdeclared : ∀ e, m.declaration? d.name = some e → e = d) : ∃ m', m.declare d = .ok m' := by
  unfold declare
  rw [hfunction]
  cases he : m.declaration? d.name with
  | none => exact ⟨_, rfl⟩
  | some e =>
    rw [hdeclared e he]
    exact ⟨m, by simp⟩

theorem function?_append (m : Module) (f : Function) (name : String) :
    (m.append f).function? name =
      (m.function? name).or (if f.name = name then some f else none) := by
  rw [function?, append, List.find?_append, List.find?_singleton]
  by_cases h : f.name = name
  · rw [if_pos h, if_pos (beq_iff_eq.2 h)]
    rfl
  · rw [if_neg h, if_neg (mt beq_iff_eq.1 h)]
    rfl

end Program.Module

end VectorTrial
