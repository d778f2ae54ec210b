import Mathlib.Data.List.Forall2

/-!
# Lists of partners

Two lists whose items are related one to one, in the same order.

## Main results

* `VectorTrial.exists_forall₂` — where each item has a partner, a list has a list of partners.
* `VectorTrial.exists_left_of_forall₂`, `VectorTrial.exists_right_of_forall₂` — an item has its
  partner in the other list.
* `VectorTrial.map_eq_map_of_forall₂`, `VectorTrial.all_eq_all_of_forall₂` — what partners agree
  on, their lists agree on.
-/

namespace VectorTrial

variable {α β γ : Type} {R : α → β → Prop} {as : List α} {bs : List β}

theorem exists_forall₂ (h : ∀ a ∈ as, ∃ b, R a b) : ∃ bs, List.Forall₂ R as bs := by
  induction as with
  | nil => exact ⟨[], .nil⟩
  | cons a as ih =>
    obtain ⟨⟨b, hb⟩, has⟩ := List.forall_mem_cons.1 h
    obtain ⟨bs, hbs⟩ := ih has
    exact ⟨b :: bs, .cons hb hbs⟩

theorem exists_right_of_forall₂ (h : List.Forall₂ R as bs) : ∀ a ∈ as, ∃ b ∈ bs, R a b := by
  induction h with
  | nil => exact fun a ha => absurd ha List.not_mem_nil
  | cons hab _ ih =>
    refine List.forall_mem_cons.2 ⟨⟨_, List.mem_cons_self, hab⟩, fun a ha => ?_⟩
    obtain ⟨b, hb, hR⟩ := ih a ha
    exact ⟨b, List.mem_cons_of_mem _ hb, hR⟩

theorem exists_left_of_forall₂ (h : List.Forall₂ R as bs) : ∀ b ∈ bs, ∃ a ∈ as, R a b :=
  exists_right_of_forall₂ h.flip

theorem map_eq_map_of_forall₂ {f : α → γ} {g : β → γ} (h : ∀ a b, R a b → g b = f a)
    (hR : List.Forall₂ R as bs) : bs.map g = as.map f := by
  induction hR with
  | nil => rfl
  | cons hab _ ih => rw [List.map_cons, List.map_cons, h _ _ hab, ih]

theorem all_eq_all_of_forall₂ {p : α → Bool} {q : β → Bool} (h : ∀ a b, R a b → p a = q b)
    (hR : List.Forall₂ R as bs) : as.all p = bs.all q := by
  induction hR with
  | nil => rfl
  | cons hab _ ih => rw [List.all_cons, List.all_cons, h _ _ hab, ih]

end VectorTrial
