/-!
# First occurrences

A list without its repetitions: of equal items only the first stays, and the others keep their
order.

## Main definitions

* `VectorTrial.distinct` — the first occurrences in a list.

## Main results

* `VectorTrial.mem_distinct` — the same items occur.
* `VectorTrial.nodup_distinct` — no item occurs twice.
* `VectorTrial.distinct_append` — the first occurrences in two lists, one after the other.
* `VectorTrial.find?_distinct` — the first item of a kind is a first occurrence.
* `VectorTrial.pairwise_distinct` — the order of the first occurrences.
-/

namespace VectorTrial

/-- **First occurrences.** The items of a list in order, each at its first occurrence only. -/
def distinct {α : Type} [DecidableEq α] : List α → List α
  | [] => []
  | x :: rest => x :: (distinct rest).filter fun y => y ≠ x

variable {α : Type} [DecidableEq α]

@[simp] theorem mem_distinct {a : α} {xs : List α} : a ∈ distinct xs ↔ a ∈ xs := by
  induction xs with
  | nil => simp [distinct]
  | cons x rest ih =>
    by_cases h : a = x
    · simp [distinct, h]
    · simp [distinct, h, ih]

theorem nodup_distinct (xs : List α) : (distinct xs).Nodup := by
  induction xs with
  | nil => simp [distinct]
  | cons x rest ih =>
    rw [distinct, List.nodup_cons]
    exact ⟨by simp, ih.sublist List.filter_sublist⟩

theorem distinct_eq_self_of_nodup {xs : List α} (h : xs.Nodup) : distinct xs = xs := by
  induction xs with
  | nil => rfl
  | cons x rest ih =>
    obtain ⟨hx, hrest⟩ := List.nodup_cons.1 h
    have hne : ∀ y ∈ rest, decide (y ≠ x) = true := fun y hy =>
      decide_eq_true fun hyx => hx (hyx ▸ hy)
    rw [distinct, ih hrest, List.filter_eq_self.2 hne]

/-- Of the items after a list only those that do not occur in it stay. -/
theorem distinct_append (xs ys : List α) :
    distinct (xs ++ ys) = distinct xs ++ (distinct ys).filter fun y => y ∉ xs := by
  induction xs with
  | nil => exact (List.filter_eq_self.2 fun y _ => decide_eq_true List.not_mem_nil).symm
  | cons x rest ih =>
    rw [List.cons_append, distinct, ih, List.filter_append, List.filter_filter, distinct,
      List.cons_append]
    simp only [List.mem_cons, not_or, Bool.decide_and]

/-- The first item of a kind in a list is also the first one among the first occurrences. -/
theorem find?_distinct (p : α → Bool) (xs : List α) : (distinct xs).find? p = xs.find? p := by
  induction xs with
  | nil => rfl
  | cons x rest ih =>
    rw [distinct, List.find?_cons, List.find?_cons]
    cases hx : p x with
    | true => rfl
    | false =>
      have hkind : ∀ y, decide (decide (y ≠ x) = true ∧ p y = true) = p y := by
        intro y
        by_cases hy : y = x
        · simp [hy, hx]
        · simp [hy]
      simp only [List.find?_filter, hkind, ih]

/-- **Order of first occurrences.** Where keys ascend, an item comes before another among the first
occurrences if it has a key before all keys of the other. -/
theorem pairwise_distinct {κ : Type} {r : κ → κ → Prop} {ps : List (κ × α)}
    (h : ps.Pairwise fun p q => r p.1 q.1) :
    (distinct (ps.map Prod.snd)).Pairwise fun x y =>
      ∃ k, (k, x) ∈ ps ∧ ∀ l, (l, y) ∈ ps → r k l := by
  induction ps with
  | nil => exact .nil
  | cons p ps ih =>
    obtain ⟨k, x⟩ := p
    obtain ⟨hfirst, hrest⟩ := List.pairwise_cons.1 h
    have hlater : ∀ {y l}, y ≠ x → (l, y) ∈ (k, x) :: ps → (l, y) ∈ ps := by
      intro y l hy hmem
      rcases List.mem_cons.1 hmem with heq | hmem
      · exact absurd (Prod.mk.inj heq).2 hy
      · exact hmem
    rw [List.map_cons, distinct, List.pairwise_cons, List.pairwise_filter]
    constructor
    · intro y hy
      have hne : y ≠ x := of_decide_eq_true (List.mem_filter.1 hy).2
      exact ⟨k, List.mem_cons_self, fun l hl => hfirst (l, y) (hlater hne hl)⟩
    · refine (ih hrest).imp ?_
      rintro y z ⟨l, hl, hbefore⟩ - hz
      have hne : z ≠ x := of_decide_eq_true hz
      exact ⟨l, List.mem_cons_of_mem _ hl, fun l' hl' => hbefore l' (hlater hne hl')⟩

end VectorTrial
