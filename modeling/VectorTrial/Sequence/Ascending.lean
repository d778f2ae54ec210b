/-!
# Lists in ascending order of a key

Named things are listed by name, in the order of the code points of their names. That order is
also the order of the names' bytes in UTF-8.

## Main definitions

* `VectorTrial.insertBy` — puts an item at its place in an ascending list.
* `VectorTrial.ascending` — names in ascending order, each once.

## Main results

* `VectorTrial.mem_ascending` — sorting neither adds nor loses a name.
-/

namespace VectorTrial

/-- Puts an item at its place in a list that ascends by a key. An item with an equal key is
replaced. -/
def insertBy {α : Type} (key : α → String) (a : α) : List α → List α
  | [] => [a]
  | b :: rest =>
    if key a < key b then a :: b :: rest
    else if key a = key b then a :: rest
    else b :: insertBy key a rest

/-- **Names in order.** The names of a list in ascending order, each once. -/
def ascending (names : List String) : List String :=
  names.foldr (insertBy id) []

theorem mem_insertBy_id {x a : String} {xs : List String} :
    x ∈ insertBy id a xs ↔ x = a ∨ x ∈ xs := by
  induction xs with
  | nil => simp [insertBy]
  | cons b rest ih =>
    simp only [insertBy, id_eq]
    split
    · simp
    · split
      · next h => simp [h]
      · simp only [List.mem_cons, ih]
        exact or_left_comm

@[simp] theorem mem_ascending {x : String} {names : List String} :
    x ∈ ascending names ↔ x ∈ names := by
  induction names with
  | nil => simp [ascending]
  | cons a rest ih =>
    simp only [ascending, List.foldr_cons] at ih ⊢
    rw [mem_insertBy_id, ih, List.mem_cons]

end VectorTrial
