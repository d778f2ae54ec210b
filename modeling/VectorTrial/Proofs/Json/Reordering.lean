import Mathlib.Data.List.Forall2
import VectorTrial.Json.Decode
import VectorTrial.Proofs.Sequence.Partners

/-!
# Members of objects in another order

Two JSON values that differ only in the order in which their objects name their members. A reader
that takes its fields by name, and refuses a name that stands twice, cannot tell the two apart: a
member is looked up among those of its name, and of these there are as many in either order.

## Main definitions

* `VectorTrial.Json.Reordered` — values up to the order of members.
* `VectorTrial.Json.IgnoresOrder` — readers that give the same for both.
* `VectorTrial.Json.depth` — how deep arrays and objects nest.
* `VectorTrial.Json.IsPlain` — values of names, integers of 64 bits, strings, arrays and objects.

## Main results

* `VectorTrial.Json.Reordered.rel_record?`, `VectorTrial.Json.Reordered.rel_tagged?` — the fields of
  a record and the tag of a tagged value.
* `VectorTrial.Json.bind_record?_obj`, `VectorTrial.Json.bind_tagged?_obj` — how an object with
  distinct names is read.
* `VectorTrial.Json.Reordered.isHeldWithin_eq` — both are kept as a whole, or neither is.
* `VectorTrial.Json.IsPlain.isHeldWithin_eq_true_iff` — a plain value is kept when it is not too
  deep.
-/

namespace VectorTrial.Json

/-! ### Reordering -/

/-- **Reordering.** The second value is the first with the members of any of its objects in another
order, at any depth. The items of an array keep their places. -/
inductive Reordered : Json → Json → Prop
  | refl (j : Json) : Reordered j j
  | arr {items items' : List Json} (hlength : items.length = items'.length)
      (hitems : ∀ p ∈ items.zip items', Reordered p.1 p.2) : Reordered (.arr items) (.arr items')
  | obj {members middle members' : List (String × Json)}
      (hnames : members.map Prod.fst = middle.map Prod.fst)
      (hvalues : ∀ p ∈ members.zip middle, Reordered p.1.2 p.2.2)
      (hperm : middle.Perm members') : Reordered (.obj members) (.obj members')

/-- Members of the same name whose values are reordered. -/
def MemberReordered (m m' : String × Json) : Prop := m.1 = m'.1 ∧ m.2.Reordered m'.2

/-- Two lists of members whose names agree, place by place, and whose values are related. -/
theorem forall₂_of_names {R : Json → Json → Prop} {members middle : List (String × Json)}
    (hnames : members.map Prod.fst = middle.map Prod.fst)
    (hvalues : ∀ p ∈ members.zip middle, R p.1.2 p.2.2) :
    List.Forall₂ (fun m m' => m.1 = m'.1 ∧ R m.2 m'.2) members middle := by
  induction members generalizing middle with
  | nil =>
    obtain rfl : middle = [] := by simpa using hnames.symm
    exact .nil
  | cons m members ih =>
    cases middle with
    | nil => simp at hnames
    | cons m' middle =>
      simp only [List.map_cons, List.cons.injEq] at hnames
      rw [List.zip_cons_cons, List.forall_mem_cons] at hvalues
      exact .cons ⟨hnames.1, hvalues.1⟩ (ih hnames.2 hvalues.2)

namespace Reordered

variable {j j' : Json} {items items' : List Json} {members members' : List (String × Json)}

theorem exists_of_arr (h : Reordered (.arr items) j) :
    ∃ items', j = .arr items' ∧ List.Forall₂ Reordered items items' := by
  cases h with
  | refl => exact ⟨items, rfl, List.forall₂_same.2 fun j _ => .refl j⟩
  | arr hlength hitems =>
    exact ⟨_, rfl, List.forall₂_iff_zip.2 ⟨hlength, fun h => hitems _ h⟩⟩

theorem exists_of_obj (h : Reordered (.obj members) j) :
    ∃ middle members', j = .obj members' ∧ List.Forall₂ MemberReordered members middle ∧
      middle.Perm members' := by
  cases h with
  | refl => exact ⟨members, members, rfl, List.forall₂_same.2 fun m _ => ⟨rfl, .refl m.2⟩, .refl _⟩
  | obj hnames hvalues hperm => exact ⟨_, _, rfl, forall₂_of_names hnames hvalues, hperm⟩

theorem obj_of_forall₂ {middle : List (String × Json)}
    (h : List.Forall₂ MemberReordered members middle) (hperm : middle.Perm members') :
    Reordered (.obj members) (.obj members') :=
  .obj (map_eq_map_of_forall₂ (fun _ _ hm => hm.1.symm) h).symm
    (fun _ hp => (List.forall₂_zip h hp).2) hperm

end Reordered

/-! ### Readers -/

/-- **Readers that ignore order.** A reader gives the same for two values that differ only in the
order of members. -/
def IgnoresOrder {α : Type} (read : Json → Option α) : Prop :=
  ∀ ⦃j j' : Json⦄, j.Reordered j' → read j = read j'

/-- A reader that looks into no array or object ignores order. -/
theorem ignoresOrder_of_flat {α : Type} {read : Json → Option α}
    (harr : ∀ items, read (.arr items) = none) (hobj : ∀ members, read (.obj members) = none) :
    IgnoresOrder read := by
  intro j j' h
  cases h with
  | refl => rfl
  | arr => rw [harr, harr]
  | obj => rw [hobj, hobj]

theorem ignoresOrder_str? : IgnoresOrder str? := ignoresOrder_of_flat (fun _ => rfl) fun _ => rfl

theorem ignoresOrder_word32? : IgnoresOrder word32? :=
  ignoresOrder_of_flat (fun _ => rfl) fun _ => rfl

theorem ignoresOrder_signed64? : IgnoresOrder signed64? :=
  ignoresOrder_of_flat (fun _ => rfl) fun _ => rfl

theorem IgnoresOrder.mapM_eq {α : Type} {read : Json → Option α} (hread : IgnoresOrder read)
    {items items' : List Json} (h : List.Forall₂ Reordered items items') :
    items.mapM read = items'.mapM read := by
  induction h with
  | nil => rfl
  | cons hhead _ ih => rw [List.mapM_cons, List.mapM_cons, hread hhead, ih]

/-- Two optional values that are related lead to the same where what follows agrees on related
values. -/
theorem bind_eq_bind_of_rel {α β : Type} {R : α → α → Prop} {o o' : Option α}
    {next : α → Option β} (h : Option.Rel R o o') (hnext : ∀ a a', R a a' → next a = next a') :
    (o >>= next) = (o' >>= next) := by
  cases h with
  | none => rfl
  | some h => exact hnext _ _ h

namespace Reordered

variable {j j' : Json} {members middle members' : List (String × Json)}

theorem filter (h : List.Forall₂ MemberReordered members middle) (hperm : middle.Perm members')
    (keep : String → Bool) :
    List.Forall₂ MemberReordered (members.filter fun m => keep m.1)
        (middle.filter fun m => keep m.1) ∧
      (middle.filter fun m => keep m.1).Perm (members'.filter fun m => keep m.1) :=
  ⟨List.rel_filter (fun _ _ hm => by simp only [hm.1]) h, hperm.filter _⟩

/-- A name stands once in both orders, with related values, or in neither. -/
theorem rel_only? (h : List.Forall₂ MemberReordered members middle)
    (hperm : middle.Perm members') (name : String) :
    Option.Rel Reordered (only? members name) (only? members' name) := by
  obtain ⟨hfilter, hfilterPerm⟩ := filter h hperm fun n => n == name
  unfold only?
  generalize members.filter _ = found at hfilter
  generalize middle.filter _ = foundBetween at hfilter hfilterPerm
  generalize members'.filter _ = found' at hfilterPerm
  rcases hfilter with _ | ⟨hm, _ | ⟨_, _⟩⟩
  · rw [List.nil_perm.1 hfilterPerm]
    exact .none
  · rw [← List.singleton_perm.1 hfilterPerm]
    exact .some hm.2
  · obtain ⟨m, m', rest, rfl⟩ : ∃ m m' rest, found' = m :: m' :: rest := by
      match found', hfilterPerm.length_eq with
      | m :: m' :: rest, _ => exact ⟨m, m', rest, rfl⟩
    exact .none

/-- The fields of a record are the same in either order, up to the order within them. -/
theorem rel_record? (h : j.Reordered j') (names : List String) :
    Option.Rel (List.Forall₂ Reordered) (j.record? names) (j'.record? names) := by
  cases j with
  | arr items =>
    obtain ⟨items', rfl, hitems⟩ := h.exists_of_arr
    simp only [record?, hitems.length_eq]
    split
    · exact .some hitems
    · exact .none
  | obj members =>
    obtain ⟨middle, members', rfl, hmembers, hperm⟩ := h.exists_of_obj
    simp only [record?]
    induction names with
    | nil => exact .some .nil
    | cons name names ih =>
      rw [List.mapM_cons, List.mapM_cons]
      have hvalue := rel_only? hmembers hperm name
      generalize only? members name = value at hvalue ⊢
      generalize only? members' name = value' at hvalue ⊢
      rcases hvalue with hvalue | _
      · generalize names.mapM (only? members) = values at ih ⊢
        generalize names.mapM (only? members') = values' at ih ⊢
        rcases ih with hvalues | _
        · exact .some (.cons hvalue hvalues)
        · exact .none
      · exact .none
  | _ =>
    cases h
    exact .none

/-- The tag of a tagged value, and what else it holds. -/
theorem rel_tagged? (h : j.Reordered j') (tag : String) :
    Option.Rel (fun t t' => t.1.Reordered t'.1 ∧ t.2.Reordered t'.2)
      (j.tagged? tag) (j'.tagged? tag) := by
  cases j with
  | arr items =>
    obtain ⟨items', rfl, hitems⟩ := h.exists_of_arr
    cases hitems with
    | nil => exact .none
    | cons htag hrest =>
      have hzip := List.forall₂_iff_zip.1 hrest
      exact .some ⟨htag, .arr hzip.1 fun _ hp => hzip.2 hp⟩
  | obj members =>
    obtain ⟨middle, members', rfl, hmembers, hperm⟩ := h.exists_of_obj
    obtain ⟨hrest, hrestPerm⟩ := filter hmembers hperm fun n => n != tag
    have hvalue := rel_only? hmembers hperm tag
    simp only [tagged?]
    generalize only? members tag = value at hvalue ⊢
    generalize only? members' tag = value' at hvalue ⊢
    rcases hvalue with hvalue | _
    · exact .some ⟨hvalue, obj_of_forall₂ hrest hrestPerm⟩
    · exact .none
  | _ =>
    cases h
    exact .none

theorem rel_arr? (h : j.Reordered j') :
    Option.Rel (List.Forall₂ Reordered) j.arr? j'.arr? := by
  cases j with
  | arr items =>
    obtain ⟨items', rfl, hitems⟩ := h.exists_of_arr
    exact .some hitems
  | obj members =>
    obtain ⟨_, members', rfl, -, -⟩ := h.exists_of_obj
    exact .none
  | _ =>
    cases h
    exact .none

end Reordered

/-! ### Objects whose names are distinct -/

theorem only?_of_mem {members : List (String × Json)} (hnodup : (members.map Prod.fst).Nodup)
    {m : String × Json} (hm : m ∈ members) : only? members m.1 = some m.2 := by
  have hfilter : members.filter (fun m' => m'.1 == m.1) = [m] := by
    induction members with
    | nil => cases hm
    | cons first rest ih =>
      rw [List.map_cons, List.nodup_cons] at hnodup
      have hrest (m' : String × Json) (hm' : m' ∈ rest) : m'.1 ≠ first.1 :=
        fun hname => hnodup.1 (List.mem_map.2 ⟨m', hm', hname⟩)
      rcases List.mem_cons.1 hm with rfl | hm
      · have hnone : rest.filter (fun m' => m'.1 == m.1) = [] :=
          List.filter_eq_nil_iff.2 fun m' hm' => by simpa using hrest m' hm'
        rw [List.filter_cons_of_pos (by simp), hnone]
      · rw [List.filter_cons_of_neg (by simpa using (hrest m hm).symm), ih hnodup.2 hm]
  rw [only?, hfilter]

/-- An object with distinct names is read as the record of its values. -/
theorem bind_record?_obj {α : Type} {members : List (String × Json)} {names : List String}
    (hnames : members.map Prod.fst = names) (hnodup : names.Nodup)
    (next : List Json → Option α) :
    ((obj members).record? names >>= next) = next (members.map Prod.snd) := by
  subst hnames
  have hfound (found : List (String × Json)) (hfound : ∀ m ∈ found, m ∈ members) :
      (found.map Prod.fst).mapM (only? members) = some (found.map Prod.snd) := by
    induction found with
    | nil => rfl
    | cons m found ih =>
      obtain ⟨hm, hrest⟩ := List.forall_mem_cons.1 hfound
      rw [List.map_cons, List.mapM_cons, only?_of_mem hnodup hm, ih hrest]
      rfl
  rw [record?, hfound members fun _ hm => hm]
  rfl

/-- An object that begins with its tag is read as the tag and the members behind it. -/
theorem bind_tagged?_obj {α : Type} {tag : String} {value : Json} {members : List (String × Json)}
    (htag : tag ∉ members.map Prod.fst) (next : Json × Json → Option α) :
    ((obj ((tag, value) :: members)).tagged? tag >>= next) = next (value, obj members) := by
  have hother (m : String × Json) (hm : m ∈ members) : m.1 ≠ tag :=
    fun hname => htag (List.mem_map.2 ⟨m, hm, hname⟩)
  have hsame : ((tag, value) :: members).filter (fun m => m.1 == tag) = [(tag, value)] := by
    rw [List.filter_cons_of_pos (by simp),
      List.filter_eq_nil_iff.2 fun m hm => by simpa using hother m hm]
  have hrest : ((tag, value) :: members).filter (fun m => m.1 != tag) = members := by
    rw [List.filter_cons_of_neg (by simp),
      List.filter_eq_self.2 fun m hm => by simpa using hother m hm]
  simp only [tagged?, only?, hsame, hrest]
  rfl

/-! ### Values kept whole -/

theorem allHeldWithin_eq_all (levels : Nat) (items : List Json) :
    allHeldWithin levels items = items.all (isHeldWithin levels) := by
  induction items with
  | nil => rfl
  | cons j rest ih => rw [allHeldWithin, ih, List.all_cons]

theorem membersHeldWithin_eq_all (levels : Nat) (members : List (String × Json)) :
    membersHeldWithin levels members = members.all fun m => m.2.isHeldWithin levels := by
  induction members with
  | nil => rfl
  | cons m rest ih => rw [membersHeldWithin, ih, List.all_cons]

theorem Reordered.isHeldWithin_eq {j j' : Json} (h : j.Reordered j') (levels : Nat) :
    j.isHeldWithin levels = j'.isHeldWithin levels := by
  induction h generalizing levels with
  | refl => rfl
  | arr hlength _ ih =>
    have hitems := List.forall₂_iff_zip.2 ⟨hlength, fun hp => ih _ hp (levels - 1)⟩
    simp only [isHeldWithin, allHeldWithin_eq_all]
    rw [all_eq_all_of_forall₂ (fun _ _ h => h) hitems]
  | obj hnames _ hperm ih =>
    have hmembers := forall₂_of_names
      (R := fun j j' => j.isHeldWithin (levels - 1) = j'.isHeldWithin (levels - 1)) hnames
      fun p hp => ih p hp (levels - 1)
    simp only [isHeldWithin, membersHeldWithin_eq_all]
    rw [all_eq_all_of_forall₂ (fun _ _ h => h.2) hmembers, hperm.all_eq]

mutual

/-- **Depth.** How deep the arrays and objects of a value nest. -/
def depth : Json → Nat
  | arr items => listDepth items + 1
  | obj members => membersDepth members + 1
  | _ => 0

/-- The greatest depth of some values. -/
def listDepth : List Json → Nat
  | [] => 0
  | j :: rest => max j.depth (listDepth rest)

/-- The greatest depth of the values of some members. -/
def membersDepth : List (String × Json) → Nat
  | [] => 0
  | (_, j) :: rest => max j.depth (membersDepth rest)

end

theorem listDepth_le_iff {items : List Json} {levels : Nat} :
    listDepth items ≤ levels ↔ ∀ j ∈ items, j.depth ≤ levels := by
  induction items with
  | nil => simp [listDepth]
  | cons j rest ih => rw [listDepth, Nat.max_le, ih, List.forall_mem_cons]

theorem membersDepth_le_iff {members : List (String × Json)} {levels : Nat} :
    membersDepth members ≤ levels ↔ ∀ m ∈ members, m.2.depth ≤ levels := by
  induction members with
  | nil => simp [membersDepth]
  | cons m rest ih => rw [membersDepth, Nat.max_le, ih, List.forall_mem_cons]

/-- **Plain values.** Names, integers of 64 bits with or without sign, strings, and arrays and
objects of plain values. -/
inductive IsPlain : Json → Prop
  | null : IsPlain .null
  | bool (b : Bool) : IsPlain (.bool b)
  | int {n : Int} (hmin : Int64.minValue.toInt ≤ n) (hmax : n < UInt64.size) : IsPlain (.int n)
  | str (s : String) : IsPlain (.str s)
  | arr {items : List Json} (h : ∀ j ∈ items, IsPlain j) : IsPlain (.arr items)
  | obj {members : List (String × Json)} (h : ∀ m ∈ members, IsPlain m.2) :
      IsPlain (.obj members)

namespace IsPlain

@[simp] theorem str_iff {s : String} : (Json.str s).IsPlain ↔ True := iff_true_intro (.str s)

@[simp] theorem arr_iff {items : List Json} : (Json.arr items).IsPlain ↔ ∀ j ∈ items, j.IsPlain :=
  ⟨fun | .arr h => h, .arr⟩

@[simp] theorem obj_iff {members : List (String × Json)} :
    (Json.obj members).IsPlain ↔ ∀ m ∈ members, m.2.IsPlain :=
  ⟨fun | .obj h => h, .obj⟩

/-- A plain value is kept as a whole exactly when it is not too deep. -/
theorem isHeldWithin_eq_true_iff {j : Json} (h : j.IsPlain) {levels : Nat} :
    j.isHeldWithin levels = true ↔ j.depth ≤ levels := by
  induction h generalizing levels with
  | null | bool | int | str => simp [isHeldWithin, depth]
  | @arr items _ ih =>
    have hitems : items.all (isHeldWithin (levels - 1)) = true ↔ listDepth items ≤ levels - 1 := by
      rw [List.all_eq_true, listDepth_le_iff]
      exact forall₂_congr fun j hj => ih j hj
    simp only [isHeldWithin, allHeldWithin_eq_all, Bool.and_eq_true, hitems, decide_eq_true_eq,
      depth]
    omega
  | @obj members _ ih =>
    have hmembers : (members.all fun m => m.2.isHeldWithin (levels - 1)) = true ↔
        membersDepth members ≤ levels - 1 := by
      rw [List.all_eq_true, membersDepth_le_iff]
      exact forall₂_congr fun m hm => ih m hm
    simp only [isHeldWithin, membersHeldWithin_eq_all, Bool.and_eq_true, hmembers,
      decide_eq_true_eq, depth]
    omega

/-- A plain value stays plain in any order of its members. -/
theorem of_reordered {j j' : Json} (h : j.Reordered j') (hplain : j.IsPlain) : j'.IsPlain := by
  induction h with
  | refl => exact hplain
  | arr hlength hitems ih =>
    have hpartners := List.forall₂_iff_zip.2 ⟨hlength, fun hp => ih _ hp⟩
    refine .arr fun j' hj' => ?_
    obtain ⟨j, hj, hstays⟩ := exists_left_of_forall₂ hpartners j' hj'
    exact hstays (arr_iff.1 hplain j hj)
  | obj hnames hvalues hperm ih =>
    have hpartners := forall₂_of_names (R := fun j j' => j.IsPlain → j'.IsPlain) hnames ih
    refine .obj fun m' hm' => ?_
    obtain ⟨m, hm, -, hstays⟩ := exists_left_of_forall₂ hpartners m' (hperm.mem_iff.2 hm')
    exact hstays (obj_iff.1 hplain m hm)

end IsPlain

end VectorTrial.Json
