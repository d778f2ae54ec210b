import VectorTrial.Proofs.Lane.Decomposition
import VectorTrial.Proofs.Trial.Counting

/-!
# Repeated results do not depend on their order

A result map may keep its entries in any order, and in another one after each result. What it tells
of the results is what one counts in them as a multiset: how many different ones there are, how many
repeat an earlier one, and which of them came back most often. Of several that came back equally
often the one with the smallest bytes is told, and no two registers have the same bytes, so neither
the order of the entries nor that of the results is seen.

## Main definitions

* `VectorTrial.ResultMap.Stores` — the maps that results can lead to.
* `VectorTrial.ResultMap.Counts` — a map has one entry for each value, with its repetitions.
* `VectorTrial.ResultMap.IsMostFrequent` — the value that came back most often.

## Main results

* `VectorTrial.ResultMap.Counts.record`, `VectorTrial.ResultMap.Stores.counts` — one result and all.
* `VectorTrial.ResultMap.mostFrequent?_eq_some_iff` — which entry is told, in any order of entries.
* `VectorTrial.ResultMap.stores_summary` — what a map tells of the results that led to it.
-/

namespace VectorTrial

/-- A register is known by its bytes, since registers of different kinds differ in their length. -/
theorem Register.ext_bytes {r s : Register} (h : r.bytes = s.bytes) : r = s := by
  obtain ⟨kind, bytes, hlength⟩ := r
  obtain ⟨kind', bytes', hlength'⟩ := s
  obtain rfl : bytes = bytes' := h
  obtain rfl : kind = kind' := by
    apply RegisterKind.bitSize_injective
    rw [RegisterKind.bitSize, RegisterKind.bitSize, ← hlength, ← hlength']
  rfl

namespace ResultMap

/-! ### Entries in any order -/

/-- **Stored results.** The maps that results can lead to. With each result the entries may come
into another order. -/
inductive Stores : List Register → ResultMap → Prop
  | empty : Stores [] empty
  | record {values : List Register} {m m' : ResultMap} (value : Register) (h : Stores values m)
      (horder : m'.entries.Perm (m.record value).entries) : Stores (values ++ [value]) m'

theorem stores_ofList (values : List Register) : Stores values (ofList values) := by
  induction values using List.reverseRecOn with
  | nil => exact .empty
  | append_singleton values value ih =>
    refine .record value ih (.of_eq ?_)
    rw [ofList, List.foldl_append]
    rfl

/-- Results that can lead to a map can lead to it with its entries in another order. -/
theorem Stores.of_perm {values : List Register} {m m' : ResultMap} (h : Stores values m)
    (horder : m'.entries.Perm m.entries) : Stores values m' := by
  cases h with
  | empty =>
    obtain ⟨entries⟩ := m'
    obtain rfl : entries = [] := horder.eq_nil
    exact .empty
  | record value h horder' => exact .record value h (horder.trans horder')

/-- **Counted results.** A map has one entry for each value among some results, with the number of
times that the value came back after the first. -/
structure Counts (values : List Register) (m : ResultMap) : Prop where
  nodup : (m.entries.map Prod.fst).Nodup
  mem_iff : ∀ v n, (v, n) ∈ m.entries ↔ values.count v = n + 1

theorem mem_sight_of_ne {value v : Register} (h : v ≠ value) {n : Nat}
    {entries : List (Register × Nat)} : (v, n) ∈ sight value entries ↔ (v, n) ∈ entries := by
  induction entries with
  | nil => simp [sight, h]
  | cons e rest ih =>
    obtain ⟨w, k⟩ := e
    by_cases hw : w = value
    · have hne : v ≠ w := fun heq => h (heq.trans hw)
      simp [sight, hw, h]
    · simp only [sight, if_neg hw, List.mem_cons, ih]

/-- The entry of the value that is seen: a first one, or the next one after the one that it had. -/
theorem mem_sight_self {value : Register} {n : Nat} {entries : List (Register × Nat)}
    (h : (entries.map Prod.fst).Nodup) : (value, n) ∈ sight value entries ↔
      (n = 0 ∧ value ∉ entries.map Prod.fst) ∨ ∃ k, n = k + 1 ∧ (value, k) ∈ entries := by
  induction entries with
  | nil => simp [sight]
  | cons e rest ih =>
    obtain ⟨w, k⟩ := e
    obtain ⟨hw, hrest⟩ := List.nodup_cons.1 h
    by_cases heq : w = value
    · subst heq
      have hother (j : Nat) : (w, j) ∉ rest := fun hmem => hw (List.mem_map.2 ⟨_, hmem, rfl⟩)
      simp [sight, hother]
    · simp [sight, if_neg heq, ih hrest, Ne.symm heq]

theorem counts_empty : Counts [] empty where
  nodup := List.nodup_nil
  mem_iff v n := by simp [empty]

/-- The values of a map that counts some results are these results. -/
theorem Counts.mem_values {values : List Register} {m : ResultMap} (h : Counts values m)
    {v : Register} : v ∈ m.entries.map Prod.fst ↔ v ∈ values := by
  rw [List.mem_map, ← List.count_pos_iff (l := values)]
  constructor
  · rintro ⟨⟨w, n⟩, hentry, rfl⟩
    rw [(h.mem_iff w n).1 hentry]
    exact Nat.succ_pos n
  · intro hpos
    exact ⟨(v, values.count v - 1), (h.mem_iff _ _).2 (by omega), rfl⟩

/-- **One more result.** -/
theorem Counts.record {values : List Register} {m : ResultMap} (h : Counts values m)
    (value : Register) : Counts (values ++ [value]) (m.record value) where
  nodup := nodup_values_record value h.nodup
  mem_iff v n := by
    rw [List.count_append, ResultMap.record]
    by_cases hv : v = value
    · subst hv
      have hfresh : v ∉ m.entries.map Prod.fst ↔ values.count v = 0 := by
        rw [h.mem_values, List.count_eq_zero]
      rw [mem_sight_self h.nodup, hfresh, List.count_singleton_self, Nat.add_right_cancel_iff]
      simp only [h.mem_iff]
      constructor
      · rintro (⟨rfl, hzero⟩ | ⟨k, rfl, hk⟩)
        · exact hzero
        · exact hk
      · intro hn
        rcases Nat.eq_zero_or_eq_succ_pred n with hzero | hsucc
        · exact Or.inl ⟨hzero, hn.trans hzero⟩
        · exact Or.inr ⟨n.pred, hsucc, hn.trans hsucc⟩
    · have hnone : [value].count v = 0 := List.count_eq_zero.2 fun hmem =>
        hv (List.mem_singleton.1 hmem)
      rw [mem_sight_of_ne hv, h.mem_iff, hnone]
      rfl

/-- The order of the entries does not matter. -/
theorem Counts.of_perm {values : List Register} {m m' : ResultMap} (h : Counts values m)
    (horder : m'.entries.Perm m.entries) : Counts values m' where
  nodup := (horder.map Prod.fst).nodup_iff.2 h.nodup
  mem_iff v n := horder.mem_iff.trans (h.mem_iff v n)

/-- **All results.** A map counts the results that led to it. -/
theorem Stores.counts {values : List Register} {m : ResultMap} (h : Stores values m) :
    Counts values m := by
  induction h with
  | empty => exact counts_empty
  | record value _ horder ih => exact (ih.record value).of_perm horder

/-- Maps that count the same results, in whatever order they came, have the same entries. -/
theorem Counts.entries_perm {values values' : List Register} {m m' : ResultMap}
    (h : Counts values m) (h' : Counts values' m') (hvalues : values.Perm values') :
    m.entries.Perm m'.entries := by
  refine (List.perm_ext_iff_of_nodup h.nodup.of_map h'.nodup.of_map).2 fun ⟨v, n⟩ => ?_
  rw [h.mem_iff, h'.mem_iff, hvalues.count_eq]

theorem totalCount_perm {entries entries' : List (Register × Nat)}
    (h : entries.Perm entries') : totalCount entries = totalCount entries' := by
  induction h with
  | nil => rfl
  | cons e _ ih => rw [totalCount, totalCount, ih]
  | swap e e' rest =>
    simp only [totalCount]
    omega
  | trans _ _ ih ih' => exact ih.trans ih'

/-! ### The most frequent value -/

theorem prefers_iff {a b : Register × Nat} :
    prefers a b = true ↔ b.2 < a.2 ∨ a.2 = b.2 ∧ a.1.bytes < b.1.bytes := by
  simp [prefers]

theorem prefers_trans {a b c : Register × Nat} (hab : prefers a b = true)
    (hbc : prefers b c = true) : prefers a c = true := by
  rw [prefers_iff] at *
  rcases hab with hab | ⟨hab, hbytes⟩
  · rcases hbc with hbc | ⟨hbc, -⟩ <;> exact Or.inl (by omega)
  · rcases hbc with hbc | ⟨hbc, hbytes'⟩
    · exact Or.inl (by omega)
    · exact Or.inr ⟨hab.trans hbc, List.lt_trans hbytes hbytes'⟩

theorem not_prefers_self (a : Register × Nat) : ¬ prefers a a = true := by
  rw [prefers_iff]
  rintro (h | ⟨-, h⟩)
  · exact Nat.lt_irrefl _ h
  · exact List.lt_irrefl _ h

/-- Of two entries one is preferred. -/
theorem prefers_total {a b : Register × Nat} (h : a ≠ b) :
    prefers a b = true ∨ prefers b a = true := by
  rw [prefers_iff, prefers_iff]
  rcases Nat.lt_trichotomy a.2 b.2 with hlt | heq | hgt
  · exact Or.inr (Or.inl hlt)
  · by_cases hbytes : a.1.bytes < b.1.bytes
    · exact Or.inl (Or.inr ⟨heq, hbytes⟩)
    · refine Or.inr (Or.inr ⟨heq.symm, ?_⟩)
      by_contra hbytes'
      have hsame : a.1.bytes = b.1.bytes :=
        List.le_antisymm (List.not_lt.1 hbytes') (List.not_lt.1 hbytes)
      exact h (Prod.ext (Register.ext_bytes hsame) heq)
  · exact Or.inl (Or.inl hgt)

/-- An entry that is preferred to all others. -/
def IsPreferred (entries : List (Register × Nat)) (e : Register × Nat) : Prop :=
  e ∈ entries ∧ ∀ x ∈ entries, x ≠ e → prefers e x = true

theorem IsPreferred.eq {entries : List (Register × Nat)} {e e' : Register × Nat}
    (h : IsPreferred entries e) (h' : IsPreferred entries e') : e = e' := by
  by_contra hne
  exact not_prefers_self e (prefers_trans (h.2 e' h'.1 (Ne.symm hne)) (h'.2 e h.1 hne))

/-- The scan for the preferred entry finds it. -/
theorem exists_foldl_better (b : Register × Nat) (entries : List (Register × Nat)) :
    ∃ e, entries.foldl better (some b) = some e ∧ IsPreferred (b :: entries) e := by
  induction entries generalizing b with
  | nil => exact ⟨b, rfl, List.mem_cons_self, fun x hx hne => absurd (List.mem_singleton.1 hx) hne⟩
  | cons x entries ih =>
    rw [List.foldl_cons, better]
    -- What the scan keeps after `x` is preferred to what it drops.
    split
    · next hprefers =>
      obtain ⟨e, hfold, hmem, hbest⟩ := ih x
      refine ⟨e, hfold, List.mem_cons_of_mem _ hmem, List.forall_mem_cons.2 ⟨fun _ => ?_, hbest⟩⟩
      by_cases hx : x = e
      · exact hx ▸ hprefers
      · exact prefers_trans (hbest x List.mem_cons_self hx) hprefers
    · next hprefers =>
      obtain ⟨e, hfold, hmem, hbest⟩ := ih b
      obtain ⟨hb, hrest⟩ := List.forall_mem_cons.1 hbest
      have hsubset : b :: entries ⊆ b :: x :: entries :=
        List.cons_subset_cons b (List.subset_cons_self x entries)
      refine ⟨e, hfold, hsubset hmem,
        List.forall_mem_cons.2 ⟨hb, List.forall_mem_cons.2 ⟨fun hx => ?_, hrest⟩⟩⟩
      by_cases hbx : b = x
      · exact hbx ▸ hb (hbx ▸ hx)
      · have hpreferred : prefers b x = true := (prefers_total hbx).resolve_right hprefers
        by_cases hbe : b = e
        · exact hbe ▸ hpreferred
        · exact prefers_trans (hb hbe) hpreferred

/-- **The entry that is told.** It is preferred to all others and tells of a repetition. -/
theorem mostFrequent?_eq_some_iff {m : ResultMap} {e : Register × Nat} :
    m.mostFrequent? = some e ↔ 0 < e.2 ∧ IsPreferred m.entries e := by
  have hfiltered {x : Register × Nat} :
      x ∈ m.entries.filter (fun e => 0 < e.2) ↔ x ∈ m.entries ∧ 0 < x.2 := by
    rw [List.mem_filter, decide_eq_true_eq]
  -- Entries without a repetition are never preferred to one with a repetition.
  have hpreferred {e : Register × Nat} (he : 0 < e.2) :
      IsPreferred (m.entries.filter fun e => 0 < e.2) e ↔ IsPreferred m.entries e := by
    refine and_congr (hfiltered.trans (and_iff_left he)) ⟨fun h x hx hne => ?_, fun h x hx => ?_⟩
    · by_cases hpos : 0 < x.2
      · exact h x (hfiltered.2 ⟨hx, hpos⟩) hne
      · exact prefers_iff.2 (Or.inl (by omega))
    · exact h x (hfiltered.1 hx).1
  unfold mostFrequent?
  cases hentries : m.entries.filter fun e => 0 < e.2 with
  | nil =>
    rw [List.foldl_nil]
    refine ⟨fun h => (nomatch h), fun ⟨he, hmem, _⟩ => ?_⟩
    have hnone : e ∈ m.entries.filter fun e => 0 < e.2 := hfiltered.2 ⟨hmem, he⟩
    rw [hentries] at hnone
    cases hnone
  | cons b rest =>
    obtain ⟨best, hfold, hbest⟩ := exists_foldl_better b rest
    rw [← hentries] at hbest
    have hpos : 0 < best.2 := (hfiltered.1 hbest.1).2
    rw [List.foldl_cons, better, hfold, Option.some.injEq]
    constructor
    · rintro rfl
      exact ⟨hpos, (hpreferred hpos).1 hbest⟩
    · rintro ⟨-, he⟩
      exact ((hpreferred hpos).1 hbest).eq he

theorem mostFrequent?_eq_none_iff {m : ResultMap} :
    m.mostFrequent? = none ↔ ∀ e ∈ m.entries, e.2 = 0 := by
  unfold mostFrequent?
  cases hentries : m.entries.filter fun e => 0 < e.2 with
  | nil => simpa [List.filter_eq_nil_iff] using hentries
  | cons b rest =>
    obtain ⟨best, hfold, -⟩ := exists_foldl_better b rest
    have hb : b ∈ m.entries ∧ 0 < b.2 := by
      have hmem : b ∈ m.entries.filter fun e => 0 < e.2 := hentries ▸ List.mem_cons_self
      rwa [List.mem_filter, decide_eq_true_eq] at hmem
    rw [List.foldl_cons, better, hfold]
    refine ⟨fun h => (nomatch h), fun h => ?_⟩
    exact absurd (h b hb.1) (Nat.pos_iff_ne_zero.1 hb.2)

/-- **The most frequent value.** It occurs more than once, and every other value occurs less often,
or as often with greater bytes. -/
def IsMostFrequent (values : List Register) (v : Register) : Prop :=
  1 < values.count v ∧ ∀ w ∈ values, w ≠ v →
    values.count w < values.count v ∨ values.count w = values.count v ∧ v.bytes < w.bytes

theorem Counts.mostFrequent?_eq_some_iff {values : List Register} {m : ResultMap}
    (h : Counts values m) {v : Register} {n : Nat} :
    m.mostFrequent? = some (v, n) ↔ values.count v = n + 1 ∧ IsMostFrequent values v := by
  rw [ResultMap.mostFrequent?_eq_some_iff, IsPreferred, h.mem_iff]
  constructor
  · rintro ⟨hpos, hcount, hbest⟩
    refine ⟨hcount, by omega, fun w hw hne => ?_⟩
    have hwpos : 0 < values.count w := List.count_pos_iff.2 hw
    have hentry : (w, values.count w - 1) ∈ m.entries := (h.mem_iff _ _).2 (by omega)
    have hprefers := hbest _ hentry fun heq => hne (congrArg Prod.fst heq)
    rcases prefers_iff.1 hprefers with hlt | ⟨heq, hbytes⟩
    · exact Or.inl (by simp only at hlt; omega)
    · exact Or.inr ⟨by simp only at heq; omega, hbytes⟩
  · rintro ⟨hcount, hmany, hbest⟩
    refine ⟨by simp only; omega, hcount, fun ⟨w, k⟩ hentry hne => prefers_iff.2 ?_⟩
    have hk : values.count w = k + 1 := (h.mem_iff w k).1 hentry
    have hwv : w ≠ v := by
      rintro rfl
      exact hne (by rw [show k = n by omega])
    have hw : w ∈ values := List.count_pos_iff.1 (by omega)
    rcases hbest w hw hwv with hlt | ⟨heq, hbytes⟩
    · exact Or.inl (by simp only; omega)
    · exact Or.inr ⟨by simp only; omega, hbytes⟩

theorem Counts.mostFrequent?_eq_none_iff {values : List Register} {m : ResultMap}
    (h : Counts values m) : m.mostFrequent? = none ↔ values.Nodup := by
  rw [ResultMap.mostFrequent?_eq_none_iff, List.nodup_iff_count_le_one]
  constructor
  · intro hnone v
    by_contra hmany
    have hentry : (v, values.count v - 1) ∈ m.entries := (h.mem_iff _ _).2 (by omega)
    have hzero := hnone _ hentry
    simp only at hzero
    omega
  · rintro hone ⟨v, n⟩ hentry
    have hcount := (h.mem_iff v n).1 hentry
    have hle := hone v
    simp only
    omega

/-! ### What a map tells -/

/-- Maps that results in different orders led to tell the same value. -/
theorem Counts.mostFrequent?_eq {values values' : List Register} {m m' : ResultMap}
    (h : Counts values m) (h' : Counts values' m') (hvalues : values.Perm values') :
    m'.mostFrequent? = m.mostFrequent? := by
  have hcounts : Counts values' m := ⟨h.nodup, fun v n => by rw [h.mem_iff, hvalues.count_eq]⟩
  refine Option.ext fun ⟨v, n⟩ => ?_
  exact h'.mostFrequent?_eq_some_iff.trans hcounts.mostFrequent?_eq_some_iff.symm

theorem Counts.reportLine_eq {values values' : List Register} {m m' : ResultMap}
    (h : Counts values m) (h' : Counts values' m') (hvalues : values.Perm values') (i : Intrinsic)
    (lane : LaneWidth) : m'.reportLine i lane = m.reportLine i lane := by
  have hrepetitions : m'.repetitions = m.repetitions :=
    totalCount_perm (h'.entries_perm h hvalues.symm)
  unfold reportLine
  rw [hrepetitions, h.mostFrequent?_eq h' hvalues]

/-- **Repeated results are a summary of a multiset.** Of some results, a map that they led to tells
the number of different ones and, as repetitions, that of the others. It is empty if there are none.
It tells no value as the most frequent one if all of them are different, and otherwise the one that
occurs most often, among several such values the one with the smallest bytes, with the number of
its occurrences after the first. The value and the line of the report are the same for the results
in any order. All this holds whatever order the entries have after each result. -/
theorem stores_summary {values : List Register} {m : ResultMap} (h : Stores values m) :
    m.distinct = values.toFinset.card ∧
    m.repetitions + m.distinct = values.length ∧
    (m.isEmpty = true ↔ values = []) ∧
    (m.mostFrequent? = none ↔ values.Nodup) ∧
    (∀ v n, m.mostFrequent? = some (v, n) ↔ values.count v = n + 1 ∧ IsMostFrequent values v) ∧
    ∀ values' m', values.Perm values' → Stores values' m' →
      m'.mostFrequent? = m.mostFrequent? ∧
        ∀ i lane, m'.reportLine i lane = m.reportLine i lane := by
  have hcounts := h.counts
  have horder : m.entries.Perm (ofList values).entries :=
    hcounts.entries_perm (stores_ofList values).counts (.refl values)
  have hdistinct : m.distinct = values.dedup.length :=
    horder.length_eq.trans (distinct_foldl_record values)
  have hrepetitions : m.repetitions + values.dedup.length = values.length := by
    rw [repetitions, totalCount_perm horder]
    exact repetitions_foldl_record values
  have hempty : m.isEmpty = true ↔ values = [] := by
    rw [isEmpty, List.isEmpty_iff, ← List.length_eq_zero_iff, ← distinct, hdistinct,
      List.length_eq_zero_iff, List.dedup_eq_nil]
  refine ⟨hdistinct.trans (List.card_toFinset values).symm, hdistinct ▸ hrepetitions, hempty,
    hcounts.mostFrequent?_eq_none_iff, fun v n => hcounts.mostFrequent?_eq_some_iff,
    fun values' m' hvalues h' => ?_⟩
  exact ⟨hcounts.mostFrequent?_eq h'.counts hvalues, hcounts.reportLine_eq h'.counts hvalues⟩

/-! ### A tie between registers of two kinds -/

namespace Tie

/-- Two scalars, each of which comes back once, and a vector in between. -/
def values : List Register :=
  [.scalar 258, .scalar 1, .zero (.vector .v128 .w16), .scalar 258, .scalar 1]

/-- A map that the results lead to, with its entries turned around at the end. -/
def turned : ResultMap := ⟨(ofList values).entries.reverse⟩

theorem stores_turned : Stores values turned :=
  (stores_ofList values).of_perm (List.reverse_perm _)

end Tie

/-- The scalar with the smaller bytes is told, in this order of the results and in the other. -/
theorem stores_summary_tie :
    Stores Tie.values Tie.turned ∧ Tie.turned.distinct = 3 ∧ Tie.turned.repetitions = 2 ∧
      Tie.turned.mostFrequent? = some (.scalar 1, 1) ∧
      (ofList Tie.values.reverse).mostFrequent? = some (.scalar 1, 1) := by
  obtain ⟨hdistinct, hrepetitions, -, -, hmost, horder⟩ := stores_summary Tie.stores_turned
  have hcard : Tie.values.toFinset.card = 3 := by decide +kernel
  have hvalue : Tie.turned.mostFrequent? = some (.scalar 1, 1) :=
    (hmost _ _).2 (by unfold IsMostFrequent; decide +kernel)
  have hreverse := (horder _ _ (List.reverse_perm _).symm (stores_ofList Tie.values.reverse)).1
  have hthree : Tie.turned.distinct = 3 := hdistinct.trans hcard
  rw [hthree] at hrepetitions
  exact ⟨Tie.stores_turned, hthree, Nat.add_right_cancel hrepetitions, hvalue,
    hreverse.trans hvalue⟩

end ResultMap

end VectorTrial
