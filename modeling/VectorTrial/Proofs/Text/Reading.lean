import Mathlib
import VectorTrial.Program.Text

/-!
# Texts that can be read back

A way to write items can be read back if a text that begins with a written item begins with no
other one, and the item and what follows it are both known from the text. Words and numerals can be
read back where no further character of a word follows. What can be read back one at a time can be
read back in series, up to a text that no item begins with.

## Main definitions

* `VectorTrial.Text.IsWord` — words of ASCII letters, digits and four signs.
* `VectorTrial.Text.EndsWord` — texts that do not go on with a word.
* `VectorTrial.Text.Readable` — ways to write that can be read back.

## Main results

* `VectorTrial.Text.readable_word`, `VectorTrial.Text.readable_word32`,
  `VectorTrial.Text.readable_int64` — words and numerals.
* `VectorTrial.Text.Readable.series`, `VectorTrial.Text.Readable.commaList` — items in a row and
  items between commas.
-/

namespace VectorTrial.Text

/-! ### Words -/

/-- The characters of words. -/
def isWordChar (c : Char) : Bool :=
  c.isAlphanum || c == '.' || c == '_' || c == '-' || c == '$'

/-- **Words.** A word has at least one character, and all of them are ASCII letters, digits or one
of the four signs. -/
def IsWord (s : String) : Prop := s ≠ "" ∧ ∀ c ∈ s.toList, isWordChar c = true

instance (s : String) : Decidable (IsWord s) :=
  decidable_of_iff (s ≠ "" ∧ s.toList.all isWordChar = true)
    (and_congr_right fun _ => List.all_eq_true)

/-- Whether a text is empty or begins with a character that no word holds. -/
def EndsWord (rest : List Char) : Prop := ∀ c ∈ rest.head?, isWordChar c = false

theorem endsWord_cons {c : Char} {rest : List Char} (h : isWordChar c = false) :
    EndsWord (c :: rest) := by
  intro c' hc'
  obtain rfl : c = c' := by simpa using hc'
  exact h

theorem endsWord_append {s : String} {rest : List Char}
    (h : s.toList.head?.any (fun c => !isWordChar c) = true) : EndsWord (s.toList ++ rest) := by
  cases hs : s.toList with
  | nil =>
    rw [hs] at h
    cases h
  | cons c cs =>
    rw [hs] at h
    exact endsWord_cons (by simpa using h)

/-- Where a run of word characters ends is seen from the text. -/
theorem append_inj_of_endsWord {s t r r' : List Char} (hs : ∀ c ∈ s, isWordChar c = true)
    (ht : ∀ c ∈ t, isWordChar c = true) (hr : EndsWord r) (hr' : EndsWord r')
    (h : s ++ r = t ++ r') : s = t ∧ r = r' := by
  have htake {s r : List Char} (hs : ∀ c ∈ s, isWordChar c = true) (hr : EndsWord r) :
      (s ++ r).takeWhile isWordChar = s := by
    rw [List.takeWhile_append_of_pos hs]
    cases r with
    | nil => simp
    | cons c r => simp [hr c rfl]
  have hst : s = t := by rw [← htake hs hr, h, htake ht hr']
  subst hst
  exact ⟨rfl, List.append_cancel_left h⟩

/-! ### Reading back -/

/-- **Reading back.** The items of a kind can be read back before certain texts: from two equal
texts that begin with written items one gets the same item and the same rest. -/
def Readable {α : Type} (S : α → Prop) (write : α → String) (Before : List Char → Prop) : Prop :=
  ∀ ⦃x y : α⦄ ⦃r r' : List Char⦄, S x → S y → Before r → Before r' →
    (write x).toList ++ r = (write y).toList ++ r' → x = y ∧ r = r'

theorem readable_word : Readable IsWord id EndsWord := by
  intro x y r r' hx hy hr hr' h
  obtain ⟨hxy, hrest⟩ := append_inj_of_endsWord hx.2 hy.2 hr hr' h
  exact ⟨String.toList_inj.1 hxy, hrest⟩

variable {α : Type} {S : α → Prop} {write : α → String} {Before : List Char → Prop}

/-- An item can be read back before fixed characters, of which the first ends words. -/
theorem Readable.before (h : Readable S write EndsWord) {x y : α} (hx : S x) (hy : S y) {s : String}
    {r r' : List Char}
    (heq : (write x).toList ++ (s.toList ++ r) = (write y).toList ++ (s.toList ++ r'))
    (hs : s.toList.head?.any (fun c => !isWordChar c) = true) : x = y ∧ r = r' := by
  obtain ⟨hxy, hrest⟩ := h hx hy (endsWord_append hs) (endsWord_append hs) heq
  exact ⟨hxy, List.append_cancel_left hrest⟩

/-- Different items that are written with word characters only can be read back. -/
theorem readable_of_injective (hinj : Function.Injective write)
    (hchars : ∀ x, ∀ c ∈ (write x).toList, isWordChar c = true) :
    Readable (fun _ => True) write EndsWord := by
  intro x y r r' _ _ hr hr' h
  obtain ⟨hxy, hrest⟩ := append_inj_of_endsWord (hchars x) (hchars y) hr hr' h
  exact ⟨hinj (String.toList_inj.1 hxy), hrest⟩

/-! ### Numerals -/

theorem isDigit_of_mem_repr {n : Nat} {c : Char} (h : c ∈ n.repr.toList) : c.isDigit = true := by
  rw [Nat.toList_repr] at h
  exact Nat.isDigit_of_mem_toDigits (by decide) (by decide) h

theorem isWordChar_of_isDigit {c : Char} (h : c.isDigit = true) : isWordChar c = true := by
  simp [isWordChar, Char.isAlphanum, h]

theorem readable_word32 :
    Readable (fun _ => True) (fun n : UInt32 => toString n) EndsWord := by
  refine readable_of_injective (fun m n h => ?_) fun n c hc => ?_
  · exact UInt32.toNat_inj.1 (Nat.repr_inj.1 h)
  · exact isWordChar_of_isDigit (isDigit_of_mem_repr hc)

theorem isWordChar_of_mem_int_repr {n : Int} {c : Char} (h : c ∈ n.repr.toList) :
    isWordChar c = true := by
  cases n with
  | ofNat n => exact isWordChar_of_isDigit (isDigit_of_mem_repr h)
  | negSucc n =>
    have hcases : c = '-' ∨ c ∈ (n + 1).repr.toList := by simpa [Int.repr] using h
    rcases hcases with rfl | hmem
    · rfl
    · exact isWordChar_of_isDigit (isDigit_of_mem_repr hmem)

theorem exists_cons_repr (n : Nat) : ∃ c cs, n.repr.toList = c :: cs ∧ isWordChar c = true := by
  have hne : n.repr.toList ≠ [] := by
    rw [Nat.toList_repr]
    exact Nat.toDigits_ne_nil
  obtain ⟨c, cs, hcs⟩ := List.exists_cons_of_ne_nil hne
  exact ⟨c, cs, hcs, isWordChar_of_isDigit (isDigit_of_mem_repr (hcs ▸ List.mem_cons_self))⟩

/-- A number begins with a digit or a minus sign. -/
theorem exists_cons_int64 (n : Int64) :
    ∃ c cs, (toString n).toList = c :: cs ∧ isWordChar c = true := by
  change ∃ c cs, n.toInt.repr.toList = c :: cs ∧ isWordChar c = true
  cases n.toInt with
  | ofNat n => exact exists_cons_repr n
  | negSucc n => exact ⟨'-', (n + 1).repr.toList, by simp [Int.repr], rfl⟩

theorem readable_int64 :
    Readable (fun _ => True) (fun n : Int64 => toString n) EndsWord := by
  refine readable_of_injective (fun m n h => ?_) fun n c hc => ?_
  · exact Int64.toInt_inj.1 (Int.repr_inj.1 h)
  · exact isWordChar_of_mem_int_repr hc

/-! ### Items in series -/

/-- **Series.** Items that can be read back one at a time can be read back in a row, if one can stop
before every item and before what ends the row, and no item begins like what ends the row. -/
theorem Readable.series (h : Readable S write Before) {Closes : List Char → Prop}
    (hclose : ∀ r, Closes r → Before r)
    (hnext : ∀ x, S x → ∀ r, Before ((write x).toList ++ r) ∧ ¬ Closes ((write x).toList ++ r))
    {xs ys : List α} (hxs : ∀ x ∈ xs, S x) (hys : ∀ y ∈ ys, S y) {r r' : List Char}
    (hr : Closes r) (hr' : Closes r')
    (heq : (String.join (xs.map write)).toList ++ r =
      (String.join (ys.map write)).toList ++ r') : xs = ys ∧ r = r' := by
  have hbefore {zs : List α} (hzs : ∀ z ∈ zs, S z) {r : List Char} (hr : Closes r) :
      Before ((String.join (zs.map write)).toList ++ r) := by
    cases zs with
    | nil => simpa using hclose r hr
    | cons z zs =>
      rw [List.map_cons, String.join_cons, String.toList_append, List.append_assoc]
      exact (hnext z (hzs z List.mem_cons_self) _).1
  have hends {y : α} (hy : S y) {ys : List α} {r r' : List Char} (hr : Closes r) :
      r ≠ (String.join ((y :: ys).map write)).toList ++ r' := by
    rw [List.map_cons, String.join_cons, String.toList_append, List.append_assoc]
    rintro rfl
    exact (hnext y hy _).2 hr
  induction xs generalizing ys with
  | nil =>
    cases ys with
    | nil => exact ⟨rfl, heq⟩
    | cons y ys => exact absurd heq (hends (hys y List.mem_cons_self) hr)
  | cons x xs ih =>
    obtain ⟨hx, hxs⟩ := List.forall_mem_cons.1 hxs
    cases ys with
    | nil => exact absurd heq.symm (hends hx hr')
    | cons y ys =>
      obtain ⟨hy, hys⟩ := List.forall_mem_cons.1 hys
      simp only [List.map_cons, String.join_cons, String.toList_append, List.append_assoc] at heq
      obtain ⟨hxy, hafter⟩ := h hx hy (hbefore hxs hr) (hbefore hys hr') heq
      obtain ⟨hrest, hend⟩ := ih hxs hys hafter
      exact ⟨congrArg₂ List.cons hxy hrest, hend⟩

/-- After one more comma, a list with commas is its items in a row, each after a comma. -/
theorem comma_append_commaList (write : α → String) (x : α) (xs : List α) :
    ", " ++ Program.commaList ((x :: xs).map write) =
      String.join ((x :: xs).map fun x => ", " ++ write x) := by
  induction xs generalizing x with
  | nil => simp [Program.commaList]
  | cons next xs ih =>
    rw [List.map_cons (f := fun x => ", " ++ write x), String.join_cons, ← ih next,
      Program.commaList, Program.commaList, List.map_cons, List.map_cons,
      String.intercalate_cons_cons]
    simp only [String.append_assoc]

/-- **Items between commas.** Items that can be read back one at a time can be read back from a list
with commas, up to fixed characters of which no item begins with the first. -/
theorem Readable.commaList (h : Readable S write EndsWord) (close : Char)
    (hfirst : ∀ x, S x → ∃ c cs, (write x).toList = c :: cs ∧ c ≠ close)
    {xs ys : List α} (hxs : ∀ x ∈ xs, S x) (hys : ∀ y ∈ ys, S y) {s : String} {r r' : List Char}
    (heq : (Program.commaList (xs.map write)).toList ++ (s.toList ++ r) =
      (Program.commaList (ys.map write)).toList ++ (s.toList ++ r'))
    (hs : s.toList.head? = some close) (hclose : isWordChar close = false)
    (hcomma : close ≠ ',') : xs = ys ∧ r = r' := by
  have hhead (r : List Char) : (s.toList ++ r).head? = some close := by
    rw [List.head?_append, hs, Option.some_or]
  have hafter : Readable S (fun x => ", " ++ write x) EndsWord := by
    intro x y r r' hx hy hr hr' heq
    simp only [String.toList_append, List.append_assoc] at heq
    exact h hx hy hr hr' (List.append_cancel_left heq)
  have hcloses (r : List Char) (hr : r.head? = some close) : EndsWord r := by
    intro c hc
    obtain rfl := Option.some.inj (hr.symm.trans hc)
    exact hclose
  have hnext (x : α) (_ : S x) (r : List Char) : EndsWord ((", " ++ write x).toList ++ r) ∧
      ¬ ((", " ++ write x).toList ++ r).head? = some close := by
    rw [String.toList_append, List.append_assoc]
    exact ⟨endsWord_append rfl, fun heq => hcomma (Option.some.inj heq).symm⟩
  have hends {x : α} (hx : S x) {xs : List α} {r r' : List Char} :
      (Program.commaList []).toList ++ (s.toList ++ r) ≠
        (Program.commaList ((x :: xs).map write)).toList ++ r' := by
    obtain ⟨c, cs, hc, hne⟩ := hfirst x hx
    have hitem : ∃ rest, (Program.commaList ((x :: xs).map write)).toList = c :: rest := by
      cases xs with
      | nil => exact ⟨cs, by simpa [Program.commaList] using hc⟩
      | cons next xs =>
        rw [Program.commaList, List.map_cons, List.map_cons, String.intercalate_cons_cons,
          String.toList_append, String.toList_append, hc]
        exact ⟨_, rfl⟩
    obtain ⟨rest, hrest⟩ := hitem
    intro heq
    have hheads := congrArg List.head? heq
    rw [hrest] at hheads
    exact hne (Option.some.inj (hheads.symm.trans (hhead r)))
  -- With one more comma in front, two lists with items are two series.
  cases xs with
  | nil =>
    cases ys with
    | nil => exact ⟨rfl, List.append_cancel_left (List.append_cancel_left heq)⟩
    | cons y ys => exact absurd heq (hends (hys y List.mem_cons_self))
  | cons x xs =>
    cases ys with
    | nil => exact absurd heq.symm (hends (hxs x List.mem_cons_self))
    | cons y ys =>
      obtain ⟨hxy, hrest⟩ := hafter.series hcloses hnext hxs hys (hhead r) (hhead r') (by
        rw [← comma_append_commaList, ← comma_append_commaList]
        simp only [String.toList_append, List.append_assoc, heq])
      exact ⟨hxy, List.append_cancel_left hrest⟩

end VectorTrial.Text
