import Mathlib.Data.List.Infix
import Mathlib.Data.List.TakeWhile
import Mathlib.Tactic.IntervalCases
import VectorTrial.Text.Blank
import VectorTrial.Text.Line
import VectorTrial.Text.Numeral

/-!
# What is read from a text

The operations on texts, described by what they find: the parts around the first occurrence of a
character, the number that a numeral stands for, the text between blank ends, the lines of two texts
that follow one another, and the occurrences of one text in another.

## Main definitions

* `VectorTrial.Text.IsNumeral` — the numerals of a number.
* `VectorTrial.Text.IsTrimmed` — the texts without blank ends.

## Main results

* `VectorTrial.Text.cutAt?_eq_some_iff`, `VectorTrial.Text.readUnsigned?_eq_some_iff` — cuts and
  numerals.
* `VectorTrial.Text.readUnsigned?_repr` — every number is read from the numeral that is written
  for it.
* `VectorTrial.Text.trim_eq_iff` — what is left of a text when it is trimmed.
* `VectorTrial.Text.lines_flatMap` — lines that were written are read again.
* `VectorTrial.Text.lines_append` — a text after a line feed has lines of its own.
* `VectorTrial.Text.occursIn_iff`, `VectorTrial.Text.infix_append_cons_iff` — occurrences, and where
  they are in two texts around a character.
-/

namespace VectorTrial.Text

/-! ### Cuts -/

/-- **Cuts.** A text is cut at the first occurrence of a character. -/
theorem cutAt?_eq_some_iff {mark : Char} {cs before after : List Char} :
    cutAt? mark cs = some (before, after) ↔ cs = before ++ mark :: after ∧ mark ∉ before := by
  refine ⟨cutAt?_eq_some, ?_⟩
  rintro ⟨rfl, hbefore⟩
  induction before with
  | nil => exact if_pos rfl
  | cons c before ih =>
    rw [List.mem_cons, not_or] at hbefore
    rw [List.cons_append, cutAt?, if_neg (Ne.symm hbefore.1), ih hbefore.2]
    rfl

/-! ### Numerals -/

/-- **Numerals.** A numeral of a number has an optional plus sign and one or more digits. -/
def IsNumeral (cs : List Char) (n : Nat) : Prop :=
  ∃ digits, (cs = digits ∨ cs = '+' :: digits) ∧ digits ≠ [] ∧ (∀ c ∈ digits, c.isDigit = true) ∧
    numeralValue digits = n

theorem dropPlus_of_isDigit {digits : List Char} (h : ∀ c ∈ digits, c.isDigit = true) :
    dropPlus digits = digits := by
  cases digits with
  | nil => rfl
  | cons c rest =>
    have hc : c ≠ '+' := by
      rintro rfl
      exact absurd (h '+' List.mem_cons_self) (by decide)
    unfold dropPlus
    split
    · next heq => exact absurd (List.cons.inj heq).1 hc
    · rfl

/-- What remains after an optional plus sign. -/
theorem eq_or_eq_cons_dropPlus (cs : List Char) : cs = dropPlus cs ∨ cs = '+' :: dropPlus cs := by
  unfold dropPlus
  split
  · exact Or.inr rfl
  · exact Or.inl rfl

/-- **Reading numerals.** What is read is the number of the numeral, if it is below the bound. -/
theorem readUnsigned?_eq_some_iff {bound : Nat} {cs : List Char} {n : Nat} :
    readUnsigned? bound cs = some n ↔ IsNumeral cs n ∧ n < bound := by
  constructor
  · intro h
    unfold readUnsigned? at h
    simp only [Bool.or_eq_true, List.isEmpty_iff, Bool.not_eq_true'] at h
    split_ifs at h with hrefused hbound
    rw [not_or, Bool.not_eq_false, List.all_eq_true] at hrefused
    cases h
    exact ⟨⟨dropPlus cs, eq_or_eq_cons_dropPlus cs, hrefused.1, hrefused.2, rfl⟩, hbound⟩
  · rintro ⟨⟨digits, hcs, hne, hdigits, rfl⟩, hbound⟩
    have hdrop : dropPlus cs = digits := by
      rcases hcs with rfl | rfl
      · exact dropPlus_of_isDigit hdigits
      · rfl
    have hall : digits.all Char.isDigit = true := List.all_eq_true.2 hdigits
    simp [readUnsigned?, hdrop, hne, hall, hbound]

theorem isNumeral_repr (n : Nat) : IsNumeral n.repr.toList n :=
  ⟨Nat.toDigits 10 n, Or.inl Nat.toList_repr, Nat.toDigits_ne_nil,
    fun _ hc => Nat.isDigit_of_mem_toDigits (by decide) (by decide) hc,
    Nat.ofDigitChars_toDigits (by decide) (by decide)⟩

/-- Every number is read from the numeral that is written for it. -/
theorem readUnsigned?_repr {bound n : Nat} (h : n < bound) :
    readUnsigned? bound n.repr.toList = some n :=
  readUnsigned?_eq_some_iff.2 ⟨isNumeral_repr n, h⟩

/-! ### Blank ends -/

theorem isBlank_of_isDigit {c : Char} (h : c.isDigit = true) : isBlank c = false := by
  have hbounds : 48 ≤ c.toNat ∧ c.toNat ≤ 57 := by
    simpa [Char.isDigit, UInt32.le_iff_toNat_le] using h
  obtain ⟨hlow, hhigh⟩ := hbounds
  rw [isBlank]
  interval_cases c.toNat <;> rfl

/-- **Trimmed texts.** A text that neither begins nor ends with a blank. -/
structure IsTrimmed (cs : List Char) : Prop where
  first : ∀ c ∈ cs.head?, isBlank c = false
  last : ∀ c ∈ cs.getLast?, isBlank c = false

theorem trimStart_eq_iff {cs rest : List Char} :
    trimStart cs = rest ↔ ∃ before, cs = before ++ rest ∧ (∀ c ∈ before, isBlank c = true) ∧
      ∀ c ∈ rest.head?, isBlank c = false := by
  constructor
  · rintro rfl
    refine ⟨cs.takeWhile isBlank, List.takeWhile_append_dropWhile.symm,
      fun c hc => List.mem_takeWhile_imp hc, fun c hc => ?_⟩
    have hfirst := List.head?_dropWhile_not isBlank cs
    rw [← trimStart, hc] at hfirst
    simpa using hfirst
  · rintro ⟨before, rfl, hbefore, hrest⟩
    rw [trimStart, List.dropWhile_append_of_pos hbefore]
    cases rest with
    | nil => rfl
    | cons c rest => exact List.dropWhile_cons_of_neg (ne_true_of_eq_false (hrest c rfl))

theorem trimEnd_eq_iff {cs rest : List Char} :
    trimEnd cs = rest ↔ ∃ after, cs = rest ++ after ∧ (∀ c ∈ after, isBlank c = true) ∧
      ∀ c ∈ rest.getLast?, isBlank c = false := by
  rw [trimEnd, List.reverse_eq_iff, ← trimStart, trimStart_eq_iff, List.head?_reverse]
  constructor
  · rintro ⟨before, hcs, hbefore, hlast⟩
    refine ⟨before.reverse, ?_, fun c hc => hbefore c (List.mem_reverse.1 hc), hlast⟩
    rw [← List.reverse_reverse cs, hcs, List.reverse_append, List.reverse_reverse]
  · rintro ⟨after, rfl, hafter, hlast⟩
    exact ⟨after.reverse, List.reverse_append, fun c hc => hafter c (List.mem_reverse.1 hc), hlast⟩

/-- **Trimming.** A text is trimmed to what stands between blank ends and has none itself. -/
theorem trim_eq_iff {cs inner : List Char} :
    trim cs = inner ↔ ∃ before after, cs = before ++ (inner ++ after) ∧
      (∀ c ∈ before, isBlank c = true) ∧ (∀ c ∈ after, isBlank c = true) ∧ IsTrimmed inner := by
  rw [trim, trimEnd_eq_iff]
  constructor
  · rintro ⟨after, hstart, hafter, hlast⟩
    obtain ⟨before, hcs, hbefore, hfirst⟩ := trimStart_eq_iff.1 hstart
    refine ⟨before, after, hcs, hbefore, hafter, fun c hc => hfirst c ?_, hlast⟩
    rw [List.head?_append, hc, Option.some_or]
    rfl
  · rintro ⟨before, after, rfl, hbefore, hafter, hinner⟩
    cases inner with
    | nil =>
      -- Nothing is left, so all blanks go at the start.
      refine ⟨[], trimStart_eq_iff.2 ⟨before ++ after, (List.append_nil _).symm, ?_, hinner.first⟩,
        List.forall_mem_nil _, hinner.last⟩
      exact List.forall_mem_append.2 ⟨hbefore, hafter⟩
    | cons c inner =>
      exact ⟨after, trimStart_eq_iff.2 ⟨before, rfl, hbefore, hinner.first⟩, hafter, hinner.last⟩

/-- No character of a numeral is blank. -/
theorem IsNumeral.isBlank_eq_false {cs : List Char} {n : Nat} (h : IsNumeral cs n) :
    ∀ c ∈ cs, isBlank c = false := by
  obtain ⟨digits, hcs, -, hdigits, -⟩ := h
  rcases hcs with rfl | rfl
  · exact fun c hc => isBlank_of_isDigit (hdigits c hc)
  · exact List.forall_mem_cons.2 ⟨by decide, fun c hc => isBlank_of_isDigit (hdigits c hc)⟩

theorem IsNumeral.ne_nil {cs : List Char} {n : Nat} (h : IsNumeral cs n) : cs ≠ [] := by
  obtain ⟨digits, hcs, hne, -⟩ := h
  rcases hcs with rfl | rfl
  · exact hne
  · exact List.cons_ne_nil _ _

/-- A numeral has no blank ends. -/
theorem IsNumeral.isTrimmed {cs : List Char} {n : Nat} (h : IsNumeral cs n) : IsTrimmed cs :=
  ⟨fun c hc => h.isBlank_eq_false c (List.mem_of_mem_head? hc),
    fun c hc => h.isBlank_eq_false c (List.mem_of_mem_getLast? hc)⟩

/-- A numeral is more than blanks. -/
theorem IsNumeral.isBlankText_eq_false {text : String} {n : Nat} (h : IsNumeral text.toList n) :
    isBlankText text = false := by
  obtain ⟨c, hc⟩ := List.exists_mem_of_ne_nil _ h.ne_nil
  exact List.all_eq_false.2 ⟨c, hc, ne_true_of_eq_false (h.isBlank_eq_false c hc)⟩

/-! ### Lines -/

/-- A character that does not end a line belongs to the first line. -/
theorem lines_cons {c : Char} {rest : List Char} (hfeed : c ≠ '\n')
    (hreturn : ¬ (c = '\r' ∧ rest.head? = some '\n')) : lines (c :: rest) =
      match lines rest with
      | [] => [[c]]
      | first :: others => (c :: first) :: others := by
  rw [lines]
  · exact if_neg hfeed
  · rintro rest' rfl rfl
    exact hreturn ⟨rfl, rfl⟩

theorem lines_ne_nil {cs : List Char} (h : cs ≠ []) : lines cs ≠ [] := by
  fun_cases lines cs with
  | case1 => exact absurd rfl h
  | _ => exact List.cons_ne_nil _ _

/-- Characters that end no line and the line feed after them are a line. -/
theorem lines_append_of_not_mem {line : List Char} (hfeed : '\n' ∉ line) (hreturn : '\r' ∉ line)
    (rest : List Char) : lines (line ++ '\n' :: rest) = line :: lines rest := by
  induction line with
  | nil => rfl
  | cons c line ih =>
    rw [List.mem_cons, not_or] at hfeed hreturn
    rw [List.cons_append, lines_cons (Ne.symm hfeed.1) fun h => hreturn.1 h.1.symm,
      ih hfeed.2 hreturn.2]

/-- Lines that are written one after the other are read again. -/
theorem lines_flatMap {ls : List (List Char)} (h : ∀ line ∈ ls, '\n' ∉ line ∧ '\r' ∉ line) :
    lines (ls.flatMap (· ++ ['\n'])) = ls := by
  induction ls with
  | nil => rfl
  | cons line ls ih =>
    obtain ⟨hfeed, hreturn⟩ := h line List.mem_cons_self
    rw [List.flatMap_cons, List.append_assoc, List.singleton_append,
      lines_append_of_not_mem hfeed hreturn, ih fun l hl => h l (List.mem_cons_of_mem _ hl)]

/-- **Lines.** After a line feed the lines of the rest follow. -/
theorem lines_append (before after : List Char) :
    lines (before ++ '\n' :: after) = lines (before ++ ['\n']) ++ lines after := by
  induction before with
  | nil => rfl
  | cons c before ih =>
    by_cases hfeed : c = '\n'
    · subst hfeed
      exact congrArg ([] :: ·) ih
    · have hhead : ∀ after : List Char,
          (before ++ '\n' :: after).head? = before.head?.or (some '\n') := by
        intro after
        rw [List.head?_append]
        rfl
      by_cases hreturn : c = '\r' ∧ before.head?.or (some '\n') = some '\n'
      · -- A carriage return before a line feed ends the same line.
        obtain ⟨rfl, hnext⟩ := hreturn
        cases before with
        | nil => rfl
        | cons d before =>
          obtain rfl : d = '\n' := Option.some.inj hnext
          exact ih
      · rw [List.cons_append, List.cons_append, lines_cons hfeed (by rwa [hhead]),
          lines_cons hfeed (by rwa [hhead]), ih]
        cases hlines : lines (before ++ ['\n']) with
        | nil =>
          exact absurd hlines (lines_ne_nil (List.append_ne_nil_of_right_ne_nil _ (by simp)))
        | cons first others => rfl

/-! ### Occurrences -/

/-- **Occurrences.** A text occurs in another as a contiguous part. -/
theorem occursIn_iff {part cs : List Char} : occursIn part cs = true ↔ part <:+: cs := by
  induction cs with
  | nil => rw [occursIn, List.isEmpty_iff, List.infix_nil]
  | cons c rest ih =>
    rw [occursIn, Bool.or_eq_true, List.isPrefixOf_iff_prefix, ih, List.infix_cons_iff]

/-- A text without a certain character does not occur across it. -/
theorem infix_append_cons_iff {part : List Char} {mark : Char} (h : mark ∉ part)
    (before after : List Char) :
    part <:+: before ++ mark :: after ↔ part <:+: before ∨ part <:+: after := by
  have hempty : ∀ {cs : List Char}, cs <+: mark :: after → mark ∉ cs → cs = [] := by
    intro cs hcs hmark
    rcases List.prefix_cons_iff.1 hcs with hnil | ⟨rest, rfl, -⟩
    · exact hnil
    · exact absurd List.mem_cons_self hmark
  constructor
  · rw [List.infix_append_iff, List.infix_cons_iff]
    rintro (hbefore | (hacross | hafter) | ⟨first, second, rfl, hfirst, hsecond⟩)
    · exact Or.inl hbefore
    · rw [hempty hacross h]
      exact Or.inl (List.nil_infix)
    · exact Or.inr hafter
    · rw [List.mem_append, not_or] at h
      rw [hempty hsecond h.2, List.append_nil]
      exact Or.inl hfirst.isInfix
  · rintro (hbefore | hafter)
    · exact hbefore.trans (List.infix_append' [] before _)
    · exact hafter.trans (List.suffix_append_of_suffix (List.suffix_cons mark after)).isInfix

end VectorTrial.Text
