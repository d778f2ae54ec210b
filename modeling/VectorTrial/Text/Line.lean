/-!
# Lines, cuts and occurrences

Three elementary operations on texts as lists of characters: the lines of a text, the cut at the
first occurrence of a character, and the question whether one text occurs in another.

## Main definitions

* `VectorTrial.Text.lines` — the lines of a text.
* `VectorTrial.Text.cutAt?` — the two parts around the first occurrence of a character.
* `VectorTrial.Text.occursIn` — whether a text is a contiguous part of another.

## Main results

* `VectorTrial.Text.cutAt?_eq_some` — the parts of a cut and the character between them make up
  the text, and the first part does not hold the character.
-/

namespace VectorTrial.Text

/-- The lines of a text. A line ends with a line feed, or with a carriage return and a line feed;
neither belongs to it. The last line may lack its end, and no line stands after the last end. -/
def lines : List Char → List (List Char)
  | [] => []
  | '\r' :: '\n' :: rest => [] :: lines rest
  | c :: rest =>
    if c = '\n' then [] :: lines rest
    else
      match lines rest with
      | [] => [[c]]
      | first :: others => (c :: first) :: others

/-- The parts of a text before and after the first occurrence of a character, or nothing where the
character does not occur. -/
def cutAt? (mark : Char) : List Char → Option (List Char × List Char)
  | [] => none
  | c :: rest =>
    if c = mark then some ([], rest)
    else (cutAt? mark rest).map fun parts => (c :: parts.1, parts.2)

theorem cutAt?_eq_some {mark : Char} {cs before after : List Char}
    (h : cutAt? mark cs = some (before, after)) :
    cs = before ++ mark :: after ∧ mark ∉ before := by
  induction cs generalizing before with
  | nil => simp [cutAt?] at h
  | cons c rest ih =>
    by_cases hc : c = mark
    · simp only [cutAt?, if_pos hc, Option.some.injEq, Prod.mk.injEq] at h
      obtain ⟨rfl, rfl⟩ := h
      simp [hc]
    · simp only [cutAt?, if_neg hc, Option.map_eq_some_iff] at h
      obtain ⟨⟨b, a⟩, hcut, heq⟩ := h
      simp only [Prod.mk.injEq] at heq
      obtain ⟨rfl, rfl⟩ := heq
      obtain ⟨rfl, hb⟩ := ih hcut
      exact ⟨rfl, by simp [hb, Ne.symm hc]⟩

/-- Whether a text occurs in another as a contiguous part. -/
def occursIn (part : List Char) : List Char → Bool
  | [] => part.isEmpty
  | c :: rest => part.isPrefixOf (c :: rest) || occursIn part rest

end VectorTrial.Text
