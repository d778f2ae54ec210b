import Mathlib
import VectorTrial.Json.Writer
import VectorTrial.Proofs.Json.Spelling

/-!
# Written values are read back

A text is read one character at a time. A piece of text spells some tokens if the machine, standing
between two tokens, has read just these tokens after it, whatever follows. For words, what follows
must not go on with the word. Pieces are put together from left to right, so the text of a value
spells the tokens of the value, and these are assembled to the value.

## Main definitions

* `VectorTrial.Json.Scan.run` — the tokens that are read from a place of the machine on.
* `VectorTrial.Json.Spells` — a piece of text that spells tokens.
* `VectorTrial.Json.IsFaithful` — ways to write plain values that can be read back.

## Main results

* `VectorTrial.Json.spells_quoted`, `VectorTrial.Json.spells_int` — strings and integers.
* `VectorTrial.Json.spells_prettyAt` — the text of a plain value spells its tokens.
* `VectorTrial.Json.isFaithful_pretty` — a plain value is read back from its text.
-/

namespace VectorTrial.Json

/-! ### Pieces of text -/

/-- The tokens that are read from a place of the machine on. -/
def Scan.run (s : Scan) (text : List Char) : Option (List Token) := do
  (← text.foldlM Scan.step s).finish?

theorem Scan.run_cons (s : Scan) (c : Char) (text : List Char) :
    s.run (c :: text) = (s.step c).bind fun s' => s'.run text := by
  simp only [run, List.foldlM_cons, Option.bind_eq_bind, Option.bind_assoc]

/-- Whether a text is empty or begins with a character that no word holds. -/
def EndsWord (rest : List Char) : Prop := ∀ c ∈ rest.head?, Scan.isWordChar c = false

/-- **Spelling.** Before certain texts, a piece of text has been read as some tokens. -/
def Spells (Before : List Char → Prop) (text : List Char) (ts : List Token) : Prop :=
  ∀ read rest, Before rest →
    Scan.run ⟨.between, read⟩ (text ++ rest) = Scan.run ⟨.between, ts.reverse ++ read⟩ rest

/-- Any text. -/
def Anything (_ : List Char) : Prop := True

namespace Spells

variable {Before Before' : List Char → Prop} {text text' : List Char} {ts ts' : List Token}

theorem append (h : Spells Before text ts) (h' : Spells Before' text' ts')
    (hbefore : ∀ rest, Before' rest → Before (text' ++ rest)) :
    Spells Before' (text ++ text') (ts ++ ts') := by
  intro read rest hrest
  rw [List.append_assoc, h _ _ (hbefore rest hrest), h' _ _ hrest, List.reverse_append,
    List.append_assoc]

theorem mono (h : Spells Before text ts) (hbefore : ∀ rest, Before' rest → Before rest) :
    Spells Before' text ts :=
  fun read rest hrest => h read rest (hbefore rest hrest)

end Spells

theorem spells_nil : Spells Anything [] [] := fun _ _ _ => rfl

theorem spells_punctuation {c : Char} {t : Token}
    (h : ∀ read, Scan.stepBetween read c = some ⟨.between, t :: read⟩) :
    Spells Anything [c] [t] := by
  intro read rest _
  rw [List.singleton_append, Scan.run_cons]
  exact congrArg (Option.bind · fun s => s.run rest) (h read)

/-- A blank between two tokens. -/
theorem spells_blank {c : Char} (h : c = ' ' ∨ c = '\t' ∨ c = '\n' ∨ c = '\r') :
    Spells Anything [c] [] := by
  intro read rest _
  rw [List.singleton_append, Scan.run_cons, Scan.step, Scan.stepBetween, if_pos h]
  rfl

theorem spells_newLine (depth : Nat) : Spells Anything (newLine depth).toList [] := by
  have hblanks (n : Nat) : Spells Anything (List.replicate n ' ') [] := by
    induction n with
    | zero => exact spells_nil
    | succ n ih => exact (spells_blank (.inl rfl)).append ih fun _ _ => trivial
  rw [newLine, String.toList_ofList]
  exact (spells_blank (.inr (.inr (.inl rfl)))).append (hblanks _) fun _ _ => trivial

/-! ### Words -/

theorem EndsWord.cons {c : Char} {rest : List Char} (h : Scan.isWordChar c = false) :
    EndsWord (c :: rest) := by
  intro c' hc'
  obtain rfl : c = c' := by simpa using hc'
  exact h

/-- No blank and no quotation mark belongs to a word. -/
theorem stepBetween_of_isWordChar {c : Char} (h : Scan.isWordChar c = true) (read : List Token) :
    Scan.stepBetween read c = some ⟨.word [c], read⟩ := by
  have hblank : ¬(c = ' ' ∨ c = '\t' ∨ c = '\n' ∨ c = '\r') := by
    rintro (rfl | rfl | rfl | rfl) <;> exact absurd h (by decide)
  have hquote : c ≠ '"' := by
    rintro rfl
    exact absurd h (by decide)
  rw [Scan.stepBetween, if_neg hblank, if_neg hquote, if_pos h]

theorem step_word {c : Char} (h : Scan.isWordChar c = true) (chars : List Char)
    (read : List Token) : Scan.step ⟨.word chars, read⟩ c = some ⟨.word (c :: chars), read⟩ :=
  if_pos h

theorem step_wordEnd {c : Char} (h : Scan.isWordChar c = false) {chars : List Char} {t : Token}
    (hread : readWord? chars.reverse = some t) (read : List Token) :
    Scan.step ⟨.word chars, read⟩ c = Scan.step ⟨.between, t :: read⟩ c := by
  simp only [Scan.step, h, hread]
  rfl

theorem run_word {word : List Char} (hword : ∀ c ∈ word, Scan.isWordChar c = true)
    (chars rest : List Char) (read : List Token) :
    Scan.run ⟨.word chars, read⟩ (word ++ rest) =
      Scan.run ⟨.word (word.reverse ++ chars), read⟩ rest := by
  induction word generalizing chars with
  | nil => rfl
  | cons c word ih =>
    obtain ⟨hc, hword⟩ := List.forall_mem_cons.1 hword
    rw [List.cons_append, Scan.run_cons, step_word hc, Option.bind_some, ih hword,
      List.reverse_cons, List.append_assoc, List.singleton_append]

/-- A word ends with the text, or where a character stands that no word holds. -/
theorem run_wordEnd {chars rest : List Char} {t : Token} (hread : readWord? chars.reverse = some t)
    (hrest : EndsWord rest) (read : List Token) :
    Scan.run ⟨.word chars, read⟩ rest = Scan.run ⟨.between, t :: read⟩ rest := by
  cases rest with
  | nil => simp [Scan.run, Scan.finish?, hread]
  | cons c rest => rw [Scan.run_cons, Scan.run_cons, step_wordEnd (hrest c rfl) hread]

theorem spells_word {word : List Char} {t : Token} (hne : word ≠ [])
    (hword : ∀ c ∈ word, Scan.isWordChar c = true) (hread : readWord? word = some t) :
    Spells EndsWord word [t] := by
  intro read rest hrest
  obtain ⟨c, cs, rfl⟩ := List.exists_cons_of_ne_nil hne
  obtain ⟨hc, hcs⟩ := List.forall_mem_cons.1 hword
  have hchars : readWord? (cs.reverse ++ [c]).reverse = some t := by simpa using hread
  rw [List.cons_append, Scan.run_cons, Scan.step, stepBetween_of_isWordChar hc, Option.bind_some,
    run_word hcs, run_wordEnd hchars hrest]
  rfl

theorem spells_null : Spells EndsWord "null".toList [.null] :=
  spells_word (by decide) (List.all_eq_true.1 (by decide)) (if_pos rfl)

theorem spells_true : Spells EndsWord "true".toList [.bool true] :=
  spells_word (by decide) (List.all_eq_true.1 (by decide))
    ((if_neg (by decide)).trans (if_pos rfl))

theorem spells_false : Spells EndsWord "false".toList [.bool false] :=
  spells_word (by decide) (List.all_eq_true.1 (by decide))
    ((if_neg (by decide)).trans ((if_neg (by decide)).trans (if_pos rfl)))

/-! ### Strings -/

theorem hexValue?_hexDigit {n : Nat} (h : n < 16) : hexValue? (Text.hexDigit n) = some n := by
  revert n
  decide

theorem step_code {c : Char} {digit : Nat} (h : hexValue? c = some digit) (units : List StringUnit)
    (missing value : Nat) (read : List Token) :
    Scan.step ⟨.code units missing value, read⟩ c =
      if missing ≤ 1 then some ⟨.string (.ofCode (16 * value + digit) :: units), read⟩
      else some ⟨.code units (missing - 1) (16 * value + digit), read⟩ := by
  simp only [Scan.step, h]
  rfl

/-- The code of a control character is read as this character. -/
theorem run_control {c : Char} (h : c.toNat < 0x20) (units : List StringUnit) (read : List Token)
    (rest : List Char) :
    Scan.run ⟨.string units, read⟩
        (['\\', 'u', '0', '0'] ++ Text.hexByte (UInt8.ofNat c.toNat) ++ rest) =
      Scan.run ⟨.string (.char c :: units), read⟩ rest := by
  have hbyte : (UInt8.ofNat c.toNat).toNat = c.toNat := by
    rw [UInt8.toNat_ofNat', Nat.mod_eq_of_lt (by omega)]
  have hhigh : hexValue? (Text.hexDigit (c.toNat / 16)) = some (c.toNat / 16) :=
    hexValue?_hexDigit (by omega)
  have hlow : hexValue? (Text.hexDigit (c.toNat % 16)) = some (c.toNat % 16) :=
    hexValue?_hexDigit (by omega)
  have hcode : 16 * (16 * 0 + c.toNat / 16) + c.toNat % 16 = c.toNat := by omega
  have hunit : StringUnit.ofCode c.toNat = .char c := by
    rw [StringUnit.ofCode, if_neg (by omega), Char.ofNat_toNat]
  rw [Text.hexByte, hbyte]
  change Scan.run ⟨.code units 2 0, read⟩ ([_, _] ++ rest) = _
  rw [List.cons_append, Scan.run_cons, step_code hhigh, if_neg (by decide), Option.bind_some,
    List.cons_append, Scan.run_cons, step_code hlow, if_pos (by decide), Option.bind_some, hcode,
    hunit]
  rfl

theorem run_escapeChar (c : Char) (units : List StringUnit) (read : List Token)
    (rest : List Char) :
    Scan.run ⟨.string units, read⟩ (escapeChar c ++ rest) =
      Scan.run ⟨.string (.char c :: units), read⟩ rest := by
  by_cases hshort : c ∈ ['"', '\\', '\x08', '\x0c', '\n', '\r', '\t']
  · simp only [List.mem_cons, List.not_mem_nil, or_false] at hshort
    rcases hshort with rfl | rfl | rfl | rfl | rfl | rfl | rfl <;> rfl
  · simp only [List.mem_cons, List.not_mem_nil, or_false, not_or] at hshort
    obtain ⟨hquote, hbackslash, hb, hf, hn, hr, ht⟩ := hshort
    rw [escapeChar, if_neg hquote, if_neg hbackslash, if_neg hb, if_neg hf, if_neg hn, if_neg hr,
      if_neg ht]
    split
    · exact run_control ‹_› units read rest
    · next hcontrol =>
      have hstep : Scan.step ⟨.string units, read⟩ c = some ⟨.string (.char c :: units), read⟩ := by
        simp only [Scan.step, if_neg hquote, if_neg hbackslash, if_neg hcontrol]
      rw [List.singleton_append, Scan.run_cons, hstep, Option.bind_some]

theorem run_escaped (cs : List Char) (units : List StringUnit) (read : List Token)
    (rest : List Char) :
    Scan.run ⟨.string units, read⟩ (cs.flatMap escapeChar ++ rest) =
      Scan.run ⟨.string ((cs.map .char).reverse ++ units), read⟩ rest := by
  induction cs generalizing units with
  | nil => rfl
  | cons c cs ih =>
    rw [List.flatMap_cons, List.append_assoc, run_escapeChar, ih, List.map_cons, List.reverse_cons,
      List.append_assoc, List.singleton_append]

theorem joinUnits_map_char (cs : List Char) : joinUnits (cs.map .char) = some cs := by
  induction cs with
  | nil => rfl
  | cons c cs ih => rw [List.map_cons, joinUnits, ih, Option.map_some]

theorem spells_quoted (s : String) : Spells Anything (quoted s).toList [.str (some s)] := by
  intro read rest _
  have htoken : stringToken ((s.toList.map StringUnit.char).reverse ++ []) = .str (some s) := by
    rw [List.append_nil, stringToken, List.reverse_reverse, joinUnits_map_char, Option.map_some,
      String.ofList_toList]
  rw [quoted, String.toList_ofList, List.append_assoc]
  change Scan.run ⟨.string [], read⟩ (s.toList.flatMap escapeChar ++ '"' :: rest) = _
  rw [run_escaped]
  change Scan.run ⟨.between, stringToken _ :: read⟩ rest = _
  rw [htoken]
  rfl

/-! ### Integers -/

/-- A number keeps growing as digits are appended. -/
theorem le_ofDigitChars (n : Nat) (digits : List Char) : n ≤ Nat.ofDigitChars 10 digits n := by
  induction digits generalizing n with
  | nil => exact Nat.le_refl n
  | cons c digits ih =>
    rw [Nat.ofDigitChars_cons]
    exact le_trans (by omega) (ih _)

/-- Digits are appended one by one where the number they make fits 64 bits. -/
theorem absorb_eq {n : Nat} {digits : List Char} (h : Nat.ofDigitChars 10 digits n < UInt64.size) :
    absorb n digits = (Nat.ofDigitChars 10 digits n, []) := by
  induction digits generalizing n with
  | nil => rfl
  | cons c digits ih =>
    rw [Nat.ofDigitChars_cons] at h ⊢
    exact (if_pos (lt_of_le_of_lt (le_ofDigitChars _ _) h)).trans (ih h)

/-- The numeral of a positive number has no leading zero. -/
theorem head?_toDigits_ne {n : Nat} (h : 0 < n) : (Nat.toDigits 10 n).head? ≠ some '0' := by
  induction n using Nat.strongRecOn with
  | ind n ih =>
    rw [Nat.toDigits_eq_if (by decide)]
    split_ifs with hsmall
    · interval_cases n <;> decide
    · rw [List.head?_append_of_ne_nil _ Nat.toDigits_ne_nil]
      exact ih (n / 10) (by omega) (by omega)

theorem spanDigits_toDigits (n : Nat) :
    spanDigits (Nat.toDigits 10 n) = (Nat.toDigits 10 n, []) := by
  have hdigits : ∀ c ∈ Nat.toDigits 10 n, c.isDigit = true :=
    fun _ hc => Nat.isDigit_of_mem_toDigits (by decide) (by decide) hc
  rw [spanDigits, List.span_eq_takeWhile_dropWhile, List.takeWhile_eq_self_iff.2 hdigits,
    List.dropWhile_eq_nil_iff.2 hdigits]

/-- The numeral of a number of 64 bits is read as the integer, if there is one of this sign. -/
theorem readNumber?_toDigits {negative : Bool} {n : Nat} (h : n < UInt64.size) {t : Token}
    (ht : integerToken? negative n = some t) :
    readNumber? negative (Nat.toDigits 10 n) = some t := by
  have hzero : ((Nat.toDigits 10 n).isEmpty ||
      ((Nat.toDigits 10 n).head? == some '0' && Nat.toDigits 10 n != ['0'])) = false := by
    rcases Nat.eq_zero_or_pos n with rfl | hpos
    · decide
    · simp [head?_toDigits_ne hpos, Nat.toDigits_ne_nil]
  have hvalue := Nat.ofDigitChars_toDigits (b := 10) (n := n) (by decide) (by decide)
  have habsorb : absorb 0 (Nat.toDigits 10 n) = (n, []) := by
    rw [absorb_eq (by rw [hvalue]; exact h), hvalue]
  simp only [readNumber?, spanDigits_toDigits, hzero, spanFraction, readExponent, habsorb, ht]
  rfl

/-- A word that is none of the three names is a number. -/
theorem readWord?_eq (word : List Char) :
    word ∉ ["null".toList, "true".toList, "false".toList] →
      readWord? word = match word with
        | '-' :: rest => readNumber? true rest
        | _ => readNumber? false word := by
  intro h
  simp only [List.mem_cons, List.not_mem_nil, or_false, not_or] at h
  exact (if_neg h.1).trans ((if_neg h.2.1).trans (if_neg h.2.2))

theorem readWord?_minus (word : List Char) : readWord? ('-' :: word) = readNumber? true word :=
  readWord?_eq _ (by simp)

theorem readWord?_of_isDigit {c : Char} {word : List Char} (h : c.isDigit = true) :
    readWord? (c :: word) = readNumber? false (c :: word) := by
  have hother (c' : Char) (hc' : c'.isDigit = false) : c ≠ c' := by
    rintro rfl
    exact absurd h (by simp [hc'])
  rw [readWord?_eq _ (by simp [hother 'n' rfl, hother 't' rfl, hother 'f' rfl])]
  split
  · exact absurd (List.cons.inj ‹_›).1 (hother '-' rfl)
  · rfl

theorem isWordChar_of_mem_toDigits {n : Nat} {c : Char} (h : c ∈ Nat.toDigits 10 n) :
    Scan.isWordChar c = true := by
  have hdigit : c.isDigit = true := Nat.isDigit_of_mem_toDigits (by decide) (by decide) h
  simp [Scan.isWordChar, Char.isAlphanum, hdigit]

/-- Natural numbers are written with digits alone, negative ones with a minus sign. -/
theorem spells_int {n : Int} (hmin : Int64.minValue.toInt ≤ n) (hmax : n < UInt64.size) :
    Spells EndsWord (toString n).toList [.int n] := by
  cases n with
  | ofNat n =>
    have hsize : n < UInt64.size := Int.ofNat_lt.1 hmax
    have hword : (toString (Int.ofNat n)).toList = Nat.toDigits 10 n := Nat.toList_repr
    have hread : readWord? (Nat.toDigits 10 n) = some (.int n) := by
      obtain ⟨c, cs, hdigits⟩ := List.exists_cons_of_ne_nil (Nat.toDigits_ne_nil (b := 10) (n := n))
      have hc : c.isDigit = true :=
        Nat.isDigit_of_mem_toDigits (by decide) (by decide) (hdigits ▸ List.mem_cons_self)
      rw [hdigits, readWord?_of_isDigit hc, ← hdigits]
      exact readNumber?_toDigits hsize rfl
    rw [hword]
    exact spells_word Nat.toDigits_ne_nil (fun c hc => isWordChar_of_mem_toDigits hc) hread
  | negSucc n =>
    have hnumber : -((n + 1 : Nat) : Int) = Int.negSucc n := rfl
    have hfits : 0 < n + 1 ∧ Int64.minValue.toInt ≤ -((n + 1 : Nat) : Int) :=
      ⟨Nat.succ_pos n, hmin⟩
    have hbound : -((2 : Int) ^ 63) ≤ Int.negSucc n := hmin
    have hsize : n + 1 < UInt64.size := by
      change n + 1 < 2 ^ 64
      omega
    have hword : (toString (Int.negSucc n)).toList = '-' :: Nat.toDigits 10 (n + 1) := by
      change ("-" ++ (n + 1).repr).toList = _
      rw [String.toList_append, Nat.toList_repr]
      rfl
    have hread : readWord? ('-' :: Nat.toDigits 10 (n + 1)) = some (.int (Int.negSucc n)) := by
      rw [readWord?_minus]
      refine readNumber?_toDigits hsize ?_
      rw [integerToken?, if_neg (by decide), if_pos hfits, hnumber]
    rw [hword]
    exact spells_word (List.cons_ne_nil _ _)
      (List.forall_mem_cons.2 ⟨by decide, fun c hc => isWordChar_of_mem_toDigits hc⟩) hread

/-! ### Values -/

theorem prettyItems_eq_map (depth : Nat) (items : List Json) :
    prettyItems depth items = items.map (prettyAt depth) := by
  induction items with
  | nil => rfl
  | cons j rest ih => rw [prettyItems, ih, List.map_cons]

/-- The text of one member at a depth. -/
def prettyMember (depth : Nat) (m : String × Json) : String :=
  quoted m.1 ++ ": " ++ prettyAt depth m.2

theorem prettyMembers_eq_map (depth : Nat) (members : List (String × Json)) :
    prettyMembers depth members = members.map (prettyMember depth) := by
  induction members with
  | nil => rfl
  | cons m rest ih => rw [prettyMembers, ih, List.map_cons, prettyMember]

theorem endsWord_newLine (depth : Nat) (rest : List Char) :
    EndsWord ((newLine depth).toList ++ rest) := by
  rw [newLine, String.toList_ofList]
  exact .cons (by decide)

/-- Parts between commas, each on a line of its own. -/
theorem spells_series {α : Type} {write : α → String} {spell : α → List Token} (depth : Nat)
    {part : α} {parts : List α}
    (h : ∀ p ∈ part :: parts, Spells EndsWord (write p).toList (spell p)) :
    Spells EndsWord
      (String.intercalate ("," ++ newLine depth) ((part :: parts).map write)).toList
      ([.comma].intercalate ((part :: parts).map spell)) := by
  have hcomma : Spells Anything ("," ++ newLine depth).toList [.comma] := by
    rw [String.toList_append]
    exact (spells_punctuation fun _ => rfl).append (spells_newLine depth) fun _ _ => trivial
  rw [String.toList_intercalate, List.map_map]
  induction parts generalizing part with
  | nil => simpa using h
  | cons next parts ih =>
    obtain ⟨hpart, hrest⟩ := List.forall_mem_cons.1 h
    rw [List.map_cons, List.map_cons, List.map_cons, List.map_cons, List.intercalate_cons_cons,
      List.intercalate_cons_cons, List.append_assoc, List.append_assoc]
    refine hpart.append (hcomma.append (ih hrest) fun _ _ => trivial) fun rest _ => ?_
    rw [String.toList_append]
    exact .cons (by decide)

/-- Parts on lines between two brackets. -/
theorem spells_enclose {α : Type} {write : α → String} {spell : α → List Token} {parts : List α}
    {left right : String} {l r : Token} (depth : Nat)
    (h : ∀ p ∈ parts, Spells EndsWord (write p).toList (spell p))
    (hleft : Spells Anything left.toList [l]) (hright : Spells Anything right.toList [r]) :
    Spells Anything (enclose left right depth (parts.map write)).toList
      (l :: ([.comma].intercalate (parts.map spell) ++ [r])) := by
  cases parts with
  | nil =>
    rw [enclose, List.map_nil, if_pos List.isEmpty_nil, String.toList_append]
    exact hleft.append hright fun _ _ => trivial
  | cons part parts =>
    have hseries := spells_series (depth + 1) h
    have hend : Spells Anything ((newLine depth).toList ++ right.toList) [r] :=
      (spells_newLine depth).append hright fun _ _ => trivial
    have hlines := hseries.append hend fun rest _ => by
      rw [List.append_assoc]
      exact endsWord_newLine depth _
    have hbegin : Spells Anything (left.toList ++ (newLine (depth + 1)).toList) [l] :=
      hleft.append (spells_newLine (depth + 1)) fun _ _ => trivial
    have hall := hbegin.append hlines fun _ _ => trivial
    rw [enclose, if_neg (by simp)]
    simpa only [String.toList_append, List.append_assoc, List.singleton_append] using hall

/-- **The text of a value.** The text of a plain value spells the tokens of the value. -/
theorem spells_prettyAt {j : Json} (h : j.IsPlain) (depth : Nat) :
    Spells EndsWord (prettyAt depth j).toList j.tokens := by
  induction h generalizing depth with
  | null => exact spells_null
  | bool b =>
    cases b with
    | false => exact spells_false
    | true => exact spells_true
  | int hmin hmax => exact spells_int hmin hmax
  | str s => exact (spells_quoted s).mono fun _ _ => trivial
  | @arr items _ ih =>
    have hleft : Spells Anything "[".toList [.leftBracket] := spells_punctuation fun _ => rfl
    have hright : Spells Anything "]".toList [.rightBracket] := spells_punctuation fun _ => rfl
    rw [prettyAt, prettyItems_eq_map, tokens, itemTokens_eq_map]
    exact (spells_enclose depth (fun j hj => ih j hj (depth + 1)) hleft hright).mono
      fun _ _ => trivial
  | @obj members _ ih =>
    have hmember (m : String × Json) (hm : m ∈ members) :
        Spells EndsWord (prettyMember (depth + 1) m).toList (tokensOfMember m) := by
      have hcolon : Spells Anything ": ".toList [.colon] :=
        (spells_punctuation fun _ => rfl).append (spells_blank (.inl rfl)) fun _ _ => trivial
      have hname := (spells_quoted m.1).append hcolon fun _ _ => trivial
      rw [prettyMember, String.toList_append, String.toList_append]
      exact hname.append (ih m hm (depth + 1)) fun _ _ => trivial
    have hleft : Spells Anything "\x7b".toList [.leftBrace] := spells_punctuation fun _ => rfl
    have hright : Spells Anything "\x7d".toList [.rightBrace] := spells_punctuation fun _ => rfl
    rw [prettyAt, prettyMembers_eq_map, tokens, memberTokens_eq_map]
    exact (spells_enclose depth hmember hleft hright).mono fun _ _ => trivial

/-- **Faithful writers.** A plain value is read back from the text that is written for it. -/
def IsFaithful (write : Json → String) : Prop := ∀ j : Json, j.IsPlain → parse? (write j) = some j

/-- **Reading back.** Writing over several lines is faithful. -/
theorem isFaithful_pretty : IsFaithful pretty := by
  intro j h
  have hrun : Scan.run .start (j.pretty.toList ++ []) =
      Scan.run ⟨.between, j.tokens.reverse ++ []⟩ [] := spells_prettyAt h 0 [] [] nofun
  rw [List.append_nil, List.append_nil] at hrun
  have htokens : tokens? j.pretty.toList = some j.tokens := by
    refine hrun.trans ?_
    simp [Scan.run, Scan.finish?]
  rw [parse?, htokens]
  exact ofTokens?_tokens h

end VectorTrial.Json
