import VectorTrial.Json.Reader
import VectorTrial.Proofs.Json.Reordering

/-!
# The tokens of a value

Every plain value is spelled by a list of tokens, and the machine that assembles tokens makes this
value of them, whatever arrays and objects are open around it. The invariant is about one value: its
tokens take the machine from where a value is expected to where this value has been accepted.

## Main definitions

* `VectorTrial.Json.tokens` — the tokens of a value.

## Main results

* `VectorTrial.Json.Assembly.foldlM_tokens` — the machine accepts a value from its tokens.
* `VectorTrial.Json.ofTokens?_tokens` — the tokens of a value are read back.
-/

namespace VectorTrial.Json

mutual

/-- **Tokens.** The tokens that a value is spelled with. What no text stands for has none. -/
def tokens : Json → List Token
  | null => [.null]
  | bool b => [.bool b]
  | int n => [.int n]
  | float x => [.float x]
  | str s => [.str (some s)]
  | arr items => .leftBracket :: ([.comma].intercalate (itemTokens items) ++ [.rightBracket])
  | obj members => .leftBrace :: ([.comma].intercalate (memberTokens members) ++ [.rightBrace])
  | unreadable => []

/-- The tokens of each of some values. -/
def itemTokens : List Json → List (List Token)
  | [] => []
  | j :: rest => j.tokens :: itemTokens rest

/-- The tokens of each of some members. -/
def memberTokens : List (String × Json) → List (List Token)
  | [] => []
  | (name, j) :: rest => (.str (some name) :: .colon :: j.tokens) :: memberTokens rest

end

theorem itemTokens_eq_map (items : List Json) : itemTokens items = items.map tokens := by
  induction items with
  | nil => rfl
  | cons j rest ih => rw [itemTokens, ih, List.map_cons]

/-- The tokens of one member. -/
def tokensOfMember (m : String × Json) : List Token := .str (some m.1) :: .colon :: m.2.tokens

theorem memberTokens_eq_map (members : List (String × Json)) :
    memberTokens members = members.map tokensOfMember := by
  induction members with
  | nil => rfl
  | cons m rest ih => rw [memberTokens, ih, List.map_cons, tokensOfMember]

/-- A series begins with its first part. -/
theorem exists_intercalate_cons_eq_append {α : Type} (separator first : List α)
    (parts : List (List α)) : ∃ rest, separator.intercalate (first :: parts) = first ++ rest := by
  cases parts with
  | nil => exact ⟨[], by rw [List.intercalate_singleton, List.append_nil]⟩
  | cons next parts => exact ⟨_, by rw [List.intercalate_cons_cons, List.append_assoc]⟩

/-- The tokens of a plain value do not begin with a closing bracket. -/
theorem IsPlain.exists_tokens_eq_cons {j : Json} (h : j.IsPlain) :
    ∃ t ts, j.tokens = t :: ts ∧ t ≠ .rightBracket := by
  cases h <;> exact ⟨_, _, rfl, nofun⟩

namespace Assembly

/-- What the machine does over the tokens of a value, whatever follows them. -/
def Accepts (j : Json) : Prop :=
  ∀ frames rest, (j.tokens ++ rest).foldlM step ⟨frames, .value⟩ =
    rest.foldlM step (accept frames j)

/-- The parts of an array or object, by induction on those still to come: if the tokens of each part
take the frame on by this part, then those of all parts between commas take it on by all of them. -/
theorem foldlM_parts {α : Type} (spell : α → List Token) (frame : List α → Frame)
    (e : Expectation) (frames : List Frame) {part : α} {parts : List α}
    (hcomma : ∀ read, step ⟨frame read :: frames, .commaOrEnd⟩ .comma =
      some ⟨frame read :: frames, e⟩)
    (hparts : ∀ p ∈ part :: parts, ∀ read rest,
      (spell p ++ rest).foldlM step ⟨frame read :: frames, e⟩ =
        rest.foldlM step ⟨frame (p :: read) :: frames, .commaOrEnd⟩)
    (read : List α) (rest : List Token) :
    ([.comma].intercalate ((part :: parts).map spell) ++ rest).foldlM step
        ⟨frame read :: frames, e⟩ =
      rest.foldlM step ⟨frame ((part :: parts).reverse ++ read) :: frames, .commaOrEnd⟩ := by
  induction parts generalizing part read with
  | nil =>
    rw [List.map_singleton, List.intercalate_singleton, hparts part List.mem_cons_self]
    rfl
  | cons next parts ih =>
    obtain ⟨hpart, hrest⟩ := List.forall_mem_cons.1 hparts
    rw [List.map_cons, List.map_cons, List.intercalate_cons_cons, List.append_assoc,
      List.append_assoc, hpart, List.singleton_append, List.foldlM_cons, hcomma,
      Option.bind_eq_bind, Option.bind_some, ← List.map_cons, ih hrest, List.reverse_cons,
      List.reverse_cons, List.append_assoc, List.singleton_append]
    simp

/-- An open object with members whose names all have a reading. The open name is that of the last
member. -/
def objectFrame (members : List (String × Json)) : Frame :=
  .object members true ((members.head?.map Prod.fst).getD "")

/-- An array may begin with any item. -/
theorem foldlM_itemOrEnd {frames : List Frame} {t : Token} (ht : t ≠ .rightBracket)
    (rest : List Token) :
    (t :: rest).foldlM step ⟨frames, .itemOrEnd⟩ = (t :: rest).foldlM step ⟨frames, .value⟩ := by
  have hstep : step ⟨frames, .itemOrEnd⟩ t = step ⟨frames, .value⟩ t := by
    cases t <;> first | rfl | exact absurd rfl ht
  rw [List.foldlM_cons, List.foldlM_cons, hstep]

/-- **Accepting values.** The tokens of a plain value take the machine from where a value is
expected to where this value has been accepted. -/
theorem accepts_of_isPlain {j : Json} (h : j.IsPlain) : Accepts j := by
  induction h with
  | null | bool | int | str => exact fun _ _ => rfl
  | @arr items hplain ih =>
    intro frames rest
    rw [tokens, List.cons_append, List.append_assoc, List.singleton_append, itemTokens_eq_map]
    change List.foldlM step ⟨.array [] :: frames, .itemOrEnd⟩ _ = _
    cases items with
    | nil => rfl
    | cons j items =>
      have hitems := foldlM_parts tokens .array .value frames (fun _ => rfl)
        (fun j hj read => ih j hj (.array read :: frames)) [] (.rightBracket :: rest)
      obtain ⟨t, ts, htokens, ht⟩ := (hplain j List.mem_cons_self).exists_tokens_eq_cons
      obtain ⟨after, hseries⟩ :=
        exists_intercalate_cons_eq_append [.comma] j.tokens (items.map tokens)
      rw [List.map_cons, hseries, htokens, List.cons_append, List.cons_append] at hitems ⊢
      rw [foldlM_itemOrEnd ht, hitems]
      simp [step, stepEnd]
  | @obj members _ ih =>
    intro frames rest
    rw [tokens, List.cons_append, List.append_assoc, List.singleton_append, memberTokens_eq_map]
    change List.foldlM step ⟨objectFrame [] :: frames, .nameOrEnd⟩ _ = _
    cases members with
    | nil => rfl
    | cons m members =>
      have hmembers := foldlM_parts tokensOfMember objectFrame .name frames (fun _ => rfl)
        (fun m hm read => ih m hm (.object read true m.1 :: frames)) [] (.rightBrace :: rest)
      obtain ⟨after, hseries⟩ :=
        exists_intercalate_cons_eq_append [.comma] (tokensOfMember m) (members.map tokensOfMember)
      have hfirst : step ⟨objectFrame [] :: frames, .nameOrEnd⟩ (.str (some m.1)) =
          step ⟨objectFrame [] :: frames, .name⟩ (.str (some m.1)) := rfl
      rw [List.map_cons, hseries, tokensOfMember, List.cons_append, List.cons_append,
        List.foldlM_cons] at hmembers ⊢
      rw [hfirst, hmembers]
      simp [step, stepEnd, objectFrame, closeObject]

end Assembly

/-- **Assembling values.** A plain value is assembled from its tokens. -/
theorem ofTokens?_tokens {j : Json} (h : j.IsPlain) : ofTokens? j.tokens = some j := by
  have hfold := Assembly.accepts_of_isPlain h [] []
  rw [List.append_nil] at hfold
  rw [ofTokens?, Assembly.start, hfold]
  rfl

end VectorTrial.Json
