import VectorTrial.Proofs.Program.Resolution
import VectorTrial.Proofs.Text.Reading

/-!
# Written programs can be read back

Types, operands, instructions, functions and declarations are written so that each can be read back
from a text that begins with it. A constant shows its width in its type only, and the commas between
the elements of a vector are told from those between arguments by the closing bracket.

## Main definitions

* `VectorTrial.Program.Value.IsPlain`, `VectorTrial.Program.Inst.IsPlain`,
  `VectorTrial.Program.Function.IsPlain` — all names are words.

## Main results

* `VectorTrial.Program.readable_ty`, `VectorTrial.Program.readable_value`,
  `VectorTrial.Program.readable_line`, `VectorTrial.Program.readable_function`,
  `VectorTrial.Program.readable_declaration` — the parts of a program can be read back.
-/

namespace VectorTrial.Program

open Text

/-! ### Types -/

theorem readable_ty : Readable (fun _ => True) Ty.text EndsWord := by
  intro x y r r' _ _ hr hr' h
  cases x with
  | int bits =>
    cases y with
    | int bits' =>
      simp only [Ty.text, String.toList_append, List.append_assoc] at h
      obtain ⟨rfl, hrest⟩ := readable_word32 trivial trivial hr hr' (List.append_cancel_left h)
      exact ⟨rfl, hrest⟩
    | vector lanes bits' => simp [Ty.text] at h
  | vector lanes bits =>
    cases y with
    | int bits' => simp [Ty.text] at h
    | vector lanes' bits' =>
      simp only [Ty.text, String.toList_append, List.append_assoc] at h
      obtain ⟨rfl, hbits⟩ := readable_word32.before trivial trivial (List.append_cancel_left h) rfl
      obtain ⟨rfl, hrest⟩ := readable_word32.before trivial trivial hbits rfl
      exact ⟨rfl, hrest⟩

/-- A type begins with a letter or an angle bracket. -/
theorem exists_cons_text_ty (ty : Ty) (rest : List Char) :
    ∃ c cs, ty.text.toList ++ rest = c :: cs ∧ c ≠ ')' := by
  cases ty with
  | int bits => exact ⟨'i', (toString bits).toList ++ rest, by simp [Ty.text], by decide⟩
  | vector lanes bits =>
    exact ⟨'<', (toString lanes ++ " x i" ++ toString bits ++ ">").toList ++ rest,
      by simp [Ty.text], by decide⟩

/-! ### Operands -/

/-- The elements of a vector of some width. -/
theorem readable_element (bits : UInt32) :
    Readable (fun _ => True) (fun v : Int64 => "i" ++ toString bits ++ " " ++ toString v)
      EndsWord := by
  intro x y r r' _ _ hr hr' h
  simp only [String.toList_append, List.append_assoc] at h
  exact readable_int64 trivial trivial hr hr'
    (List.append_cancel_left (List.append_cancel_left (List.append_cancel_left h)))

/-- Whether the name of an operand, where it has one, is a word. -/
def Value.IsPlain : Value → Prop
  | .const _ => True
  | .ref name _ => IsWord name

/-- A constant is told from a name by its first character. -/
theorem exists_cons_text_constant (c : Constant) :
    ∃ first cs, c.text.toList = first :: cs ∧ first ≠ '%' := by
  cases c with
  | int bits n =>
    obtain ⟨first, cs, hcs, hfirst⟩ := exists_cons_int64 n
    refine ⟨first, cs, hcs, ?_⟩
    rintro rfl
    cases hfirst
  | vector bits elements =>
    rw [Constant.text, String.append_assoc, String.toList_append]
    exact ⟨'<', _, rfl, by decide⟩

/-- Where its type is known, a constant can be read back. -/
theorem readable_constant (ty : Ty) : Readable (fun c => c.ty = ty) Constant.text EndsWord := by
  intro x y r r' hx hy hr hr' h
  cases x with
  | int bits n =>
    cases y with
    | int bits' n' =>
      cases hx
      cases hy
      obtain ⟨rfl, hrest⟩ := readable_int64 trivial trivial hr hr' h
      exact ⟨rfl, hrest⟩
    | vector bits' elements' => cases hx.trans hy.symm
  | vector bits elements =>
    cases y with
    | int bits' n' => cases hx.trans hy.symm
    | vector bits' elements' =>
      -- Without elements the text does not show the width: it is taken from the type.
      obtain rfl : bits = bits' := (Ty.vector.inj (hx.trans hy.symm)).2
      simp only [Constant.text, String.toList_append, List.append_assoc] at h
      obtain ⟨rfl, hrest⟩ := (readable_element bits).commaList '>'
        (fun v _ => ⟨'i', _, by simp; rfl, by decide⟩) (fun _ _ => trivial) (fun _ _ => trivial)
        (List.append_cancel_left h) rfl rfl (by decide)
      exact ⟨rfl, hrest⟩

/-- **Operands.** An operand with its type can be read back. -/
theorem readable_value : Readable Value.IsPlain Value.typedText EndsWord := by
  intro x y r r' hx hy hr hr' h
  simp only [Value.typedText, String.toList_append, List.append_assoc] at h
  -- The types come first. Where they agree, one character tells a constant from a name.
  obtain ⟨hty, htext⟩ := readable_ty.before trivial trivial h rfl
  cases x with
  | const c =>
    cases y with
    | const c' =>
      obtain ⟨rfl, hrest⟩ := readable_constant c'.ty hty rfl hr hr' htext
      exact ⟨rfl, hrest⟩
    | ref name ty =>
      obtain ⟨first, cs, hcs, hfirst⟩ := exists_cons_text_constant c
      simp only [Value.text, hcs, String.toList_append] at htext
      exact absurd (List.cons.inj htext).1 hfirst
  | ref name ty =>
    cases y with
    | const c' =>
      obtain ⟨first, cs, hcs, hfirst⟩ := exists_cons_text_constant c'
      simp only [Value.text, hcs, String.toList_append] at htext
      exact absurd (List.cons.inj htext).1.symm hfirst
    | ref name' ty' =>
      simp only [Value.text, String.toList_append, List.append_assoc] at htext
      obtain ⟨rfl, hrest⟩ := readable_word hx hy hr hr' (List.append_cancel_left htext)
      exact ⟨congrArg (Value.ref name) hty, hrest⟩

theorem exists_cons_typedText (v : Value) :
    ∃ c cs, v.typedText.toList = c :: cs ∧ c ≠ ')' := by
  rw [Value.typedText, String.append_assoc, String.toList_append]
  exact exists_cons_text_ty v.ty _

/-! ### Instructions -/

/-- Whether all names of parameters and intermediate results in an instruction are words. -/
def Inst.HasPlainLocals : Inst → Prop
  | .call dest _ _ args => IsWord dest ∧ ∀ v ∈ args, v.IsPlain
  | .ret value => value.IsPlain

/-- Whether all names in an instruction are words. -/
structure Inst.IsPlain (i : Inst) : Prop where
  locals : i.HasPlainLocals
  callee : ∀ callee, i.callee? = some callee → IsWord callee

/-- **Instructions.** An instruction on a line of its own can be read back. -/
theorem readable_line :
    Readable Inst.IsPlain (fun i => "  " ++ i.text ++ "\n") (fun _ => True) := by
  intro x y r r' hx hy _ _ h
  cases x with
  | call dest ty callee args =>
    cases y with
    | call dest' ty' callee' args' =>
      simp only [Inst.text, String.toList_append, List.append_assoc] at h
      obtain ⟨rfl, hty⟩ := readable_word.before hx.locals.1 hy.locals.1
        (List.append_cancel_left (List.append_cancel_left h)) rfl
      obtain ⟨rfl, hcallee⟩ := readable_ty.before trivial trivial hty rfl
      obtain ⟨rfl, hargs⟩ := readable_word.before (hx.callee callee rfl) (hy.callee callee' rfl)
        hcallee rfl
      obtain ⟨rfl, hrest⟩ := readable_value.commaList ')' (fun v _ => exists_cons_typedText v)
        hx.locals.2 hy.locals.2 hargs rfl rfl (by decide)
      exact ⟨rfl, List.append_cancel_left hrest⟩
    | ret value => simp [Inst.text] at h
  | ret value =>
    cases y with
    | call dest ty callee args => simp [Inst.text] at h
    | ret value' =>
      simp only [Inst.text, String.toList_append, List.append_assoc] at h
      obtain ⟨rfl, hrest⟩ := readable_value.before hx.locals hy.locals
        (List.append_cancel_left (List.append_cancel_left h)) rfl
      exact ⟨rfl, hrest⟩

/-! ### Functions and declarations -/

/-- Whether a function is one block with the label of all functions, and the names of its parameters
and intermediate results are words. -/
structure Function.HasPlainLocals (f : Function) : Prop where
  params : ∀ p ∈ f.params, IsWord p.name
  block : ∃ insts, f.blocks = [⟨entryLabel, insts⟩] ∧ ∀ i ∈ insts, i.HasPlainLocals

/-- Whether a function has the form of all functions and all names in it are words. -/
structure Function.IsPlain (f : Function) : Prop where
  name : IsWord f.name
  locals : f.HasPlainLocals
  callees : ∀ callee ∈ f.callees, IsWord callee

theorem Function.IsPlain.isPlain_insts {f : Function} (h : f.IsPlain) {insts : List Inst}
    (hblocks : f.blocks = [⟨entryLabel, insts⟩]) : ∀ i ∈ insts, i.IsPlain := by
  obtain ⟨insts', hblocks', hinsts⟩ := h.locals.block
  obtain rfl : insts' = insts := by simpa [hblocks] using hblocks'.symm
  have hall : f.insts = insts' := by rw [Function.insts, hblocks, List.flatMap_singleton]
  refine fun i hi => ⟨hinsts i hi, fun callee hcallee => h.callees callee ?_⟩
  exact Function.mem_callees.2 ⟨i, hall ▸ hi, hcallee⟩

theorem readable_param : Readable (fun p => IsWord p.name) Param.text EndsWord := by
  intro x y r r' hx hy hr hr' h
  simp only [Param.text, String.toList_append, List.append_assoc] at h
  obtain ⟨hty, hname⟩ := readable_ty.before trivial trivial h rfl
  obtain ⟨hname, hrest⟩ := readable_word hx hy hr hr' hname
  cases x
  cases y
  obtain ⟨rfl, rfl⟩ := And.intro hty hname
  exact ⟨rfl, hrest⟩

theorem exists_cons_text_param (p : Param) : ∃ c cs, p.text.toList = c :: cs ∧ c ≠ ')' := by
  rw [Param.text, String.append_assoc, String.toList_append]
  exact exists_cons_text_ty p.ty _

/-- The instructions of a function end at a closing brace. -/
theorem lines_inj {insts insts' : List Inst} (h : ∀ i ∈ insts, i.IsPlain)
    (h' : ∀ i ∈ insts', i.IsPlain) {r r' : List Char}
    (heq : (String.join (insts.map fun i => "  " ++ i.text ++ "\n")).toList ++
        ("\x7d\n".toList ++ r) =
      (String.join (insts'.map fun i => "  " ++ i.text ++ "\n")).toList ++
        ("\x7d\n".toList ++ r')) : insts = insts' ∧ r = r' := by
  have hcloses (r : List Char) (_ : r.head? = some '\x7d') : True := trivial
  have hnext (i : Inst) (_ : i.IsPlain) (r : List Char) : True ∧
      ¬ (("  " ++ i.text ++ "\n").toList ++ r).head? = some '\x7d' := by
    simp
  obtain ⟨hinsts, hrest⟩ := readable_line.series hcloses hnext h h' rfl rfl heq
  exact ⟨hinsts, List.append_cancel_left hrest⟩

/-- **Functions.** A function can be read back. -/
theorem readable_function : Readable Function.IsPlain Function.text (fun _ => True) := by
  intro x y r r' hx hy _ _ h
  obtain ⟨name, ret, params, blocks⟩ := x
  obtain ⟨name', ret', params', blocks'⟩ := y
  obtain ⟨insts, hblocks, -⟩ := hx.locals.block
  obtain ⟨insts', hblocks', -⟩ := hy.locals.block
  obtain rfl : blocks = [⟨entryLabel, insts⟩] := hblocks
  obtain rfl : blocks' = [⟨entryLabel, insts'⟩] := hblocks'
  unfold Function.text at h
  simp only [List.map_singleton, String.join_cons, String.join_nil, String.append_empty, Block.text,
    String.toList_append, List.append_assoc] at h
  obtain ⟨rfl, hname⟩ := readable_ty.before trivial trivial (List.append_cancel_left h) rfl
  obtain ⟨rfl, hparams⟩ := readable_word.before hx.name hy.name hname rfl
  obtain ⟨rfl, hblock⟩ := readable_param.commaList ')' (fun p _ => exists_cons_text_param p)
    hx.locals.params hy.locals.params hparams rfl rfl (by decide)
  obtain ⟨rfl, hrest⟩ := lines_inj (hx.isPlain_insts rfl) (hy.isPlain_insts rfl)
    (List.append_cancel_left (List.append_cancel_left hblock))
  exact ⟨rfl, hrest⟩

/-- **Declarations.** A declaration can be read back. -/
theorem readable_declaration :
    Readable (fun d => IsWord d.name) Prototype.text (fun _ => True) := by
  intro x y r r' hx hy _ _ h
  obtain ⟨name, ret, params⟩ := x
  obtain ⟨name', ret', params'⟩ := y
  unfold Prototype.text at h
  simp only [String.toList_append, List.append_assoc] at h
  obtain ⟨rfl, hname⟩ := readable_ty.before trivial trivial (List.append_cancel_left h) rfl
  obtain ⟨rfl, hparams⟩ := readable_word.before hx hy hname rfl
  obtain ⟨rfl, hrest⟩ := readable_ty.commaList ')'
    (fun ty _ => by simpa using exists_cons_text_ty ty []) (fun _ _ => trivial) (fun _ _ => trivial)
    hparams rfl rfl (by decide)
  exact ⟨rfl, hrest⟩

end VectorTrial.Program
