import Mathlib
import VectorTrial.Instruction.Catalog
import VectorTrial.Lane.Register

/-!
# Symbols of models

No two instructions share a model, and no model is named like a wrapper or like one of the functions
that are compared. The symbols are told apart by the numbers that their bytes show, and from other
names by their first byte.

## Main results

* `VectorTrial.Intrinsic.symbol_injective` — a symbol belongs to one instruction.
* `VectorTrial.Intrinsic.ofSymbol_eq_ok` — what is found under a symbol.
* `VectorTrial.Intrinsic.symbol_ne_of_firstByte` — a name that does not begin like a symbol is none.
-/

namespace VectorTrial

/-- The number that the bytes of a text show. -/
def textNumber (text : String) : Nat := ofLittleEndian text.toByteArray.data.toList

/-- The byte that a text begins with. -/
def firstByte? (text : String) : Option UInt8 := text.toByteArray.data.toList.head?

/-- A text begins like its head. -/
theorem firstByte?_append {head text : String} {byte : UInt8} (h : firstByte? head = some byte) :
    firstByte? (head ++ text) = some byte := by
  rw [firstByte?, String.toByteArray_append, ByteArray.data_append, Array.toList_append,
    List.head?_append]
  rw [firstByte?] at h
  rw [h, Option.some_or]

namespace Intrinsic

theorem mem_all (i : Intrinsic) : i ∈ all :=
  List.mem_map.2 ⟨i.index, List.mem_finRange i.index, rfl⟩

theorem nodup_symbolNumbers : (all.map fun i => textNumber i.symbol).Nodup := by
  decide +kernel

/-- A symbol belongs to one instruction. -/
theorem symbol_injective {i j : Intrinsic} (h : i.symbol = j.symbol) : i = j :=
  List.inj_on_of_nodup_map nodup_symbolNumbers i.mem_all j.mem_all (congrArg textNumber h)

/-- The instruction of a symbol is found if there is one. -/
theorem ofSymbol_eq_ok {text : String} {i : Intrinsic} :
    ofSymbol text = .ok i ↔ i.symbol = text := by
  rw [ofSymbol_eq]
  cases h : all.find? (fun j => j.symbol == text) with
  | some j =>
    have hj := List.find?_some h
    rw [beq_iff_eq] at hj
    rw [Option.elim_some, Except.ok.injEq]
    exact ⟨fun heq => heq ▸ hj, fun hi => symbol_injective (hj.trans hi.symm)⟩
  | none =>
    have hnone := List.find?_eq_none.1 h i i.mem_all
    exact ⟨fun heq => (nomatch heq), fun hi => absurd (beq_iff_eq.2 hi) hnone⟩

theorem firstByte?_symbol (i : Intrinsic) : firstByte? i.symbol = some 'l'.toUInt8 := by
  have h : ∀ k : Fin Catalog.size, firstByte? Catalog.table[k].symbol = some 'l'.toUInt8 := by
    decide +kernel
  exact h i.index

/-- A name that begins with another letter is no symbol. -/
theorem symbol_ne_of_firstByte {text : String} (h : firstByte? text ≠ some 'l'.toUInt8)
    (i : Intrinsic) : i.symbol ≠ text :=
  fun heq => h (heq ▸ i.firstByte?_symbol)

theorem symbol_ne (i : Intrinsic) : i.symbol ≠ "src" ∧ i.symbol ≠ "tgt" :=
  ⟨i.symbol_ne_of_firstByte (by decide), i.symbol_ne_of_firstByte (by decide)⟩

/-- A wrapper is named after one instruction. -/
theorem wrapperName_injective {i j : Intrinsic} (h : i.wrapperName = j.wrapperName) : i = j := by
  have hindex : i.index.val = j.index.val := by
    simpa [wrapperName] using h
  cases i
  cases j
  exact congrArg mk (Fin.ext hindex)

/-- No wrapper is named like a model. -/
theorem symbol_ne_wrapperName (i j : Intrinsic) : i.symbol ≠ j.wrapperName := by
  have hbyte : firstByte? j.wrapperName = some 'f'.toUInt8 := firstByte?_append (by decide)
  refine i.symbol_ne_of_firstByte ?_
  rw [hbyte]
  decide

end Intrinsic

end VectorTrial
