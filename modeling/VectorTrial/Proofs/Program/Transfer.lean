import VectorTrial.Proofs.Program.Linking

/-!
# Verified functions in other modules

Verification asks a module for the signatures of the symbols that a function calls, and for nothing
else. So what is declared, built or erased beside these symbols does not matter to a function that
has passed, and whether it passes in another module is seen from its calls alone: each of them has
to ask the signature that the symbol has there.

## Main results

* `VectorTrial.Program.Function.verify_eq_ok_iff_signatures` — where else a verified function
  passes.
* `VectorTrial.Program.Builder.verify_changes` — a verified function passes after changes that erase
  nothing that it calls.
* `VectorTrial.Program.Function.verify_reads_signatures` — what verification depends on.
-/

namespace VectorTrial.Program

variable {m m' : Module} {f : Function}

/-- **Other modules.** A function that passes in one module passes in another one if and only if
every call asks the signature that its symbol has there. -/
theorem Function.verify_eq_ok_iff_signatures (h : f.verify m = .ok ()) :
    f.verify m' = .ok () ↔
      ∀ c : Call, c.inst ∈ f.insts → m'.signature? c.callee = some c.signature := by
  constructor
  · intro h' c hc
    obtain ⟨calls, result, hinsts, hsignatures⟩ := exists_calls_of_verify h'
    exact hsignatures c (Call.inst_mem_block.1 (hinsts ▸ hc))
  · intro hagree
    obtain ⟨calls, result, hinsts, hsignatures⟩ := exists_calls_of_verify h
    rw [← h]
    refine verify_congr fun callee hcallee => ?_
    obtain ⟨c, hc, rfl⟩ := (mem_callees_of_insts hinsts).1 hcallee
    rw [hagree c (hinsts ▸ Call.inst_mem_block.2 hc), hsignatures c hc]

/-- **Later changes.** A function that passes still does after changes that erase no symbol that it
calls. -/
theorem Builder.verify_changes {b : Builder} {cs : List Change} (h : f.verify b.module = .ok ())
    (hkept : ∀ c ∈ cs, ∀ callee ∈ f.callees, c ≠ .erase callee) :
    f.verify (b.changes cs).module = .ok () := by
  induction cs generalizing b with
  | nil => exact h
  | cons c cs ih =>
    obtain ⟨hc, hcs⟩ := List.forall_mem_cons.1 hkept
    refine ih ((b.becomes_change c).verify_eq_ok h fun callee hcallee hremoves => ?_) hcs
    cases c with
    | erase name => exact hc callee hcallee (congrArg Change.erase hremoves.1)
    | declare d => exact hremoves
    | build d => exact hremoves
    | setTriple triple => exact hremoves

/-- **Verification reads signatures only.** Two modules in which the symbols that a function calls
have the same signatures, or none, give the same outcome: both accept the function, or both refuse
it with the same error. A function that a module accepts stays accepted there, whatever is declared,
built or erased later, unless a function that it calls is erased. Another module accepts it if and
only if its calls agree with the signatures that their symbols have there. -/
theorem Function.verify_reads_signatures (f : Function) (m : Module) :
    (∀ m' : Module, (∀ callee ∈ f.callees, m'.signature? callee = m.signature? callee) →
      f.verify m' = f.verify m) ∧
    (f.verify m = .ok () →
      (∀ (b : Builder) (cs : List Change), b.module = m →
        (∀ c ∈ cs, ∀ callee ∈ f.callees, c ≠ .erase callee) →
          f.verify (b.changes cs).module = .ok ()) ∧
      ∀ m' : Module, f.verify m' = .ok () ↔
        ∀ c : Call, c.inst ∈ f.insts → m'.signature? c.callee = some c.signature) := by
  refine ⟨fun m' hsame => verify_congr hsame, fun hverify => ⟨fun b cs hmodule hkept => ?_,
    fun m' => verify_eq_ok_iff_signatures hverify⟩⟩
  subst hmodule
  exact Builder.verify_changes hverify hkept

/-! ### A function that is moved -/

namespace Moved

/-- A symbol with one parameter. -/
def symbol : Prototype := ⟨"sym", .i32, [.i32]⟩

/-- A function that calls the symbol. -/
def inner : Definition := ⟨⟨"inner", .i32, [.i32]⟩, .call "sym" [.var "i0"]⟩

/-- The module where the symbol is declared and the function is built. -/
def home : Builder := (Builder.new "home").changes [.declare symbol, .build inner]

/-- A function that calls both. -/
def outer : Function :=
  ⟨"outer", .i32, [⟨"i0", .i32⟩], [⟨"entry", [.call "a" .i32 "sym" [.ref "i0" .i32],
    .call "b" .i32 "inner" [.ref "a" .i32], .ret (.ref "b" .i32)]⟩]⟩

/-- Changes that do not touch what the function calls, one of them refused. -/
def later : List Change :=
  [.build ⟨⟨"more", .i32, []⟩, .int 7 32⟩, .declare { symbol with name := "inner", ret := .int 8 },
    .erase "more", .setTriple "t"]

/-- A module that declares both symbols, one of them with a result of some width. -/
def abroad (bits : UInt32) : Module :=
  ⟨"abroad", none, [⟨"inner", .int bits, [.i32]⟩, symbol], []⟩

end Moved

/-- The function stays accepted at home, and a module abroad accepts it if the width agrees. -/
theorem Function.verify_reads_signatures_moved :
    Moved.outer.verify Moved.home.module = .ok () ∧
      Moved.outer.verify (Moved.home.changes Moved.later).module = .ok () ∧
      Moved.outer.verify (Moved.abroad 32) = Moved.outer.verify Moved.home.module ∧
      Moved.outer.verify (Moved.abroad 8) ≠ .ok () := by
  have hhome : Moved.outer.verify Moved.home.module = .ok () := by decide +kernel
  obtain ⟨hsame, haccepted⟩ := verify_reads_signatures Moved.outer Moved.home.module
  obtain ⟨hlater, habroad⟩ := haccepted hhome
  have hfree : ∀ callee ∈ Moved.outer.callees, "more" ≠ callee := by decide
  have hkept : ∀ c ∈ Moved.later, ∀ callee ∈ Moved.outer.callees, c ≠ .erase callee := by
    simpa [Moved.later] using hfree
  refine ⟨hhome, hlater _ _ rfl hkept, hsame _ (by decide), fun h => ?_⟩
  have hinner := (habroad (Moved.abroad 8)).1 h ⟨"b", .i32, "inner", [.ref "a" .i32]⟩ (by decide)
  exact absurd hinner (by decide)

end VectorTrial.Program
