import VectorTrial.Proofs.Program.Changes
import VectorTrial.Proofs.Program.Synthesis

/-!
# Functions on fitting operands

Whether the functions for an instruction can be built is a matter of register kinds. A call of the
model is built exactly on operands that have the kinds that the instruction asks for, since then,
and only then, their lanes make up constants of the types of the parameters. A function that returns
a register is built for every register and at every width.

## Main definitions

* `VectorTrial.Program.Module.HasRoomFor` — modules that may declare the model of an instruction.
* `VectorTrial.Register.shapeAt` — the shape of a register that is read at a width.

## Main results

* `VectorTrial.Program.Builder.buildCall_fst_eq` — what becomes of a request for a call.
* `VectorTrial.Program.Builder.buildConstant_fst_eq` — what becomes of a request for a constant.
* `VectorTrial.Program.Builder.builds_fitting` — calls are built exactly on fitting operands, and
  constants for all registers.
-/

namespace VectorTrial

/-- The shape of a register that is read as lanes of a width. A scalar is read as a whole. -/
def Register.shapeAt (r : Register) (lane : LaneWidth) : Shape :=
  match r.kind with
  | .scalar => .scalar32
  | .vector width => .vector width lane

namespace Program

/-! ### Registers at a width -/

theorem fits_shapeAt (r : Register) (lane : LaneWidth) : r.fits (r.shapeAt lane) = true := by
  have hkind : r.kind = (r.shapeAt lane).kind := by
    unfold Register.shapeAt
    cases r.kind <;> rfl
  exact decide_eq_true hkind

theorem laneWidth_shapeAt {r : Register} (h : r.isScalar = false) (lane : LaneWidth) :
    (r.shapeAt lane).laneWidth = lane := by
  unfold Register.shapeAt
  cases hkind : r.kind with
  | scalar => exact absurd (decide_eq_true hkind) (ne_true_of_eq_false h)
  | vector width => rfl

/-- At every width, the constant of a register is the one at the lane width of its shape. -/
theorem Constant.ofRegister_laneWidth (r : Register) (lane : LaneWidth) :
    Constant.ofRegister r (r.shapeAt lane).laneWidth = Constant.ofRegister r lane := by
  cases hscalar : r.isScalar with
  | true => rw [ofRegister_of_scalar hscalar, ofRegister_of_scalar hscalar]
  | false => rw [laneWidth_shapeAt hscalar]

theorem Ty.ofShape_shapeAt (r : Register) (lane : LaneWidth) :
    Ty.ofShape (r.shapeAt lane) = Ty.ofRegister r lane := by
  rw [← Constant.ty_of_fits (fits_shapeAt r lane), Constant.ofRegister_laneWidth,
    Constant.ty_ofRegister]

/-! ### Modules with room for a model -/

/-- **Room for a model.** The symbol of an instruction is that of no function, and it is undeclared
or declared as the model of the instruction. -/
structure Module.HasRoomFor (m : Module) (i : Intrinsic) : Prop where
  undefined : m.function? i.symbol = none
  declared : m.declaration? i.symbol = none ∨ m.declaration? i.symbol = some i.model

/-- The model of an instruction can be declared where there is room for it, and no other name is
taken by that. -/
theorem Module.HasRoomFor.exists_declare {m : Module} {i : Intrinsic} (h : m.HasRoomFor i) :
    ∃ m', m.declare i.model = .ok m' ∧ m'.signature? i.symbol = some i.model.signature ∧
      ∀ name, name ≠ i.symbol → m'.contains name = m.contains name := by
  have hagree : ∀ d, m.declaration? i.model.name = some d → d = i.model := by
    intro d hd
    rcases h.declared with hnone | hmodel
    · cases hnone.symm.trans hd
    · exact Option.some.inj (hd.symm.trans hmodel)
  obtain ⟨m', hm'⟩ := Module.exists_declare (d := i.model) h.undefined hagree
  obtain ⟨-, hdeclared, hother, -, hrest⟩ := declare_eq_ok hm'
  have hfunction (name : String) : m'.function? name = m.function? name := by
    rw [hrest]
    rfl
  refine ⟨m', hm', signature?_of_declared ((hfunction _).trans h.undefined) hdeclared, ?_⟩
  intro name hname
  rw [contains, contains, hfunction, hother name hname]

namespace Builder

variable {b : Builder} {name : String}

/-! ### Requests -/

/-- **Calls.** What becomes of a request for a function that calls a model on two registers. -/
theorem buildCall_fst_eq {i : Intrinsic} (hroom : b.module.HasRoomFor i)
    (hunused : b.module.contains name = false) (hname : name ≠ i.symbol) (op0 op1 : Register) :
    (b.buildCall name i op0 op1).1 =
      if op0.fits i.first = true then
        if op1.fits i.second = true then
          .ok (.calling name i.model
            [.ofRegister op0 i.first.laneWidth, .ofRegister op1 i.second.laneWidth])
        else .error (misfit i.symbol 1 i.second op1)
      else .error (misfit i.symbol 0 i.first op0) := by
  obtain ⟨m, hm, hsignature, hcontains⟩ := hroom.exists_declare
  have hdeclared : b.declareModel i = (.ok (), { b with module := m }) := declare_of_ok hm
  have hfree : m.contains (Definition.call name i op0 op1).name = false :=
    (hcontains name hname).trans hunused
  rw [buildCall, buildWithModel, hdeclared]
  simp only [build_eq, hfree, Bool.false_eq_true, if_false, Definition.emit_call_eq hsignature]
  split_ifs <;> rfl

/-- **Constants.** What becomes of a request for a function that returns a register. -/
theorem buildConstant_fst_eq (hunused : b.module.contains name = false) (r : Register)
    (lane : LaneWidth) :
    (b.buildConstant name r lane).1 =
      .ok (.returning name (.ofRegister r lane) (.ofRegister r lane)) := by
  have hfree : b.module.contains (Definition.constant name r lane).name = false := hunused
  rw [buildConstant, build_eq, Definition.emit_constant]
  simp only [hfree, Bool.false_eq_true, if_false]

/-- **Fitting operands.** Under an unused name a function that calls the model of an instruction is
built exactly when both operands have the kinds of register that the instruction asks for, and the
first operand that has not is refused for its type. A function that returns a register is built for
every register at every width: it has the type of the register at this width, and the elements of
the constant that it returns pack, at lanes of this width or to a scalar, to the register. -/
theorem builds_fitting (b : Builder) (name : String) (hunused : b.module.contains name = false) :
    (∀ i : Intrinsic, b.module.HasRoomFor i → name ≠ i.symbol → ∀ op0 op1 : Register,
      ((∃ f, (b.buildCall name i op0 op1).1 = .ok f) ↔
        op0.fits i.first = true ∧ op1.fits i.second = true) ∧
      (op0.fits i.first = false → (b.buildCall name i op0 op1).1 =
        .error (.typeMismatch (argumentPlace 0 i.symbol) (.ofShape i.first)
          (.ofRegister op0 i.first.laneWidth))) ∧
      (op0.fits i.first = true → op1.fits i.second = false → (b.buildCall name i op0 op1).1 =
        .error (.typeMismatch (argumentPlace 1 i.symbol) (.ofShape i.second)
          (.ofRegister op1 i.second.laneWidth)))) ∧
    ∀ (r : Register) (lane : LaneWidth), ∃ f c shape,
      (b.buildConstant name r lane).1 = .ok f ∧ f.ret = .ofRegister r lane ∧
      f.returned? = some (.const c) ∧ c.ty = .ofRegister r lane ∧
      Ty.ofShape shape = .ofRegister r lane ∧ (r.isScalar = false → shape.laneWidth = lane) ∧
      Register.ofLanes shape c.elements = .ok r := by
  refine ⟨fun i hroom hname op0 op1 => ?_, fun r lane => ?_⟩
  · have hbuilt := buildCall_fst_eq hroom hunused hname op0 op1
    refine ⟨?_, fun hfirst => ?_, fun hfirst hsecond => ?_⟩
    · rw [hbuilt]
      split_ifs with hfirst hsecond
      · exact ⟨fun _ => ⟨hfirst, hsecond⟩, fun _ => ⟨_, rfl⟩⟩
      · exact ⟨fun ⟨_, h⟩ => (nomatch h), fun h => absurd h.2 hsecond⟩
      · exact ⟨fun ⟨_, h⟩ => (nomatch h), fun h => absurd h.1 hfirst⟩
    · rw [hbuilt, if_neg (ne_true_of_eq_false hfirst)]
      rfl
    · rw [hbuilt, if_pos hfirst, if_neg (ne_true_of_eq_false hsecond)]
      rfl
  · have hpacked := Constant.ofLanes_elements (fits_shapeAt r lane)
    rw [Constant.ofRegister_laneWidth] at hpacked
    exact ⟨_, .ofRegister r lane, r.shapeAt lane, buildConstant_fst_eq hunused r lane, rfl, rfl,
      Constant.ty_ofRegister r lane, Ty.ofShape_shapeAt r lane,
      fun hvector => laneWidth_shapeAt hvector lane, hpacked⟩

end Builder

/-! ### A shift by an immediate count -/

namespace ImmediateShift

/-- The shift of 16-bit lanes to the right by a scalar count. -/
def shift : Intrinsic := ⟨⟨17, by decide⟩⟩

/-- A builder that has built one function and declares the model already. -/
def builder : Builder :=
  (Builder.new "m").changes
    [.declare shift.model, .build (.constant "tgt" (.zero shift.first) .w64)]

/-- Eight lanes of 16 bits. -/
def words : Register := .pack shift.first [1, -1, 2, -2, 3, -3, 32767, -32768]

/-- A scalar count. -/
def count : Register := .scalar 3

theorem hasRoomFor_shift : builder.module.HasRoomFor shift := ⟨rfl, Or.inr rfl⟩

end ImmediateShift

theorem Builder.builds_fitting_immediateShift :
    ImmediateShift.builder.module.contains "src" = false ∧
      ImmediateShift.builder.module.HasRoomFor ImmediateShift.shift ∧
      "src" ≠ ImmediateShift.shift.symbol ∧
      (∃ f, (ImmediateShift.builder.buildCall "src" ImmediateShift.shift ImmediateShift.words
        ImmediateShift.count).1 = .ok f) ∧
      (ImmediateShift.builder.buildCall "src" ImmediateShift.shift ImmediateShift.words
        ImmediateShift.words).1 =
          .error (.typeMismatch "argument 1 of llvm.x86.sse2.psrli.w" .i32 (.vector 4 32)) ∧
      ∃ f, (ImmediateShift.builder.buildConstant "src" ImmediateShift.count .w8).1 = .ok f ∧
        f.ret = .i32 := by
  have hunused : ImmediateShift.builder.module.contains "src" = false := by decide
  have hname : "src" ≠ ImmediateShift.shift.symbol := by decide
  obtain ⟨hcall, hconstant⟩ := builds_fitting ImmediateShift.builder "src" hunused
  have hshift := hcall ImmediateShift.shift ImmediateShift.hasRoomFor_shift hname
  obtain ⟨f, c, shape, hbuilt, hret, -⟩ := hconstant ImmediateShift.count .w8
  exact ⟨hunused, ImmediateShift.hasRoomFor_shift, hname,
    (hshift ImmediateShift.words ImmediateShift.count).1.2 ⟨rfl, rfl⟩,
    (hshift ImmediateShift.words ImmediateShift.words).2.2 rfl rfl, f, hbuilt, hret⟩

end Program

end VectorTrial
