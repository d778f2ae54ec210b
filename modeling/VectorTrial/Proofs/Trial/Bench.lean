import VectorTrial.Proofs.Program.Synthesis
import VectorTrial.Trial.Verification

/-!
# The pair on the bench

Between two comparisons the bench holds no function, and all that it declares are models of
instructions. From there the pair for any three registers that fit an instruction can be built:
neither name is taken, and a model that was declared earlier was declared the same.

## Main definitions

* `VectorTrial.Verification.AtRest` — a bench between two comparisons.
* `VectorTrial.Program.Module.Poses` — a module with the pair for a result on two operands.

## Main results

* `VectorTrial.Verification.buildPair_of_atRest` — on a bench at rest the pair is built, and once
  it is erased the bench is at rest again.
* `VectorTrial.Verification.functions_of_buildPair` — on any bench, a pair that was built has the
  function that returns the result.
* `VectorTrial.Verification.exists_renderPair` — a pair that was built can be shown.
-/

namespace VectorTrial

open Program

/-- **Posed pairs.** A module has exactly two functions: the one returns a constant that packs to
a result, the other makes a single call of the model of an instruction, on two constants that pack
to the operands. Both have no parameters and the type of the instruction's results, the model is
declared, and the module passes verification. -/
structure Program.Module.Poses (m : Module) (i : Intrinsic) (op0 op1 result : Register) :
    Prop where
  verified : m.verify = .ok ()
  declared : m.declaration? i.symbol = some i.model
  parameterless : ∀ f ∈ m.functions, f.params = [] ∧ f.ret = .ofShape i.result
  pair : ∃ first second value : Constant,
    m.functions = [.returning Verification.targetName (.ofShape i.result) value,
      .calling Verification.sourceName i.model [first, second]] ∧
    Register.ofLanes i.first first.elements = .ok op0 ∧
    Register.ofLanes i.second second.elements = .ok op1 ∧
    Register.ofLanes i.result value.elements = .ok result

namespace Verification

/-- **Benches at rest.** A bench for a target without functions, which declares models only. -/
structure AtRest (triple : Option String) (v : Verification) : Prop where
  name : v.module.name = moduleName
  triple : v.module.triple = triple
  functions : v.module.functions = []
  models : ∀ d ∈ v.module.declarations, ∃ i : Intrinsic, d = i.model

theorem atRest_new (triple : Option String) : (new triple).AtRest triple where
  name := rfl
  triple := rfl
  functions := rfl
  models _ h := absurd h List.not_mem_nil

/-! ### The life of a pair -/

variable {m : Module} {i : Intrinsic} {op0 op1 result : Register}

/-- The function that returns the result of an instruction. -/
def target (i : Intrinsic) (result : Register) : Function :=
  .returning targetName (.ofShape i.result) (.ofRegister result i.result.laneWidth)

/-- The function that calls the model of an instruction on two operands. -/
def source (i : Intrinsic) (op0 op1 : Register) : Function :=
  .calling sourceName i.model
    [.ofRegister op0 i.first.laneWidth, .ofRegister op1 i.second.laneWidth]

/-- The model of an instruction stays visible beside both functions of a pair. -/
theorem signature?_of_pair (hdeclared : m.declaration? i.symbol = some i.model)
    (hnames : ∀ f ∈ m.functions, f.name = targetName ∨ f.name = sourceName) :
    m.signature? i.symbol = some i.model.signature := by
  refine Module.signature?_of_declared (Module.function?_eq_none.2 fun f hf hname => ?_) hdeclared
  rcases hnames f hf with h | h
  · exact i.symbol_ne.2 (hname.symm.trans h)
  · exact i.symbol_ne.1 (hname.symm.trans h)

/-- A module with the two functions and the model of the instruction poses the pair. -/
theorem poses_of_functions (hfirst : op0.fits i.first = true) (hsecond : op1.fits i.second = true)
    (hresult : result.fits i.result = true) (hdeclared : m.declaration? i.symbol = some i.model)
    (hfunctions : m.functions = [target i result, source i op0 op1]) :
    m.Poses i op0 op1 result where
  verified := by
    have hsignature : m.signature? i.symbol = some i.model.signature := by
      refine signature?_of_pair hdeclared fun f hf => ?_
      rw [hfunctions] at hf
      rcases List.mem_pair.1 hf with rfl | rfl
      · exact Or.inl rfl
      · exact Or.inr rfl
    have htarget : (target i result).verify m = .ok () :=
      Function.verify_returning (Constant.check_ofRegister _ _) (Constant.ty_of_fits hresult)
    have hsource : (source i op0 op1).verify m = .ok () := by
      obtain ⟨-, -, -, hverify⟩ :=
        Definition.emit_eq_ok.1 (Definition.emit_call hsignature hfirst hsecond [] sourceName)
      exact hverify
    rw [Module.verify, hfunctions]
    exact forM_eq_ok.2
      (List.forall_mem_cons.2 ⟨htarget, List.forall_mem_singleton.2 hsource⟩)
  declared := hdeclared
  parameterless := by
    rw [hfunctions]
    exact List.forall_mem_cons.2 ⟨⟨rfl, rfl⟩, List.forall_mem_singleton.2 ⟨rfl, rfl⟩⟩
  pair := ⟨_, _, _, hfunctions, Constant.ofLanes_elements hfirst,
    Constant.ofLanes_elements hsecond, Constant.ofLanes_elements hresult⟩

variable {b : Builder}

/-- A result is returned by a function that is built where no function is, at every width. -/
theorem buildConstant_eq (hmodels : ∀ d ∈ b.module.declarations, ∃ i : Intrinsic, d = i.model)
    (hfunctions : b.module.functions = []) (result : Register) (lane : LaneWidth) :
    b.buildConstant targetName result lane =
      (.ok (.returning targetName (.ofRegister result lane) (.ofRegister result lane)),
        b.added (.returning targetName (.ofRegister result lane) (.ofRegister result lane))) := by
  have hfree : b.module.contains targetName = false := by
    refine Module.contains_eq_false_of_models hmodels (fun j => j.symbol_ne.2) fun f hf => ?_
    rw [hfunctions] at hf
    exact absurd hf List.not_mem_nil
  rw [Builder.buildConstant, Builder.build_eq, Definition.emit_constant]
  exact if_neg (ne_true_of_eq_false hfree)

/-- The function that returns a result that fits has the type of the results. -/
theorem buildConstant_target (hmodels : ∀ d ∈ b.module.declarations, ∃ i : Intrinsic, d = i.model)
    (hfunctions : b.module.functions = []) (hresult : result.fits i.result = true) :
    b.buildConstant targetName result i.result.laneWidth =
      (.ok (target i result), b.added (target i result)) := by
  rw [buildConstant_eq hmodels hfunctions, Ty.ofRegister_of_fits hresult]
  rfl

/-- The function that calls the model is requested beside the function that returns the result, in
a module that knows the model. -/
theorem buildCall_eq (hmodels : ∀ d ∈ b.module.declarations, ∃ i : Intrinsic, d = i.model)
    {f : Function} (hfunctions : b.module.functions = [f]) (hf : f.name = targetName)
    (i : Intrinsic) (op0 op1 : Register) :
    ∃ m, m.functions = [f] ∧ m.declaration? i.symbol = some i.model ∧
      (∀ d ∈ m.declarations, ∃ j : Intrinsic, d = j.model) ∧
      m.name = b.module.name ∧ m.triple = b.module.triple ∧
      b.buildCall sourceName i op0 op1 =
        match (Definition.call sourceName i op0 op1).emit m [] with
        | .error e => (.error e, .ofModule m)
        | .ok g => (.ok g, .ofModule (m.append g)) := by
  have hnames : ∀ g ∈ b.module.functions, g.name = targetName := by
    rw [hfunctions]
    exact List.forall_mem_singleton.2 hf
  obtain ⟨m, hdeclare, hdeclared, hnew, hrest⟩ := Module.exists_declare_model (i := i) hmodels
    fun g hg hname => i.symbol_ne.2 (hname.symm.trans (hnames g hg))
  have hsame : m.functions = [f] := (congrArg Module.functions hrest).trans hfunctions
  have hfree : m.contains sourceName = false := by
    refine Module.contains_eq_false_of_models hnew (fun j => j.symbol_ne.1) ?_
    have hother : targetName ≠ sourceName := by decide
    rw [hsame]
    exact List.forall_mem_singleton.2 (hf ▸ hother)
  have hmodel : b.declareModel i = (.ok (), { b with module := m }) :=
    Builder.declare_of_ok hdeclare
  refine ⟨m, hsame, hdeclared, hnew, by rw [hrest], by rw [hrest], ?_⟩
  rw [Builder.buildCall, Builder.buildWithModel, hmodel]
  simp only [Builder.build_eq]
  exact if_neg (ne_true_of_eq_false hfree)

/-- The function that calls the model is built beside the function that returns the result. -/
theorem buildCall_source (hmodels : ∀ d ∈ b.module.declarations, ∃ i : Intrinsic, d = i.model)
    (hfunctions : b.module.functions = [target i result]) (hfirst : op0.fits i.first = true)
    (hsecond : op1.fits i.second = true) :
    ∃ b', b.buildCall sourceName i op0 op1 = (.ok (source i op0 op1), b') ∧
      b'.module.functions = [target i result, source i op0 op1] ∧
      b'.module.declaration? i.symbol = some i.model ∧
      (∀ d ∈ b'.module.declarations, ∃ j : Intrinsic, d = j.model) ∧
      b'.module.name = b.module.name ∧ b'.module.triple = b.module.triple := by
  obtain ⟨m, hsame, hdeclared, hnew, hname, htriple, hcall⟩ :=
    buildCall_eq hmodels hfunctions rfl i op0 op1
  have hsignature : m.signature? i.symbol = some i.model.signature := by
    refine signature?_of_pair hdeclared ?_
    rw [hsame]
    exact List.forall_mem_singleton.2 (Or.inl rfl)
  rw [Definition.emit_call hsignature hfirst hsecond] at hcall
  exact ⟨_, hcall, congrArg (· ++ [source i op0 op1]) hsame, hdeclared, hnew, hname, htriple⟩

variable {triple : Option String} {v : Verification}

/-- **The life of a pair.** On a bench at rest the pair for three registers that fit is built, and
once both functions are erased the bench is at rest again. -/
theorem buildPair_of_atRest (h : v.AtRest triple) (hfirst : op0.fits i.first = true)
    (hsecond : op1.fits i.second = true) (hresult : result.fits i.result = true) :
    ∃ posed, v.buildPair i op0 op1 result i.result.laneWidth = (.ok (), posed) ∧
      posed.module.Poses i op0 op1 result ∧ posed.erasePair.AtRest triple := by
  have htarget := buildConstant_target h.models h.functions hresult
  obtain ⟨b, hsource, hfunctions, hdeclared, hmodels, hname, htriple⟩ :=
    buildCall_source (b := v.builder.added (target i result)) h.models
      (congrArg (· ++ [target i result]) h.functions) hfirst hsecond
  refine ⟨⟨b⟩, ?_, poses_of_functions hfirst hsecond hresult hdeclared hfunctions, ?_⟩
  · rw [buildPair, htarget]
    simp only [hsource]
  · have hcleared : (erasePair ⟨b⟩).module.functions = [] := by
      change ((b.module.functions.eraseP _).eraseP _) = []
      rw [hfunctions]
      rfl
    exact ⟨hname.trans h.name, htriple.trans h.triple, hcleared, hmodels⟩

/-- A function that was built is found under its name, and every function that was found before is
found as it was. -/
theorem function?_build {b' : Builder} {d : Definition} {f : Function}
    (h : b.build d = (.ok f, b')) :
    b'.module.function? d.name = some f ∧
      ∀ name g, b.module.function? name = some g → b'.module.function? name = some g := by
  obtain ⟨hfree, ⟨out, -, rfl⟩, -, hadded⟩ := Builder.build_eq_ok (congrArg Prod.fst h)
  obtain ⟨-, hnone⟩ := Module.contains_eq_false.1 hfree
  have hmodule : b'.module = b.module.append (d.assemble out) := by
    rw [h] at hadded
    exact congrArg Builder.module hadded
  rw [hmodule]
  refine ⟨?_, fun name g hg => ?_⟩
  · rw [Module.function?_append, hnone, Option.none_or]
    exact if_pos rfl
  · rw [Module.function?_append, hg, Option.some_or]

/-- A declaration hides no function. -/
theorem function?_declareModel (b : Builder) (i : Intrinsic) (name : String) :
    (b.declareModel i).2.module.function? name = b.module.function? name := by
  cases h : b.module.declare i.model with
  | error e => rw [Builder.declareModel, Builder.declare_of_error h]
  | ok m =>
    obtain ⟨-, -, -, -, hrest⟩ := Module.declare_eq_ok h
    rw [Builder.declareModel, Builder.declare_of_ok h, hrest]
    rfl

/-- The function that was built to return a register. -/
theorem eq_returning_of_buildConstant {b' : Builder} {name : String} {r : Register}
    {lane : LaneWidth} {f : Function} (h : b.buildConstant name r lane = (.ok f, b')) :
    f = .returning name (.ofRegister r lane) (.ofRegister r lane) := by
  rw [Builder.buildConstant, Builder.build_eq, Definition.emit_constant] at h
  split_ifs at h
  · cases h
  · cases h
    rfl

/-- **Built pairs.** On any bench, a pair that was built has the function that returns the result,
and one that is called as the source. -/
theorem functions_of_buildPair {lane : LaneWidth} {posed : Verification}
    (h : v.buildPair i op0 op1 result lane = (.ok (), posed)) :
    posed.module.function? targetName =
        some (.returning targetName (.ofRegister result lane) (.ofRegister result lane)) ∧
      ∃ g, posed.module.function? sourceName = some g := by
  unfold buildPair at h
  split at h
  · cases h
  next f b htarget =>
  obtain ⟨hfound, -⟩ := function?_build htarget
  rw [eq_returning_of_buildConstant htarget] at hfound
  split at h
  · cases h
  next g b' hsource =>
  cases h
  unfold Builder.buildCall Builder.buildWithModel at hsource
  split at hsource
  · cases hsource
  next declared hdeclare =>
  have hsame := function?_declareModel b i targetName
  rw [hdeclare] at hsame
  obtain ⟨hcall, hkept⟩ := function?_build hsource
  exact ⟨hkept targetName _ (hsame.trans hfound), g, hcall⟩

/-- **Shown pairs.** On any bench, a pair that was built can be shown. -/
theorem exists_renderPair {lane : LaneWidth} {posed : Verification}
    (h : v.buildPair i op0 op1 result lane = (.ok (), posed)) :
    ∃ text, posed.renderPair = .ok text := by
  obtain ⟨htarget, hsource⟩ := functions_of_buildPair h
  exact Module.exists_renderFunctions
    (List.forall_mem_cons.2 ⟨hsource, List.forall_mem_singleton.2 ⟨_, htarget⟩⟩)

end Verification

end VectorTrial
