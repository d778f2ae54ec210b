import VectorTrial.CommandLine.Session
import VectorTrial.Operand.Keystream
import VectorTrial.Proofs.Program.Synthesis
import VectorTrial.Proofs.Trial.Iteration
import VectorTrial.Proofs.Wrapper.Invocation
import VectorTrial.Proofs.Wrapper.Lowering
import VectorTrial.Trial.Execution

/-!
# One wrapper for each instruction

Before a run one function is built for each instruction, in a module that declares models only. A
function is refused only where its instruction had one already, so the module is made for
instructions that differ. Each function becomes the wrapper that executes its instruction, which
takes whatever operands are drawn for it.

## Main definitions

* `VectorTrial.Wrapper.Serves` — wrappers with the signature and the features of an instruction.
* `VectorTrial.Execution.Provides` — modules with a function for each of some instructions.
* `VectorTrial.Library.Admits` — operands that pass the checks on arguments.

## Main results

* `VectorTrial.Execution.Provides.addAll` — what comes of adding functions for instructions.
* `VectorTrial.Library.admits_of_fits` — operands of the right layouts pass the checks.
* `VectorTrial.Execution.ofInstructions_serves` — which modules of wrappers are made, and how their
  wrappers and those who call them agree.
-/

namespace VectorTrial

open Program

/-! ### Wrappers of instructions -/

/-- **Signatures.** A wrapper is named after an instruction, has the layouts of its operands and of
its result, and needs its features, in ascending order. -/
structure Wrapper.Serves (w : Wrapper) (i : Intrinsic) : Prop where
  name : w.name = i.wrapperName
  params : w.paramShapes = [i.first, i.second]
  ret : w.ret = i.result
  ascending : w.features.Pairwise (· < ·)
  features : w.features.Perm i.featureNames

/-- The wrapper that executes an instruction on its parameters. -/
def Wrapper.forwarding (i : Intrinsic) : Wrapper where
  name := i.wrapperName
  params := [(Prototype.paramName 0, i.first), (Prototype.paramName 1, i.second)]
  ret := i.result
  bindings := [⟨temporaryName 0, i.result, i, Prototype.paramName 0, Prototype.paramName 1⟩]
  returned := temporaryName 0

namespace Intrinsic

/-- An instruction names each of its features once. -/
theorem nodup_featureNames (i : Intrinsic) : i.featureNames.Nodup := by
  have h : ∀ k : Fin Catalog.size, (Catalog.table[k].features.map Feature.name).Nodup := by
    decide +kernel
  exact h i.index

end Intrinsic

namespace Wrapper

theorem serves_forwarding (i : Intrinsic) : (forwarding i).Serves i where
  name := rfl
  params := rfl
  ret := rfl
  ascending := pairwise_ascending _
  features := by
    refine (List.perm_ext_iff_of_nodup ?_ i.nodup_featureNames).2 fun feature => ?_
    · exact (pairwise_ascending _).imp ne_of_lt
    · rw [features, mem_ascending]
      simp [forwarding]

/-- The function that calls a model on its parameters is lowered to the wrapper of the
instruction. -/
theorem ofFunction_forwarding (i : Intrinsic) :
    ofFunction (.forwarding i.wrapperName i) = .ok (forwarding i) := by
  let call : Call := ⟨temporaryName 0, .ofShape i.result, i.symbol,
    [.ref (Prototype.paramName 0) (.ofShape i.first),
      .ref (Prototype.paramName 1) (.ofShape i.second)]⟩
  have hinsts : (Function.forwarding i.wrapperName i).insts =
      [call].map Call.inst ++ [.ret (.ref (temporaryName 0) (.ofShape i.result))] := rfl
  have hcall : Binding.Realises
      ⟨temporaryName 0, i.result, i, Prototype.paramName 0, Prototype.paramName 1⟩ call :=
    ⟨rfl, rfl, rfl, _, _, rfl⟩
  exact (ofFunction_eq_ok hinsts).2 ⟨rfl, rfl, rfl, .cons hcall .nil, _, rfl⟩

/-- A processor lacks no feature of the wrapper if it supports the instruction. -/
theorem missing_forwarding_eq_nil_iff {host : Host} {i : Intrinsic} :
    host.missing (forwarding i).features = [] ↔ host.supports i = true := by
  rw [host.supports_iff_missing, host.missing_eq_nil_iff, host.missing_eq_nil_iff]
  exact forall_congr' fun feature => by rw [(serves_forwarding i).features.mem_iff]

end Wrapper

/-! ### The module of wrappers -/

namespace Execution

/-- **Modules of wrappers.** Only models are declared, and for each of some instructions there is,
in their order, a function that calls its model on parameters. -/
structure Provides (m : Module) (is : List Intrinsic) : Prop where
  models : ∀ d ∈ m.declarations, ∃ i : Intrinsic, d = i.model
  functions : m.functions = is.map fun i => .forwarding i.wrapperName i

theorem provides_new (name : String) : Provides (Builder.new name).module [] where
  models _ h := absurd h List.not_mem_nil
  functions := rfl

namespace Provides

variable {m : Module} {b : Builder} {done : List Intrinsic} {i : Intrinsic}

theorem function_name (h : Provides m done) {f : Function} (hf : f ∈ m.functions) :
    ∃ j ∈ done, f.name = j.wrapperName := by
  rw [h.functions] at hf
  obtain ⟨j, hj, rfl⟩ := List.mem_map.1 hf
  exact ⟨j, hj, rfl⟩

/-- The model of an instruction can be declared beside the functions of others. -/
theorem declareModel (h : Provides b.module done) (i : Intrinsic) :
    ∃ m, b.declareModel i = (.ok (), { b with module := m }) ∧ Provides m done ∧
      m.signature? i.symbol = some i.model.signature := by
  have hfunctions : ∀ f ∈ b.module.functions, f.name ≠ i.symbol := by
    intro f hf hname
    obtain ⟨j, -, hj⟩ := h.function_name hf
    exact i.symbol_ne_wrapperName j (hname.symm.trans hj)
  obtain ⟨m, hdeclare, hdeclared, hmodels, hrest⟩ := Module.exists_declare_model h.models hfunctions
  have hsame : m.functions = b.module.functions := by rw [hrest]
  have hfunction : m.function? i.symbol = none := by
    refine Module.function?_eq_none.2 ?_
    rwa [hsame]
  exact ⟨m, Builder.declare_of_ok hdeclare, ⟨hmodels, hsame.trans h.functions⟩,
    Module.signature?_of_declared hfunction hdeclared⟩

/-- A name is taken where the instruction has its function. -/
theorem contains_iff (h : Provides m done) : m.contains i.wrapperName = true ↔ i ∈ done := by
  constructor
  · intro hcontains
    by_contra hi
    have hfree : m.contains i.wrapperName = false := by
      refine Module.contains_eq_false_of_models h.models (fun j => j.symbol_ne_wrapperName i) ?_
      intro f hf hname
      obtain ⟨j, hj, hjname⟩ := h.function_name hf
      exact hi (Intrinsic.wrapperName_injective (hjname.symm.trans hname) ▸ hj)
    exact Bool.false_ne_true (hfree.symm.trans hcontains)
  · intro hi
    by_contra hfree
    obtain ⟨-, hfunction⟩ := Module.contains_eq_false.1 (eq_false_of_ne_true hfree)
    refine Module.function?_eq_none.1 hfunction (.forwarding i.wrapperName i) ?_ rfl
    rw [h.functions]
    exact List.mem_map_of_mem hi

/-- A second function for an instruction is refused. -/
theorem buildWrapper_of_mem (h : Provides b.module done) (hi : i ∈ done) :
    (b.buildWrapper i.wrapperName i).1 = .error (.duplicateFunction i.wrapperName) := by
  obtain ⟨m, hmodel, hprovides, -⟩ := h.declareModel i
  have htaken : m.contains (Definition.wrapper i.wrapperName i).name = true :=
    hprovides.contains_iff.2 hi
  rw [Builder.buildWrapper, Builder.buildWithModel, hmodel]
  simp only [Builder.build_eq, htaken]
  rfl

/-- The first function for an instruction is added at the end. -/
theorem buildWrapper_of_not_mem (h : Provides b.module done) (hi : i ∉ done) :
    ∃ b', b.buildWrapper i.wrapperName i = (.ok (.forwarding i.wrapperName i), b') ∧
      Provides b'.module (done ++ [i]) := by
  obtain ⟨m, hmodel, hprovides, hsignature⟩ := h.declareModel i
  have hfree : ¬ m.contains (Definition.wrapper i.wrapperName i).name = true :=
    fun htaken => hi (hprovides.contains_iff.1 htaken)
  refine ⟨{ b with module := m }.added (.forwarding i.wrapperName i), ?_, hprovides.models, ?_⟩
  · rw [Builder.buildWrapper, Builder.buildWithModel, hmodel]
    simp only [Builder.build_eq, Definition.emit_wrapper hsignature]
    exact if_neg hfree
  · rw [List.map_append, ← hprovides.functions]
    rfl

/-- **Adding wrappers.** Functions are added for all of some instructions if these differ from each
other and from the earlier ones. Otherwise the first that does not is refused. -/
theorem addAll (h : Provides b.module done) (hdone : done.Nodup) (is : List Intrinsic) :
    (∃ b', addAll b is = .ok b' ∧ (done ++ is).Nodup ∧ Provides b'.module (done ++ is)) ∨
      ∃ before i after, is = before ++ i :: after ∧ (done ++ before).Nodup ∧ i ∈ done ++ before ∧
        addAll b is = .error (.construction i.name (.duplicateFunction i.wrapperName)) := by
  induction is generalizing b done with
  | nil =>
    rw [List.append_nil]
    exact Or.inl ⟨b, rfl, hdone, h⟩
  | cons i is ih =>
    rw [Execution.addAll]
    by_cases hi : i ∈ done
    · refine Or.inr ⟨[], i, is, rfl, ?_, ?_, ?_⟩
      · rwa [List.append_nil]
      · rwa [List.append_nil]
      · have hrefused := h.buildWrapper_of_mem hi
        split
        · next e b' hbuild =>
          rw [hbuild] at hrefused
          cases hrefused
          rfl
        · next f b' hbuild =>
          rw [hbuild] at hrefused
          cases hrefused
    · obtain ⟨b', hbuild, hprovides⟩ := h.buildWrapper_of_not_mem hi
      have hnodup : (done ++ [i]).Nodup := by
        rw [← List.concat_eq_append]
        exact hdone.concat hi
      have hassoc (rest : List Intrinsic) : done ++ [i] ++ rest = done ++ i :: rest := by
        rw [List.append_assoc, List.singleton_append]
      rw [hbuild]
      rcases ih hprovides hnodup with ⟨b'', hall, hdistinct, hlast⟩ |
        ⟨before, j, after, rfl, hdistinct, hj, hall⟩
      · rw [hassoc] at hdistinct hlast
        exact Or.inl ⟨b'', hall, hdistinct, hlast⟩
      · rw [hassoc] at hdistinct hj
        exact Or.inr ⟨i :: before, j, after, rfl, hdistinct, hj, hall⟩

/-- The functions are lowered to the wrappers of their instructions. -/
theorem ofModule_eq (h : Provides m done) :
    Wrapper.ofModule m = .ok (done.map Wrapper.forwarding) := by
  rw [Wrapper.ofModule_eq_ok, h.functions, List.forall₂_map_left_iff, List.forall₂_map_right_iff,
    List.forall₂_same]
  exact fun i _ => Wrapper.ofFunction_forwarding i

end Provides

/-- A module for instructions that differ is made. For others it is refused at the first repeated
one. -/
theorem provides_ofInstructions (is : List Intrinsic) :
    (∃ b, ofInstructions is = .ok b ∧ is.Nodup ∧ Provides b.module is) ∨
      ∃ before i after, is = before ++ i :: after ∧ before.Nodup ∧ i ∈ before ∧
        ofInstructions is = .error (.construction i.name (.duplicateFunction i.wrapperName)) :=
  (provides_new moduleName).addAll List.nodup_nil is

theorem ofInstructions_eq_ok {is : List Intrinsic} {b : Builder} (h : ofInstructions is = .ok b) :
    is.Nodup ∧ Provides b.module is := by
  rcases provides_ofInstructions is with ⟨b', hok, hnodup, hprovides⟩ | ⟨_, _, _, -, -, -, herror⟩
  · rw [hok] at h
    cases h
    exact ⟨hnodup, hprovides⟩
  · rw [herror] at h
    cases h

theorem exists_ofInstructions {is : List Intrinsic} :
    (∃ b, ofInstructions is = .ok b) ↔ is.Nodup := by
  constructor
  · rintro ⟨b, hb⟩
    exact (ofInstructions_eq_ok hb).1
  · intro hnodup
    rcases provides_ofInstructions is with ⟨b, hok, -⟩ | ⟨before, i, after, rfl, -, hi, -⟩
    · exact ⟨b, hok⟩
    · exact absurd List.mem_cons_self (List.disjoint_of_nodup_append hnodup hi)

end Execution

/-! ### Calls of wrappers -/

namespace Library

variable {l : Library} {is : List Intrinsic} {i : Intrinsic} {op0 op1 : Register}

/-- **Admitted operands.** Two operands of the layouts of an instruction pass the checks on
arguments: native code is entered with their bytes, and what it writes is a result of the layout of
the instruction's results. Otherwise no code is loaded, or the processor lacks a feature. -/
def Admits (l : Library) (i : Intrinsic) (op0 op1 : Register) : Prop :=
  op0.fits i.first = true ∧ op1.fits i.second = true ∧
    match l.entry? i.wrapperName with
    | none => l.execute i op0 op1 = .error (.symbolNotFound i.wrapperName)
    | some code =>
      if l.supports i then
        ∃ r : Register, r.fits i.result = true ∧ l.execute i op0 op1 = .ok r ∧
          r = (Register.zero i.result).overwrite
            (code ⟨[op0.bytes, op1.bytes], (Register.zero i.result).bytes⟩)
      else ∃ features, features ≠ [] ∧
        l.execute i op0 op1 = .error (.unsupportedCpu i.wrapperName features)

/-- The wrapper of an instruction is found by its name. -/
theorem find?_forwarding (h : l.wrappers = is.map Wrapper.forwarding) (hi : i ∈ is) :
    l.wrappers.find? (fun w => w.name == i.wrapperName) = some (.forwarding i) := by
  have hsome : (l.wrappers.find? fun w => w.name == i.wrapperName).isSome = true := by
    rw [List.find?_isSome, h]
    exact ⟨.forwarding i, List.mem_map_of_mem hi, beq_self_eq_true i.wrapperName⟩
  obtain ⟨w, hw⟩ := Option.isSome_iff_exists.1 hsome
  have hmem := List.mem_of_find?_eq_some hw
  have hname : w.name = i.wrapperName :=
    beq_iff_eq.1 (List.find?_some (p := fun w : Wrapper => w.name == i.wrapperName) hw)
  rw [h] at hmem
  obtain ⟨j, -, rfl⟩ := List.mem_map.1 hmem
  have hji : j = i := Intrinsic.wrapperName_injective hname
  rw [hw, hji]

/-- Operands of the layouts of an instruction are admitted. -/
theorem admits_of_fits (h : l.wrappers = is.map Wrapper.forwarding) (hi : i ∈ is)
    (hfirst : op0.fits i.first = true) (hsecond : op1.fits i.second = true) :
    l.Admits i op0 op1 := by
  have hkinds : List.Forall₂ (fun (a : Register) s => a.kind = Shape.kind s) [op0, op1]
      (Wrapper.forwarding i).paramShapes :=
    .cons (of_decide_eq_true hfirst) (.cons (of_decide_eq_true hsecond) .nil)
  refine ⟨hfirst, hsecond, ?_⟩
  split
  · next hentry => rw [execute, resolve, find?_forwarding h hi, hentry]; rfl
  · next code hentry =>
    have hexecute : l.execute i op0 op1 =
        (NativeFunction.mk (.forwarding i) code).invoke l.host [op0, op1] := by
      rw [execute, resolve, find?_forwarding h hi, hentry]
      rfl
    rw [hexecute, NativeFunction.invoke]
    split_ifs with hsupports
    · have hmissing := Wrapper.missing_forwarding_eq_nil_iff.2 hsupports
      refine ⟨_, ?_, bind_eq_ok.2 ⟨_, Wrapper.buffers_eq_ok.2 ⟨hkinds, hmissing, rfl⟩, rfl⟩, rfl⟩
      rw [Register.fits_overwrite]
      exact Register.fits_pack i.result []
    · have hmissing : l.host.missing (Wrapper.forwarding i).features ≠ [] :=
        fun hnone => hsupports (Wrapper.missing_forwarding_eq_nil_iff.1 hnone)
      refine ⟨_, hmissing, ?_⟩
      rw [Wrapper.buffers_of_missing hkinds hmissing]
      rfl

/-- Admitted operands are never answered with a mismatch or with a result of another layout. -/
theorem Admits.answer (h : l.Admits i op0 op1) :
    (∃ r : Register, r.fits i.result = true ∧ l.execute i op0 op1 = .ok r) ∨
      ∃ e, (∀ function reason, e ≠ .signatureMismatch function reason) ∧
        l.execute i op0 op1 = .error e := by
  obtain ⟨-, -, h⟩ := h
  split at h
  · exact Or.inr ⟨_, fun _ _ hother => WrapperError.noConfusion hother, h⟩
  · split_ifs at h
    · obtain ⟨r, hfits, hr, -⟩ := h
      exact Or.inl ⟨r, hfits, hr⟩
    · obtain ⟨features, -, hlacks⟩ := h
      exact Or.inr ⟨_, fun _ _ hother => WrapperError.noConfusion hother, hlacks⟩

/-- A test whose operands are admitted does not end with a mismatch. -/
theorem Admits.iteration {σ κ : Type} [DrawSource σ] {settings : Settings} {checker : Checker κ}
    {st : Run.State σ Library κ}
    (h : st.executor.Admits i (Run.operands i st).1 (Run.operands i st).2)
    (function reason : String) :
    (Run.iteration ⟨settings, CommandLine.nativeExecutor, checker⟩ i st).outcome ≠
      .error (.native (.signatureMismatch function reason)) := by
  intro hmismatch
  have htested := Run.tested_iteration ⟨settings, CommandLine.nativeExecutor, checker⟩ i st
  -- The executor of the run answers what the library answers.
  have hanswers : Run.answer ⟨settings, CommandLine.nativeExecutor, checker⟩ i st =
      st.executor.execute i (Run.operands i st).1 (Run.operands i st).2 := rfl
  have hanswer := h.answer
  rw [← hanswers] at hanswer
  generalize Run.iteration _ i st = step at hmismatch htested
  cases htested with
  | refused e hrefused =>
    rcases hanswer with ⟨r, -, hr⟩ | ⟨e', hother, he'⟩
    · cases hrefused.symm.trans hr
    · cases hrefused.symm.trans he'
      cases hmismatch
      exact hother function reason rfl
  | unfit result hresult hfit =>
    rcases hanswer with ⟨r, hfits, hr⟩ | ⟨e', -, he'⟩
    · cases hresult.symm.trans hr
      exact hfit hfits
    · cases hresult.symm.trans he'
  | unbuilt => cases hmismatch
  | compared => cases hmismatch

end Library

namespace Execution

/-- A library that is handed over has the wrappers of the module. -/
theorem wrappers_of_handOver {b : Builder} {target : Target} {t : Toolchain} {directory : String}
    {machine : Machine} {run : Invocation → Except String ToolOutcome}
    {load : Except String Unit} {l : Library} {v : Verification}
    (h : handOver b target (fun m => t.compile directory target machine m run load) = .ok (l, v)) :
    Wrapper.ofModule b.module = .ok l.wrappers := by
  obtain ⟨library, hcompile, h⟩ := bind_eq_ok.1 h
  cases h
  obtain ⟨ws, hws, hcompile⟩ := bind_eq_ok.1 hcompile
  obtain ⟨-, -, hcompile⟩ := bind_eq_ok.1 hcompile
  cases load with
  | error reason => cases hcompile
  | ok _ =>
    cases hcompile
    exact hws

/-- **Wrappers and their callers.** A module of wrappers is made for some instructions if and only
if these differ. Otherwise the first instruction that was there already is refused, by the name of
its function. The module is lowered, to a wrapper with the signature and the features of each
instruction, in order, and every call of a wrapper keeps within the buffers of its caller. Whatever
a machine loads for the module, the operands that are drawn for one of the instructions pass the
checks on arguments, and the test does not end with a mismatch. -/
theorem ofInstructions_serves (is : List Intrinsic) :
    ((∃ b, ofInstructions is = .ok b) ↔ is.Nodup) ∧
      (∀ e, ofInstructions is = .error e → ∃ before i after, is = before ++ i :: after ∧
        before.Nodup ∧ i ∈ before ∧
        e = .construction i.name (.duplicateFunction i.wrapperName)) ∧
      ∀ b, ofInstructions is = .ok b → ∃ ws, Wrapper.ofModule b.module = .ok ws ∧
        List.Forall₂ Wrapper.Serves ws is ∧ (∀ w ∈ ws, w.KeepsBounds) ∧
        ∀ (target : Target) (t : Toolchain) (directory : String) (machine : Machine)
          (run : Invocation → Except String ToolOutcome) (load : Except String Unit) (l : Library)
          (v : Verification),
          handOver b target (fun m => t.compile directory target machine m run load) = .ok (l, v) →
          ∀ i ∈ is, ∀ (σ κ : Type) [DrawSource σ] (settings : Settings) (checker : Checker κ)
            (st : Run.State σ Library κ), st.executor = l →
            l.Admits i (Run.operands i st).1 (Run.operands i st).2 ∧
              ∀ function reason,
                (Run.iteration ⟨settings, CommandLine.nativeExecutor, checker⟩ i
                  st).outcome ≠ .error (.native (.signatureMismatch function reason)) := by
  refine ⟨exists_ofInstructions, fun e he => ?_, fun b hb => ?_⟩
  · rcases provides_ofInstructions is with ⟨b, hok, -⟩ | ⟨before, i, after, hsplit, hnodup, hi, h⟩
    · rw [hok] at he
      cases he
    · rw [h] at he
      cases he
      exact ⟨before, i, after, hsplit, hnodup, hi, rfl⟩
  · obtain ⟨-, hprovides⟩ := ofInstructions_eq_ok hb
    have hlowered := hprovides.ofModule_eq
    refine ⟨_, hlowered, ?_, fun w _ => w.keepsBounds, ?_⟩
    · rw [List.forall₂_map_left_iff, List.forall₂_same]
      exact fun i _ => Wrapper.serves_forwarding i
    · intro target t directory machine run load l v hhanded i hi σ κ _ settings checker st hst
      have hwrappers : l.wrappers = is.map Wrapper.forwarding :=
        Except.ok.inj ((wrappers_of_handOver hhanded).symm.trans hlowered)
      obtain ⟨hfirst, hsecond⟩ := Run.fits_operands i st
      have hadmits := Library.admits_of_fits hwrappers hi hfirst hsecond
      refine ⟨hadmits, fun function reason => ?_⟩
      rw [← hst] at hadmits
      exact hadmits.iteration function reason

/-! ### An average and a shift -/

namespace AverageAndShift

/-- The average of bytes. -/
def average : Intrinsic := ⟨⟨3, by decide⟩⟩

/-- The shift of double words by a scalar count. -/
def shift : Intrinsic := ⟨⟨18, by decide⟩⟩

/-- What the compiler is to compile for. -/
def target : Target := ⟨"x86_64-unknown-linux-gnu", none⟩

/-- A compiler that reports success, and a machine that loads what it leaves. -/
def compile (m : Module) : Except WrapperError Library :=
  Toolchain.compile ⟨"rustc", .standard⟩ "." target .avx2 m (fun _ => .ok ⟨[], [], 0⟩) (.ok ())

/-- Compiled wrappers are loaded. -/
theorem compile_eq {m : Module} {ws : List Wrapper} (h : Wrapper.ofModule m = .ok ws) :
    compile m = .ok ⟨ws, m, target, .avx2⟩ := by
  have hwords : ("rustc" :: Toolchain.args ⟨"rustc", .standard⟩ "." target).all
      (fun text => !text.toList.contains '\x00') = true := by
    decide +kernel
  have hpassable : (Toolchain.command ⟨"rustc", .standard⟩ "." target ws).isPassable = true :=
    hwords
  refine bind_eq_ok.2 ⟨ws, h, bind_eq_ok.2 ⟨(), ?_, rfl⟩⟩
  rw [if_pos hpassable]
  rfl

end AverageAndShift

theorem ofInstructions_serves_averageAndShift :
    ∃ b ws l v, ofInstructions [AverageAndShift.average, AverageAndShift.shift] = .ok b ∧
      Wrapper.ofModule b.module = .ok ws ∧ ws.map Wrapper.name = ["func3", "func18"] ∧
      (∀ w ∈ ws, w.KeepsBounds) ∧
      handOver b AverageAndShift.target AverageAndShift.compile = .ok (l, v) ∧
      l.host.supports AverageAndShift.shift = true ∧
      ∀ st : Run.State Keystream Library Unit, st.executor = l →
        l.Admits AverageAndShift.shift (Run.operands AverageAndShift.shift st).1
          (Run.operands AverageAndShift.shift st).2 := by
  obtain ⟨hmade, -, hserves⟩ :=
    ofInstructions_serves [AverageAndShift.average, AverageAndShift.shift]
  obtain ⟨b, hb⟩ := hmade.2 (by decide)
  obtain ⟨ws, hws, hsignatures, hbounds, hadmits⟩ := hserves b hb
  have hlowered : Wrapper.ofModule (b.module.setTriple AverageAndShift.target.triple) = .ok ws :=
    hws
  have hhanded : handOver b AverageAndShift.target AverageAndShift.compile = .ok (_, _) :=
    bind_eq_ok.2 ⟨_, AverageAndShift.compile_eq hlowered, rfl⟩
  have hsupports : Machine.avx2.supports AverageAndShift.shift = true := by decide
  refine ⟨b, ws, _, _, hb, hws, ?_, hbounds, hhanded, hsupports, fun st hst => ?_⟩
  · exact (map_eq_map_of_forall₂ (fun _ _ h => h.name.symm) hsignatures).symm
  · exact (hadmits _ _ _ _ _ _ _ _ hhanded AverageAndShift.shift (by decide) _ _ .standard
      ⟨"agreeing", fun κ _ _ _ => (.correct, κ), fun _ => .zero⟩ st hst).1

end Execution

end VectorTrial
