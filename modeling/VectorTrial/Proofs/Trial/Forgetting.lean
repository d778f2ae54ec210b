import VectorTrial.Proofs.Program.Changes
import VectorTrial.Proofs.Trial.Bench

/-!
# The bench forgets

What a checker reads does not depend on what was compared before. The declarations of models
gather on the bench, and a pair that is refused leaves its own behind. But a model is always
declared the same, and the text of a pair shows the declaration of its own model only.

## Main definitions

* `VectorTrial.Verification.Request`, `VectorTrial.Verification.after` — what may be asked of a
  bench, and the bench after some requests.
* `VectorTrial.Verification.KnowsModels` — a module of a bench, with or without functions.

## Main results

* `VectorTrial.Verification.reachedBy_after` — a bench serves requests by changes to its module.
* `VectorTrial.Verification.KnowsModels.after` — requests of any kind add models only.
* `VectorTrial.Verification.buildPair_forgets` — on two benches without functions, whatever was
  asked of each before, a pair is refused for the same cause or shown with the same text.
-/

namespace VectorTrial

open Program

namespace Verification

/-! ### Requests -/

/-- **Requests.** What may be asked of a bench. -/
inductive Request where
  | buildPair (i : Intrinsic) (op0 op1 result : Register) (lane : LaneWidth)
  | erasePair

/-- The bench after a request, whether it was refused or not. -/
def serve (v : Verification) : Request → Verification
  | .buildPair i op0 op1 result lane => (v.buildPair i op0 op1 result lane).2
  | .erasePair => v.erasePair

/-- The bench after some requests. -/
def after (v : Verification) (requests : List Request) : Verification := requests.foldl serve v

/-- What a request asks of the builder. -/
inductive Request.Asks : Request → Change → Prop
  | target (i : Intrinsic) (op0 op1 result : Register) (lane : LaneWidth) :
      Asks (.buildPair i op0 op1 result lane) (.build (.constant targetName result lane))
  | model (i : Intrinsic) (op0 op1 result : Register) (lane : LaneWidth) :
      Asks (.buildPair i op0 op1 result lane) (.declare i.model)
  | source (i : Intrinsic) (op0 op1 result : Register) (lane : LaneWidth) :
      Asks (.buildPair i op0 op1 result lane) (.build (.call sourceName i op0 op1))
  | withdrawal (i : Intrinsic) (op0 op1 result : Register) (lane : LaneWidth) :
      Asks (.buildPair i op0 op1 result lane) (.erase targetName)
  | erasure (name : String) : Asks .erasePair (.erase name)

variable {triple : Option String} {m m' : Module} {b : Builder} {v : Verification}

/-- A call is built by two changes, unless the model is refused. -/
theorem reachedBy_buildCall {allowed : Change → Prop} {b' : Builder}
    (h : Builder.ReachedBy allowed b b') {name : String} {i : Intrinsic} {op0 op1 : Register}
    (hmodel : allowed (.declare i.model)) (hcall : allowed (.build (.call name i op0 op1))) :
    Builder.ReachedBy allowed b (b'.buildCall name i op0 op1).2 := by
  have hdeclared := h.change hmodel
  rw [Builder.change] at hdeclared
  rw [Builder.buildCall, Builder.buildWithModel, Builder.declareModel]
  split
  · next e declared hdeclare =>
    rw [hdeclare] at hdeclared
    exact hdeclared
  · next declared hdeclare =>
    rw [hdeclare] at hdeclared
    exact hdeclared.change hcall

/-- **Requests are changes.** A bench serves a request by changes that the request asks for. -/
theorem reachedBy_serve (v : Verification) (request : Request) :
    Builder.ReachedBy request.Asks v.builder (v.serve request).builder := by
  have hstart := Builder.ReachedBy.refl request.Asks v.builder
  cases request with
  | erasePair => exact (hstart.change (.erasure sourceName)).change (.erasure targetName)
  | buildPair i op0 op1 result lane =>
    have htarget := hstart.change (.target i op0 op1 result lane)
    change Builder.ReachedBy _ _ (v.builder.buildConstant targetName result lane).2 at htarget
    rw [serve, buildPair]
    split
    · next e b hrefused =>
      rw [hrefused] at htarget
      exact htarget
    · next f b hbuilt =>
      rw [hbuilt] at htarget
      have hsource := reachedBy_buildCall htarget (.model i op0 op1 result lane)
        (.source i op0 op1 result lane)
      split
      · next e b' hrefused =>
        rw [hrefused] at hsource
        exact hsource.change (.withdrawal i op0 op1 result lane)
      · next g b' hbuilt' =>
        rw [hbuilt'] at hsource
        exact hsource

/-- What is asked of a bench one after the other reaches it by changes. -/
theorem reachedBy_after (v : Verification) (requests : List Request) :
    Builder.ReachedBy (fun c => ∃ request ∈ requests, request.Asks c) v.builder
      (v.after requests).builder := by
  induction requests generalizing v with
  | nil => exact .refl _ _
  | cons request requests ih =>
    have hserved := (v.reachedBy_serve request).mono fun c hc =>
      (⟨request, List.mem_cons_self, hc⟩ : ∃ r ∈ request :: requests, r.Asks c)
    refine hserved.trans ((ih (v.serve request)).mono ?_)
    rintro c ⟨later, hlater, hc⟩
    exact ⟨later, List.mem_cons_of_mem _ hlater, hc⟩

/-! ### What the bench declares -/

/-- **Known models.** The module of a bench for a target, with any functions, which declares models
only. -/
structure KnowsModels (triple : Option String) (m : Module) : Prop where
  name : m.name = moduleName
  triple : m.triple = triple
  models : ∀ d ∈ m.declarations, ∃ i : Intrinsic, d = i.model

theorem KnowsModels.becomes {request : Request} {c : Change} (h : KnowsModels triple m)
    (hasks : request.Asks c) (hc : m.Becomes c m') : KnowsModels triple m' := by
  have hmodels : ∀ d ∈ m'.declarations, ∃ i : Intrinsic, d = i.model := by
    intro d hd
    rcases hc.declared_or hd with rfl | hd
    · cases hasks with
      | model i => exact ⟨i, rfl⟩
    · exact h.models d hd
  cases hc with
  | kept => exact h
  | aimed triple => cases hasks
  | declared hfree => exact ⟨h.name, h.triple, hmodels⟩
  | built hout hfree hverify => exact ⟨h.name, h.triple, hmodels⟩
  | erased name => exact ⟨h.name, h.triple, hmodels⟩

/-- **Requests add models.** Whatever is asked of a bench, it declares models only. -/
theorem KnowsModels.after (h : KnowsModels triple v.module) (requests : List Request) :
    KnowsModels triple (v.after requests).module := by
  refine (v.reachedBy_after requests).module h fun b c hasked hknows => ?_
  obtain ⟨request, -, hasks⟩ := hasked
  exact hknows.becomes hasks (b.becomes_change c)

theorem knowsModels_new (triple : Option String) : KnowsModels triple (new triple).module :=
  ⟨rfl, rfl, fun _ hd => absurd hd List.not_mem_nil⟩

/-- A bench without functions is at rest, whatever was asked of it before. -/
theorem atRest_after {requests : List Request} (h : ((new triple).after requests).count = 0) :
    ((new triple).after requests).AtRest triple := by
  have hknows := (knowsModels_new triple).after requests
  exact ⟨hknows.name, hknows.triple, List.length_eq_zero_iff.1 h, hknows.models⟩

/-! ### A pair on a bench at rest -/

/-- The function that returns a register, read as lanes of a width. -/
def returned (result : Register) (lane : LaneWidth) : Function :=
  .returning targetName (.ofRegister result lane) (.ofRegister result lane)

/-- The module in which the function that calls a model is requested. -/
structure Prepared (triple : Option String) (i : Intrinsic) (f : Function) (m : Module) : Prop where
  name : m.name = moduleName
  triple : m.triple = triple
  functions : m.functions = [f]
  declared : m.declaration? i.symbol = some i.model

/-- On a bench at rest only the function that calls the model may be refused. -/
theorem buildPair_eq (h : v.AtRest triple) (i : Intrinsic) (op0 op1 result : Register)
    (lane : LaneWidth) :
    ∃ m, Prepared triple i (returned result lane) m ∧
      v.buildPair i op0 op1 result lane =
        match (Definition.call sourceName i op0 op1).emit m [] with
        | .error e => (.error e, (Verification.mk (.ofModule m)).erase targetName)
        | .ok f => (.ok (), ⟨.ofModule (m.append f)⟩) := by
  have htarget : v.builder.buildConstant targetName result lane =
      (.ok (returned result lane), v.builder.added (returned result lane)) :=
    buildConstant_eq h.models h.functions result lane
  obtain ⟨m, hfunctions, hdeclared, -, hname, htriple, hcall⟩ :=
    buildCall_eq (b := v.builder.added (returned result lane)) h.models
      (congrArg (· ++ [returned result lane]) h.functions) rfl i op0 op1
  refine ⟨m, ⟨hname.trans h.name, htriple.trans h.triple, hfunctions, hdeclared⟩, ?_⟩
  rw [buildPair, htarget]
  simp only [hcall]
  cases (Definition.call sourceName i op0 op1).emit m [] with
  | error e => rfl
  | ok f => rfl

theorem callSymbols_ofRegister (r : Register) (lane : LaneWidth) :
    (Expr.ofRegister r lane).callSymbols = [] := by
  unfold Expr.ofRegister
  split <;> rfl

/-- The only symbol that the function for a pair calls is the model. -/
theorem mem_callSymbols_call {name callee : String} {i : Intrinsic} {op0 op1 : Register} :
    callee ∈ (Definition.call name i op0 op1).body.callSymbols ↔ callee = i.symbol := by
  simp [Definition.call, Expr.callSymbols, callSymbolsIn, callSymbols_ofRegister]

variable {i : Intrinsic} {result : Register} {lane : LaneWidth}

theorem Prepared.signature? (h : Prepared triple i (returned result lane) m) :
    m.signature? i.symbol = some i.model.signature := by
  refine signature?_of_pair h.declared ?_
  rw [h.functions]
  exact List.forall_mem_singleton.2 (Or.inl rfl)

/-- Beside the same functions, two modules that know the model show the same pair. -/
theorem Prepared.renderPair_eq (h : Prepared triple i (returned result lane) m)
    (h' : Prepared triple i (returned result lane) m') {op0 op1 : Register} {f : Function}
    (hemit : (Definition.call sourceName i op0 op1).emit m [] = .ok f) :
    (Verification.mk (.ofModule (m'.append f))).renderPair =
      (Verification.mk (.ofModule (m.append f))).renderPair := by
  have hfunctions : (m.append f).functions = [returned result lane, f] :=
    congrArg (· ++ [f]) h.functions
  have hfunctions' : (m'.append f).functions = [returned result lane, f] :=
    congrArg (· ++ [f]) h'.functions
  have hcallees : ∀ g ∈ (m.append f).functions, ∀ callee ∈ g.callees, callee = i.symbol := by
    obtain ⟨out, hout, rfl, -⟩ := Definition.emit_eq_ok.1 hemit
    rw [hfunctions]
    refine List.forall_mem_cons.2 ⟨fun callee hcallee => absurd hcallee List.not_mem_nil, ?_⟩
    refine List.forall_mem_singleton.2 fun callee hcallee => ?_
    exact mem_callSymbols_call.1 ((Definition.callees_assemble hout).1 hcallee)
  have hname : (m'.append f).name = (m.append f).name := h'.name.trans h.name.symm
  have htriple : (m'.append f).triple = (m.append f).triple := h'.triple.trans h.triple.symm
  refine Module.renderFunctions_congr hname htriple (fun name _ => ?_)
    fun g hg _ callee hcallee => ?_
  · rw [Module.function?, Module.function?, hfunctions', hfunctions]
  · rw [hcallees g hg callee hcallee]
    exact h'.declared.trans h.declared.symm

/-- **The bench forgets.** Of two new benches for the same target, let each be asked for any pairs,
refused or not, and be cleared at any time, until no function is left. For every instruction, every
three registers and every width, both benches then refuse the pair for the same cause, or both
build it and show it with the same text. -/
theorem buildPair_forgets (triple : Option String) (past past' : List Request)
    (h : ((new triple).after past).count = 0) (h' : ((new triple).after past').count = 0)
    (i : Intrinsic) (op0 op1 result : Register) (lane : LaneWidth) :
    (((new triple).after past).buildPair i op0 op1 result lane).1 =
        (((new triple).after past').buildPair i op0 op1 result lane).1 ∧
      ((((new triple).after past).buildPair i op0 op1 result lane).1 = .ok () →
        ∃ text,
          (((new triple).after past).buildPair i op0 op1 result lane).2.renderPair = .ok text ∧
          (((new triple).after past').buildPair i op0 op1 result lane).2.renderPair =
            .ok text) := by
  obtain ⟨m, hm, hpair⟩ := buildPair_eq (atRest_after h) i op0 op1 result lane
  obtain ⟨m', hm', hpair'⟩ := buildPair_eq (atRest_after h') i op0 op1 result lane
  -- Both modules know the model, and the body asks for nothing else.
  have hemit : (Definition.call sourceName i op0 op1).emit m' [] =
      (Definition.call sourceName i op0 op1).emit m [] := by
    refine Definition.emit_congr fun callee hcallee => ?_
    rw [mem_callSymbols_call.1 hcallee, hm.signature?, hm'.signature?]
  rw [hemit] at hpair'
  cases hout : (Definition.call sourceName i op0 op1).emit m [] with
  | error e =>
    rw [hout] at hpair hpair'
    rw [hpair, hpair']
    exact ⟨rfl, fun hok => nomatch hok⟩
  | ok f =>
    rw [hout] at hpair hpair'
    obtain ⟨text, htext⟩ := exists_renderPair hpair
    rw [hpair, hpair']
    exact ⟨rfl, fun _ => ⟨text, htext, (hm.renderPair_eq hm' hout).trans htext⟩⟩

/-! ### One pair after two pasts -/

namespace TwoPasts

/-- The first instruction of the catalog. -/
def first : Intrinsic := ⟨⟨0, by decide⟩⟩

/-- The second instruction of the catalog. -/
def second : Intrinsic := ⟨⟨1, by decide⟩⟩

/-- A pair that is built and erased. -/
def erased : List Request :=
  [.buildPair first (.zero first.first) (.zero first.second) (.zero first.result) .w16, .erasePair]

/-- A pair that is refused, since its first operand is no vector. -/
def refused : List Request :=
  [.buildPair second (.scalar 1) (.zero second.second) (.zero second.result) .w8]

end TwoPasts

theorem buildPair_forgets_twoPasts :
    ((new none).after TwoPasts.erased).module.declarations = [TwoPasts.first.model] ∧
      ((new none).after TwoPasts.refused).module.declarations = [TwoPasts.second.model] ∧
      ∃ text,
        (((new none).after TwoPasts.erased).buildPair TwoPasts.first (.zero TwoPasts.first.first)
          (.zero TwoPasts.first.second) (.zero TwoPasts.first.result) .w8).2.renderPair = .ok text ∧
        (((new none).after TwoPasts.refused).buildPair TwoPasts.first (.zero TwoPasts.first.first)
          (.zero TwoPasts.first.second) (.zero TwoPasts.first.result) .w8).2.renderPair =
            .ok text := by
  have hforgets := buildPair_forgets none TwoPasts.erased TwoPasts.refused rfl rfl TwoPasts.first
    (.zero TwoPasts.first.first) (.zero TwoPasts.first.second) (.zero TwoPasts.first.result) .w8
  exact ⟨rfl, rfl, hforgets.2 rfl⟩

end Verification

end VectorTrial
