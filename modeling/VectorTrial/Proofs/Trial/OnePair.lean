import VectorTrial.Proofs.Program.Linking
import VectorTrial.Proofs.Trial.Forgetting

/-!
# One pair at a time

The functions of a bench come and go in pairs. Of two builds the second may be refused when the
first succeeded and the model was declared in between; then the first function is withdrawn, and
the declaration stays. A second pair beside a live one is refused before anything changes.

## Main definitions

* `VectorTrial.Verification.HoldsPair` — a bench with exactly one pair.
* `VectorTrial.Verification.Obeys` — what a bench obeys after some requests.

## Main results

* `VectorTrial.Verification.buildPair_of_holdsPair` — a live pair refuses another one.
* `VectorTrial.Verification.buildPair_of_empty` — without a live pair, a pair is built or nothing
  is left.
* `VectorTrial.Verification.obeys_after` — every bench obeys the rules after any requests.
-/

namespace VectorTrial

open Program

namespace Verification

/-! ### Pairs -/

/-- **Live pairs.** The functions of a bench are the one that returns a result and the one that
calls the model, in this order. -/
def HoldsPair (v : Verification) : Prop :=
  ∃ target source, v.module.functions = [target, source] ∧ target.name = targetName ∧
    source.name = sourceName

variable {triple : Option String} {v : Verification}

/-- Both names of a live pair are taken. -/
theorem HoldsPair.contains_targetName (h : v.HoldsPair) : v.module.contains targetName = true := by
  obtain ⟨target, source, hfunctions, htarget, -⟩ := h
  refine Module.contains_eq_true.2 (Or.inr ⟨target, ?_, htarget⟩)
  rw [hfunctions]
  exact List.mem_cons_self

/-- **Second pairs.** A live pair refuses another one, and the bench stays as it is. -/
theorem buildPair_of_holdsPair (h : v.HoldsPair) (i : Intrinsic) (op0 op1 result : Register)
    (lane : LaneWidth) :
    v.buildPair i op0 op1 result lane = (.error (.duplicateFunction targetName), v) := by
  have hrefused : v.builder.buildConstant targetName result lane =
      (.error (.duplicateFunction targetName), v.builder) := by
    rw [Builder.buildConstant, Builder.build_eq]
    exact if_pos h.contains_targetName
  rw [buildPair, hrefused]

/-- **First pairs.** Without functions, the functions of a pair are built, or the bench is left
without functions. -/
theorem buildPair_of_empty (hknows : KnowsModels triple v.module)
    (hempty : v.module.functions = []) (i : Intrinsic) (op0 op1 result : Register)
    (lane : LaneWidth) :
    (∃ source, (v.buildPair i op0 op1 result lane).1 = .ok () ∧ source.name = sourceName ∧
      (v.buildPair i op0 op1 result lane).2.module.functions = [returned result lane, source]) ∨
    (∃ e, (v.buildPair i op0 op1 result lane).1 = .error e ∧
      (v.buildPair i op0 op1 result lane).2.module.functions = []) := by
  have hrest : v.AtRest triple := ⟨hknows.name, hknows.triple, hempty, hknows.models⟩
  obtain ⟨m, hprepared, hpair⟩ := buildPair_eq hrest i op0 op1 result lane
  cases hemit : (Definition.call sourceName i op0 op1).emit m [] with
  | ok source =>
    rw [hemit] at hpair
    refine Or.inl ⟨source, congrArg Prod.fst hpair, Definition.name_of_emit hemit, ?_⟩
    rw [hpair]
    exact congrArg (· ++ [source]) hprepared.functions
  | error e =>
    rw [hemit] at hpair
    refine Or.inr ⟨e, congrArg Prod.fst hpair, ?_⟩
    -- The function that returns the result is withdrawn, and it was the only one.
    have hwithdrawn : (m.functions.eraseP fun f => f.name == targetName) = [] := by
      rw [hprepared.functions]
      rfl
    rw [hpair]
    exact hwithdrawn

/-- To clear a bench with a pair or without functions leaves no function. -/
theorem functions_erasePair (h : v.module.functions = [] ∨ v.HoldsPair) :
    v.erasePair.module.functions = [] := by
  change (v.module.functions.eraseP fun f => f.name == sourceName).eraseP
    (fun f => f.name == targetName) = []
  rcases h with hempty | ⟨target, source, hfunctions, htarget, hsource⟩
  · rw [hempty]
    rfl
  · rw [hfunctions]
    simp [htarget, hsource, targetName, sourceName]

/-! ### All requests -/

/-- One request leaves no function or one pair. -/
theorem pair_serve (hknows : KnowsModels triple v.module)
    (h : v.module.functions = [] ∨ v.HoldsPair) (request : Request) :
    (v.serve request).module.functions = [] ∨ (v.serve request).HoldsPair := by
  cases request with
  | erasePair => exact Or.inl (functions_erasePair h)
  | buildPair i op0 op1 result lane =>
    rcases h with hempty | hlive
    · rcases buildPair_of_empty hknows hempty i op0 op1 result lane with
        ⟨source, -, hsource, hbuilt⟩ | ⟨e, -, hwithdrawn⟩
      · exact Or.inr ⟨_, source, hbuilt, rfl, hsource⟩
      · exact Or.inl hwithdrawn
    · rw [serve, buildPair_of_holdsPair hlive]
      exact Or.inr hlive

/-- **One pair at a time.** Requests leave no function or one pair. -/
theorem pair_after (hknows : KnowsModels triple v.module)
    (h : v.module.functions = [] ∨ v.HoldsPair) (requests : List Request) :
    (v.after requests).module.functions = [] ∨ (v.after requests).HoldsPair := by
  induction requests generalizing v with
  | nil => exact h
  | cons request requests ih =>
    exact ih (hknows.after [request]) (pair_serve hknows h request)

/-- Requests keep what is declared, in its order and under its name. -/
theorem declarations_after (v : Verification) (requests : List Request) :
    v.module.declarations.Sublist (v.after requests).module.declarations ∧
      ∀ name d, v.module.declaration? name = some d →
        (v.after requests).module.declaration? name = some d := by
  refine (v.reachedBy_after requests).module (P := fun m =>
    v.module.declarations.Sublist m.declarations ∧
      ∀ name d, v.module.declaration? name = some d → m.declaration? name = some d)
    ⟨List.Sublist.refl _, fun _ _ hd => hd⟩ fun b c _ h => ?_
  have hbecomes := b.becomes_change c
  exact ⟨h.1.trans hbecomes.declarations_sublist,
    fun name d hd => hbecomes.declaration?_eq (h.2 name d hd)⟩

/-- What is declared after some requests was declared before, or is the model of an instruction
that a pair was requested for. -/
theorem declared_after (v : Verification) (requests : List Request) :
    ∀ d ∈ (v.after requests).module.declarations, d ∈ v.module.declarations ∨
      ∃ i op0 op1 result lane, .buildPair i op0 op1 result lane ∈ requests ∧ d = i.model := by
  refine (v.reachedBy_after requests).module (P := fun m => ∀ d ∈ m.declarations,
    d ∈ v.module.declarations ∨
      ∃ i op0 op1 result lane, .buildPair i op0 op1 result lane ∈ requests ∧ d = i.model)
    (fun _ hd => Or.inl hd) fun b c hasked h d hd => ?_
  rcases (b.becomes_change c).declared_or hd with rfl | hd
  · obtain ⟨request, hrequest, hasks⟩ := hasked
    cases hasks with
    | model i op0 op1 result lane => exact Or.inr ⟨i, op0, op1, result, lane, hrequest, rfl⟩
  · exact h d hd

/-- **The rules of a bench.** What holds of a bench for a target after some requests. -/
structure Obeys (triple : Option String) (past : List Request) (v : Verification) : Prop where
  /-- There is no function or one pair. -/
  pair : v.module.functions = [] ∨ v.HoldsPair
  /-- Beside a live pair every other one is refused for its first name, and nothing changes. -/
  refuses : v.HoldsPair → ∀ i op0 op1 result lane,
    v.buildPair i op0 op1 result lane = (.error (.duplicateFunction targetName), v)
  /-- Without functions, a pair is built, or it is refused and no function is left. -/
  builds : v.module.functions = [] → ∀ i op0 op1 result lane,
    (∃ source, (v.buildPair i op0 op1 result lane).1 = .ok () ∧ source.name = sourceName ∧
      (v.buildPair i op0 op1 result lane).2.module.functions = [returned result lane, source]) ∨
    (∃ e, (v.buildPair i op0 op1 result lane).1 = .error e ∧
      (v.buildPair i op0 op1 result lane).2.module.functions = [])
  /-- The bench can be cleared. -/
  clears : v.erasePair.module.functions = []
  /-- The target stays. -/
  target : v.module.triple = triple
  /-- Every declaration is the model of an instruction that a pair was requested for. -/
  declared : ∀ d ∈ v.module.declarations,
    ∃ i op0 op1 result lane, .buildPair i op0 op1 result lane ∈ past ∧ d = i.model
  /-- No later request removes, moves or alters a declaration. -/
  kept : ∀ later, v.module.declarations.Sublist (v.after later).module.declarations ∧
    ∀ d ∈ v.module.declarations, (v.after later).module.declaration? d.name = some d

/-- The symbols of a bench stay distinct. -/
theorem distinct_after (triple : Option String) (requests : List Request) :
    ((new triple).after requests).module.HasDistinctSymbols := by
  have hempty := Module.hasDistinctSymbols_empty moduleName
  have hstart : (new triple).module.HasDistinctSymbols :=
    ⟨hempty.functions, hempty.disjoint, hempty.stored⟩
  exact ((new triple).reachedBy_after requests).module hstart fun b c _ h =>
    (b.becomes_change c).distinct h

/-- **The rules of a bench.** After any requests for pairs of any three registers at any width,
refused or not, and after it was cleared at any time, a new bench holds no function or one pair; a
second pair is refused and leaves the first as it is; a pair is built as a whole or not at all; and
models are declared for good, for the requested instructions only. -/
theorem obeys_after (triple : Option String) (past : List Request) :
    ((new triple).after past).Obeys triple past := by
  have hknows := (knowsModels_new triple).after past
  have hpair := pair_after (knowsModels_new triple) (Or.inl rfl) past
  refine ⟨hpair, buildPair_of_holdsPair, buildPair_of_empty hknows, functions_erasePair hpair,
    hknows.triple, fun d hd => ?_, fun later => ?_⟩
  · exact (declared_after (new triple) past d hd).resolve_left List.not_mem_nil
  · obtain ⟨hsublist, hfound⟩ := declarations_after ((new triple).after past) later
    exact ⟨hsublist, fun d hd => hfound d.name d (((distinct_after triple past).stored d).1 hd)⟩

/-- Of two pairs for the first instruction of the catalog the second is refused, and the first is
live. -/
example :
    let i : Intrinsic := ⟨⟨0, by decide⟩⟩
    let v := (new none).after [.buildPair i (.zero i.first) (.zero i.second) (.zero i.result) .w8]
    v.module.functions.map Function.name = [targetName, sourceName] ∧
      (v.buildPair i (.zero i.first) (.zero i.second) (.zero i.result) .w16).1 =
        .error (.duplicateFunction targetName) :=
  ⟨rfl, rfl⟩

end Verification

end VectorTrial
