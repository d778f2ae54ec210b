import VectorTrial.Proofs.Program.Acceptance

/-!
# Free variables and code generation

An expression lists its variables in the order in which they first occur from left to right. The
instructions of a function are emitted in the same order, and emission ends at the first variable
that is no parameter, unless it ended before for another reason. So a function is only built where
all free variables are parameters, and a variable that is reported as unknown is the first free
variable that is none.

A place in an expression is the list of the positions of the arguments that lead to it. From left to
right, and depth first, places are in lexicographic order.

## Main definitions

* `VectorTrial.Program.Expr.VariableAt` — the variable at a place of an expression.
* `VectorTrial.Program.Expr.ListsVariables` — the variables of an expression by first occurrence.
* `VectorTrial.Program.Expr.places` — all variables with their places, from left to right.
* `VectorTrial.Program.Scope.missing?` — the first of some names that is not in scope.

## Main results

* `VectorTrial.Program.Expr.listsVariables_freeVariables` — what the free variables are.
* `VectorTrial.Program.Expr.missing?_of_emit`, `VectorTrial.Program.Expr.missing?_of_unknown` — the
  variables of an expression that was emitted, and of one that was refused for a variable.
* `VectorTrial.Program.Expr.freeVariables_agree` — free variables and the functions that are built.
-/

namespace VectorTrial.Program

namespace Expr

/-! ### Places -/

/-- **Places.** A variable stands at a place of an expression. -/
inductive VariableAt : Expr → List Nat → String → Prop
  /-- A variable stands at the empty place of itself. -/
  | var (name : String) : VariableAt (.var name) [] name
  /-- The places in a call are those in its arguments, after the position of the argument. -/
  | call (callee : String) {args : List Expr} {position : Nat} {arg : Expr} {place : List Nat}
      {name : String} (harg : args[position]? = some arg) (h : VariableAt arg place name) :
      VariableAt (.call callee args) (position :: place) name

/-- **First occurrences.** The variables of an expression, each of them once, and one before another
if it stands at a place before all places of the other. -/
structure ListsVariables (e : Expr) (names : List String) : Prop where
  mem_iff (name : String) : name ∈ names ↔ ∃ place, e.VariableAt place name
  nodup : names.Nodup
  ordered : names.Pairwise fun x y =>
    ∃ place, e.VariableAt place x ∧ ∀ other, e.VariableAt other y → place < other

mutual

/-- All variables of an expression with their places, from left to right. -/
def places : Expr → List (List Nat × String)
  | literal _ => []
  | vector _ _ => []
  | var name => [([], name)]
  | call _ args => placesFrom 0 args

/-- All variables of some arguments with their places in the call, where the first argument is at a
given position. -/
def placesFrom (position : Nat) : List Expr → List (List Nat × String)
  | [] => []
  | e :: rest => (places e).map (Prod.map (position :: ·) id) ++ placesFrom (position + 1) rest

end

/-- The variable names of an expression from left to right, with repetitions. -/
def occurrences (e : Expr) : List String := e.places.map Prod.snd

/-- The variable names of some arguments from left to right, with repetitions. -/
def occurrencesIn (args : List Expr) : List String := args.flatMap occurrences

theorem occurrencesIn_cons (arg : Expr) (args : List Expr) :
    occurrencesIn (arg :: args) = arg.occurrences ++ occurrencesIn args :=
  List.flatMap_cons

theorem mem_placesFrom {start : Nat} {args : List Expr} {place : List Nat} {name : String} :
    (place, name) ∈ placesFrom start args ↔ ∃ position arg rest,
      args[position]? = some arg ∧ place = (start + position) :: rest ∧
        (rest, name) ∈ arg.places := by
  induction args generalizing start with
  | nil => simp [placesFrom]
  | cons first args ih =>
    rw [placesFrom, List.mem_append, ih]
    constructor
    · rintro (hfirst | ⟨position, arg, rest, harg, rfl, hrest⟩)
      · obtain ⟨⟨rest, _⟩, hrest, heq⟩ := List.mem_map.1 hfirst
        cases heq
        exact ⟨0, first, rest, rfl, rfl, hrest⟩
      · exact ⟨position + 1, arg, rest, harg, by rw [Nat.add_assoc, Nat.add_comm 1], hrest⟩
    · rintro ⟨position, arg, rest, harg, rfl, hrest⟩
      cases position with
      | zero =>
        cases harg
        exact Or.inl (List.mem_map.2 ⟨(rest, name), hrest, rfl⟩)
      | succ position =>
        exact Or.inr ⟨position, arg, rest, harg, by rw [Nat.add_assoc, Nat.add_comm 1], hrest⟩

/-- The places that are listed are those at which a variable stands. -/
theorem mem_places {e : Expr} {place : List Nat} {name : String} :
    (place, name) ∈ e.places ↔ e.VariableAt place name := by
  induction e generalizing place with
  | literal l => exact ⟨fun h => absurd h List.not_mem_nil, fun h => nomatch h⟩
  | vector bits elements => exact ⟨fun h => absurd h List.not_mem_nil, fun h => nomatch h⟩
  | var x =>
    rw [places, List.mem_singleton, Prod.mk.injEq]
    constructor
    · rintro ⟨rfl, rfl⟩
      exact .var _
    · rintro ⟨⟩
      exact ⟨rfl, rfl⟩
  | call callee args ih =>
    rw [places, mem_placesFrom]
    constructor
    · rintro ⟨position, arg, rest, harg, rfl, hrest⟩
      rw [Nat.zero_add]
      exact .call callee harg ((ih arg (List.mem_of_getElem? harg)).1 hrest)
    · rintro (_ | ⟨_, harg, h⟩)
      exact ⟨_, _, _, harg, by rw [Nat.zero_add], (ih _ (List.mem_of_getElem? harg)).2 h⟩

theorem pairwise_placesFrom {start : Nat} {args : List Expr}
    (h : ∀ arg ∈ args, arg.places.Pairwise fun p q => p.1 < q.1) :
    (placesFrom start args).Pairwise fun p q => p.1 < q.1 := by
  induction args generalizing start with
  | nil => exact .nil
  | cons first args ih =>
    obtain ⟨hfirst, hargs⟩ := List.forall_mem_cons.1 h
    rw [placesFrom]
    refine List.pairwise_append.2 ⟨?_, ih hargs, ?_⟩
    · exact List.pairwise_map.2 (hfirst.imp fun hlt => List.cons_lt_cons_iff.2 (Or.inr ⟨rfl, hlt⟩))
    · rintro p hp ⟨place, name⟩ hq
      obtain ⟨⟨rest, _⟩, -, rfl⟩ := List.mem_map.1 hp
      obtain ⟨position, arg, other, -, rfl, -⟩ := mem_placesFrom.1 hq
      exact List.cons_lt_cons_iff.2 (Or.inl (by omega))

/-- **Left to right.** Places are listed in lexicographic order. -/
theorem pairwise_places (e : Expr) : e.places.Pairwise fun p q => p.1 < q.1 := by
  induction e with
  | literal l => exact .nil
  | vector bits elements => exact .nil
  | var x => exact List.pairwise_singleton _ _
  | call callee args ih => exact pairwise_placesFrom ih

theorem occurrences_call (callee : String) (args : List Expr) :
    (call callee args).occurrences = occurrencesIn args := by
  have hfrom (start : Nat) : (placesFrom start args).map Prod.snd = occurrencesIn args := by
    induction args generalizing start with
    | nil => rfl
    | cons first args ih =>
      rw [placesFrom, List.map_append, ih, List.map_map]
      rfl
  exact hfrom 0

/-! ### Free variables -/

/-- Where each expression of a list adds its variables that were not met before, so does the
list. -/
theorem collectVariablesIn_eq {args : List Expr}
    (h : ∀ arg ∈ args, ∀ names, collectVariables names arg =
      names ++ (distinct arg.occurrences).filter (· ∉ names)) (names : List String) :
    collectVariablesIn names args =
      names ++ (distinct (occurrencesIn args)).filter (· ∉ names) := by
  induction args generalizing names with
  | nil => exact (List.append_nil names).symm
  | cons first args ih =>
    obtain ⟨hfirst, hargs⟩ := List.forall_mem_cons.1 h
    have hmet : ∀ y, y ∉ names ++ (distinct first.occurrences).filter (· ∉ names) ↔
        y ∉ names ∧ y ∉ first.occurrences := by
      intro y
      rw [List.mem_append, List.mem_filter, mem_distinct, decide_eq_true_iff]
      tauto
    rw [collectVariablesIn, hfirst, ih hargs, occurrencesIn_cons, distinct_append,
      List.filter_append, List.filter_filter, List.append_assoc]
    simp only [hmet, Bool.decide_and]

/-- What is collected from an expression are its variables that were not met before. -/
theorem collectVariables_eq (e : Expr) (names : List String) : collectVariables names e =
    names ++ (distinct e.occurrences).filter (· ∉ names) := by
  induction e generalizing names with
  | literal l => exact (List.append_nil names).symm
  | vector bits elements => exact (List.append_nil names).symm
  | var x =>
    change (if names.contains x then names else names ++ [x]) =
      names ++ [x].filter (· ∉ names)
    by_cases hx : x ∈ names
    · simp [hx]
    · simp [hx]
  | call callee args ih => rw [collectVariables, collectVariablesIn_eq ih, occurrences_call]

theorem freeVariables_eq (e : Expr) : e.freeVariables = distinct e.occurrences := by
  rw [freeVariables, collectVariables_eq, List.nil_append]
  exact List.filter_eq_self.2 fun y _ => decide_eq_true List.not_mem_nil

/-- **Free variables.** They are the variables of an expression by first occurrence. -/
theorem listsVariables_freeVariables (e : Expr) : e.ListsVariables e.freeVariables where
  mem_iff name := by
    rw [freeVariables_eq, mem_distinct, occurrences, List.mem_map]
    constructor
    · rintro ⟨⟨place, _⟩, hplace, rfl⟩
      exact ⟨place, mem_places.1 hplace⟩
    · rintro ⟨place, hplace⟩
      exact ⟨(place, name), mem_places.2 hplace, rfl⟩
  nodup := by
    rw [freeVariables_eq]
    exact nodup_distinct _
  ordered := by
    rw [freeVariables_eq]
    refine (pairwise_distinct e.pairwise_places).imp ?_
    rintro x y ⟨place, hplace, hbefore⟩
    exact ⟨place, mem_places.1 hplace, fun other h => hbefore other (mem_places.2 h)⟩

end Expr

/-! ### Variables that are not in scope -/

/-- The first of some names that is not in scope. -/
def Scope.missing? (scope : Scope) (names : List String) : Option String :=
  names.find? fun name => (scope.lookup name).isNone

theorem Scope.missing?_append (scope : Scope) (names names' : List String) :
    scope.missing? (names ++ names') = (scope.missing? names).or (scope.missing? names') :=
  List.find?_append

namespace Expr

variable {m : Module} {scope : Scope} {next : Nat} {x : String}

theorem missing?_of_emitArgs {callee : String} {index : Nat} {types : List Ty} {args : List Expr}
    {out : EmittedArgs} (hargs : ∀ arg ∈ args, ∀ {next out}, arg.emit m scope next = .ok out →
      scope.missing? arg.occurrences = none) (hlength : types.length = args.length)
    (h : emitArgs m scope callee index next types args = .ok out) :
    scope.missing? (occurrencesIn args) = none := by
  induction args generalizing index next types out with
  | nil => rfl
  | cons arg args ih =>
    obtain ⟨param, params, rfl⟩ := List.exists_cons_of_length_eq_add_one hlength
    obtain ⟨harg, hrest⟩ := List.forall_mem_cons.1 hargs
    obtain ⟨first, others, hfirst, -, hothers, -⟩ := emitArgs_cons_eq_ok h
    rw [occurrencesIn_cons, Scope.missing?_append, harg hfirst, Option.none_or]
    exact ih hrest (Nat.succ.inj hlength) hothers

/-- **Emitted expressions.** All variables of an expression that was emitted are in scope. -/
theorem missing?_of_emit {e : Expr} {out : Emitted} (h : e.emit m scope next = .ok out) :
    scope.missing? e.occurrences = none := by
  induction e generalizing next out with
  | literal l => rfl
  | vector bits elements => rfl
  | var name =>
    obtain ⟨ty, hname, -⟩ := emit_var_eq_ok h
    refine List.find?_eq_none.2 fun y hy => ?_
    rw [List.mem_singleton.1 hy, hname]
    exact Bool.false_ne_true
  | call callee args ih =>
    obtain ⟨signature, inner, -, hlength, hinner, -⟩ := emit_call_eq_ok h
    rw [occurrences_call]
    exact missing?_of_emitArgs (fun arg harg _ _ => ih arg harg) hlength hinner

/-- Literals are refused for themselves, not for a variable. -/
theorem checkLiteral_ne_unknown (bits : UInt32) (value : Int64) (x : String) :
    checkLiteral bits value ≠ .error (.unknownVariable x) := by
  unfold checkLiteral
  split_ifs <;> exact fun h => nomatch h

theorem emitElements_ne_unknown (bits : UInt32) (elements : List Literal) (x : String) :
    emitElements bits elements ≠ .error (.unknownVariable x) := by
  intro h
  induction elements with
  | nil => cases h
  | cons l rest ih =>
    rw [emitElements] at h
    split_ifs at h with hbits
    · cases h
    · rcases bind_eq_error.1 h with hcheck | ⟨_, -, h⟩
      · exact checkLiteral_ne_unknown _ _ _ hcheck
      · exact ih (bind_pure_eq_error.1 h)

theorem missing?_of_emitArgs_unknown {callee : String} {index : Nat} {types : List Ty}
    {args : List Expr} (hargs : ∀ arg ∈ args, ∀ {next},
      arg.emit m scope next = .error (.unknownVariable x) →
        scope.missing? arg.occurrences = some x)
    (h : emitArgs m scope callee index next types args = .error (.unknownVariable x)) :
    scope.missing? (occurrencesIn args) = some x := by
  induction args generalizing index next types with
  | nil => cases types <;> cases h
  | cons arg args ih =>
    obtain ⟨harg, hrest⟩ := List.forall_mem_cons.1 hargs
    rw [occurrencesIn_cons, Scope.missing?_append]
    cases types with
    | nil => cases h
    | cons param params =>
      unfold emitArgs at h
      rcases bind_eq_error.1 h with hfirst | ⟨first, hfirst, h⟩
      · rw [harg hfirst, Option.some_or]
      · split_ifs at h with hty
        · cases h
        · rw [missing?_of_emit hfirst, Option.none_or]
          exact ih hrest (bind_pure_eq_error.1 h)

/-- **Unknown variables.** An expression that is refused for a variable is refused for the first one
that is not in scope. -/
theorem missing?_of_unknown {e : Expr} (h : e.emit m scope next = .error (.unknownVariable x)) :
    scope.missing? e.occurrences = some x := by
  induction e generalizing next with
  | literal l => exact absurd (bind_pure_eq_error.1 h) (checkLiteral_ne_unknown _ _ _)
  | vector bits elements =>
    unfold emit at h
    split at h
    · cases h
    · exact absurd (bind_pure_eq_error.1 h) (emitElements_ne_unknown _ _ _)
  | var name =>
    unfold emit at h
    split at h
    · cases h
    · next hname =>
      cases h
      refine List.find?_cons_of_pos ?_
      rw [hname]
      rfl
  | call callee args ih =>
    rw [occurrences_call]
    unfold emit at h
    split at h
    · cases h
    · split at h
      · cases h
      · exact missing?_of_emitArgs_unknown (fun arg harg _ => ih arg harg) (bind_pure_eq_error.1 h)

end Expr

/-! ### Free variables of requests -/

/-- A name is that of a parameter when it is `i` with the place of the parameter. -/
def Prototype.HasParam (p : Prototype) (name : String) : Prop :=
  ∃ index < p.params.length, name = paramName index

theorem Prototype.lookup_isSome_iff {p : Prototype} {name : String} :
    ((Scope.ofParams p.namedParams).lookup name).isSome = true ↔ p.HasParam name := by
  rw [Option.isSome_iff_exists]
  constructor
  · rintro ⟨ty, hty⟩
    obtain ⟨index, rfl, hindex⟩ := lookup_namedParams.1 hty
    exact ⟨index, (List.getElem?_eq_some_iff.1 hindex).1, rfl⟩
  · rintro ⟨index, hindex, rfl⟩
    exact ⟨_, lookup_namedParams.2 ⟨index, rfl, List.getElem?_eq_getElem hindex⟩⟩

/-- The free variables of an expression are looked up in the order of its variables. -/
theorem Scope.missing?_freeVariables (scope : Scope) (e : Expr) :
    scope.missing? e.freeVariables = scope.missing? e.occurrences := by
  rw [Expr.freeVariables_eq]
  exact find?_distinct _ _

/-- A request that is refused for a variable is refused while its body is emitted. -/
theorem Builder.emit_of_build_unknown {b : Builder} {d : Definition} {x : String}
    (h : (b.build d).1 = .error (.unknownVariable x)) :
    d.body.emit b.module (Scope.ofParams d.prototype.namedParams) 0 =
      .error (.unknownVariable x) := by
  rw [build_eq, Definition.emit_eq] at h
  split_ifs at h with hfree
  · cases h
  · cases hout : d.body.emit b.module (Scope.ofParams d.prototype.namedParams) 0 with
    | error e =>
      simp only [hout] at h
      rw [Except.error.inj h]
    | ok out =>
      simp only [hout] at h
      by_cases hty : out.value.ty = d.prototype.ret
      · simp only [if_pos hty] at h
        cases h
      · simp only [if_neg hty] at h
        cases h

/-- **Free variables and code generation.** The free variables of an expression are all variables
that occur in it, each of them once, and in the order of their first occurrences from left to right.
Whatever a builder holds, it builds a function only where all free variables of the body are
parameters. If it refuses a request for an unknown variable, this is the first free variable of the
body that is no parameter. -/
theorem Expr.freeVariables_agree :
    (∀ e : Expr, e.ListsVariables e.freeVariables) ∧
      ∀ (b : Builder) (d : Definition),
        (∀ f, (b.build d).1 = .ok f → ∀ name ∈ d.body.freeVariables, d.prototype.HasParam name) ∧
        ∀ x, (b.build d).1 = .error (.unknownVariable x) →
          ∃ before after, d.body.freeVariables = before ++ x :: after ∧
            (∀ name ∈ before, d.prototype.HasParam name) ∧ ¬ d.prototype.HasParam x := by
  refine ⟨Expr.listsVariables_freeVariables, fun b d => ⟨fun f hf name hname => ?_, fun x hx => ?_⟩⟩
  · obtain ⟨-, ⟨out, hout, -⟩, -, -⟩ := Builder.build_eq_ok hf
    have hmissing := Expr.missing?_of_emit hout
    rw [← Scope.missing?_freeVariables] at hmissing
    have hlookup := List.find?_eq_none.1 hmissing name hname
    rw [← Prototype.lookup_isSome_iff]
    simpa using hlookup
  · have hmissing := Expr.missing?_of_unknown (Builder.emit_of_build_unknown hx)
    rw [← Scope.missing?_freeVariables] at hmissing
    obtain ⟨hunknown, before, after, hnames, hbefore⟩ :=
      List.find?_eq_some_iff_append.1 hmissing
    refine ⟨before, after, hnames, fun name hname => ?_, fun hparam => ?_⟩
    · rw [← Prototype.lookup_isSome_iff]
      simpa using hbefore name hname
    · rw [← Prototype.lookup_isSome_iff] at hparam
      simp [Option.isNone_iff_eq_none.1 hunknown] at hparam

/-! ### Two unknown variables -/

namespace TwoUnknown

/-- A builder that knows a sum of two integers. -/
def builder : Builder := .ofModule ⟨"sums", none, [⟨"add", .i32, [.i32, .i32]⟩], []⟩

/-- A request with two parameters for a sum of sums, in which two variables are left open. -/
def request (second fourth : String) : Definition where
  prototype := ⟨"f", .i32, [.i32, .i32]⟩
  body := .call "add"
    [.call "add" [.var "i1", .var second], .call "add" [.var "i1", .var fourth]]

end TwoUnknown

/-- With two parameters the sum is built; with two unknown variables it is refused for the first. -/
theorem Expr.freeVariables_agree_twoUnknown :
    (∃ f, (TwoUnknown.builder.build (TwoUnknown.request "i0" "i1")).1 = .ok f ∧
      "i0" ∈ (TwoUnknown.request "i0" "i1").body.freeVariables ∧
      (TwoUnknown.request "i0" "i1").prototype.HasParam "i0") ∧
    (TwoUnknown.builder.build (TwoUnknown.request "i7" "i2")).1 =
        .error (.unknownVariable "i7") ∧
      ∃ before after, (TwoUnknown.request "i7" "i2").body.freeVariables = before ++ "i7" :: after ∧
        (∀ name ∈ before, (TwoUnknown.request "i7" "i2").prototype.HasParam name) ∧
        ¬ (TwoUnknown.request "i7" "i2").prototype.HasParam "i7" := by
  obtain ⟨f, hbuilt⟩ :
      ∃ f, (TwoUnknown.builder.build (TwoUnknown.request "i0" "i1")).1 = .ok f := ⟨_, rfl⟩
  have hrefused : (TwoUnknown.builder.build (TwoUnknown.request "i7" "i2")).1 =
      .error (.unknownVariable "i7") := rfl
  have hfree : "i0" ∈ (TwoUnknown.request "i0" "i1").body.freeVariables := by decide
  obtain ⟨-, hbuilds⟩ := Expr.freeVariables_agree
  exact ⟨⟨f, hbuilt, hfree, (hbuilds _ _).1 f hbuilt "i0" hfree⟩, hrefused,
    (hbuilds _ _).2 "i7" hrefused⟩

end VectorTrial.Program
