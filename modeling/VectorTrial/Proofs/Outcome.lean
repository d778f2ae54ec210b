/-!
# Outcomes with errors

A computation that may be refused is a value or an error. What is known once it has ended.

## Main results

* `VectorTrial.bind_eq_ok` — a computation in two steps has a value when both steps have one.
* `VectorTrial.bind_eq_error`, `VectorTrial.bind_pure_eq_error` — it is refused when one of its
  steps is.
* `VectorTrial.check_bind_eq_ok` — the same where the first step is a check.
* `VectorTrial.ite_throw_bind_eq_ok`, `VectorTrial.ite_throw_eq_ok` — a computation that is refused
  on a condition.
* `VectorTrial.map_eq_ok`, `VectorTrial.map_eq_error` — a computation whose value is put into
  another form.
* `VectorTrial.forM_eq_ok` — a check of all items of a list passes when each item passes.
-/

namespace VectorTrial

variable {ε α β : Type}

theorem bind_eq_ok {x : Except ε α} {f : α → Except ε β} {b : β} :
    x >>= f = .ok b ↔ ∃ a, x = .ok a ∧ f a = .ok b := by
  cases x with
  | error e =>
    constructor
    · intro h
      cases h
    · rintro ⟨a, h, -⟩
      cases h
  | ok a =>
    constructor
    · intro h
      exact ⟨a, rfl, h⟩
    · rintro ⟨a', h, hf⟩
      cases h
      exact hf

/-- A computation in two steps is refused in one of them. -/
theorem bind_eq_error {x : Except ε α} {f : α → Except ε β} {e : ε} :
    x >>= f = .error e ↔ x = .error e ∨ ∃ a, x = .ok a ∧ f a = .error e := by
  cases x with
  | error e' =>
    constructor
    · intro h
      cases h
      exact Or.inl rfl
    · rintro (h | ⟨a, h, -⟩)
      · cases h
        rfl
      · cases h
  | ok a =>
    constructor
    · intro h
      exact Or.inr ⟨a, rfl, h⟩
    · rintro (h | ⟨a', h, hf⟩)
      · cases h
      · cases h
        exact hf

/-- A computation that goes on with a value is refused when the first step is. -/
theorem bind_pure_eq_error {x : Except ε α} {f : α → β} {e : ε} :
    (do return f (← x)) = Except.error e ↔ x = .error e := by
  rw [bind_eq_error]
  refine or_iff_left ?_
  rintro ⟨a, -, h⟩
  cases h

/-- A check and what follows it. -/
theorem check_bind_eq_ok {check : Except ε Unit} {f : Unit → Except ε β} {b : β} :
    check >>= f = .ok b ↔ check = .ok () ∧ f () = .ok b := by
  rw [bind_eq_ok]
  exact ⟨fun ⟨_, hcheck, hf⟩ => ⟨hcheck, hf⟩, fun ⟨hcheck, hf⟩ => ⟨(), hcheck, hf⟩⟩

/-- A refusal on a condition, and what follows where the condition does not hold. -/
theorem ite_throw_bind_eq_ok {p : Prop} [Decidable p] {e : ε} {f : Unit → Except ε β} {b : β} :
    (if p then throw e >>= f else f ()) = .ok b ↔ ¬ p ∧ f () = .ok b := by
  by_cases h : p
  · rw [if_pos h]
    exact ⟨fun hthrow => (nomatch hthrow), fun hnot => absurd h hnot.1⟩
  · rw [if_neg h]
    exact ⟨fun hf => ⟨h, hf⟩, And.right⟩

/-- A refusal on a condition at the end. -/
theorem ite_throw_eq_ok {p : Prop} [Decidable p] {e : ε} {a : α} :
    (if p then throw e else pure a : Except ε α) = .ok a ↔ ¬ p := by
  by_cases h : p
  · rw [if_pos h]
    exact ⟨fun hthrow => (nomatch hthrow), fun hnot => absurd h hnot⟩
  · rw [if_neg h]
    exact ⟨fun _ => h, fun _ => rfl⟩

theorem map_eq_ok {x : Except ε α} {f : α → β} {b : β} :
    x.map f = .ok b ↔ ∃ a, x = .ok a ∧ f a = b := by
  cases x with
  | error e => simp [Except.map]
  | ok a => simp [Except.map]

theorem map_eq_error {x : Except ε α} {f : α → β} {e : ε} : x.map f = .error e ↔ x = .error e := by
  cases x with
  | error e' => simp [Except.map]
  | ok a => simp [Except.map]

theorem forM_eq_ok {xs : List α} {check : α → Except ε Unit} :
    xs.forM check = .ok () ↔ ∀ x ∈ xs, check x = .ok () := by
  induction xs with
  | nil => exact ⟨fun _ x hx => absurd hx List.not_mem_nil, fun _ => rfl⟩
  | cons x xs ih =>
    rw [List.forM, bind_eq_ok, List.forall_mem_cons, ← ih]
    exact ⟨fun ⟨_, hx, hxs⟩ => ⟨hx, hxs⟩, fun ⟨hx, hxs⟩ => ⟨(), hx, hxs⟩⟩

end VectorTrial
