import VectorTrial.Program.Builder
import VectorTrial.Proofs.Outcome

/-!
# Built functions

What a builder does with a request, in one equation: it refuses a name that is taken, it refuses a
body that cannot be emitted or does not pass verification, and otherwise it adds the function at
the end of its module.

## Main results

* `VectorTrial.Program.Builder.build_eq` — the outcome of a request and the builder after it.
* `VectorTrial.Program.Definition.emit_eq_ok` — what a function is that was emitted and verified.
-/

namespace VectorTrial.Program

theorem Definition.emit_eq_ok {d : Definition} {m : Module} {scope : Scope} {f : Function} :
    d.emit m scope = .ok f ↔ ∃ out, d.body.emit m scope 0 = .ok out ∧ f = d.assemble out ∧
      f.verify m = .ok () := by
  unfold Definition.emit
  rw [bind_eq_ok]
  constructor
  · rintro ⟨out, hout, h⟩
    obtain ⟨_, hverify, h⟩ := bind_eq_ok.1 h
    cases h
    exact ⟨out, hout, rfl, hverify⟩
  · rintro ⟨out, hout, rfl, hverify⟩
    exact ⟨out, hout, bind_eq_ok.2 ⟨(), hverify, rfl⟩⟩

/-- A function that was emitted has the name of its request. -/
theorem Definition.name_of_emit {d : Definition} {m : Module} {scope : Scope} {f : Function}
    (h : d.emit m scope = .ok f) : f.name = d.name := by
  obtain ⟨out, -, rfl, -⟩ := Definition.emit_eq_ok.1 h
  rfl

/-- The module with one more function at the end. -/
def Module.append (m : Module) (f : Function) : Module :=
  { m with functions := m.functions ++ [f] }

theorem Module.insert_of_free {m : Module} {f : Function} (h : m.contains f.name = false) :
    m.insert f = .ok (m.append f) := by
  simp [Module.insert, h, Module.append]

namespace Builder

/-- The builder after a function was added to its module. -/
def added (b : Builder) (f : Function) : Builder :=
  { b.finish with module := b.module.append f }

/-- **Requests.** What a builder does with a request. -/
theorem build_eq (b : Builder) (d : Definition) :
    b.build d =
      if b.module.contains d.name then (.error (.duplicateFunction d.name), b)
      else
        match d.emit b.module (Scope.ofParams d.prototype.namedParams) with
        | .error e => (.error e, b.finish)
        | .ok f => (.ok f, b.added f) := by
  unfold build
  split
  · rfl
  · next hfree =>
    change (match d.emit b.module (Scope.ofParams d.prototype.namedParams) with
      | .error e => _
      | .ok f => _) = _
    cases hemit : d.emit b.module (Scope.ofParams d.prototype.namedParams) with
    | error e => rfl
    | ok f =>
      have hname : f.name = d.name := Definition.name_of_emit hemit
      have hinsert : (b.begin d).finish.module.insert f = .ok (b.module.append f) :=
        Module.insert_of_free (by rw [hname]; exact eq_false_of_ne_true hfree)
      simp only [hinsert]
      rfl

/-- **Built functions.** A function is built when its name is free and its body can be emitted and
passes verification. -/
theorem build_eq_ok {b : Builder} {d : Definition} {f : Function}
    (h : (b.build d).1 = .ok f) :
    b.module.contains d.name = false ∧
      (∃ out, d.body.emit b.module (Scope.ofParams d.prototype.namedParams) 0 = .ok out ∧
        f = d.assemble out) ∧
      f.verify b.module = .ok () ∧ (b.build d).2 = b.added f := by
  rw [build_eq] at h ⊢
  split at h
  · cases h
  · next hfree =>
    rw [if_neg hfree]
    cases hemit : d.emit b.module (Scope.ofParams d.prototype.namedParams) with
    | error e => simp [hemit] at h
    | ok g =>
      rw [hemit] at h
      cases h
      obtain ⟨out, hout, hf, hverify⟩ := Definition.emit_eq_ok.1 hemit
      exact ⟨eq_false_of_ne_true hfree, ⟨out, hout, hf⟩, hverify, rfl⟩

end Builder

end VectorTrial.Program
