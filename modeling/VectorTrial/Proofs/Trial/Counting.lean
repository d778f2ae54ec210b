import Mathlib
import VectorTrial.Proofs.Trial.History

/-!
# Counting verdicts, reports and results

What the counters of a run hold after they were brought up to date one item at a time: a tally the
number of each verdict, a summary the sums over its reports, a result map the number of results
less the number of different ones.

## Main results

* `VectorTrial.Tally.count_foldl_record` — a tally counts each verdict.
* `VectorTrial.Summary.sum_foldl_add` — a summary sums up its reports.
* `VectorTrial.ResultMap.repetitions_foldl_record` — repetitions and different results together
  make up all results.
-/

namespace VectorTrial

/-! ### Tallies -/

namespace Tally

/-- Two tallies that count every verdict alike are the same. -/
theorem ext_count {s t : Tally} (h : ∀ v, s.count v = t.count v) : s = t := by
  have hcorrect := h .correct
  have hunsound := h .unsound
  have hfailed := h .failed
  have herrors := h .errored
  cases s
  cases t
  simp only [count] at hcorrect hunsound hfailed herrors
  rw [hcorrect, hunsound, hfailed, herrors]

/-- **Tallies.** A tally counts each verdict as often as it was recorded. -/
theorem count_foldl_record (t : Tally) (vs : List Verdict) (v : Verdict) :
    (vs.foldl record t).count v = t.count v + vs.count v := by
  induction vs generalizing t with
  | nil => rfl
  | cons w vs ih =>
    have hcons : (w :: vs).count v = vs.count v + if w = v then 1 else 0 := by
      simp only [List.count_cons, beq_iff_eq]
    rw [List.foldl_cons, ih, count_record, hcons]
    omega

theorem total_foldl_record (t : Tally) (vs : List Verdict) :
    (vs.foldl record t).total = t.total + vs.length := by
  induction vs generalizing t with
  | nil => rfl
  | cons w vs ih =>
    rw [List.foldl_cons, ih, total_record, List.length_cons]
    omega

theorem count_since (t earlier : Tally) (v : Verdict) :
    (t.since earlier).count v = t.count v - earlier.count v := by
  cases v <;> rfl

theorem count_zero (v : Verdict) : zero.count v = 0 := by
  cases v <;> rfl

end Tally

/-! ### Reports -/

namespace Run

/-- A report takes over the verdicts that are recorded and keeps everything else. -/
theorem recordVerdicts_eq (report : InstructionReport) (vs : List Verdict) :
    recordVerdicts report vs =
      { report with
        tests := report.tests + vs.length
        tally := vs.foldl Tally.record report.tally } := by
  induction vs generalizing report with
  | nil => rfl
  | cons v vs ih =>
    have htests : report.tests + 1 + vs.length = report.tests + (v :: vs).length := by
      rw [List.length_cons]
      omega
    rw [recordVerdicts, List.foldl_cons, ← recordVerdicts, ih, List.foldl_cons, ← htests]
    rfl

end Run

/-! ### Summaries -/

namespace Summary

theorem count_tally_add (s : Summary) (r : InstructionReport) (v : Verdict) :
    (s.add r).tally.count v = s.tally.count v + r.tally.count v := by
  cases v <;> rfl

/-- The number of instructions that a summary has counted by how their tests ended. -/
def ended (s : Summary) : Nat := s.completed + s.skipped + s.aborted

theorem ended_add (s : Summary) (r : InstructionReport) : (s.add r).ended = s.ended + 1 := by
  cases h : r.outcome <;> simp only [ended, add, countOutcome, h] <;> omega

theorem reports_foldl_add (s : Summary) (rs : List InstructionReport) :
    (rs.foldl add s).reports = s.reports ++ rs := by
  induction rs generalizing s with
  | nil => exact (List.append_nil _).symm
  | cons r rs ih => rw [List.foldl_cons, ih, reports_add, List.append_assoc, List.singleton_append]

/-- A number that each report adds to is, after some reports, the sum of what they add. -/
theorem sum_foldl_add (number : Summary → Nat) (part : InstructionReport → Nat)
    (h : ∀ s r, number (s.add r) = number s + part r) (s : Summary) (rs : List InstructionReport) :
    number (rs.foldl add s) = number s + (rs.map part).sum := by
  induction rs generalizing s with
  | nil => rfl
  | cons r rs ih => rw [List.foldl_cons, ih, h, List.map_cons, List.sum_cons, Nat.add_assoc]

/-- The same for the summary of some reports alone. -/
theorem sum_foldl_add_empty (number : Summary → Nat) {part : InstructionReport → Nat}
    (hempty : number empty = 0) (h : ∀ s r, number (s.add r) = number s + part r)
    (rs : List InstructionReport) : number (rs.foldl add empty) = (rs.map part).sum := by
  rw [sum_foldl_add number part h, hempty, Nat.zero_add]

theorem tests_foldl_add (rs : List InstructionReport) :
    (rs.foldl add empty).tests = (rs.map InstructionReport.tests).sum :=
  sum_foldl_add_empty Summary.tests rfl tests_add rs

/-- Whether a report is of an instruction whose test was aborted. -/
def isAborted (r : InstructionReport) : Bool :=
  match r.outcome with
  | .aborted _ => true
  | _ => false

theorem toNat_isAborted_eq_zero {r : InstructionReport} :
    (isAborted r).toNat = 0 ↔ ∀ reason, r.outcome ≠ .aborted reason := by
  cases h : r.outcome <;> simp [isAborted, h]

theorem aborted_add (s : Summary) (r : InstructionReport) :
    (s.add r).aborted = s.aborted + (isAborted r).toNat := by
  cases h : r.outcome <;> simp only [add, countOutcome, isAborted, h] <;> rfl

end Summary

/-! ### Repeated results -/

namespace ResultMap

theorem values_sight (value : Register) (entries : List (Register × Nat)) :
    (sight value entries).map Prod.fst =
      if value ∈ entries.map Prod.fst then entries.map Prod.fst
      else entries.map Prod.fst ++ [value] := by
  induction entries with
  | nil => rfl
  | cons e rest ih =>
    obtain ⟨v, n⟩ := e
    by_cases h : v = value
    · have hmem : value ∈ ((v, n) :: rest).map Prod.fst := h ▸ List.mem_cons_self
      rw [sight, if_pos h, if_pos hmem]
      rfl
    · have hmem : value ∈ ((v, n) :: rest).map Prod.fst ↔ value ∈ rest.map Prod.fst := by
        rw [List.map_cons, List.mem_cons, or_iff_right (Ne.symm h)]
      rw [sight, if_neg h, List.map_cons, ih]
      simp only [hmem]
      split_ifs <;> rfl

/-- To record a value adds it to the values of a map. -/
theorem mem_values_record {m : ResultMap} {value v : Register} :
    v ∈ (m.record value).entries.map Prod.fst ↔ v ∈ m.entries.map Prod.fst ∨ v = value := by
  have hvalues : (m.record value).entries.map Prod.fst = _ := values_sight value m.entries
  rw [hvalues]
  split_ifs with hmem
  · constructor
    · exact Or.inl
    · rintro (h | rfl)
      · exact h
      · exact hmem
  · rw [List.mem_append, List.mem_singleton]

/-- A value that is recorded twice is kept once. -/
theorem nodup_values_record {m : ResultMap} (value : Register)
    (h : (m.entries.map Prod.fst).Nodup) : ((m.record value).entries.map Prod.fst).Nodup := by
  have hvalues : (m.record value).entries.map Prod.fst = _ := values_sight value m.entries
  rw [hvalues]
  split_ifs with hmem
  · exact h
  · refine List.nodup_append.2 ⟨h, List.nodup_singleton _, fun a ha b hb hab => ?_⟩
    rw [hab, List.mem_singleton.1 hb] at ha
    exact hmem ha

theorem mem_values_foldl_record {m : ResultMap} {values : List Register} {v : Register} :
    v ∈ (values.foldl record m).entries.map Prod.fst ↔
      v ∈ m.entries.map Prod.fst ∨ v ∈ values := by
  induction values generalizing m with
  | nil => exact (or_iff_left List.not_mem_nil).symm
  | cons value values ih => rw [List.foldl_cons, ih, mem_values_record, List.mem_cons, or_assoc]

theorem nodup_values_foldl_record {m : ResultMap} (values : List Register)
    (h : (m.entries.map Prod.fst).Nodup) :
    ((values.foldl record m).entries.map Prod.fst).Nodup := by
  induction values generalizing m with
  | nil => exact h
  | cons value values ih => exact ih (nodup_values_record value h)

/-- The values of a map are as many as there are different results. -/
theorem distinct_foldl_record (values : List Register) :
    (values.foldl record empty).distinct = values.dedup.length := by
  have hnodup : ((values.foldl record empty).entries.map Prod.fst).Nodup :=
    nodup_values_foldl_record values List.nodup_nil
  have hperm : ((values.foldl record empty).entries.map Prod.fst).Perm values.dedup := by
    refine (List.perm_ext_iff_of_nodup hnodup (List.nodup_dedup values)).2 fun v => ?_
    rw [mem_values_foldl_record, List.mem_dedup]
    exact or_iff_right List.not_mem_nil
  rw [distinct, ← List.length_map Prod.fst, hperm.length_eq]

theorem distinct_add_repetitions_foldl (values : List Register) (m : ResultMap) :
    (values.foldl record m).distinct + (values.foldl record m).repetitions =
      m.distinct + m.repetitions + values.length := by
  induction values generalizing m with
  | nil => rfl
  | cons value values ih =>
    rw [List.foldl_cons, ih, distinct_add_repetitions_record, List.length_cons]
    omega

/-- **Repeated results.** The repetitions and the different results together are all results. -/
theorem repetitions_foldl_record (values : List Register) :
    (values.foldl record empty).repetitions + values.dedup.length = values.length := by
  have hboth := distinct_add_repetitions_foldl values empty
  rw [distinct_foldl_record] at hboth
  have hempty : empty.distinct + empty.repetitions = 0 := rfl
  omega

end ResultMap

end VectorTrial
