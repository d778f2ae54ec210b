import Mathlib
import VectorTrial.Proofs.Outcome
import VectorTrial.Proofs.Sequence.Partners
import VectorTrial.Proofs.Trial.Comparisons
import VectorTrial.Proofs.Trial.Counting

/-!
# The accounts of a run

A run counts its comparisons in three places: in the report of each instruction, in the summary,
and, where the checker keeps a tally, in the checker. All three agree with the comparisons that
the run tells of.

## Main definitions

* `VectorTrial.Run.Reports` — what the report of an instruction says of its turn.
* `VectorTrial.Run.Accounts` — what the summary of a run says of the run.

## Main results

* `VectorTrial.Settings.indices_instructions` — the selected instructions in order.
* `VectorTrial.Run.Turn.compares` — the comparisons of an instruction are about its answers.
* `VectorTrial.Run.reports_of_outcome` — every report is right about its turn.
* `VectorTrial.Run.accounts_of_outcome` — every summary is right about its run.
-/

namespace VectorTrial

/-! ### The selected instructions -/

/-- The part of a range from one bound to another. -/
theorem filter_range {start stop size : Nat} (hstart : start ≤ stop) (hstop : stop ≤ size) :
    (List.range size).filter (fun k => decide (start ≤ k) && decide (k < stop)) =
      List.range' start (stop - start) := by
  have hsplit : List.range size = List.range' 0 start ++ List.range' start (stop - start) ++
      List.range' stop (size - stop) := by
    have hlow := List.range'_append_1 (s := 0) (m := start) (n := stop - start)
    have hhigh := List.range'_append_1 (s := 0) (m := stop) (n := size - stop)
    rw [Nat.zero_add] at hlow hhigh
    rw [hlow, Nat.add_sub_cancel' hstart, hhigh, Nat.add_sub_cancel' hstop, List.range_eq_range']
  have hbefore : (List.range' 0 start).filter
      (fun k => decide (start ≤ k) && decide (k < stop)) = [] := by
    refine List.filter_eq_nil_iff.2 fun k hk => ?_
    have hk := (List.mem_range'_1.1 hk).2
    simp only [Bool.and_eq_true, decide_eq_true_eq]
    omega
  have hinside : (List.range' start (stop - start)).filter
      (fun k => decide (start ≤ k) && decide (k < stop)) = List.range' start (stop - start) := by
    refine List.filter_eq_self.2 fun k hk => ?_
    have hk := List.mem_range'_1.1 hk
    simp only [Bool.and_eq_true, decide_eq_true_eq]
    omega
  have hafter : (List.range' stop (size - stop)).filter
      (fun k => decide (start ≤ k) && decide (k < stop)) = [] := by
    refine List.filter_eq_nil_iff.2 fun k hk => ?_
    have hk := (List.mem_range'_1.1 hk).1
    simp only [Bool.and_eq_true, decide_eq_true_eq]
    omega
  rw [hsplit, List.filter_append, List.filter_append, hbefore, hinside, hafter, List.nil_append,
    List.append_nil]

namespace Settings

variable {s : Settings}

/-- **Selection.** Settings whose range passes the check select the instructions from its lower
bound up to the upper one, each once and in catalog order. -/
theorem indices_of_check (h : s.range.check = .ok ()) :
    s.instructions.map (fun i => i.index.val) =
      List.range' s.range.start (s.range.stop - s.range.start) := by
  obtain ⟨hstart, hstop⟩ := IndexRange.check_eq_ok_iff.1 h
  have hall : Intrinsic.all.map (fun i => i.index.val) = List.range Catalog.size := by
    rw [Intrinsic.all, List.map_map]
    exact List.map_coe_finRange_eq_range
  rw [instructions, ← filter_range hstart hstop, ← hall, List.filter_map]
  rfl

/-- Valid settings select the instructions of their range. -/
theorem indices_instructions (h : s.validate = .ok ()) :
    s.instructions.map (fun i => i.index.val) =
      List.range' s.range.start (s.range.stop - s.range.start) :=
  indices_of_check (check_bind_eq_ok.1 h).1

theorem length_instructions (h : s.validate = .ok ()) :
    s.instructions.length = s.range.stop - s.range.start := by
  rw [← List.length_map (fun i : Intrinsic => i.index.val), indices_instructions h,
    List.length_range']

end Settings

namespace Run

variable {σ ε κ : Type} [DrawSource σ] {setup : Setup ε κ} {st : State σ ε κ} {t : Turn σ ε κ}
  {report : InstructionReport} {results : Option ResultMap}

/-! ### The comparisons of an instruction -/

/-- The comparisons in some tests of an instruction are about the answers of those that ended with
one. -/
theorem compares_flatMap_test {i : Intrinsic} {ts : List (Turn σ ε κ)}
    (h : ∀ s ∈ ts, s.instruction = i) : List.Forall₂ (Compares i)
      (comparisons (ts.flatMap fun s => (s.test setup).events)) (values (Turn.test setup) ts) := by
  induction ts with
  | nil => exact .nil
  | cons s ts ih =>
    obtain ⟨hs, hts⟩ := List.forall_mem_cons.1 h
    have hone : List.Forall₂ (Compares i) (comparisons (s.test setup).events)
        (s.test setup).value?.toList :=
      hs ▸ (tested_iteration setup s.instruction s.before).compares
    have hvalues : values (Turn.test setup) (s :: ts) =
        (s.test setup).value?.toList ++ values (Turn.test setup) ts := by
      cases hout : (s.test setup).outcome with
      | ok answer =>
        rw [values_cons_of_ok hout, Step.value?_of_ok hout]
        rfl
      | error e =>
        rw [values_cons_of_error hout, Step.value?_of_error hout]
        rfl
    rw [List.flatMap_cons, comparisons_append, hvalues]
    exact List.rel_append hone (ih hts)

/-- **Compared answers.** The comparisons in the turn of an instruction are about the answers of its
tests, one for each, in order. -/
theorem Turn.compares (setup : Setup ε κ) (t : Turn σ ε κ) : List.Forall₂ (Compares t.instruction)
    (comparisons (t.step setup).events) (t.answers setup) := by
  rw [Turn.events_step]
  exact compares_flatMap_test fun s hs => Turn.instruction_of_mem_tests hs

theorem Turn.verdicts_step :
    verdicts (t.step setup).events = (t.answers setup).map Prod.fst :=
  (map_eq_map_of_forall₂ (fun _ _ h => h.1.symm) (t.compares setup)).symm

/-! ### Reports -/

/-- **Reports.** What the report of an instruction says of its turn: how many tests ended with a
verdict and with which; that these are all tests asked for where the instruction was completed, and
fewer where it was aborted; and how many of their results were none of the different ones. The
answers of the tests are those that were compared. -/
structure Reports (setup : Setup ε κ) (t : Turn σ ε κ) (report : InstructionReport) : Prop where
  instruction : report.instruction = t.instruction
  compared : List.Forall₂ (Compares t.instruction) (comparisons (t.step setup).events)
    (t.answers setup)
  tests : report.tests = (t.answers setup).length
  total : report.tally.total = report.tests
  count (v : Verdict) : report.tally.count v = ((t.answers setup).map Prod.fst).count v
  bounded : report.tests ≤ setup.settings.repetitions
  completed (h : report.outcome = .completed) : report.tests = setup.settings.repetitions
  aborted (reason : String) (h : report.outcome = .aborted reason) :
    report.tests < setup.settings.repetitions
  repeated (hdebug : setup.settings.debug = true) (hsupported : t.supported setup = true) :
    ∃ n, report.repeated = some n ∧
      n + ((t.answers setup).map Prod.snd).dedup.length = report.tests

/-- No failure lets the test of an instruction pass for completed. -/
theorem endedBy_ne_completed (e : Failure) : endedBy e ≠ .completed := by
  unfold endedBy
  split <;> exact Outcome.noConfusion

/-- A report that has recorded some answers, with an ending of its own and the number of repeated
results, where these were counted. -/
theorem conclude_recordVerdicts (i : Intrinsic) (answers : List (Verdict × Register))
    (ended : Outcome) (results : Option ResultMap) :
    (conclude ({ recordVerdicts (.start i) (answers.map Prod.fst) with outcome := ended },
      results.map fun m => (answers.map Prod.snd).foldl ResultMap.record m)).1 =
      ⟨i, answers.length, (answers.map Prod.fst).foldl Tally.record .zero, ended,
        results.map fun m => ((answers.map Prod.snd).foldl ResultMap.record m).repetitions⟩ := by
  simp only [conclude, recordVerdicts_eq, InstructionReport.start, List.length_map, Nat.zero_add,
    Option.map_map]
  rfl

/-- All tests of an instruction ended with a verdict where none failed. -/
theorem Turn.length_answers_of_failure_eq_none (hsupported : t.supported setup = true)
    (h : t.failure setup = none) : (t.answers setup).length = setup.settings.repetitions := by
  have htests := Turn.tests_of_supported hsupported
  rw [Turn.failure, htests] at h
  rw [Turn.answers, htests, testTurns, (turnsOf_of_firstFailure_eq_none h).2,
    List.length_replicate]

/-- A test that failed keeps an instruction from all the verdicts asked for. -/
theorem Turn.length_answers_lt (hsupported : t.supported setup = true) {e : Failure}
    (h : t.failure setup = some e) : (t.answers setup).length < setup.settings.repetitions := by
  have htests := Turn.tests_of_supported hsupported
  rw [Turn.failure, htests] at h
  obtain ⟨-, -, -, -, -, -, hlt⟩ := turnsOf_of_firstFailure_eq_some h
  rwa [List.length_replicate, ← testTurns, ← htests] at hlt

/-- The report of an instruction that is supported. -/
theorem report_of_supported (hsupported : t.supported setup = true)
    (h : (t.step setup).outcome = .ok (report, results)) :
    ∃ ended, report = ⟨t.instruction, (t.answers setup).length,
        ((t.answers setup).map Prod.fst).foldl Tally.record .zero, ended,
        (noResults setup.settings).map fun m =>
          (((t.answers setup).map Prod.snd).foldl ResultMap.record m).repetitions⟩ ∧
      (ended = .completed ∧ (t.answers setup).length = setup.settings.repetitions ∨
        ended ≠ .completed ∧ (t.answers setup).length < setup.settings.repetitions) := by
  rw [Turn.outcome_step hsupported] at h
  obtain ⟨recorded, hrecorded, hreport⟩ := map_eq_ok.1 h
  have hfirst : report = (conclude (recorded, _)).1 := (congrArg Prod.fst hreport).symm
  rw [hfirst]
  rcases endWith_eq_ok hrecorded with ⟨hfailure, rfl⟩ | ⟨e, hfailure, rfl⟩
  · refine ⟨.completed, ?_,
      Or.inl ⟨rfl, Turn.length_answers_of_failure_eq_none hsupported hfailure⟩⟩
    rw [← conclude_recordVerdicts, recordVerdicts_eq]
    rfl
  · exact ⟨endedBy e, conclude_recordVerdicts _ _ _ _,
      Or.inr ⟨endedBy_ne_completed e, Turn.length_answers_lt hsupported hfailure⟩⟩

/-- The report of an instruction that is not supported. -/
theorem report_of_unsupported (hsupported : ¬ t.supported setup = true)
    (h : (t.step setup).outcome = .ok (report, results)) :
    report = { InstructionReport.start t.instruction with
      outcome := .skipped (lacks t.instruction.featureNames) } := by
  rw [Turn.step_of_unsupported hsupported] at h
  cases h
  rfl

/-- **Reports.** Every report is right about its turn. -/
theorem reports_of_outcome (h : (t.step setup).outcome = .ok (report, results)) :
    Reports setup t report := by
  by_cases hsupported : t.supported setup = true
  · obtain ⟨ended, rfl, hended⟩ := report_of_supported hsupported h
    refine ⟨rfl, t.compares setup, rfl, ?_, fun v => ?_, ?_, fun hcompleted => ?_,
      fun reason haborted => ?_, ?_⟩
    · rw [Tally.total_foldl_record, List.length_map]
      exact Nat.zero_add _
    · rw [Tally.count_foldl_record, Tally.count_zero, Nat.zero_add]
    · rcases hended with ⟨-, hcount⟩ | ⟨-, hcount⟩
      · exact Nat.le_of_eq hcount
      · exact Nat.le_of_lt hcount
    · rcases hended with ⟨-, hcount⟩ | ⟨hne, -⟩
      · exact hcount
      · exact absurd hcompleted hne
    · rcases hended with ⟨rfl, -⟩ | ⟨-, hcount⟩
      · cases haborted
      · exact hcount
    · intro hdebug _
      refine ⟨(((t.answers setup).map Prod.snd).foldl ResultMap.record .empty).repetitions, ?_, ?_⟩
      · simp only [noResults, if_pos hdebug, Option.map_some]
      · rw [ResultMap.repetitions_foldl_record, List.length_map]
  · have hanswers : t.answers setup = [] := by
      rw [Turn.answers, Turn.tests_of_unsupported hsupported]
      rfl
    rw [report_of_unsupported hsupported h]
    refine ⟨rfl, t.compares setup, ?_, rfl, fun v => ?_, Nat.zero_le _, ?_, ?_, ?_⟩
    · rw [hanswers]
      rfl
    · rw [hanswers]
      exact Tally.count_zero v
    · exact fun hcompleted => Outcome.noConfusion hcompleted
    · exact fun reason haborted => Outcome.noConfusion haborted
    · exact fun _ h => absurd h hsupported

/-! ### The comparisons of a run -/

/-- The verdicts of a run are those of its instructions. -/
theorem verdicts_all : verdicts (all setup st).events =
    (turns setup st).flatMap fun t => (t.answers setup).map Prod.fst := by
  rw [verdicts, comparisons_all, List.map_flatMap]
  exact List.flatMap_congr fun t _ => Turn.verdicts_step

/-- What a checker keeps of each verdict by a rule comes from the verdicts of the run. -/
theorem checker_all_of_verdicts {β : Type} (view : κ → β) (next : β → Verdict → β)
    (hview : ∀ k m s t, view (setup.checker.compare k m s t).2 =
      next (view k) (setup.checker.compare k m s t).1) :
    view (all setup st).state.checker =
      (verdicts (all setup st).events).foldl next (view st.checker) := by
  rw [checker_all view (fun b _ _ _ v => next b v) hview, verdicts, List.foldl_map]
  rfl

/-! ### Summaries -/

/-- **Accounts.** What the summary of a run says of the run. -/
structure Accounts (setup : Setup ε κ) (st : State σ ε κ) (summary : Summary) : Prop where
  /-- The reports are those of the selected instructions, in order. -/
  order : summary.reports.map (fun r => r.instruction.index.val) =
    List.range' setup.settings.range.start
      (setup.settings.range.stop - setup.settings.range.start)
  /-- Each report is right about the turn of its instruction. -/
  reports : List.Forall₂ (Reports setup) (turns setup st) summary.reports
  compared : summary.tests = (comparisons (all setup st).events).length
  total : summary.tests = summary.tally.total
  sum : summary.tests = (summary.reports.map InstructionReport.tests).sum
  count (v : Verdict) : summary.tally.count v = (verdicts (all setup st).events).count v
  ended : summary.completed + summary.skipped + summary.aborted =
    setup.settings.range.stop - setup.settings.range.start
  bounded : summary.tests ≤ setup.settings.repetitions *
    (setup.settings.range.stop - setup.settings.range.start)
  /-- A checker that counts its comparisons has counted these. -/
  asked (calls : κ → Nat)
    (h : ∀ k m s t, calls (setup.checker.compare k m s t).2 = calls k + 1) :
    calls (all setup st).state.checker = calls st.checker + summary.tests
  /-- A checker that records its verdicts has recorded these. -/
  recorded (h : ∀ k m s t, setup.checker.tally (setup.checker.compare k m s t).2 =
      (setup.checker.tally k).record (setup.checker.compare k m s t).1) :
    (setup.checker.tally (all setup st).state.checker).since (setup.checker.tally st.checker) =
      summary.tally
  correct : summary.allCorrect = true ↔
    (∀ v ∈ verdicts (all setup st).events, v = .correct) ∧
      ∀ r ∈ summary.reports, ∀ reason, r.outcome ≠ .aborted reason

/-- All comparisons of a run were correct when as many were counted as correct as were made. -/
theorem count_correct_eq_length_iff {vs : List Verdict} :
    vs.count .correct = vs.length ↔ ∀ v ∈ vs, v = .correct :=
  List.count_eq_length.trans ⟨fun h v hv => (h v hv).symm, fun h v hv => (h v hv).symm⟩

/-! #### The sums over the reports -/

section Sums

variable {reports : List InstructionReport}
  (hreports : List.Forall₂ (Reports setup) (turns setup st) reports)

include hreports

theorem map_tests_of_reports : reports.map InstructionReport.tests =
    (turns setup st).map fun t => (t.answers setup).length :=
  map_eq_map_of_forall₂ (fun _ _ hr => hr.tests) hreports

theorem tests_of_reports : (reports.foldl Summary.add .empty).tests =
    (verdicts (all setup st).events).length := by
  rw [Summary.tests_foldl_add, map_tests_of_reports hreports, verdicts_all, List.length_flatMap]
  simp only [List.length_map]

theorem total_of_reports : (reports.foldl Summary.add .empty).tally.total =
    (verdicts (all setup st).events).length := by
  have htotals : reports.map (fun r => r.tally.total) =
      (turns setup st).map fun t => (t.answers setup).length :=
    map_eq_map_of_forall₂ (fun _ _ hr => hr.total.trans hr.tests) hreports
  have hsum := Summary.sum_foldl_add_empty (fun s => s.tally.total) rfl
    Summary.total_tally_add reports
  rw [hsum, htotals, verdicts_all, List.length_flatMap]
  simp only [List.length_map]

theorem count_of_reports (v : Verdict) : (reports.foldl Summary.add .empty).tally.count v =
    (verdicts (all setup st).events).count v := by
  have hcounts : reports.map (fun r => r.tally.count v) =
      (turns setup st).map fun t => ((t.answers setup).map Prod.fst).count v :=
    map_eq_map_of_forall₂ (fun _ _ hr => hr.count v) hreports
  have hsum := Summary.sum_foldl_add_empty (fun s => s.tally.count v) (Tally.count_zero v)
    (fun s r => Summary.count_tally_add s r v) reports
  rw [hsum, hcounts, verdicts_all, List.count_flatMap]
  rfl

theorem sum_tests_le_of_reports : (reports.map InstructionReport.tests).sum ≤
    setup.settings.repetitions * reports.length := by
  have hbound : ∀ n ∈ reports.map InstructionReport.tests, n ≤ setup.settings.repetitions :=
    List.forall_mem_map.2 fun report hreport => by
      obtain ⟨t, -, hr⟩ := exists_left_of_forall₂ hreports report hreport
      exact hr.bounded
  have hle := List.sum_le_card_nsmul _ _ hbound
  rwa [List.length_map, smul_eq_mul, Nat.mul_comm] at hle

end Sums

theorem ended_of_reports (reports : List InstructionReport) :
    (reports.foldl Summary.add .empty).ended = reports.length := by
  have hsum := Summary.sum_foldl_add_empty Summary.ended rfl Summary.ended_add reports
  rwa [List.map_const', List.sum_replicate, smul_eq_mul, Nat.mul_one] at hsum

theorem aborted_of_reports (reports : List InstructionReport) :
    (reports.foldl Summary.add .empty).aborted = 0 ↔
      ∀ r ∈ reports, ∀ reason, r.outcome ≠ .aborted reason := by
  have hsum := Summary.sum_foldl_add_empty Summary.aborted rfl Summary.aborted_add reports
  rw [hsum, List.sum_eq_zero_iff, List.forall_mem_map]
  exact forall₂_congr fun r _ => Summary.toNat_isAborted_eq_zero

/-! #### The summary of a run -/

variable {summary : Summary}

/-- The summary of a run sums up one report for each turn, and every report is right. -/
theorem summary_of_outcome (h : (all setup st).outcome = .ok summary) :
    ∃ reports, summary = reports.foldl Summary.add .empty ∧
      List.Forall₂ (Reports setup) (turns setup st) reports ∧
      (turns setup st).map Turn.instruction = setup.settings.instructions := by
  obtain ⟨hfailure, rfl⟩ := outcome_all_eq_ok h
  refine ⟨_, rfl, ?_, (turnsOf_of_firstFailure_eq_none hfailure).1⟩
  rw [List.forall₂_map_right_iff]
  exact (forall₂_values hfailure).imp fun t value hvalue => reports_of_outcome hvalue

/-- A checker that counts its comparisons counts one for each verdict of a run. -/
theorem calls_all {calls : κ → Nat}
    (h : ∀ k m s t, calls (setup.checker.compare k m s t).2 = calls k + 1) :
    calls (all setup st).state.checker =
      calls st.checker + (verdicts (all setup st).events).length := by
  have hfold : ∀ (n : Nat) (vs : List Verdict), vs.foldl (fun n _ => n + 1) n = n + vs.length := by
    intro n vs
    induction vs generalizing n with
    | nil => rfl
    | cons v vs ih =>
      rw [List.foldl_cons, ih, List.length_cons]
      omega
  rw [checker_all_of_verdicts calls (fun n _ => n + 1) h, hfold]

/-- **Accounts.** Every summary is right about its run. -/
theorem accounts_of_outcome (hvalid : setup.settings.validate = .ok ())
    (h : (all setup st).outcome = .ok summary) : Accounts setup st summary := by
  obtain ⟨reports, rfl, hreports, hinstructions⟩ := summary_of_outcome h
  have hlist : (reports.foldl Summary.add .empty).reports = reports :=
    Summary.reports_foldl_add .empty reports
  have horder : reports.map (fun r => r.instruction) = setup.settings.instructions :=
    (map_eq_map_of_forall₂ (fun _ _ hr => hr.instruction) hreports).trans hinstructions
  have hlength : reports.length =
      setup.settings.range.stop - setup.settings.range.start := by
    rw [← Settings.length_instructions hvalid, ← horder, List.length_map]
  have htests := tests_of_reports hreports
  have htotal := total_of_reports hreports
  have hcount := count_of_reports hreports
  have hsum := Summary.tests_foldl_add reports
  refine ⟨?_, ?_, ?_, htests.trans htotal.symm, ?_, hcount, ?_, ?_, ?_, ?_, ?_⟩
  · rw [hlist, ← Settings.indices_instructions hvalid, ← horder, List.map_map]
    rfl
  · rw [hlist]
    exact hreports
  · rw [htests, verdicts, List.length_map]
  · rw [hlist, hsum]
  · rw [← hlength]
    exact ended_of_reports reports
  · rw [hsum, ← hlength]
    exact sum_tests_le_of_reports hreports
  · intro calls hcalls
    rw [calls_all hcalls, htests]
  · intro hrecord
    refine Tally.ext_count fun v => ?_
    rw [Tally.count_since, hcount,
      checker_all_of_verdicts setup.checker.tally Tally.record hrecord, Tally.count_foldl_record,
      Nat.add_sub_cancel_left]
  · have hcorrect : (reports.foldl Summary.add .empty).tally.correct =
        (verdicts (all setup st).events).count .correct := hcount .correct
    rw [Summary.allCorrect, Bool.and_eq_true, beq_iff_eq, beq_iff_eq, hcorrect, htotal,
      count_correct_eq_length_iff, aborted_of_reports, hlist]

theorem accounts_of_outcome_shortRun :
    ∃ summary, ShortRun.setup.settings.validate = .ok () ∧
      (all ShortRun.setup ShortRun.start).outcome = .ok summary ∧
      Accounts ShortRun.setup ShortRun.start summary := by
  have hvalid : ShortRun.setup.settings.validate = .ok () := rfl
  have hsome : (all ShortRun.setup ShortRun.start).value?.isSome = true := by
    decide +kernel
  cases hout : (all ShortRun.setup ShortRun.start).outcome with
  | ok summary => exact ⟨summary, hvalid, rfl, accounts_of_outcome hvalid hout⟩
  | error e =>
    rw [Step.value?, hout] at hsome
    cases hsome

end Run

end VectorTrial
