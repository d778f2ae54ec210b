import VectorTrial.Proofs.Telemetry.Variables
import VectorTrial.Telemetry.Span

/-!
# Thresholds of measured spans

Whether a span reports is settled when it closes: by its own threshold and by the settings that were
made last, whatever was opened and closed since. A gate keeps the threshold of the settings in one
word, in which the greatest value stands for no threshold. Every other threshold means what it says.
The greatest one does so too where it is the threshold of a span, but from settings it is lost, and
then all spans without a threshold of their own report.

## Main definitions

* `VectorTrial.Telemetry.IsDue` — the spans that settings ask for.
* `VectorTrial.Telemetry.Monitor.Operation`, `VectorTrial.Telemetry.Monitor.after` — what is done
  with a monitor, and the monitor after it.
* `VectorTrial.Telemetry.Monitor.lastSettings?` — the settings that were made last.

## Main results

* `VectorTrial.Telemetry.Gate.threshold_configure` — which thresholds a gate keeps.
* `VectorTrial.Telemetry.Gate.shouldReport_iff_isDue` — when a gate lets the right spans report.
* `VectorTrial.Telemetry.Settings.threshold_ofEnvironment_eq_some_iff` — which thresholds
  environments ask for.
* `VectorTrial.Telemetry.Monitor.gate_after` — a monitor has the gate of the last settings.
* `VectorTrial.Telemetry.Monitor.shouldReport_after` — which spans report after any operations.
-/

namespace VectorTrial.Telemetry

variable {enabled : Bool} {threshold threshold' own : Option UInt64} {elapsed : UInt64}

/-! ### Due spans -/

/-- **Due spans.** Settings ask for a span if measurements are on and it took as long as its
threshold says, which is its own one or else that of the settings. Without either, it may take any
time. -/
def IsDue (enabled : Bool) (threshold own : Option UInt64) (elapsed : UInt64) : Prop :=
  enabled = true ∧
    (own = none ∧ threshold = none ∨ ∃ least, own.or threshold = some least ∧ least ≤ elapsed)

theorem isDue_iff :
    IsDue enabled threshold own elapsed ↔
      enabled = true ∧ ∀ least, own.or threshold = some least → least ≤ elapsed := by
  refine and_congr_right fun _ => ?_
  rw [← Option.or_eq_none_iff]
  cases own.or threshold with
  | none => simp
  | some least => simp

theorem isDue_congr (h : own.or threshold = own.or threshold') :
    IsDue enabled threshold own elapsed ↔ IsDue enabled threshold' own elapsed := by
  rw [isDue_iff, isDue_iff, h]

theorem isDue_none : IsDue enabled none none elapsed ↔ enabled = true := by
  simp [IsDue]

theorem isDue_some {least : UInt64} :
    IsDue enabled (some least) none elapsed ↔ enabled = true ∧ least ≤ elapsed := by
  simp [IsDue]

/-! ### Gates -/

namespace Gate

/-- A gate lets those spans report that are due under what it keeps. -/
theorem shouldReport_iff (g : Gate) :
    g.shouldReport own elapsed = true ↔ IsDue g.enabled g.threshold own elapsed := by
  rw [shouldReport, Bool.and_eq_true, isDue_iff]
  refine and_congr_right fun _ => ?_
  cases own.or g.threshold with
  | none => simp
  | some least => simp

/-- **Kept thresholds.** A gate keeps every threshold but the greatest word. -/
theorem threshold_configure (enabled : Bool) (threshold : Option UInt64) :
    (configure enabled threshold).threshold =
      if threshold = some noThreshold then none else threshold := by
  cases threshold with
  | none => rfl
  | some word =>
    simp only [Option.some.injEq]
    rfl

/-- Without the greatest word among the settings, the spans that are due report. -/
theorem shouldReport_configure_of_ne (h : own = none → threshold ≠ some noThreshold) :
    (configure enabled threshold).shouldReport own elapsed = true ↔
      IsDue enabled threshold own elapsed := by
  rw [shouldReport_iff]
  refine isDue_congr ?_
  cases own with
  | none => rw [threshold_configure, if_neg (h rfl)]
  | some least => rfl

/-- With the greatest word among the settings, all spans without a threshold of their own report. -/
theorem shouldReport_configure_noThreshold :
    (configure enabled (some noThreshold)).shouldReport none elapsed = true ↔ enabled = true := by
  rw [shouldReport_iff, threshold_configure, if_pos rfl]
  exact isDue_none

/-- **Right reports.** The spans that report are those that are due, except where measurements are
on, the span has no threshold of its own and that of the settings is the greatest word. -/
theorem shouldReport_iff_isDue :
    ((configure enabled threshold).shouldReport own elapsed = true ↔
        IsDue enabled threshold own elapsed) ↔
      ¬ (enabled = true ∧ own = none ∧ threshold = some noThreshold ∧ elapsed < noThreshold) := by
  by_cases h : own = none ∧ threshold = some noThreshold
  · obtain ⟨rfl, rfl⟩ := h
    rw [shouldReport_configure_noThreshold, isDue_some, ← UInt64.not_le]
    tauto
  · refine iff_of_true (shouldReport_configure_of_ne fun hown hthreshold => h ⟨hown, hthreshold⟩) ?_
    exact fun hlost => h ⟨hlost.2.1, hlost.2.2.1⟩

end Gate

/-! ### Thresholds of environments -/

namespace Settings

theorem threshold_ofProfile (p : Profile) : (ofProfile p).threshold = none := by
  cases p <;> rfl

theorem threshold_applyFormat (env : Environment) (s : Settings) :
    (applyFormat env s).threshold = s.threshold := by
  unfold applyFormat
  split <;> rfl

theorem threshold_applyPerformance (env : Environment) (s : Settings) :
    (applyPerformance env s).threshold = s.threshold := by
  unfold applyPerformance
  split <;> rfl

/-- The threshold of an environment is the number that its variable holds. -/
theorem threshold_ofEnvironment (env : Environment) :
    (ofEnvironment env).threshold =
      ((value? env thresholdVariable).bind Text.readWord64?).map UInt64.ofNat := by
  have hothers : (applyPerformance env (applyFormat env (applyDirectives env
      (ofProfile (profileOf env))))).threshold = none := by
    rw [threshold_applyPerformance, threshold_applyFormat]
    exact threshold_ofProfile _
  unfold ofEnvironment applyThreshold
  split
  · next n hn => rw [hn, Option.map_some]
  · next hn => rw [hn, hothers, Option.map_none]

/-- **Asked thresholds.** An environment asks for a threshold by a numeral of it, whatever word it
is. -/
theorem threshold_ofEnvironment_eq_some_iff {env : Environment} {word : UInt64} :
    (ofEnvironment env).threshold = some word ↔
      ∃ value, env.get? thresholdVariable = some value ∧
        Text.IsNumeral value.toList word.toNat := by
  rw [threshold_ofEnvironment, Option.map_eq_some_iff]
  constructor
  · rintro ⟨n, hn, rfl⟩
    obtain ⟨value, hvalue, hread⟩ := Option.bind_eq_some_iff.1 hn
    obtain ⟨hnumeral, hlt⟩ := Text.readUnsigned?_eq_some_iff.1 hread
    refine ⟨value, (Option.filter_eq_some_iff.1 hvalue).1, ?_⟩
    rwa [UInt64.toNat_ofNat_of_lt' hlt]
  · rintro ⟨value, hvalue, hnumeral⟩
    have hread : Text.readWord64? value = some word.toNat :=
      Text.readUnsigned?_eq_some_iff.2 ⟨hnumeral, word.toNat_lt⟩
    refine ⟨word.toNat, ?_, UInt64.ofNat_toNat⟩
    rw [value?_of_not_isBlankText hvalue hnumeral.isBlankText_eq_false, Option.bind_some, hread]

end Settings

/-! ### Monitors after operations -/

namespace Monitor

/-- What is done with a monitor. -/
inductive Operation where
  | configure (enabled : Bool) (threshold : Option UInt64)
  | openSpan (span : Span)
  | close (elapsed : UInt64)

/-- The operation by which settings are put into force. -/
def Operation.ofSettings (s : Settings) : Operation := configure s.performance s.threshold

/-- The settings that an operation makes. -/
def Operation.settings? : Operation → Option (Bool × Option UInt64)
  | configure enabled threshold => some (enabled, threshold)
  | openSpan _ => none
  | close _ => none

/-- The monitor after an operation. -/
def perform (m : Monitor) : Operation → Monitor
  | .configure enabled threshold => m.configure enabled threshold
  | .openSpan span => m.openSpan span
  | .close elapsed => (m.close elapsed).1

/-- The monitor after some operations. -/
def after (m : Monitor) (operations : List Operation) : Monitor := operations.foldl perform m

/-- The settings that were made last among some operations. -/
def lastSettings? : List Operation → Option (Bool × Option UInt64)
  | [] => none
  | operation :: rest => (lastSettings? rest).or operation.settings?

theorem gate_close (m : Monitor) (elapsed : UInt64) : (m.close elapsed).1.gate = m.gate := by
  unfold close
  split <;> rfl

/-- An operation makes the gate of its settings, if it makes any, and else keeps the gate. -/
theorem gate_perform (m : Monitor) (operation : Operation) :
    (m.perform operation).gate =
      (operation.settings?.map fun made => Gate.configure made.1 made.2).getD m.gate := by
  cases operation with
  | configure enabled threshold => rfl
  | openSpan span => rfl
  | close elapsed => exact m.gate_close elapsed

/-- **Last settings.** After some operations a monitor has the gate of the settings made last. -/
theorem gate_after (m : Monitor) (operations : List Operation) :
    (m.after operations).gate =
      ((lastSettings? operations).map fun made => Gate.configure made.1 made.2).getD m.gate := by
  induction operations generalizing m with
  | nil => rfl
  | cons operation rest ih =>
    have hrest : (m.after (operation :: rest)).gate = ((m.perform operation).after rest).gate := rfl
    rw [hrest, ih, gate_perform, lastSettings?]
    cases lastSettings? rest with
    | none => rw [Option.none_or, Option.map_none, Option.getD_none]
    | some made => rfl

theorem gate_after_of_lastSettings? (m : Monitor) {operations : List Operation}
    (h : lastSettings? operations = some (enabled, threshold)) :
    (m.after operations).gate = Gate.configure enabled threshold := by
  rw [gate_after, h]
  rfl

theorem lastSettings?_concat_ofSettings (operations : List Operation) (s : Settings) :
    lastSettings? (operations ++ [.ofSettings s]) = some (s.performance, s.threshold) := by
  induction operations with
  | nil => rfl
  | cons operation rest ih => rw [List.cons_append, lastSettings?, ih, Option.some_or]

/-- Under the settings of an environment that holds a numeral, a span without a threshold of its own
reports if measurements are on and it took as many microseconds, or any time where the numeral is
that of the greatest word. -/
theorem shouldReport_after_ofEnvironment (m : Monitor) (operations : List Operation)
    {env : Environment} {value : String} {n : Nat}
    (hvalue : env.get? Settings.thresholdVariable = some value)
    (hnumeral : Text.IsNumeral value.toList n) (hn : n < 2 ^ 64) :
    (m.after (operations ++ [.ofSettings (.ofEnvironment env)])).gate.shouldReport none elapsed =
        true ↔
      (Settings.ofEnvironment env).performance = true ∧ (n ≤ elapsed.toNat ∨ n = 2 ^ 64 - 1) := by
  have hword : (UInt64.ofNat n).toNat = n := UInt64.toNat_ofNat_of_lt' hn
  have hthreshold : (Settings.ofEnvironment env).threshold = some (UInt64.ofNat n) :=
    Settings.threshold_ofEnvironment_eq_some_iff.2 ⟨value, hvalue, by rwa [hword]⟩
  rw [gate_after_of_lastSettings? m (lastSettings?_concat_ofSettings operations _), hthreshold]
  by_cases hgreatest : n = 2 ^ 64 - 1
  · have hlost : UInt64.ofNat n = Gate.noThreshold := congrArg UInt64.ofNat hgreatest
    rw [hlost, Gate.shouldReport_configure_noThreshold]
    exact (and_iff_left (Or.inr hgreatest)).symm
  · have hkept : UInt64.ofNat n ≠ Gate.noThreshold := fun hlost =>
      hgreatest (hword.symm.trans (congrArg UInt64.toNat hlost))
    rw [Gate.shouldReport_configure_of_ne fun _ heq => hkept (Option.some.inj heq), isDue_some,
      UInt64.le_iff_toNat_le, hword, or_iff_left hgreatest]

/-- **Reports.** After operations of which the last settings are known, a span reports exactly if it
is due under them, except where measurements are on, the threshold of the settings is the greatest
word, and the span has none of its own and took less time. There it reports although it is not due:
under such settings all spans without a threshold of their own report. The same holds of a threshold
that is read from an environment, whatever word its numeral stands for. -/
theorem shouldReport_after (m : Monitor) {operations : List Operation}
    (h : lastSettings? operations = some (enabled, threshold)) (own : Option UInt64)
    (elapsed : UInt64) :
    (((m.after operations).gate.shouldReport own elapsed = true ↔
        IsDue enabled threshold own elapsed) ↔
      ¬ (enabled = true ∧ own = none ∧ threshold = some Gate.noThreshold ∧
        elapsed < Gate.noThreshold)) ∧
    (own = none → threshold = some Gate.noThreshold →
      ((m.after operations).gate.shouldReport own elapsed = true ↔ enabled = true)) ∧
    ∀ (env : Environment) (value : String) (n : Nat),
      env.get? Settings.thresholdVariable = some value → Text.IsNumeral value.toList n →
      n < 2 ^ 64 →
        ((m.after (operations ++ [.ofSettings (.ofEnvironment env)])).gate.shouldReport none
            elapsed = true ↔
          (Settings.ofEnvironment env).performance = true ∧
            (n ≤ elapsed.toNat ∨ n = 2 ^ 64 - 1)) := by
  rw [gate_after_of_lastSettings? m h]
  refine ⟨Gate.shouldReport_iff_isDue, ?_, fun env value n hvalue hnumeral hn =>
    m.shouldReport_after_ofEnvironment operations hvalue hnumeral hn⟩
  rintro rfl rfl
  exact Gate.shouldReport_configure_noThreshold

/-! ### A usual and the greatest threshold -/

/-- Operations that change the settings while a span is open. -/
def reconfigurations : List Operation :=
  [.configure false (some 7), .openSpan ⟨"outer", .debug, none, some 10⟩,
    .configure true (some 250), .openSpan ⟨"inner", .info, none, none⟩, .close 3]

/-- An environment with a usual threshold. -/
def quarterMillisecond : Environment := [(Settings.thresholdVariable, "+250")]

/-- An environment that has the greatest word for its threshold. -/
def greatestWord : Environment := [(Settings.thresholdVariable, "18446744073709551615")]

theorem shouldReport_after_reconfigurations :
    lastSettings? reconfigurations = some (true, some 250) ∧
      (initial.after reconfigurations).gate.shouldReport none 250 = true ∧
      ¬ (initial.after reconfigurations).gate.shouldReport none 249 = true ∧
      (initial.after (reconfigurations ++
        [.ofSettings (.ofEnvironment quarterMillisecond)])).gate.shouldReport none 250 = true ∧
      (initial.after (reconfigurations ++
        [.configure true (some Gate.noThreshold)])).gate.shouldReport none 0 = true := by
  have hlast : lastSettings? reconfigurations = some (true, some 250) := rfl
  have hkept : some (250 : UInt64) ≠ some Gate.noThreshold := by decide
  have hread : Text.readWord64? "+250" = some 250 := by decide +kernel
  obtain ⟨hnumeral, hword⟩ := Text.readUnsigned?_eq_some_iff.1 hread
  obtain ⟨hreports, -, henvironment⟩ := shouldReport_after initial hlast none 250
  obtain ⟨hearly, -, -⟩ := shouldReport_after initial hlast none 249
  have hgreatest : lastSettings?
      (reconfigurations ++ [.configure true (some Gate.noThreshold)]) =
        some (true, some Gate.noThreshold) := rfl
  obtain ⟨-, hlost, -⟩ := shouldReport_after initial hgreatest none 0
  have hdue : IsDue true (some 250) none 250 := isDue_some.2 ⟨rfl, UInt64.le_refl 250⟩
  have hnotDue : ¬ IsDue true (some 250) none 249 := fun h =>
    absurd (isDue_some.1 h).2 (by decide)
  exact ⟨hlast, (hreports.2 fun h => hkept h.2.2.1).2 hdue,
    fun h => hnotDue ((hearly.2 fun h => hkept h.2.2.1).1 h),
    (henvironment quarterMillisecond "+250" 250 rfl hnumeral hword).2
      ⟨by decide +kernel, Or.inl (by decide)⟩, (hlost rfl rfl).2 rfl⟩

/-- The greatest word is asked for, but a span without a threshold of its own reports after five
microseconds. -/
theorem shouldReport_after_greatestWord :
    (Settings.ofEnvironment greatestWord).threshold = some Gate.noThreshold ∧
      ¬ IsDue (Settings.ofEnvironment greatestWord).performance
        (Settings.ofEnvironment greatestWord).threshold none 5 ∧
      (initial.after [.ofSettings (.ofEnvironment greatestWord)]).gate.shouldReport none 5 = true ∧
      ((initial.after [.ofSettings (.ofEnvironment greatestWord),
        .openSpan ⟨"a", .debug, none, none⟩]).close 5).2.length = 1 := by
  have hthreshold : (Settings.ofEnvironment greatestWord).threshold = some Gate.noThreshold := by
    decide +kernel
  refine ⟨hthreshold, ?_, by decide +kernel, by decide +kernel⟩
  rw [hthreshold, isDue_some]
  exact fun h => absurd h.2 (by decide)

end Monitor

end VectorTrial.Telemetry
