import Mathlib.Data.List.Basic
import VectorTrial.Proofs.Text.Searching
import VectorTrial.Telemetry.Settings

/-!
# Variables that cannot be read

The settings of the log depend on an environment only through what its five variables say. A
variable that is blank says nothing, and no more does a profile, a format or a threshold that cannot
be read: the settings are those of the environment without the variable. The variable for
measurements is different. Every word in it says something, and a word that is none for on or off
switches measurements off. Whatever the variables are, JSON lines have no colours.

## Main definitions

* `VectorTrial.Environment.unset` — an environment without a variable.
* `VectorTrial.Telemetry.Variable`, `VectorTrial.Telemetry.Variable.IsLegal` — the variables and
  their legal values.
* `VectorTrial.Telemetry.Variable.Agree` — environments that say the same with a variable.

## Main results

* `VectorTrial.Telemetry.Settings.ofEnvironment_congr` — environments that say the same have the
  same settings.
* `VectorTrial.Telemetry.Settings.ofEnvironment_of_word` — what a word for measurements does.
* `VectorTrial.Telemetry.Settings.ofEnvironment_of_not_isLegal` — what values do that are not legal.
-/

namespace VectorTrial

/-! ### Environments without a variable -/

/-- An environment in which a variable is not set. -/
def Environment.unset (env : Environment) (name : String) : Environment :=
  env.filter fun entry => entry.1 ≠ name

theorem Environment.get?_unset (env : Environment) (name other : String) :
    (env.unset name).get? other = if other = name then none else env.get? other := by
  unfold get? unset
  induction env with
  | nil => exact (ite_self _).symm
  | cons entry env ih =>
    obtain ⟨key, value⟩ := entry
    rw [List.filter_cons, List.lookup_cons]
    by_cases hother : other = key
    · subst hother
      by_cases hname : other = name
      · simpa [hname] using ih
      · simp [hname]
    · have hne : (other == key) = false := beq_eq_false_iff_ne.2 hother
      rw [hne]
      by_cases hkey : key = name
      · simpa [hkey] using ih
      · simpa [hkey, hne, List.lookup_cons] using ih

namespace Telemetry

/-! ### Legal values -/

/-- The variables that settings of the log are read from. -/
inductive Variable where
  | profile
  | directives
  | format
  | performance
  | threshold
  deriving DecidableEq

namespace Variable

/-- The name of a variable in an environment. -/
def name : Variable → String
  | profile => Settings.profileVariable
  | directives => Settings.directivesVariable
  | format => Settings.formatVariable
  | performance => Settings.performanceVariable
  | threshold => Settings.thresholdVariable

theorem name_injective : Function.Injective name := by
  intro v w h
  cases v <;> cases w <;> first | rfl | exact absurd h (by decide)

/-- **Legal values.** They are not blank. A profile and a format have one of their names, whatever
blanks stand around it; measurements are switched by a word for on or off; and a threshold is a
numeral of a number of 64 bits. Small and great ASCII letters count as the same. -/
def IsLegal (v : Variable) (value : String) : Prop :=
  Text.isBlankText value = false ∧
  match v with
  | profile => plainName value ∈ ["local", "ci", "performance", "perf"]
  | directives => True
  | format => plainName value ∈ ["compact", "pretty", "json"]
  | performance => value.map Char.toLower ∈ ["1", "true", "yes", "0", "false", "no"]
  | threshold => ∃ n, Text.IsNumeral value.toList n ∧ n < 2 ^ 64

end Variable

/-! ### What an environment says -/

namespace Settings

variable {env env' : Environment} {name other value : String}

theorem value?_unset_self (env : Environment) (name : String) :
    value? (env.unset name) name = none := by
  rw [value?, Environment.get?_unset, if_pos rfl]
  rfl

theorem value?_unset_of_ne (h : other ≠ name) :
    value? (env.unset name) other = value? env other := by
  rw [value?, Environment.get?_unset, if_neg h, value?]

theorem value?_of_isBlankText (h : env.get? name = some value)
    (hblank : Text.isBlankText value = true) : value? env name = none := by
  rw [value?, h]
  simp [hblank]

theorem value?_of_not_isBlankText (h : env.get? name = some value)
    (hblank : Text.isBlankText value = false) : value? env name = some value := by
  rw [value?, h]
  simp [hblank]

end Settings

theorem Profile.toOption_ofText_eq_none {text : String}
    (h : plainName text ∉ ["local", "ci", "performance", "perf"]) :
    (ofText text).toOption = none := by
  unfold ofText
  split <;> simp_all [Except.toOption]

theorem Format.toOption_ofText_eq_none {text : String}
    (h : plainName text ∉ ["compact", "pretty", "json"]) : (ofText text).toOption = none := by
  unfold ofText
  split <;> simp_all [Except.toOption]

/-- **Agreement.** Two environments say the same with a variable: its value is read alike, or in
neither of them. -/
def Variable.Agree (v : Variable) (env env' : Environment) : Prop :=
  let said (env : Environment) : Option String := Settings.value? env v.name
  match v with
  | profile => (said env).bind (fun text => (Profile.ofText text).toOption) =
      (said env').bind fun text => (Profile.ofText text).toOption
  | directives => said env = said env'
  | format => (said env).bind (fun text => (Format.ofText text).toOption) =
      (said env').bind fun text => (Format.ofText text).toOption
  | performance => said env = said env'
  | threshold => (said env).bind Text.readWord64? = (said env').bind Text.readWord64?

namespace Settings

variable {env env' : Environment} {v : Variable} {value : String}

theorem agree_of_value?_eq (h : value? env v.name = value? env' v.name) : v.Agree env env' := by
  unfold Variable.Agree
  cases v <;> simp only [h]

/-- Without a variable, an environment says the same with the others. -/
theorem agree_unset_of_ne {w : Variable} (h : w ≠ v) : w.Agree env (env.unset v.name) :=
  agree_of_value?_eq (value?_unset_of_ne fun hname => h (Variable.name_injective hname)).symm

/-- **Values that are not legal.** A value that is not legal says nothing, unless it is a word for
measurements. -/
theorem agree_unset_of_not_isLegal (h : env.get? v.name = some value) (hillegal : ¬ v.IsLegal value)
    (hv : v = .performance → Text.isBlankText value = true) :
    v.Agree env (env.unset v.name) := by
  by_cases hblank : Text.isBlankText value = true
  · exact agree_of_value?_eq ((value?_of_isBlankText h hblank).trans (value?_unset_self _ _).symm)
  · have hvalue := value?_of_not_isBlankText h (eq_false_of_ne_true hblank)
    have hunset := value?_unset_self env v.name
    unfold Variable.IsLegal at hillegal
    rw [not_and] at hillegal
    replace hillegal := hillegal (eq_false_of_ne_true hblank)
    unfold Variable.Agree
    cases v with
    | profile =>
      simp only [hvalue, hunset, Option.bind_some, Option.bind_none]
      exact Profile.toOption_ofText_eq_none hillegal
    | directives => exact absurd trivial hillegal
    | format =>
      simp only [hvalue, hunset, Option.bind_some, Option.bind_none]
      exact Format.toOption_ofText_eq_none hillegal
    | performance => exact absurd (hv rfl) hblank
    | threshold =>
      simp only [hvalue, hunset, Option.bind_some, Option.bind_none]
      rw [Option.eq_none_iff_forall_not_mem]
      exact fun n hn => hillegal ⟨n, Text.readUnsigned?_eq_some_iff.1 hn⟩

/-! ### Settings of environments that agree -/

/-- The settings before measurements are switched and a threshold is set. -/
theorem applyFormat_congr (h : ∀ v : Variable, v ≠ .performance → v.Agree env env') :
    applyFormat env (applyDirectives env (ofProfile (profileOf env))) =
      applyFormat env' (applyDirectives env' (ofProfile (profileOf env'))) := by
  have hprofile := h .profile (by decide)
  have hdirectives := h .directives (by decide)
  have hformat := h .format (by decide)
  simp only [Variable.Agree, Variable.name] at hprofile hdirectives hformat
  simp only [applyFormat, applyDirectives, profileOf, hprofile, hdirectives, hformat]

theorem applyThreshold_congr (h : Variable.Agree .threshold env env') (s : Settings) :
    applyThreshold env s = applyThreshold env' s := by
  simp only [Variable.Agree, Variable.name] at h
  rw [applyThreshold, applyThreshold, h]

/-- **Agreement.** Environments that say the same with every variable have the same settings. -/
theorem ofEnvironment_congr (h : ∀ v : Variable, v.Agree env env') :
    ofEnvironment env = ofEnvironment env' := by
  have hperformance : value? env performanceVariable = value? env' performanceVariable :=
    h .performance
  rw [ofEnvironment, ofEnvironment, applyFormat_congr fun v _ => h v,
    applyThreshold_congr (h .threshold), applyPerformance, applyPerformance, hperformance]

theorem applyThreshold_performance (env : Environment) (s : Settings) (b : Bool) :
    applyThreshold env { s with performance := b } =
      { applyThreshold env s with performance := b } := by
  unfold applyThreshold
  split <;> rfl

/-- **Measurements.** Every word for measurements switches them on or off, and does nothing else. -/
theorem ofEnvironment_of_word (h : env.get? Variable.performance.name = some value)
    (hblank : Text.isBlankText value = false) :
    ofEnvironment env = { ofEnvironment (env.unset Variable.performance.name) with
      performance := isAffirmation value } := by
  have hothers : ∀ v : Variable, v ≠ .performance →
      v.Agree env (env.unset Variable.performance.name) := fun v hv => agree_unset_of_ne hv
  have hvalue : value? env performanceVariable = some value := value?_of_not_isBlankText h hblank
  have hunset : value? (env.unset Variable.performance.name) performanceVariable = none :=
    value?_unset_self env performanceVariable
  rw [ofEnvironment, ofEnvironment, applyFormat_congr hothers,
    applyThreshold_congr (hothers .threshold (by decide)), applyPerformance, applyPerformance,
    hvalue, hunset]
  exact applyThreshold_performance _ _ _

/-! ### Colours -/

/-- JSON lines have no colours. -/
def HasPlainJson (s : Settings) : Prop := s.format = .json → s.ansi = false

theorem hasPlainJson_ofProfile (p : Profile) : (ofProfile p).HasPlainJson := by
  cases p with
  | terminal => exact fun h => nomatch h
  | ci => exact fun _ => rfl
  | performance => exact fun _ => rfl

theorem HasPlainJson.applyFormat {s : Settings} (h : s.HasPlainJson) (env : Environment) :
    (applyFormat env s).HasPlainJson := by
  unfold Settings.applyFormat
  split
  · rintro rfl
    exact ansi_withFormat_json s
  · exact h

/-- In the settings of every environment, JSON lines have no colours. -/
theorem hasPlainJson_ofEnvironment (env : Environment) : (ofEnvironment env).HasPlainJson := by
  have hdirectives : (applyDirectives env (ofProfile (profileOf env))).HasPlainJson :=
    hasPlainJson_ofProfile _
  have hformat := hdirectives.applyFormat env
  have hperformance : (applyPerformance env (applyFormat env (applyDirectives env
      (ofProfile (profileOf env))))).HasPlainJson := by
    unfold applyPerformance
    split <;> exact hformat
  unfold ofEnvironment applyThreshold
  split <;> exact hperformance

/-! ### Values that are not legal -/

/-- A word that is none for on or off does not switch anything on. -/
theorem isAffirmation_of_not_isLegal (hillegal : ¬ Variable.performance.IsLegal value)
    (hblank : Text.isBlankText value = false) : isAffirmation value = false := by
  by_contra hon
  rw [Bool.not_eq_false, isAffirmation, List.contains_iff_mem] at hon
  have hword : affirmations ⊆ ["1", "true", "yes", "0", "false", "no"] := by decide
  exact hillegal ⟨hblank, hword hon⟩

/-- **Values that are not legal.** With a value that is not legal, every environment has the
settings of the environment without the variable, unless the value is a word for measurements. Such
a word switches measurements off, and does nothing else; so the settings are those without it only
if the others leave measurements off as well. In all settings, JSON lines have no colours. -/
theorem ofEnvironment_of_not_isLegal (env : Environment) :
    (∀ (v : Variable) (value : String), env.get? v.name = some value → ¬ v.IsLegal value →
      (v = .performance → Text.isBlankText value = true) →
        ofEnvironment env = ofEnvironment (env.unset v.name)) ∧
    (∀ value, env.get? Variable.performance.name = some value →
      ¬ Variable.performance.IsLegal value → Text.isBlankText value = false →
        ofEnvironment env =
          { ofEnvironment (env.unset Variable.performance.name) with performance := false } ∧
        (ofEnvironment env = ofEnvironment (env.unset Variable.performance.name) ↔
          (ofEnvironment (env.unset Variable.performance.name)).performance = false)) ∧
    ((ofEnvironment env).format = .json → (ofEnvironment env).ansi = false) := by
  refine ⟨fun v value h hillegal hv => ofEnvironment_congr fun w => ?_,
    fun value h hillegal hblank => ?_, hasPlainJson_ofEnvironment env⟩
  · by_cases hw : w = v
    · rw [hw]
      exact agree_unset_of_not_isLegal h hillegal hv
    · exact agree_unset_of_ne hw
  · have hoff := ofEnvironment_of_word h hblank
    rw [isAffirmation_of_not_isLegal hillegal hblank] at hoff
    refine ⟨hoff, fun hsame => ?_, fun hperformance => ?_⟩
    · rw [← hsame, hoff]
    · rw [hoff, ← hperformance]

/-! ### Misspelt values -/

namespace Misspelt

/-- An environment that asks for a profile, and in which nothing else can be read. -/
def environment : Environment :=
  [(profileVariable, " Performance "), (formatVariable, "xml"), (performanceVariable, "maybe"),
    (thresholdVariable, "soon")]

end Misspelt

/-- The misspelt format is passed over; the misspelt word for measurements switches them off. -/
theorem ofEnvironment_of_not_isLegal_misspelt :
    ofEnvironment Misspelt.environment =
        ofEnvironment (Misspelt.environment.unset formatVariable) ∧
      ofEnvironment Misspelt.environment =
        { ofEnvironment (Misspelt.environment.unset performanceVariable) with
          performance := false } ∧
      (ofEnvironment Misspelt.environment).ansi = false := by
  obtain ⟨hother, hword, hjson⟩ := ofEnvironment_of_not_isLegal Misspelt.environment
  have hformat : ¬ Variable.format.IsLegal "xml" := fun h => absurd h.2 (by decide +kernel)
  have hflag : ¬ Variable.performance.IsLegal "maybe" := fun h => absurd h.2 (by decide +kernel)
  exact ⟨hother .format "xml" rfl hformat (fun h => nomatch h),
    (hword "maybe" rfl hflag (by decide +kernel)).1, hjson (by decide +kernel)⟩

/-- The value `maybe` is not legal, but the settings change without it. -/
theorem ofEnvironment_unset_misspelt :
    Misspelt.environment.get? Variable.performance.name = some "maybe" ∧
      ¬ Variable.performance.IsLegal "maybe" ∧
      ofEnvironment Misspelt.environment ≠
        ofEnvironment (Misspelt.environment.unset Variable.performance.name) :=
  ⟨rfl, fun h => absurd h.2 (by decide +kernel), by decide +kernel⟩

end Settings

end Telemetry

end VectorTrial
