import VectorTrial.Proofs.Text.Reading
import VectorTrial.Proofs.Text.Searching
import VectorTrial.Verdict.Report

/-!
# What a report says

The verdict of a report is told from the last count that it gives for each label, and from nothing
else, as soon as a single line gives a count. Without such a line it is told from the messages that
occur on one of the two outputs. A summary at the end of a report is read back as it was written,
whatever stands before it.

## Main definitions

* `VectorTrial.Report.Gives` — the lines that give a count.
* `VectorTrial.Report.LastCount` — the last count for a label, or zero.
* `VectorTrial.Report.IsPrinted` — the messages on one of the outputs.
* `VectorTrial.Report.block` — the summary with given counts.

## Main results

* `VectorTrial.Report.readCount?_eq_some_iff` — which lines are read, and as what.
* `VectorTrial.Report.lastCount_counts_eq_iff` — which counts are effective.
* `VectorTrial.Report.lastCount_block` — a summary at the end is read back.
* `VectorTrial.Report.verdict_faithful` — the verdict of every report.
-/

namespace VectorTrial.Report

/-! ### Lines of a summary -/

/-- **Lines that give a count.** Without the blanks around it, the line is a numeral of a number of
64 bits, a space and, between blanks, the words of a label. The space is the first one. -/
def Gives (line : List Char) (label : Label) (n : Nat) : Prop :=
  ∃ numeral words, Text.trim line = numeral ++ ' ' :: words ∧ ' ' ∉ numeral ∧
    Text.IsNumeral numeral n ∧ n < 2 ^ 64 ∧ Text.trim words = label.text.toList

theorem label?_eq_some_iff {words : List Char} {label : Label} :
    label? words = some label ↔ words = label.text.toList := by
  constructor
  · intro h
    have hfound := List.find?_some h
    rw [beq_iff_eq] at hfound
    exact hfound.symm
  · rintro rfl
    cases label <;> decide

/-- **Reading lines.** A line is read as a label and a count exactly where it gives them. -/
theorem readCount?_eq_some_iff {line : List Char} {label : Label} {n : Nat} :
    readCount? line = some (label, n) ↔ Gives line label n := by
  unfold readCount?
  simp only [Option.bind_eq_bind, Option.bind_eq_some_iff, Option.pure_def, Option.some.injEq,
    Prod.mk.injEq]
  constructor
  · rintro ⟨⟨numeral, words⟩, hcut, n', hnumeral, label', hlabel, rfl, rfl⟩
    obtain ⟨hline, hspace⟩ := Text.cutAt?_eq_some_iff.1 hcut
    obtain ⟨hnumeral, hsize⟩ := Text.readUnsigned?_eq_some_iff.1 hnumeral
    exact ⟨numeral, words, hline, hspace, hnumeral, hsize, label?_eq_some_iff.1 hlabel⟩
  · rintro ⟨numeral, words, hline, hspace, hnumeral, hsize, hlabel⟩
    exact ⟨(numeral, words), Text.cutAt?_eq_some_iff.2 ⟨hline, hspace⟩, n,
      Text.readUnsigned?_eq_some_iff.2 ⟨hnumeral, hsize⟩, label, label?_eq_some_iff.2 hlabel, rfl,
      rfl⟩

/-- **Recognised lines.** A line that gives a count for some label. -/
def IsRecognised (line : List Char) : Prop := ∃ label n, Gives line label n

theorem readCount?_eq_none_iff {line : List Char} :
    readCount? line = none ↔ ¬ IsRecognised line := by
  rw [Option.eq_none_iff_forall_not_mem]
  constructor
  · rintro h ⟨label, n, hgives⟩
    exact h (label, n) (readCount?_eq_some_iff.2 hgives)
  · rintro h ⟨label, n⟩ hread
    exact h ⟨label, n, readCount?_eq_some_iff.1 hread⟩

theorem counts_eq_nil_iff {stdout : List Char} :
    counts stdout = [] ↔ ∀ line ∈ Text.lines stdout, ¬ IsRecognised line := by
  rw [counts, List.filterMap_eq_nil_iff]
  exact forall₂_congr fun line _ => readCount?_eq_none_iff

/-! ### Last counts -/

/-- **Last counts.** The last of some lines that gives a count for a label gives this one; or no
line does, and this is zero. -/
def LastCount (lines : List (List Char)) (label : Label) (n : Nat) : Prop :=
  (∃ before line after, lines = before ++ line :: after ∧ Gives line label n ∧
    ∀ later ∈ after, ∀ k, ¬ Gives later label k) ∨
  n = 0 ∧ ∀ line ∈ lines, ∀ k, ¬ Gives line label k

theorem exists_lastCount (lines : List (List Char)) (label : Label) :
    ∃ n, LastCount lines label n := by
  induction lines with
  | nil => exact ⟨0, Or.inr ⟨rfl, fun _ h => absurd h List.not_mem_nil⟩⟩
  | cons line rest ih =>
    obtain ⟨n, ⟨before, last, after, rfl, hgives, hafter⟩ | ⟨rfl, hnone⟩⟩ := ih
    · exact ⟨n, Or.inl ⟨line :: before, last, after, rfl, hgives, hafter⟩⟩
    · by_cases hline : ∃ k, Gives line label k
      · obtain ⟨k, hgives⟩ := hline
        exact ⟨k, Or.inl ⟨[], line, rest, rfl, hgives, hnone⟩⟩
      · rw [not_exists] at hline
        exact ⟨0, Or.inr ⟨rfl, List.forall_mem_cons.2 ⟨hline, hnone⟩⟩⟩

/-- No count for a label is found among lines that give none. -/
theorem find?_counts_eq_none {lines : List (List Char)} {label : Label}
    (h : ∀ line ∈ lines, ∀ k, ¬ Gives line label k) :
    (lines.filterMap readCount?).reverse.find? (fun c => c.1 = label) = none := by
  rw [List.find?_eq_none]
  rintro ⟨label', k⟩ hmem heq
  obtain ⟨line, hline, hread⟩ := List.mem_filterMap.1 (List.mem_reverse.1 hmem)
  obtain rfl : label' = label := of_decide_eq_true heq
  exact h line hline k (readCount?_eq_some_iff.1 hread)

/-- **Effective counts.** The counts by which a verdict is told are the last ones of the lines. -/
theorem lastCount_counts_eq_iff {stdout : List Char} {label : Label} {n : Nat} :
    lastCount (counts stdout) label = n ↔ LastCount (Text.lines stdout) label n := by
  have hlast : ∀ n, LastCount (Text.lines stdout) label n →
      lastCount (counts stdout) label = n := by
    rintro n (⟨before, line, after, hlines, hgives, hafter⟩ | ⟨rfl, hnone⟩)
    · have hfound : ∀ rest : List (Label × Nat),
          ((label, n) :: rest).find? (fun c => c.1 = label) = some (label, n) :=
        fun _ => List.find?_cons_of_pos (decide_eq_true rfl)
      have hcounts : (counts stdout).reverse = (after.filterMap readCount?).reverse ++
          (label, n) :: (before.filterMap readCount?).reverse := by
        rw [counts, hlines, List.filterMap_append,
          List.filterMap_cons_some (readCount?_eq_some_iff.2 hgives), List.reverse_append,
          List.reverse_cons, List.append_assoc]
        rfl
      rw [lastCount, hcounts, List.find?_append, find?_counts_eq_none hafter, Option.none_or,
        hfound]
      rfl
    · rw [lastCount, counts, find?_counts_eq_none hnone]
      rfl
  constructor
  · rintro rfl
    obtain ⟨n, hn⟩ := exists_lastCount (Text.lines stdout) label
    rwa [hlast n hn]
  · exact hlast n

/-! ### Written summaries -/

/-- The line of a summary with the count for a label. -/
def countLine (label : Label) (n : Nat) : List Char :=
  "  ".toList ++ (n.repr.toList ++ ' ' :: label.text.toList)

/-- **Summaries.** The lines with the counts for all labels. -/
def block (count : Label → Nat) : List Char :=
  (Label.all.map fun label => countLine label (count label)).flatMap (· ++ ['\n'])

theorem trim_countLine (label : Label) (n : Nat) :
    Text.trim (countLine label n) = n.repr.toList ++ ' ' :: label.text.toList := by
  have hblanks : ∀ c ∈ "  ".toList, Text.isBlank c = true :=
    List.all_eq_true.1 (by decide)
  refine Text.trim_eq_iff.2 ⟨"  ".toList, [], by rw [List.append_nil]; rfl, hblanks,
    List.forall_mem_nil _, ?_, ?_⟩
  · obtain ⟨d, rest, hrepr, -⟩ := Text.exists_cons_repr n
    have hdigit : d.isDigit = true := Text.isDigit_of_mem_repr (hrepr ▸ List.mem_cons_self)
    rw [hrepr]
    intro c hc
    obtain rfl : d = c := Option.some.inj hc
    exact Text.isBlank_of_isDigit hdigit
  · have hlast : (' ' :: label.text.toList).getLast? = some 's' := by cases label <;> decide
    rw [List.getLast?_append, hlast, Option.some_or]
    intro c hc
    obtain rfl : 's' = c := Option.some.inj hc
    decide

/-- **Written lines.** A written line is read as it was written. -/
theorem readCount?_countLine (label : Label) {n : Nat} (h : n < 2 ^ 64) :
    readCount? (countLine label n) = some (label, n) := by
  refine readCount?_eq_some_iff.2
    ⟨n.repr.toList, label.text.toList, trim_countLine label n, ?_, ?_, h, ?_⟩
  · exact fun hspace => absurd (Text.isDigit_of_mem_repr hspace) (by decide)
  · exact (Text.readUnsigned?_eq_some_iff.1 (Text.readUnsigned?_repr h)).1
  · cases label <;> decide +kernel

/-- A written line holds no end of a line. -/
theorem endsNoLine_countLine (label : Label) (n : Nat) :
    '\n' ∉ countLine label n ∧ '\r' ∉ countLine label n := by
  have hnumeral : '\n' ∉ n.repr.toList ∧ '\r' ∉ n.repr.toList :=
    ⟨fun h => absurd (Text.isDigit_of_mem_repr h) (by decide),
      fun h => absurd (Text.isDigit_of_mem_repr h) (by decide)⟩
  have hwords : '\n' ∉ ' ' :: label.text.toList ∧ '\r' ∉ ' ' :: label.text.toList := by
    cases label <;> decide
  have hblanks : '\n' ∉ "  ".toList ∧ '\r' ∉ "  ".toList := by decide
  unfold countLine
  simp only [List.mem_append, not_or]
  exact ⟨⟨hblanks.1, hnumeral.1, hwords.1⟩, hblanks.2, hnumeral.2, hwords.2⟩

/-- The lines of a summary are those with the counts. -/
theorem lines_block (count : Label → Nat) :
    Text.lines (block count) = Label.all.map fun label => countLine label (count label) := by
  refine Text.lines_flatMap fun line hline => ?_
  obtain ⟨label, -, rfl⟩ := List.mem_map.1 hline
  exact endsNoLine_countLine label (count label)

/-- **Written summaries.** A summary after a line feed is read back, after what was read before. -/
theorem counts_block (text : List Char) {count : Label → Nat} (h : ∀ label, count label < 2 ^ 64) :
    counts (text ++ '\n' :: block count) =
      counts (text ++ ['\n']) ++ Label.all.map fun label => (label, count label) := by
  rw [counts, counts, Text.lines_append, List.filterMap_append, lines_block, List.filterMap_map]
  refine congrArg _ ?_
  rw [← List.filterMap_eq_map]
  exact List.filterMap_congr fun label _ => readCount?_countLine label (h label)

/-- The counts of a summary at the end are the effective ones. -/
theorem lastCount_block (text : List Char) {count : Label → Nat}
    (h : ∀ label, count label < 2 ^ 64) (label : Label) :
    lastCount (counts (text ++ '\n' :: block count)) label = count label := by
  rw [counts_block text h, lastCount, List.reverse_append, List.find?_append]
  cases label <;> rfl

/-! ### Messages -/

/-- Whether a message occurs on one of the two outputs. -/
def IsPrinted (stdout stderr : List Char) (message : String) : Prop :=
  message.toList <:+: stdout ∨ message.toList <:+: stderr

instance (stdout stderr : List Char) (message : String) :
    Decidable (IsPrinted stdout stderr message) :=
  inferInstanceAs (Decidable (_ ∨ _))

/-- A message in one line is found exactly where it occurs on one of the two outputs. -/
theorem mentions_iff_isPrinted {stdout stderr : List Char} {message : String}
    (h : '\n' ∉ message.toList) :
    mentions (stdout ++ '\n' :: stderr) message = true ↔ IsPrinted stdout stderr message := by
  rw [mentions, Text.occursIn_iff, Text.infix_append_cons_iff h, IsPrinted]

/-! ### Verdicts -/

/-- The verdict that counts lead to. -/
def verdictFor (count : Label → Nat) : Verdict :=
  if 0 < count .incorrect then .unsound
  else if 0 < count .errors then .errored
  else if 0 < count .unproved then .failed
  else if 0 < count .correct then .correct
  else .errored

/-- Counts lead to the verdict that all is correct only if they tell of nothing else. -/
theorem verdictFor_eq_correct_iff {count : Label → Nat} : verdictFor count = .correct ↔
    count .incorrect = 0 ∧ count .errors = 0 ∧ count .unproved = 0 ∧ 0 < count .correct := by
  unfold verdictFor
  split_ifs <;> simp <;> omega

variable {stdout stderr : List Char}

/-- **Summaries decide.** Where a line is recognised, the last counts decide alone. -/
theorem verdict_of_isRecognised (h : ∃ line ∈ Text.lines stdout, IsRecognised line)
    {count : Label → Nat} (hcount : ∀ label, LastCount (Text.lines stdout) label (count label)) :
    verdict stdout stderr = verdictFor count := by
  have hfound : counts stdout ≠ [] := by
    obtain ⟨line, hline, hrecognised⟩ := h
    exact fun hnil => counts_eq_nil_iff.1 hnil line hline hrecognised
  have hlast : (fun label => lastCount (counts stdout) label) = count :=
    funext fun label => lastCount_counts_eq_iff.2 (hcount label)
  rw [verdict_of_counts hfound, ← hlast]
  rfl

/-- **Messages decide.** Where no line is recognised, the messages decide. -/
theorem verdict_of_not_isRecognised (h : ∀ line ∈ Text.lines stdout, ¬ IsRecognised line) :
    verdict stdout stderr =
      if IsPrinted stdout stderr unsoundMarker then .unsound
      else if ∃ marker ∈ failedMarkers, IsPrinted stdout stderr marker then .failed
      else if IsPrinted stdout stderr correctMarker then .correct
      else .errored := by
  have hnone : counts stdout = [] := counts_eq_nil_iff.2 h
  have hfailed : ∀ marker ∈ failedMarkers, '\n' ∉ marker.toList := by decide
  have hany : failedMarkers.any (mentions (stdout ++ '\n' :: stderr)) = true ↔
      ∃ marker ∈ failedMarkers, IsPrinted stdout stderr marker := by
    rw [List.any_eq_true]
    exact exists_congr fun marker =>
      and_congr_right fun hmarker => mentions_iff_isPrinted (hfailed marker hmarker)
  unfold verdict
  simp only [hnone, List.isEmpty_nil, if_true, verdictOfMessages]
  simp only [mentions_iff_isPrinted (by decide : '\n' ∉ unsoundMarker.toList), hany,
    mentions_iff_isPrinted (by decide : '\n' ∉ correctMarker.toList)]

/-- A summary at the end of a report decides, with exactly its counts. -/
theorem verdict_block (before : List Char) {count : Label → Nat}
    (h : ∀ label, count label < 2 ^ 64) :
    (∀ label, LastCount (Text.lines (before ++ '\n' :: block count)) label (count label)) ∧
      verdict (before ++ '\n' :: block count) stderr = verdictFor count := by
  have hlast : ∀ label,
      LastCount (Text.lines (before ++ '\n' :: block count)) label (count label) :=
    fun label => lastCount_counts_eq_iff.1 (lastCount_block before h label)
  refine ⟨hlast, verdict_of_isRecognised ?_ hlast⟩
  by_contra hnone
  have hnil := counts_eq_nil_iff.2 fun line hline hrecognised => hnone ⟨line, hline, hrecognised⟩
  rw [counts_block before h, List.append_eq_nil_iff] at hnil
  cases hnil.2

/-- A report whose verdict is that all is correct counts nothing else. -/
theorem counts_of_verdict_eq_correct (h : verdict stdout stderr = .correct) {count : Label → Nat}
    (hcount : ∀ label, LastCount (Text.lines stdout) label (count label)) :
    count .incorrect = 0 ∧ count .errors = 0 ∧ count .unproved = 0 := by
  by_cases hrecognised : ∃ line ∈ Text.lines stdout, IsRecognised line
  · rw [verdict_of_isRecognised hrecognised hcount] at h
    obtain ⟨hincorrect, herrors, hunproved, -⟩ := verdictFor_eq_correct_iff.1 h
    exact ⟨hincorrect, herrors, hunproved⟩
  · have hnone : counts stdout = [] := counts_eq_nil_iff.2 fun line hline hline' =>
      hrecognised ⟨line, hline, hline'⟩
    have hzero : ∀ label, count label = 0 := by
      intro label
      rw [← lastCount_counts_eq_iff.2 (hcount label), hnone]
      rfl
    exact ⟨hzero _, hzero _, hzero _⟩

/-- **Reports are told faithfully.** The lines of a report that give a count, if there are any,
decide by the last count for each label, which always exists and is the only one: unsound before
errored before failed before correct, whatever else is printed. Otherwise the messages decide, and
each of them counts where it occurs on one of the two outputs. After any text that ends a line, the
lines of a summary are read back with exactly their counts. The verdict is never that all is correct
while the effective counts tell of something else. -/
theorem verdict_faithful (stdout stderr : List Char) :
    (∀ label, ∃! n, LastCount (Text.lines stdout) label n) ∧
    ((∃ line ∈ Text.lines stdout, IsRecognised line) →
      ∀ count : Label → Nat, (∀ label, LastCount (Text.lines stdout) label (count label)) →
        verdict stdout stderr = verdictFor count) ∧
    ((∀ line ∈ Text.lines stdout, ¬ IsRecognised line) →
      verdict stdout stderr =
        if IsPrinted stdout stderr unsoundMarker then .unsound
        else if ∃ marker ∈ failedMarkers, IsPrinted stdout stderr marker then .failed
        else if IsPrinted stdout stderr correctMarker then .correct
        else .errored) ∧
    (∀ (text : List Char) (count : Label → Nat), text.getLast? = some '\n' →
      (∀ label, count label < 2 ^ 64) → stdout = text ++ block count →
        (∀ label, LastCount (Text.lines stdout) label (count label)) ∧
          verdict stdout stderr = verdictFor count) ∧
    (verdict stdout stderr = .correct →
      ∀ count : Label → Nat, (∀ label, LastCount (Text.lines stdout) label (count label)) →
        count .incorrect = 0 ∧ count .errors = 0 ∧ count .unproved = 0) := by
  refine ⟨fun label => ?_, fun h count hcount => verdict_of_isRecognised h hcount,
    verdict_of_not_isRecognised, fun text count htext hcount hstdout => ?_,
    fun hcorrect count hcount => counts_of_verdict_eq_correct hcorrect hcount⟩
  · refine ⟨_, lastCount_counts_eq_iff.1 rfl, fun n hn => ?_⟩
    exact (lastCount_counts_eq_iff.2 hn).symm
  · obtain ⟨before, rfl⟩ : ∃ before, text = before ++ ['\n'] :=
      List.getLast?_eq_some_iff.1 htext
    rw [List.append_assoc, List.singleton_append] at hstdout
    rw [hstdout]
    exact verdict_block before hcount

/-! ### A line like one of a summary -/

namespace LookAlike

/-- A text with a line that gives a count, before a summary. -/
def text : List Char := "  3 incorrect transformations \r\nSummary:\n".toList

/-- The counts of the summary. -/
def count : Label → Nat
  | .correct => 1
  | _ => 0

end LookAlike

/-- A summary decides over an earlier line and over a message, such a line alone over a message, and
a message where there is no such line. -/
theorem verdict_faithful_lookAlike :
    verdict (LookAlike.text ++ block LookAlike.count) unsoundMarker.toList = .correct ∧
      verdict LookAlike.text unsoundMarker.toList = .unsound ∧
      verdict "ERROR: Timeout".toList unsoundMarker.toList = .unsound := by
  have hsummary := verdict_faithful (LookAlike.text ++ block LookAlike.count) unsoundMarker.toList
  have hline := verdict_faithful LookAlike.text unsoundMarker.toList
  have hmessage := verdict_faithful "ERROR: Timeout".toList unsoundMarker.toList
  have hsmall : ∀ label, LookAlike.count label < 2 ^ 64 := by
    intro label
    cases label <;> decide
  have hrecognised : ∃ line ∈ Text.lines LookAlike.text, IsRecognised line :=
    ⟨"  3 incorrect transformations ".toList, by decide, .incorrect, 3,
      readCount?_eq_some_iff.1 (by decide +kernel)⟩
  refine ⟨(hsummary.2.2.2.1 _ _ (by decide) hsmall rfl).2, ?_, ?_⟩
  · exact (hline.2.1 hrecognised (lastCount (counts LookAlike.text))
      fun _ => lastCount_counts_eq_iff.1 rfl).trans (by decide +kernel)
  · exact (hmessage.2.2.1 (counts_eq_nil_iff.1 (by decide +kernel))).trans (by decide +kernel)

end VectorTrial.Report
