import VectorTrial.Text.Blank
import VectorTrial.Text.Line
import VectorTrial.Text.Numeral
import VectorTrial.Verdict.Basic

/-!
# Reports of the equivalence checker

What the checker prints about a comparison, read as a verdict. A report may end in a summary, lines
that give a count and what was counted; then the counts decide, and of several counts of one kind
the last. A report without such a line is searched for messages.

## Main definitions

* `VectorTrial.Report.readCount?` — the count that a line of a summary gives.
* `VectorTrial.Report.verdict` — the verdict of a report.

## Main results

* `VectorTrial.Report.verdict_of_counts` — where a summary line occurs, only the counts matter.
-/

namespace VectorTrial.Report

/-! ### Summaries -/

/-- What a summary counts. -/
inductive Label where
  | correct
  | incorrect
  | unproved
  | errors
  deriving DecidableEq, Repr

namespace Label

/-- All labels. -/
def all : List Label := [correct, incorrect, unproved, errors]

/-- The words by which a summary line names what it counts. -/
def text : Label → String
  | correct => "correct transformations"
  | incorrect => "incorrect transformations"
  | unproved => "failed-to-prove transformations"
  | errors => "Alive2 errors"

end Label

/-- The label with the given words. -/
def label? (words : List Char) : Option Label :=
  Label.all.find? fun l => l.text.toList == words

/-- **Summary lines.** Without the blanks around it, a summary line is a count below `2 ^ 64`, a
space and the words of a label. -/
def readCount? (line : List Char) : Option (Label × Nat) := do
  let (count, words) ← Text.cutAt? ' ' (Text.trim line)
  let n ← Text.readUnsigned? UInt64.size count
  let label ← label? (Text.trim words)
  return (label, n)

/-- The counts of a text, in the order of their lines. -/
def counts (stdout : List Char) : List (Label × Nat) := (Text.lines stdout).filterMap readCount?

/-- The last count of a label, or zero. -/
def lastCount (found : List (Label × Nat)) (label : Label) : Nat :=
  ((found.reverse.find? fun c => c.1 = label).map Prod.snd).getD 0

/-- The verdict of the counts of a summary. -/
def verdictOfCounts (found : List (Label × Nat)) : Verdict :=
  if 0 < lastCount found .incorrect then .unsound
  else if 0 < lastCount found .errors then .errored
  else if 0 < lastCount found .unproved then .failed
  else if 0 < lastCount found .correct then .correct
  else .errored

/-! ### Messages -/

/-- The message of a comparison that found a difference. -/
def unsoundMarker : String := "Transformation doesn't verify!"

/-- The messages of a comparison that was given up. -/
def failedMarkers : List String := ["ERROR: Timeout", "ERROR: SMT Error"]

/-- The message of a comparison that found none. -/
def correctMarker : String := "Transformation seems to be correct!"

/-- Whether a message occurs in a text. -/
def mentions (text : List Char) (message : String) : Bool := Text.occursIn message.toList text

/-- The verdict of the messages in a text. -/
def verdictOfMessages (text : List Char) : Verdict :=
  if mentions text unsoundMarker then .unsound
  else if failedMarkers.any (mentions text) then .failed
  else if mentions text correctMarker then .correct
  else .errored

/-! ### Reports -/

/-- **Reports.** The verdict of what the checker printed on its two outputs. -/
def verdict (stdout stderr : List Char) : Verdict :=
  let found := counts stdout
  if found.isEmpty then verdictOfMessages (stdout ++ '\n' :: stderr) else verdictOfCounts found

theorem verdict_of_counts {stdout : List Char} (h : counts stdout ≠ []) (stderr : List Char) :
    verdict stdout stderr = verdictOfCounts (counts stdout) := by
  simp [verdict, h]

end VectorTrial.Report
