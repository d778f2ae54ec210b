import VectorTrial.Telemetry.Pattern
import VectorTrial.Text.Blank
import VectorTrial.Text.LetterOrNumber
import VectorTrial.Text.Numeral

/-!
# Filters of the log

A filter is a list of directives with commas between them. A directive is a level, a target, or a
target with a span in brackets, a field of the span in braces and a level behind an equals sign,
each of which may be missing.

A directive is read character by character, and what it has come to is one of the stages below.
Positions count the bytes of the directive without the blanks at its ends, but the words between
them are cut from the directive with these blanks. So a blank in front moves the words, and a blank
behind belongs to the last one.

## Main definitions

* `VectorTrial.Telemetry.FilterError` — why a filter is refused.
* `VectorTrial.Telemetry.Filter.check` — whether all directives of a filter can be read.

## Main results

* `VectorTrial.Telemetry.Filter.check_nil` — a filter without directives is accepted.
-/

namespace VectorTrial.Telemetry

/-- Why a filter is refused. -/
inductive FilterError where
  /-- A character or the end stands where it cannot. -/
  | malformed
  /-- A word behind an equals sign is no level. -/
  | unknownLevel
  /-- The value of a field is neither a number nor a pattern. -/
  | badField
  deriving DecidableEq, Repr

/-- The wording of a refusal. -/
def FilterError.message : FilterError → String
  | malformed => "invalid filter directive"
  | unknownLevel => "error parsing level filter: expected one of \"off\", \"error\", \"warn\", " ++
      "\"info\", \"debug\", \"trace\", or a number 0-5"
  | badField => "invalid field filter"

namespace Filter

/-! ### Words -/

/-- The names of the levels. The name of a level also stands for it in capitals. -/
def levelNames : List String := ["off", "error", "warn", "info", "debug", "trace"]

/-- Whether a word is a level: a name, or the number of one in the list of names. -/
def isLevel (word : List Char) : Bool :=
  (Text.readUnsigned? levelNames.length word).isSome ||
    levelNames.contains (String.ofList (word.map Char.toLower))

/-- Whether a word is a value that a field can be compared with. -/
def isValue (word : List Char) : Bool :=
  Text.isReal word || Pattern.isWellFormed word

/-- Whether a word describes a field: a name, and perhaps a value behind an equals sign. What
follows a second sign is passed over. -/
def isField (word : List Char) : Bool :=
  match word.splitOn '=' with
  | _ :: value :: _ => isValue value
  | _ => true

/-- The characters of a text with the bytes in front of each. -/
def positions : Nat → List Char → List (Nat × Char)
  | _, [] => []
  | n, c :: rest => (n, c) :: positions (n + c.utf8Size) rest

/-- The characters of a text from one position up to another. -/
def cut (text : List Char) (start stop : Nat) : List Char :=
  ((positions 0 text).filter fun p => start ≤ p.1 && p.1 < stop).map (·.2)

/-- The characters of a text from a position on. -/
def cutFrom (text : List Char) (start : Nat) : List Char :=
  ((positions 0 text).filter fun p => start ≤ p.1).map (·.2)

/-! ### Directives -/

/-- What a directive has come to. The position of a word is kept if the word matters. -/
inductive Stage where
  | start
  /-- In a level or a target. -/
  | head
  /-- In the name of a span. -/
  | span
  /-- In a field of the span. -/
  | field (position : Nat)
  /-- After the field. -/
  | fieldEnd
  /-- After the span. -/
  | spanEnd
  /-- In a level behind an equals sign. -/
  | level (position : Nat)
  deriving DecidableEq, Repr

/-- The characters other than letters and numbers with which a directive may start. -/
def signs : List Char := ['-', ':', '_']

/-- The stage after a character at a position. -/
def next (directive : List Char) (stage : Stage) (position : Nat) (c : Char) :
    Except FilterError Stage :=
  match stage with
  | .start =>
    if c = '[' then .ok .span
    else if signs.contains c || Text.isLetterOrNumber c then .ok .head
    else .error .malformed
  | .head =>
    if c = '=' then .ok (.level (position + 1)) else if c = '[' then .ok .span else .ok .head
  | .span =>
    if c = ']' then .ok .spanEnd
    else if c = '{' then .ok (.field (position + 1))
    else .ok .span
  | .field start =>
    if c = '}' then
      let word := cut directive start position
      if word.isEmpty then .error .malformed
      else if isField word then .ok .fieldEnd
      else .error .badField
    else .ok (.field start)
  | .fieldEnd => if c = ']' then .ok .spanEnd else .error .malformed
  | .spanEnd => if c = '=' then .ok (.level (position + 1)) else .error .malformed
  | .level start => .ok (.level start)

/-- Whether a directive may end at a stage. A level may be left out behind its sign. -/
def finish (directive : List Char) : Stage → Except FilterError Unit
  | .head => .ok ()
  | .spanEnd => .ok ()
  | .level start =>
    let word := cutFrom directive start
    if word.isEmpty || isLevel word then .ok () else .error .unknownLevel
  | _ => .error .malformed

/-- Whether a directive can be read. -/
def checkDirective (directive : List Char) : Except FilterError Unit := do
  let stage ← (positions 0 (Text.trim directive)).foldlM
    (fun stage (position, c) => next directive stage position c) .start
  finish directive stage

/-- The directives of a filter. Nothing between two commas is no directive. -/
def directives (filter : List Char) : List (List Char) :=
  (filter.splitOn ',').filter (!·.isEmpty)

/-- **Filters.** Whether all directives of a filter can be read; of those that cannot, the first one
counts. -/
def check (filter : String) : Except FilterError Unit :=
  (directives filter.toList).forM checkDirective

theorem check_nil : check "" = .ok () := rfl

end Filter

end VectorTrial.Telemetry
