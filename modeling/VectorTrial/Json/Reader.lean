import VectorTrial.Json.Token
import VectorTrial.Json.Value

/-!
# Reading JSON

The value of a JSON text, by a machine that takes one token at a time and keeps the arrays and
objects that are still open on a stack. Texts of any depth are read; what a reader of some
kind of value cannot hold it refuses itself.

## Main definitions

* `VectorTrial.Json.Assembly` — the machine.
* `VectorTrial.Json.parse?` — the value of a text.
-/

namespace VectorTrial.Json

/-- An array or object that is still open, with what it holds so far in reverse. -/
inductive Frame where
  | array (items : List Json)
  /-- An object, whether all its names have a reading, and the name of the open member. -/
  | object (members : List (String × Json)) (readable : Bool) (name : String)

/-- What may come next. -/
inductive Expectation where
  | value
  /-- A first item, or the end of the array. -/
  | itemOrEnd
  /-- A first name, or the end of the object. -/
  | nameOrEnd
  | name
  | colon
  | commaOrEnd
  /-- Nothing: the value is complete. -/
  | nothing (result : Json)

/-- The machine: the open arrays and objects, the innermost first, and what may come next. -/
structure Assembly where
  frames : List Frame
  expected : Expectation

namespace Assembly

/-- The machine before the first token. -/
def start : Assembly := ⟨[], .value⟩

/-- The machine after a complete value. -/
def accept (frames : List Frame) (value : Json) : Assembly :=
  match frames with
  | [] => ⟨[], .nothing value⟩
  | .array items :: outer => ⟨.array (value :: items) :: outer, .commaOrEnd⟩
  | .object members readable name :: outer =>
    ⟨.object ((name, value) :: members) readable name :: outer, .commaOrEnd⟩

/-- The value of a closed object. A name without a reading leaves the object without one. -/
def closeObject (members : List (String × Json)) (readable : Bool) : Json :=
  if readable then .obj members.reverse else .unreadable

/-- The step at a place where a value must begin. -/
def stepValue (frames : List Frame) : Token → Option Assembly
  | .null => some (accept frames .null)
  | .bool b => some (accept frames (.bool b))
  | .int n => some (accept frames (.int n))
  | .float x => some (accept frames (.float x))
  | .hugeNumber => some (accept frames .unreadable)
  | .str (some s) => some (accept frames (.str s))
  | .str none => some (accept frames .unreadable)
  | .leftBracket => some ⟨.array [] :: frames, .itemOrEnd⟩
  | .leftBrace => some ⟨.object [] true "" :: frames, .nameOrEnd⟩
  | _ => none

/-- The step at a place where the name of a member must stand. -/
def stepName (frames : List Frame) (token : Token) : Option Assembly :=
  match frames, token with
  | .object members readable _ :: outer, .str (some name) =>
    some ⟨.object members readable name :: outer, .colon⟩
  | .object members _ _ :: outer, .str none => some ⟨.object members false "" :: outer, .colon⟩
  | _, _ => none

/-- The step at the end of an array or object. -/
def stepEnd (frames : List Frame) (token : Token) : Option Assembly :=
  match frames, token with
  | .array items :: outer, .rightBracket => some (accept outer (.arr items.reverse))
  | .object members readable _ :: outer, .rightBrace =>
    some (accept outer (closeObject members readable))
  | _, _ => none

/-- The step after a comma. -/
def stepComma (frames : List Frame) : Option Assembly :=
  match frames with
  | .array _ :: _ => some ⟨frames, .value⟩
  | .object _ _ _ :: _ => some ⟨frames, .name⟩
  | [] => none

/-- The step of the machine over one token. -/
def step (a : Assembly) (token : Token) : Option Assembly :=
  match a.expected, token with
  | .value, _ => stepValue a.frames token
  | .itemOrEnd, .rightBracket => stepEnd a.frames token
  | .itemOrEnd, _ => stepValue a.frames token
  | .nameOrEnd, .rightBrace => stepEnd a.frames token
  | .nameOrEnd, _ => stepName a.frames token
  | .name, _ => stepName a.frames token
  | .colon, .colon => some { a with expected := .value }
  | .colon, _ => none
  | .commaOrEnd, .comma => stepComma a.frames
  | .commaOrEnd, _ => stepEnd a.frames token
  | .nothing _, _ => none

/-- The value at the end of the text. -/
def finish? (a : Assembly) : Option Json :=
  match a.expected with
  | .nothing result => some result
  | _ => none

end Assembly

/-- The value of a list of tokens. -/
def ofTokens? (tokens : List Token) : Option Json := do
  (← tokens.foldlM Assembly.step Assembly.start).finish?

/-- **Reading JSON.** The value of a text, which must be one value between optional blanks. -/
def parse? (text : String) : Option Json := do
  ofTokens? (← tokens? text.toList)

end VectorTrial.Json
