import VectorTrial.Decimal.Shortest
import VectorTrial.Json.Value
import VectorTrial.Text.Hexadecimal

/-!
# Writing JSON

The text of a value over several lines: members and items stand on lines of their own, two blanks
deeper than what holds them, and an empty array or object stays on one line.

## Main definitions

* `VectorTrial.Json.quoted` — a string with its escapes.
* `VectorTrial.Json.pretty` — the text of a value.
-/

namespace VectorTrial.Json

/-- One character inside a string. -/
def escapeChar (c : Char) : List Char :=
  if c = '"' then ['\\', '"']
  else if c = '\\' then ['\\', '\\']
  else if c = '\x08' then ['\\', 'b']
  else if c = '\x0c' then ['\\', 'f']
  else if c = '\n' then ['\\', 'n']
  else if c = '\r' then ['\\', 'r']
  else if c = '\t' then ['\\', 't']
  else if c.toNat < 0x20 then ['\\', 'u', '0', '0'] ++ Text.hexByte (UInt8.ofNat c.toNat)
  else [c]

/-- A string between quotes, with its escapes. -/
def quoted (s : String) : String :=
  String.ofList ('"' :: s.toList.flatMap escapeChar ++ ['"'])

/-- The beginning of a new line at a depth. -/
def newLine (depth : Nat) : String := String.ofList ('\n' :: List.replicate (2 * depth) ' ')

/-- Lines between two brackets. -/
def enclose (left right : String) (depth : Nat) (parts : List String) : String :=
  if parts.isEmpty then left ++ right
  else
    left ++ newLine (depth + 1) ++ String.intercalate ("," ++ newLine (depth + 1)) parts ++
      newLine depth ++ right

mutual

/-- The text of a value at a depth. -/
def prettyAt (depth : Nat) : Json → String
  | null => "null"
  | bool b => if b then "true" else "false"
  | int n => toString n
  | float x => (Decimal.text x).getD "null"
  | str s => quoted s
  | arr items => enclose "[" "]" depth (prettyItems (depth + 1) items)
  | obj members => enclose "\x7b" "\x7d" depth (prettyMembers (depth + 1) members)
  | unreadable => "null"

/-- The texts of some values at a depth. -/
def prettyItems (depth : Nat) : List Json → List String
  | [] => []
  | j :: rest => prettyAt depth j :: prettyItems depth rest

/-- The texts of some members at a depth. -/
def prettyMembers (depth : Nat) : List (String × Json) → List String
  | [] => []
  | (name, j) :: rest => (quoted name ++ ": " ++ prettyAt depth j) :: prettyMembers depth rest

end

/-- **Writing JSON.** The text of a value. -/
def pretty (j : Json) : String := prettyAt 0 j

end VectorTrial.Json
