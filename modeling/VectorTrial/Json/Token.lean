import VectorTrial.Decimal.Scaling

/-!
# JSON tokens

A JSON text is cut into punctuation, words and strings by a machine that sees one character at a
time. Words are the three names and the numbers.

## Main definitions

* `VectorTrial.Json.Token` — tokens.
* `VectorTrial.Json.readWord?` — the token that a word stands for.
* `VectorTrial.Json.tokens?` — the tokens of a text.
-/

namespace VectorTrial.Json

/-- The tokens of a JSON text. -/
inductive Token where
  | leftBrace
  | rightBrace
  | leftBracket
  | rightBracket
  | colon
  | comma
  | null
  | bool (value : Bool)
  | int (value : Int)
  | float (value : Float)
  /-- A number beyond the range of floating point. -/
  | hugeNumber
  /-- A string, or none where it has half of a surrogate pair. -/
  | str (value : Option String)

/-! ### Numbers -/

/-- The digits at the head of a list of characters, and the rest. -/
def spanDigits (cs : List Char) : List Char × List Char := cs.span Char.isDigit

/-- The value of a list of digits. -/
def digitsValue (digits : List Char) : Nat :=
  digits.foldl (fun n c => 10 * n + (c.toNat - '0'.toNat)) 0

/-- The fraction digits after a decimal point, and the rest; a point needs a digit after it. -/
def spanFraction : List Char → Option (List Char × List Char)
  | '.' :: rest =>
    let (digits, rest) := spanDigits rest
    if digits.isEmpty then none else some (digits, rest)
  | rest => some ([], rest)

/-- The exponent at the end of a number: nothing, or a letter, an optional sign and digits. -/
def readExponent : List Char → Option Int
  | [] => some 0
  | letter :: rest =>
    if letter = 'e' ∨ letter = 'E' then
      let (negative, digits) := match rest with
        | '-' :: digits => (true, digits)
        | '+' :: digits => (false, digits)
        | digits => (false, digits)
      if digits.isEmpty || !digits.all Char.isDigit then none
      else some (if negative then -(digitsValue digits : Int) else digitsValue digits)
    else none

/-- Appends digits to a number for as long as it stays below `2 ^ 64`, and gives the digits left
over. -/
def absorb (n : Nat) : List Char → Nat × List Char
  | [] => (n, [])
  | c :: rest =>
    let next := 10 * n + (c.toNat - '0'.toNat)
    if next < UInt64.size then absorb next rest else (n, c :: rest)

/-- The token of an integer of 64 bits, if it is one. Zero with a minus sign is none. -/
def integerToken? (negative : Bool) (n : Nat) : Option Token :=
  if !negative then some (.int n)
  else if 0 < n ∧ Int64.minValue.toInt ≤ -(n : Int) then some (.int (-n))
  else none

/-- The token of a number in floating point. -/
def floatToken (negative : Bool) (significand : Nat) (exponent : Int) : Token :=
  match Decimal.scaled? (UInt64.ofNat significand) exponent with
  | some x => .float (if negative then -x else x)
  | none => .hugeNumber

/-- The token of a number. Without fraction and exponent it is an integer, where it fits 64 bits.
Any other number is scaled from the digits that fit 64 bits; a digit of its whole part that does
not fit only counts as a place, and one of its fraction is dropped. -/
def readNumber? (negative : Bool) (cs : List Char) : Option Token := do
  let (whole, rest) := spanDigits cs
  if whole.isEmpty || (whole.head? == some '0' && whole != ['0']) then none
  let (fraction, tail) ← spanFraction rest
  let exponent ← readExponent tail
  let (leading, places) := absorb 0 whole
  let (significand, dropped) := absorb leading fraction
  let scaled := floatToken negative significand
    (exponent + places.length - (fraction.length - dropped.length))
  if rest.isEmpty && places.isEmpty then
    return (integerToken? negative leading).getD scaled
  return scaled

/-- **Words.** The token of a word: a name or a number. -/
def readWord? (word : List Char) : Option Token :=
  if word = "null".toList then some .null
  else if word = "true".toList then some (.bool true)
  else if word = "false".toList then some (.bool false)
  else
    match word with
    | '-' :: rest => readNumber? true rest
    | _ => readNumber? false word

/-! ### Strings -/

/-- A unit of a string: a character, or half of a surrogate pair. -/
inductive StringUnit where
  | char (c : Char)
  | surrogate (code : Nat)

/-- The unit with a code of at most 16 bits. -/
def StringUnit.ofCode (code : Nat) : StringUnit :=
  if 0xD800 ≤ code ∧ code < 0xE000 then surrogate code else char (Char.ofNat code)

/-- The characters of a list of units. Two halves of a pair in the right order make one character;
any other half has no reading. -/
def joinUnits : List StringUnit → Option (List Char)
  | [] => some []
  | .char c :: rest => (joinUnits rest).map (c :: ·)
  | .surrogate high :: .surrogate low :: rest =>
    if high < 0xDC00 ∧ 0xDC00 ≤ low then
      let code := 0x10000 + (high - 0xD800) * 0x400 + (low - 0xDC00)
      (joinUnits rest).map (Char.ofNat code :: ·)
    else none
  | .surrogate _ :: _ => none

/-- The token of a string, from its units in reverse. -/
def stringToken (reversed : List StringUnit) : Token :=
  .str ((joinUnits reversed.reverse).map String.ofList)

/-- The character that a letter after a backslash stands for. -/
def shortEscape? : Char → Option Char
  | '"' => some '"'
  | '\\' => some '\\'
  | '/' => some '/'
  | 'b' => some '\x08'
  | 'f' => some '\x0c'
  | 'n' => some '\n'
  | 'r' => some '\r'
  | 't' => some '\t'
  | _ => none

/-- The value of a hexadecimal digit. -/
def hexValue? (c : Char) : Option Nat :=
  if '0' ≤ c ∧ c ≤ '9' then some (c.toNat - '0'.toNat)
  else if 'a' ≤ c ∧ c ≤ 'f' then some (c.toNat - 'a'.toNat + 10)
  else if 'A' ≤ c ∧ c ≤ 'F' then some (c.toNat - 'A'.toNat + 10)
  else none

/-! ### The machine -/

/-- Where the machine stands. Characters and units read so far are kept in reverse. -/
inductive ScanMode where
  | between
  | word (chars : List Char)
  | string (units : List StringUnit)
  | escape (units : List StringUnit)
  /-- In the digits of a code, with the number of digits still to come. -/
  | code (units : List StringUnit) (missing value : Nat)

/-- The machine: its place, and the tokens read so far in reverse. -/
structure Scan where
  mode : ScanMode
  tokens : List Token

namespace Scan

/-- The machine before the first character. -/
def start : Scan := ⟨.between, []⟩

/-- Whether a character belongs to a word. -/
def isWordChar (c : Char) : Bool :=
  c.isAlphanum || c == '-' || c == '+' || c == '.'

/-- The token of a punctuation character. -/
def punctuation? : Char → Option Token
  | '{' => some .leftBrace
  | '}' => some .rightBrace
  | '[' => some .leftBracket
  | ']' => some .rightBracket
  | ':' => some .colon
  | ',' => some .comma
  | _ => none

/-- The step from between two tokens. -/
def stepBetween (tokens : List Token) (c : Char) : Option Scan :=
  if c = ' ' ∨ c = '\t' ∨ c = '\n' ∨ c = '\r' then some ⟨.between, tokens⟩
  else if c = '"' then some ⟨.string [], tokens⟩
  else if isWordChar c then some ⟨.word [c], tokens⟩
  else (punctuation? c).map fun t => ⟨.between, t :: tokens⟩

/-- The step of the machine over one character. -/
def step (s : Scan) (c : Char) : Option Scan :=
  match s.mode with
  | .between => stepBetween s.tokens c
  | .word chars =>
    if isWordChar c then some { s with mode := .word (c :: chars) }
    else do
      let token ← readWord? chars.reverse
      stepBetween (token :: s.tokens) c
  | .string units =>
    if c = '"' then some ⟨.between, stringToken units :: s.tokens⟩
    else if c = '\\' then some { s with mode := .escape units }
    else if c.toNat < 0x20 then none
    else some { s with mode := .string (.char c :: units) }
  | .escape units =>
    if c = 'u' then some { s with mode := .code units 4 0 }
    else (shortEscape? c).map fun e => { s with mode := .string (.char e :: units) }
  | .code units missing value => do
    let digit ← hexValue? c
    let value := 16 * value + digit
    if missing ≤ 1 then return { s with mode := .string (.ofCode value :: units) }
    return { s with mode := .code units (missing - 1) value }

/-- The tokens at the end of the text. -/
def finish? (s : Scan) : Option (List Token) :=
  match s.mode with
  | .between => some s.tokens.reverse
  | .word chars => do return ((← readWord? chars.reverse) :: s.tokens).reverse
  | _ => none

end Scan

/-- **Tokens.** The tokens of a JSON text, or nothing where a character or word is out of place. -/
def tokens? (text : List Char) : Option (List Token) := do
  (← text.foldlM Scan.step Scan.start).finish?

end VectorTrial.Json
