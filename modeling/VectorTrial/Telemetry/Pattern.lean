import VectorTrial.Text.Blank
import VectorTrial.Text.Hexadecimal
import VectorTrial.Text.LetterOrNumber

/-!
# Patterns of values

The patterns with which a filter describes values: characters, alternatives, groups, repetitions
and sets of characters in brackets. Escapes are resolved first, which leaves symbols; these are then
read against the groups that are open.

Which characters outside ASCII are digits, belong to words or have two cases is not known here. So
classes by letter, edges of words and letters of either case are refused while characters of all
scripts are matched as a whole. A flag ends this; then whatever could match a part of a character is
refused.

## Main definitions

* `VectorTrial.Telemetry.Pattern.Symbol` — the symbols.
* `VectorTrial.Telemetry.Pattern.isWellFormed` — whether a text is a pattern.
-/

namespace VectorTrial.Telemetry.Pattern

/-! ### Symbols -/

/-- **Symbols.** What a pattern consists of after its escapes have been resolved. -/
inductive Symbol where
  /-- A character without an escape. It may be an operator. -/
  | plain (c : Char)
  /-- A character that an escape stands for. -/
  | escaped (c : Char)
  /-- A class that a letter names, or all characters outside it. -/
  | category ( isComplement : Bool)
  /-- A place between characters: an end of the text, or an edge of a word. -/
  | place (ofWord : Bool)
  deriving DecidableEq, Repr

/-- The characters that escaped letters stand for. -/
def controls : List (Char × Char) :=
  [('a', '\x07'), ('f', '\x0c'), ('t', '\t'), ('n', '\n'), ('r', '\r'), ('v', '\x0b')]

/-- The symbol of an escaped character. Of the ASCII characters the letters and digits need a
meaning, and all others stand for themselves. -/
def ofEscape? (c : Char) : Option Symbol :=
  if ['d', 's', 'w'].contains c then some (.category false)
  else if ['D', 'S', 'W'].contains c then some (.category true)
  else if ['A', 'z'].contains c then some (.place false)
  else if ['b', 'B', '<', '>'].contains c then some (.place true)
  else if c.toNat < 128 && !c.isAlphanum then some (.escaped c)
  else (controls.lookup c).map .escaped

/-- The symbol of a code point that hexadecimal digits give. -/
def ofCode? (digits : List Char) : Option Symbol :=
  (Text.readHex? digits).bind fun n => if n.isValidChar then some (.escaped (.ofNat n)) else none

/-- The symbols of a pattern, where every escape has a meaning. -/
def symbols? : List Char → Option (List Symbol)
  | [] => some []
  | '\\' :: rest =>
    match rest with
    | 'x' :: a :: b :: rest => return (← ofCode? [a, b]) :: (← symbols? rest)
    | 'u' :: a :: b :: c :: d :: rest => return (← ofCode? [a, b, c, d]) :: (← symbols? rest)
    | 'U' :: a :: b :: c :: d :: e :: f :: g :: h :: rest =>
      return (← ofCode? [a, b, c, d, e, f, g, h]) :: (← symbols? rest)
    | c :: rest => return (← ofEscape? c) :: (← symbols? rest)
    | [] => none
  | c :: rest => return .plain c :: (← symbols? rest)

/-- The characters of symbols that are all plain. -/
def plainText? (symbols : List Symbol) : Option (List Char) :=
  symbols.mapM fun
    | .plain c => some c
    | _ => none

/-! ### Flags -/

/-- How the symbols of a pattern are understood. -/
structure Flags where
  /-- Whether both cases of a letter are matched. -/
  ignoreCase : Bool
  /-- Whether characters of all scripts are matched as a whole. -/
  wholeCharacters : Bool
  /-- Whether blanks and comments between symbols are left out. -/
  spaced : Bool
  deriving DecidableEq, Repr

namespace Flags

/-- The flags at the start of a pattern. -/
def standard : Flags := ⟨false, true, false⟩

/-- Whether characters can be matched. -/
def admitsCharacters (f : Flags) : Bool := !(f.ignoreCase && f.wholeCharacters)

/-- Whether a symbol that is no operator can be matched. -/
def admits (f : Flags) : Symbol → Bool
  | .plain _ => f.admitsCharacters
  | .escaped _ => f.admitsCharacters
  | .category isComplement => !f.wholeCharacters && !isComplement
  | .place ofWord => !f.wholeCharacters || !ofWord

/-- The flags after one of them has been set. -/
def set (f : Flags) (value : Bool) : Char → Flags
  | 'i' => { f with ignoreCase := value }
  | 'u' => { f with wholeCharacters := value }
  | 'x' => { f with spaced := value }
  | _ => f

/-- The letters of the flags. -/
def letters : List Char := ['i', 'm', 's', 'U', 'u', 'R', 'x']

/-- The flags after a text that sets the ones before its minus sign and ends those behind it. No
letter may occur twice, nor the sign, which may not be last. -/
def change? (f : Flags) (text : List Char) : Option Flags :=
  let (on, off) := text.span (· != '-')
  if text.all (fun c => c == '-' || letters.contains c) && text.Nodup && off != ['-'] then
    some (off.foldl (set · false ·) (on.foldl (set · true ·) f))
  else none

end Flags

/-! ### Sets of characters in brackets -/

/-- The names of the classes that may be given between colons. -/
def classNames : List String :=
  ["alnum", "alpha", "ascii", "blank", "cntrl", "digit", "graph", "lower", "print", "punct",
    "space", "upper", "word", "xdigit"]

/-- The symbols without a circumflex at their start, and whether there was one. -/
def stripComplement : List Symbol → Bool × List Symbol
  | .plain '^' :: rest => (true, rest)
  | symbols => (false, symbols)

/-- The symbols after the name of a class between colons and the bracket that closes it, and whether
the class is complemented. -/
def afterClassName? : List Symbol → Option (Bool × List Symbol)
  | .plain ':' :: rest =>
    let ( isComplement, rest) := stripComplement rest
    let (name, rest) := rest.span (· != .plain ':')
    match (plainText? name).map String.ofList, rest with
    | some name, .plain ':' :: .plain ']' :: rest =>
      if classNames.contains name then some ( isComplement, rest) else none
    | _, _ => none
  | _ => none

/-- The symbols after the start of a set: a circumflex, and hyphens or else a closing bracket, which
are members there. -/
def afterSetStart? (f : Flags) (symbols : List Symbol) : Option (List Symbol) :=
  let ( isComplement, rest) := stripComplement symbols
  if f.admitsCharacters && (f.wholeCharacters || ! isComplement) then
    match rest with
    | .plain ']' :: rest => some rest
    | rest => some (rest.dropWhile (· == .plain '-'))
  else none

/-- The character that a symbol stands for in a set. -/
def member? : Symbol → Option Char
  | .plain c => some c
  | .escaped c => some c
  | _ => none

/-- Whether a symbol may be a member of a set. -/
def mayBeMember (f : Flags) (symbol : Symbol) : Bool :=
  match symbol with
  | .place _ => false
  | .category _ => f.admits symbol
  | .plain c => f.wholeCharacters || c.toNat < 128
  | .escaped c => f.wholeCharacters || c.toNat < 128

/-- Whether two symbols bound a range of characters. -/
def isRange (f : Flags) (first last : Symbol) : Bool :=
  match member? first, member? last with
  | some a, some b => mayBeMember f first && mayBeMember f last && a ≤ b
  | _, _ => false

/-- The symbols after the bracket that closes a set, given those after its start and a bound on
their number. -/
def afterSet? (f : Flags) : Nat → List Symbol → Option (List Symbol)
  | 0, _ => none
  | _ + 1, [] => none
  | n + 1, first :: rest =>
    if first = .plain ']' then some rest
    else if first = .plain '[' then
      match afterClassName? rest with
      | some ( isComplement, rest) =>
        if f.wholeCharacters || ! isComplement then afterSet? f n rest else none
      | none => ((afterSetStart? f rest).bind (afterSet? f n)).bind (afterSet? f n)
    else if ['-', '&', '~'].any fun c => first = .plain c && rest.head? = some (.plain c) then
      afterSet? f n (rest.drop 1)
    else
      match rest with
      | .plain '-' :: last :: others =>
        if [.plain ']', .plain '-'].contains last then
          if mayBeMember f first then afterSet? f n rest else none
        else if isRange f first last then afterSet? f n others else none
      | rest => if mayBeMember f first then afterSet? f n rest else none

/-! ### Patterns -/

/-- What is known where a pattern has been read up to some symbol. -/
structure Progress where
  flags : Flags
  /-- The flags that hold again after each open group, the innermost first. -/
  resumed : List Flags
  /-- The names of groups. -/
  names : List (List Char)
  /-- Whether there is something before the symbol that can be repeated. -/
  repeatable : Bool

/-- Whether a text may name a group. -/
def isGroupName : List Char → Bool
  | [] => false
  | c :: rest =>
    (c == '_' || Text.isLetter c) &&
      rest.all fun c => ['_', '.', '[', ']'].contains c || Text.isLetterOrNumber c

namespace Progress

/-- The start of a pattern. -/
def start : Progress := ⟨.standard, [], [], false⟩

/-- The progress into a group. -/
def enter (p : Progress) : Progress :=
  { p with resumed := p.flags :: p.resumed, repeatable := false }

/-- The progress into a named group. -/
def enterNamed? (p : Progress) (symbols : List Symbol) : Option (Progress × List Symbol) :=
  let (name, rest) := symbols.span (· != .plain '>')
  (plainText? name).bind fun name =>
    if isGroupName name && !p.names.contains name && !rest.isEmpty then
      some ({ p.enter with names := name :: p.names }, rest.drop 1)
    else none

/-- The progress through flags, which hold in a group of their own or up to the end of this one. -/
def changeFlags? (p : Progress) (symbols : List Symbol) : Option (Progress × List Symbol) :=
  let (text, rest) := symbols.span fun s => s != .plain ':' && s != .plain ')'
  ((plainText? text).bind p.flags.change?).bind fun flags =>
    match rest with
    | .plain ':' :: rest => some ({ p.enter with flags }, rest)
    | .plain _ :: rest =>
      if text.isEmpty then none else some ({ p with flags, repeatable := false }, rest)
    | _ => none

/-- The progress after an opening parenthesis. -/
def openGroup? (p : Progress) : List Symbol → Option (Progress × List Symbol)
  | .plain '?' :: .plain 'P' :: .plain '<' :: rest => p.enterNamed? rest
  | .plain '?' :: .plain '<' :: rest => p.enterNamed? rest
  | .plain '?' :: rest => p.changeFlags? rest
  | rest => some (p.enter, rest)

/-- The progress after a closing parenthesis. -/
def closeGroup? (p : Progress) : Option Progress :=
  match p.resumed with
  | [] => none
  | flags :: resumed => some { p with flags, resumed, repeatable := true }

/-- The progress after an operator or another plain character. A repetition may be followed by a
question mark. A counted one would be closed by a brace, which ends a field, so there is none. -/
def plain? (p : Progress) (c : Char) (rest : List Symbol) : Option (Progress × List Symbol) :=
  match c with
  | '(' => p.openGroup? rest
  | ')' => p.closeGroup?.map (·, rest)
  | '[' => do
    let rest ← afterSetStart? p.flags rest
    let rest ← afterSet? p.flags (rest.length + 1) rest
    return ({ p with repeatable := true }, rest)
  | '|' => some ({ p with repeatable := false }, rest)
  | '\x7b' => none
  | '.' => if p.flags.wholeCharacters then some ({ p with repeatable := true }, rest) else none
  | c =>
    if ['*', '+', '?'].contains c then
      if p.repeatable then some (p, if rest.head? = some (.plain '?') then rest.drop 1 else rest)
      else none
    else if ['^', '$'].contains c || p.flags.admitsCharacters then
      some ({ p with repeatable := true }, rest)
    else none

/-- The progress after the first of the symbols. -/
def step? (p : Progress) : Symbol → List Symbol → Option (Progress × List Symbol)
  | .plain c, rest =>
    if p.flags.spaced && Text.isBlank c then some (p, rest)
    else if p.flags.spaced && c == '#' then some (p, rest.dropWhile (· != .plain '\n'))
    else p.plain? c rest
  | symbol, rest =>
    if p.flags.admits symbol then some ({ p with repeatable := true }, rest) else none

/-- Whether symbols complete a pattern, given a bound on their number. All groups must be closed. -/
def completes : Nat → Progress → List Symbol → Bool
  | _, p, [] => p.resumed.isEmpty
  | 0, _, _ => false
  | n + 1, p, symbol :: rest =>
    match p.step? symbol rest with
    | some (p, rest) => completes n p rest
    | none => false

end Progress

/-- **Patterns.** Whether a text is a pattern. -/
def isWellFormed (text : List Char) : Bool :=
  match symbols? text with
  | some symbols => Progress.start.completes symbols.length symbols
  | none => false

@[simp] theorem isWellFormed_nil : isWellFormed [] = true := rfl

end VectorTrial.Telemetry.Pattern
