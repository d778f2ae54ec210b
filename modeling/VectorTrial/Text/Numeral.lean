/-!
# Decimal numerals

The grammar of the numbers that a user may type. A whole number is an optional plus sign followed
by one or more ASCII digits, with a value below a bound. Leading zeros are allowed; a minus sign,
blanks, separators and digits of other scripts are not. A real number may have either sign, a
fraction and an exponent, or be a word for infinity or for no number.

## Main definitions

* `VectorTrial.Text.numeralValue` — the value of a list of digits.
* `VectorTrial.Text.readUnsigned?` — the reader of whole numbers, for a given bound.
* `VectorTrial.Text.isReal` — whether a text is a real number.
-/

namespace VectorTrial.Text

/-- The value of a list of decimal digits, most significant first. -/
def numeralValue (digits : List Char) : Nat :=
  digits.foldl (fun n c => 10 * n + (c.toNat - '0'.toNat)) 0

/-- The characters of a numeral after its optional plus sign. -/
def dropPlus : List Char → List Char
  | '+' :: rest => rest
  | cs => cs

/-- **Unsigned numerals.** Reads an optional plus sign and one or more ASCII digits whose value is
below `bound`; any other text is refused. -/
def readUnsigned? (bound : Nat) (cs : List Char) : Option Nat :=
  let digits := dropPlus cs
  if digits.isEmpty || !digits.all Char.isDigit then none
  else if numeralValue digits < bound then some (numeralValue digits) else none

/-- Reads a numeral of at most 64 bits. -/
def readWord64? (s : String) : Option Nat :=
  readUnsigned? UInt64.size s.toList

/-- Reads a numeral of at most 32 bits. -/
def readWord32? (s : String) : Option Nat :=
  readUnsigned? UInt32.size s.toList

/-! ### Real numbers -/

/-- The characters after an optional sign. -/
def dropSign : List Char → List Char
  | '+' :: rest => rest
  | '-' :: rest => rest
  | cs => cs

/-- Whether a text is nothing, or the letter of an exponent and a whole number of either sign. -/
def isExponent : List Char → Bool
  | [] => true
  | c :: rest =>
    let digits := dropSign rest
    c.toLower == 'e' && !digits.isEmpty && digits.all Char.isDigit

/-- Whether a text is a number without a sign: digits with at most one point among them or at one
of their ends, and then perhaps an exponent. -/
def isMagnitude (cs : List Char) : Bool :=
  let (whole, rest) := cs.span Char.isDigit
  match rest with
  | '.' :: rest =>
    let (fraction, rest) := rest.span Char.isDigit
    !(whole ++ fraction).isEmpty && isExponent rest
  | rest => !whole.isEmpty && isExponent rest

/-- The words for what digits cannot write. -/
def realWords : List String := ["inf", "infinity", "nan"]

/-- **Real numbers.** Whether a text is a real number with an optional sign. -/
def isReal (cs : List Char) : Bool :=
  let unsigned := dropSign cs
  realWords.contains (String.ofList (unsigned.map Char.toLower)) || isMagnitude unsigned

end VectorTrial.Text
