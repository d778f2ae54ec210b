/-!
# Hexadecimal numerals

Lower-case hexadecimal text of bytes and of code points, and the value of hexadecimal digits.

## Main definitions

* `VectorTrial.Text.hexByte` — a byte as two digits.
* `VectorTrial.Text.hexNumeral` — a number without leading zeros.
* `VectorTrial.Text.readHex?` — the value of digits of either case.
-/

namespace VectorTrial.Text

/-- The lower-case hexadecimal digit of a number below sixteen. -/
def hexDigit (n : Nat) : Char :=
  if n < 10 then Char.ofNat ('0'.toNat + n) else Char.ofNat ('a'.toNat + (n - 10))

/-- A byte as two hexadecimal digits. -/
def hexByte (b : UInt8) : List Char :=
  [hexDigit (b.toNat / 16), hexDigit (b.toNat % 16)]

/-- Bytes in order, two hexadecimal digits each. -/
def hexBytes (bytes : List UInt8) : String :=
  String.ofList (bytes.flatMap hexByte)

/-- A number in hexadecimal without leading zeros. -/
def hexNumeral (n : Nat) : List Char :=
  Nat.toDigits 16 n

/-- The value of a hexadecimal digit, which may be a small or a capital letter. -/
def hexValue? (c : Char) : Option Nat :=
  if c.isDigit then some (c.toNat - '0'.toNat)
  else if 'a' ≤ c ∧ c ≤ 'f' then some (10 + (c.toNat - 'a'.toNat))
  else if 'A' ≤ c ∧ c ≤ 'F' then some (10 + (c.toNat - 'A'.toNat))
  else none

/-- The value of a list of hexadecimal digits, most significant first. -/
def readHex? (digits : List Char) : Option Nat :=
  (digits.mapM hexValue?).map (List.foldl (fun n d => 16 * n + d) 0)

@[simp] theorem length_hexByte (b : UInt8) : (hexByte b).length = 2 := rfl

end VectorTrial.Text
