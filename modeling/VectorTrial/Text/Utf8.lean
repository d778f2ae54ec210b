/-!
# Reading bytes as UTF-8 text

Programs started by a run answer in bytes. Bytes that are not UTF-8 are not refused: every longest
start of a character that the bytes break off, and every byte that starts no character, is read as
the replacement character.

## Main definitions

* `VectorTrial.Text.Utf8.Pending` — a character whose continuation bytes are still owed.
* `VectorTrial.Text.Utf8.decodeLossy` — the text of a list of bytes.
-/

namespace VectorTrial.Text.Utf8

/-- The replacement character. -/
def replacement : Char := '\uFFFD'

/-- A character read in part: the continuation bytes still owed, the interval in which the next of
them must lie, and the bits read so far. -/
structure Pending where
  owed : Nat
  low : Nat
  high : Nat
  bits : Nat

/-- The state after the first byte of a character of several bytes, or nothing for a byte that
starts none. The intervals exclude overlong forms, surrogates and values above `0x10FFFF`. -/
def lead? (b : Nat) : Option Pending :=
  if 0xC2 ≤ b ∧ b ≤ 0xDF then some ⟨1, 0x80, 0xBF, b - 0xC0⟩
  else if b = 0xE0 then some ⟨2, 0xA0, 0xBF, 0⟩
  else if b = 0xED then some ⟨2, 0x80, 0x9F, 0xD⟩
  else if 0xE1 ≤ b ∧ b ≤ 0xEF then some ⟨2, 0x80, 0xBF, b - 0xE0⟩
  else if b = 0xF0 then some ⟨3, 0x90, 0xBF, 0⟩
  else if 0xF1 ≤ b ∧ b ≤ 0xF3 then some ⟨3, 0x80, 0xBF, b - 0xF0⟩
  else if b = 0xF4 then some ⟨3, 0x80, 0x8F, 4⟩
  else none

/-- Reads one byte at the start of a character: the characters completed and the state after. -/
def start (b : Nat) : List Char × Option Pending :=
  if b < 0x80 then ([Char.ofNat b], none)
  else
    match lead? b with
    | some p => ([], some p)
    | none => ([replacement], none)

/-- Reads one byte: the characters completed and the state after. A byte that cannot continue the
pending character ends it with a replacement and is then read at the start of a character. -/
def feed : Option Pending → Nat → List Char × Option Pending
  | none, b => start b
  | some p, b =>
    if p.low ≤ b ∧ b ≤ p.high then
      let bits := p.bits * 64 + (b - 0x80)
      if p.owed ≤ 1 then ([Char.ofNat bits], none)
      else ([], some ⟨p.owed - 1, 0x80, 0xBF, bits⟩)
    else
      let next := start b
      (replacement :: next.1, next.2)

/-- The characters of a list of bytes, from a given state. -/
def decodeFrom : Option Pending → List UInt8 → List Char
  | none, [] => []
  | some _, [] => [replacement]
  | state, b :: rest =>
    let next := feed state b.toNat
    next.1 ++ decodeFrom next.2 rest

/-- **Lossy decoding.** The text of a list of bytes, with a replacement character for each
maximal broken part. -/
def decodeLossy (bytes : List UInt8) : String :=
  String.ofList (decodeFrom none bytes)

end VectorTrial.Text.Utf8
