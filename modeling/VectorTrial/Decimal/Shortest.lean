/-!
# Shortest decimals

A floating-point number stands for an interval of real numbers, those that round to it. It is
written with the fewest decimal digits of a number in that interval, and of the numbers with so
few digits with the one nearest to it.

## Main definitions

* `VectorTrial.Decimal.Binary` — a positive number `mantissa * 2 ^ exponent`.
* `VectorTrial.Decimal.shortest` — its shortest decimal.
* `VectorTrial.Decimal.text` — the written form of a floating-point number.
-/

namespace VectorTrial.Decimal

/-- A positive finite number `mantissa * 2 ^ exponent`, and whether its lower neighbour is only
half as far away as its upper one. -/
structure Binary where
  mantissa : Nat
  exponent : Int
  narrowBelow : Bool

/-- The value of the leading bit of a mantissa, which is not stored. -/
def hidden : Nat := Nat.pow 2 52

/-- The magnitude of a finite floating-point number other than zero, from its bits. -/
def Binary.ofBits (bits : UInt64) : Binary :=
  let fraction : Nat := bits.toNat % hidden
  let scale : Nat := bits.toNat / hidden % 2048
  if scale = 0 then ⟨fraction, -1074, false⟩
  else ⟨hidden + fraction, (scale : Int) - 1075, fraction == 0 && 1 < scale⟩

/-- The point `digits * 10 ^ exponent` of the decimal grid of an exponent. -/
structure GridPoint where
  digits : Nat
  exponent : Int
  deriving DecidableEq

/-- Four times a number as a fraction, and the ends of four times its interval over the same
denominator. -/
structure Interval where
  low : Nat
  value : Nat
  high : Nat
  denominator : Nat
  closed : Bool

/-- The interval of the numbers that round to a binary number. An end belongs to it when the
mantissa is even. -/
def Binary.interval (b : Binary) : Interval :=
  let up := Nat.pow 2 b.exponent.toNat
  let down := Nat.pow 2 (-b.exponent).toNat
  let below := if b.narrowBelow then 1 else 2
  ⟨(4 * b.mantissa - below) * up, 4 * b.mantissa * up, (4 * b.mantissa + 2) * up, 4 * down,
    b.mantissa % 2 == 0⟩

/-- Whether a decimal lies in an interval. -/
def Interval.holds (i : Interval) (d : GridPoint) : Bool :=
  let scaled := d.digits * Nat.pow 10 d.exponent.toNat * i.denominator
  let shift := Nat.pow 10 (-d.exponent).toNat
  if i.closed then i.low * shift ≤ scaled && scaled ≤ i.high * shift
  else i.low * shift < scaled && scaled < i.high * shift

/-- The neighbours of the value of an interval on the grid of a power of ten, the nearer first. -/
def Interval.neighbours (i : Interval) (exponent : Int) : List GridPoint :=
  let numerator := i.value * Nat.pow 10 (-exponent).toNat
  let denominator := i.denominator * Nat.pow 10 exponent.toNat
  let below := numerator / denominator
  let rest := numerator % denominator
  let lower : GridPoint := ⟨below, exponent⟩
  let upper : GridPoint := ⟨below + 1, exponent⟩
  if 2 * rest < denominator ∨ (2 * rest = denominator ∧ below % 2 = 0) then [lower, upper]
  else [upper, lower]

/-- The exponents of the grids to try, the coarsest first. -/
def gridExponents : List Int := (List.range 634).map fun k => 309 - Int.ofNat k

/-- **Shortest decimals.** The number nearest to a binary number on the coarsest decimal grid that
has a number in its interval. -/
def shortest (b : Binary) : Option GridPoint :=
  let i := b.interval
  gridExponents.findSome? fun e => (i.neighbours e).find? i.holds

/-- The greatest number of digits before the point that are written without an exponent. -/
def longestWhole : Int := 16

/-- The place of the point, counted from the first digit, from which on an exponent is written. -/
def smallestPoint : Int := -5

/-- The digits of a decimal with a point or an exponent. -/
def GridPoint.text (d : GridPoint) : String :=
  let digits := toString d.digits
  let point : Int := digits.length + d.exponent
  let zeros (n : Nat) : String := String.ofList (List.replicate n '0')
  if 0 ≤ d.exponent ∧ point ≤ longestWhole then digits ++ zeros d.exponent.toNat ++ ".0"
  else if 0 < point ∧ point ≤ longestWhole then
    String.ofList (digits.toList.take point.toNat) ++ "." ++
      String.ofList (digits.toList.drop point.toNat)
  else if smallestPoint < point ∧ point ≤ 0 then "0." ++ zeros (-point).toNat ++ digits
  else
    let tail := digits.toList.drop 1
    String.ofList (digits.toList.take 1) ++
      (if tail.isEmpty then "" else "." ++ String.ofList tail) ++ "e" ++ toString (point - 1)

/-- **Written numbers.** The text of a finite floating-point number, or nothing for any other. -/
def text (x : Float) : Option String :=
  if x.isNaN || x.isInf then none
  else
    let bits := x.toBits
    let sign := if bits >>> 63 = 1 then "-" else ""
    if bits <<< 1 = 0 then some (sign ++ "0.0")
    else (shortest (.ofBits bits)).map fun d => sign ++ d.text

end VectorTrial.Decimal
