/-!
# Decimal numbers as floating point

The floating-point number that stands for a whole number of 64 bits times a power of ten. It is
found with one rounded product or quotient for each power that floating point holds, so it need
not be the nearest one, and just below the limit of the range it may already be out of range.

## Main definitions

* `VectorTrial.Decimal.powerOfTen` — the powers of ten.
* `VectorTrial.Decimal.scaled?` — a scaled number, unless it is out of range.
-/

namespace VectorTrial.Decimal

/-- The exponent of the greatest power of ten in the range of floating point. -/
def maxExponent : Nat := 308

/-- The floating-point number nearest to a power of ten. -/
def powerOfTen (exponent : Nat) : Float := Float.ofScientific 1 false exponent

/-- A number divided by a power of ten, in steps of the greatest one. What has become zero stays
zero. -/
def scaleDown (x : Float) (places : Nat) : Float :=
  if places ≤ maxExponent then x / powerOfTen places
  else if x == 0 then x
  else scaleDown (x / powerOfTen maxExponent) (places - maxExponent)
termination_by places
decreasing_by simp only [maxExponent] at *; omega

/-- A number multiplied by a power of ten, unless the product is out of range. -/
def scaleUp? (x : Float) (places : Nat) : Option Float :=
  if x == 0 then some x
  else if maxExponent < places then none
  else
    let product := x * powerOfTen places
    if product.isInf then none else some product

/-- **Scaled numbers.** The floating-point number for `significand * 10 ^ exponent`, or nothing
where it is out of range. -/
def scaled? (significand : UInt64) (exponent : Int) : Option Float :=
  if exponent < 0 then some (scaleDown significand.toFloat exponent.natAbs)
  else scaleUp? significand.toFloat exponent.natAbs

end VectorTrial.Decimal
