/-!
# Sources of random values

What drawing operands asks of a random source: signed integers of each width, coins and picks
below a bound. The rules of drawing hold for every source.

## Main definitions

* `VectorTrial.DrawSource` — random sources.
-/

namespace VectorTrial

/-- **Random sources.** A type of states, each of which yields a value and the next state. -/
class DrawSource (σ : Type) where
  int8 : σ → Int8 × σ
  int16 : σ → Int16 × σ
  int32 : σ → Int32 × σ
  int64 : σ → Int64 × σ
  /-- A coin with two equal sides. -/
  coin : σ → Bool × σ
  /-- A number below a positive bound. -/
  pick (bound : Nat) (positive : 0 < bound) : σ → Fin bound × σ

end VectorTrial
