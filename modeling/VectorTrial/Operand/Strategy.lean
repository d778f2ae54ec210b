/-!
# Strategies for drawing lanes

Lanes are drawn uniformly, from a table of boundary values, or from one of the two at the toss of
a coin.

## Main definitions

* `VectorTrial.Strategy` — the three strategies.
* `VectorTrial.Strategy.ofText` — the strategy of a name as a user writes it.
-/

namespace VectorTrial

/-- How the lanes of an operand are drawn. -/
inductive Strategy where
  /-- Uniformly over the whole range of a lane. -/
  | uniform
  /-- From a table of boundary values. -/
  | interesting
  /-- Each lane in one of the two ways, as a coin decides. -/
  | mixed
  deriving DecidableEq, Repr

namespace Strategy

/-- All strategies. -/
def all : List Strategy := [uniform, interesting, mixed]

/-- The name of a strategy. -/
def name : Strategy → String
  | uniform => "uniform"
  | interesting => "interesting"
  | mixed => "mixed"

/-- The strategy of a name, in which ASCII letters of either case are equal. -/
def ofText (text : String) : Except String Strategy :=
  let lower := text.map Char.toLower
  match all.find? fun s => s.name == lower with
  | some s => .ok s
  | none => .error ("unknown input strategy '" ++ lower ++ "'")

theorem map_toLower_name (s : Strategy) : s.name.map Char.toLower = s.name := by
  cases s <;> decide +kernel

theorem find?_name (s : Strategy) : (all.find? fun t => t.name == s.name) = some s := by
  cases s <;> decide +kernel

theorem ofText_name (s : Strategy) : ofText s.name = .ok s := by
  simp only [ofText, map_toLower_name, find?_name]

end Strategy

end VectorTrial
