/-!
# The progress bar

A bar on one line of the terminal, drawn anew over itself as a run goes on.

## Main definitions

* `VectorTrial.CommandLine.Progress.draw` — the bar for a part of the work.
-/

namespace VectorTrial.CommandLine.Progress

/-- The number of columns of the bar. -/
def width : Nat := 70

/-- The part of the work that is done, as a number between zero and one. -/
def fraction (done total : Nat) : Float :=
  (UInt64.ofNat (min done total)).toFloat / (UInt64.ofNat total).toFloat

/-- The character in a column of the bar, whose tip is at a position. -/
def column (position index : Nat) : Char :=
  if index < position then '=' else if index = position then '>' else ' '

/-- **The bar** for a part of the work. No work at all has no bar. -/
def draw (done total : Nat) : String :=
  if total = 0 then ""
  else
    let part := fraction done total
    let position := (part * Float.ofNat width).toUInt64.toNat
    "[" ++ String.ofList ((List.range width).map (column position)) ++ "] " ++
      toString (part * 100).toUInt32 ++ " %\r"

/-- The end of the line of the bar. -/
def finish : String := "\n"

end VectorTrial.CommandLine.Progress
