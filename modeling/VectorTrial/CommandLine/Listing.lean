import VectorTrial.Instruction.Catalog

/-!
# The printed catalog

One line for each catalog entry, in columns: index, name, layouts, native function and processor
features.

## Main definitions

* `VectorTrial.CommandLine.catalogListing` — the printed catalog.
-/

namespace VectorTrial.CommandLine

/-- Blanks that fill a text up to a width. -/
def filler (width : Nat) (text : String) : String :=
  String.ofList (List.replicate (width - text.length) ' ')

/-- A text at the left of a column. -/
def alignLeft (width : Nat) (text : String) : String := text ++ filler width text

/-- A text at the right of a column. -/
def alignRight (width : Nat) (text : String) : String := filler width text ++ text

/-- The layouts of an instruction. -/
def layouts (i : Intrinsic) : String :=
  i.first.text ++ ", " ++ i.second.text ++ " -> " ++ i.result.text

/-- The line of an instruction. -/
def listingLine (i : Intrinsic) : String :=
  alignRight 3 (toString i.index.val) ++ " " ++ alignLeft 24 i.name ++ " " ++
    alignLeft 28 (layouts i) ++ " " ++ alignLeft 24 i.entry.nativeFunction ++ " " ++
    String.intercalate "," i.featureNames ++ "\n"

/-- **The printed catalog.** -/
def catalogListing : String := String.join (Intrinsic.all.map listingLine)

end VectorTrial.CommandLine
