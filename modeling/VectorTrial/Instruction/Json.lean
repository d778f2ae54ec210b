import VectorTrial.Instruction.Catalog
import VectorTrial.Lane.Json

/-!
# Catalog entries in JSON

The stored form of a row of the catalog: its names, the processor features that it needs and the
layouts of its operands and its result.

## Main definitions

* `VectorTrial.Entry.toJson` — the stored form.
-/

namespace VectorTrial

/-- The stored form of an entry. What the instruction computes is no part of it. -/
def Entry.toJson (e : Entry) : Json :=
  .obj [("name", .str e.name), ("symbol", .str e.symbol), ("native_fn", .str e.nativeFunction),
    ("features", .strings (e.features.map Feature.name)), ("op0", e.first.toJson),
    ("op1", e.second.toJson), ("ret", e.result.toJson)]

end VectorTrial
