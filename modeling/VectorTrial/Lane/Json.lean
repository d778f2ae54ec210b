import VectorTrial.Json.Decode
import VectorTrial.Lane.Shape

/-!
# Shapes in JSON

The stored form of shapes: the scalar by its name, a vector shape with the names of its register
width and lane width.

## Main definitions

* `VectorTrial.Shape.toJson`, `VectorTrial.Shape.ofJson?` — the stored form and its reader.

## Main results

* `VectorTrial.Shape.ofJson?_toJson` — a stored shape is read back.
-/

namespace VectorTrial

/-- The lane width of a name. -/
def LaneWidth.ofName? (name : String) : Option LaneWidth := all.find? fun w => w.name == name

/-- The register width of a name. -/
def VectorWidth.ofName? (name : String) : Option VectorWidth := all.find? fun w => w.name == name

namespace Shape

/-- The name of the scalar shape. -/
def scalarName : String := "Scalar32"

/-- The name that vector shapes share. -/
def vectorName : String := "Vector"

/-- The stored form of a shape. -/
def toJson : Shape → Json
  | vector width lane =>
    .obj [(vectorName, .obj [("width", .str width.name), ("lane", .str lane.name)])]
  | scalar32 => .str scalarName

/-- The vector shape with stored contents. -/
def vectorOfJson? (contents : Json) : Option Shape := do
  match ← contents.record? ["width", "lane"] with
  | [width, lane] =>
    return vector (← VectorWidth.ofName? (← width.name?)) (← LaneWidth.ofName? (← lane.name?))
  | _ => none

/-- **Reading shapes.** The shape with a stored form. -/
def ofJson? (j : Json) : Option Shape := do
  match ← j.alternative? with
  | (name, some contents) =>
    if name = vectorName then vectorOfJson? contents
    else if j.name? = some scalarName then some scalar32 else none
  | (name, none) => if name = scalarName then some scalar32 else none

theorem ofJson?_toJson (s : Shape) : ofJson? s.toJson = some s := by
  rcases s with ⟨w, lane⟩ | _
  · cases w <;> cases lane <;> decide
  · decide

end Shape

end VectorTrial
