/-!
# JSON values

The values that JSON texts stand for. An object keeps its members in order and may hold a name
twice, since a reader has to see both. One further value stands for parts of a text that are
well formed and still have no value: a number beyond the range of floating point, or a string
with half of a surrogate pair. Such a part does no harm where it is skipped.

## Main definitions

* `VectorTrial.Json` — values.
* `VectorTrial.Json.isHeldWithin` — whether a value can be kept as a whole.
-/

namespace VectorTrial

/-- **JSON values.** -/
inductive Json where
  | null
  | bool (value : Bool)
  | int (value : Int)
  | float (value : Float)
  | str (value : String)
  | arr (items : List Json)
  | obj (members : List (String × Json))
  /-- A well-formed part of a text without a value. -/
  | unreadable

namespace Json

/-- A natural number. -/
def nat (n : Nat) : Json := int n

/-- A value, or `null` in its absence. -/
def ofOption {α : Type} (f : α → Json) : Option α → Json
  | some a => f a
  | none => null

/-- A list of texts. -/
def strings (texts : List String) : Json := arr (texts.map str)

/-- The members of an object. -/
def members : Json → List (String × Json)
  | obj members => members
  | _ => []

/-- An object without the members of a name. -/
def without (name : String) : Json → Json
  | obj members => obj (members.filter fun m => m.1 != name)
  | j => j

mutual

/-- **Values held whole.** Whether a value has a reading throughout and nests arrays and objects at
most `levels` deep. -/
def isHeldWithin (levels : Nat) : Json → Bool
  | null | bool _ | int _ | float _ | str _ => true
  | arr items => 0 < levels && allHeldWithin (levels - 1) items
  | obj members => 0 < levels && membersHeldWithin (levels - 1) members
  | unreadable => false

/-- Whether all values of a list are held within a number of levels. -/
def allHeldWithin (levels : Nat) : List Json → Bool
  | [] => true
  | j :: rest => isHeldWithin levels j && allHeldWithin levels rest

/-- Whether the values of all members of a list are held within a number of levels. -/
def membersHeldWithin (levels : Nat) : List (String × Json) → Bool
  | [] => true
  | (_, j) :: rest => isHeldWithin levels j && membersHeldWithin levels rest

end

end Json

end VectorTrial
