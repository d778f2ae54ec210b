import VectorTrial.Json.Value

/-!
# Records, alternatives and integers in JSON

The forms in which structured values are stored. A record is an object with each of its fields
once, among members of other names that are passed over, or an array of the fields in their order.
A tagged value has a tag among the members of its object, or at the head of its array.

## Main definitions

* `VectorTrial.Json.record?` — the fields of a record.
* `VectorTrial.Json.tagged?` — the tag of a tagged value and its remaining contents.
* `VectorTrial.Json.alternative?` — the name of an alternative and its contents.
-/

namespace VectorTrial.Json

/-- The only value among the members of a name. -/
def only? (members : List (String × Json)) (name : String) : Option Json :=
  match members.filter fun m => m.1 == name with
  | [(_, value)] => some value
  | _ => none

/-- **Records.** The values of the fields with the given names. Every field must occur exactly
once; other members are passed over. An array must have exactly the fields, in order. -/
def record? (names : List String) : Json → Option (List Json)
  | obj members => names.mapM (only? members)
  | arr items => if items.length = names.length then some items else none
  | _ => none

/-- **Tagged values.** The tag of a value and the value without its tag. -/
def tagged? (tag : String) : Json → Option (Json × Json)
  | obj members => do
    let value ← only? members tag
    return (value, obj (members.filter fun m => m.1 != tag))
  | arr (value :: rest) => some (value, arr rest)
  | _ => none

/-- **Alternatives.** The name of an alternative and what it holds: a bare name holds nothing, and
an object with one member holds the value of that member. -/
def alternative? : Json → Option (String × Option Json)
  | str name => some (name, none)
  | obj [(name, value)] => some (name, some value)
  | _ => none

/-- The name of an alternative that holds nothing, which may be written as holding `null`. -/
def name? (j : Json) : Option String :=
  match alternative? j with
  | some (name, none) => some name
  | some (name, some null) => some name
  | _ => none

/-- The text of a string. -/
def str? : Json → Option String
  | str s => some s
  | _ => none

/-- The items of an array. -/
def arr? : Json → Option (List Json)
  | arr items => some items
  | _ => none

/-- An unsigned integer of 32 bits. -/
def word32? : Json → Option UInt32
  | int n => if 0 ≤ n ∧ n < UInt32.size then some (UInt32.ofNat n.toNat) else none
  | _ => none

/-- A signed integer of 64 bits. -/
def signed64? : Json → Option Int64
  | int n =>
    if Int64.minValue.toInt ≤ n ∧ n ≤ Int64.maxValue.toInt then some (Int64.ofInt n) else none
  | _ => none

end VectorTrial.Json
