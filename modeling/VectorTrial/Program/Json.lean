import VectorTrial.Json.Decode
import VectorTrial.Program.Function

/-!
# Programs in JSON

The stored forms of types, expressions and requests. Types and expressions are tagged: the member
`kind` or `type` says which form a value has, and may stand at any place among the others.

## Main definitions

* `VectorTrial.Program.Ty.toJson`, `Expr.toJson`, `Definition.toJson` — the stored forms.
* `VectorTrial.Program.Ty.ofJson?`, `Expr.ofJson?`, `Definition.ofJson?` — their readers.
-/

namespace VectorTrial.Program

/-- The number of levels of arrays and objects that a stored value may have. -/
def storedLevels : Nat := 127

/-! ### Types -/

/-- The stored form of a type. -/
def Ty.toJson : Ty → Json
  | int bits => .obj [("kind", .str "int"), ("bits", .nat bits.toNat)]
  | vector lanes bits =>
    .obj [("kind", .str "vector"), ("lanes", .nat lanes.toNat), ("elem_bits", .nat bits.toNat)]

/-- The type of a kind with stored contents. -/
def Ty.ofKind? (kind : String) (contents : Json) : Option Ty :=
  if kind = "int" then do
    match ← contents.record? ["bits"] with
    | [bits] => return int (← bits.word32?)
    | _ => none
  else if kind = "vector" then do
    match ← contents.record? ["lanes", "elem_bits"] with
    | [lanes, bits] => return vector (← lanes.word32?) (← bits.word32?)
    | _ => none
  else none

/-- **Reading types.** The type with a stored form of at most so many levels. -/
def Ty.ofJson? (levels : Nat) (j : Json) : Option Ty :=
  if j.isHeldWithin levels then do
    let (kind, contents) ← j.tagged? "kind"
    Ty.ofKind? (← kind.str?) contents
  else none

/-! ### Expressions -/

/-- The members of the stored form of a literal. -/
def Literal.members (l : Literal) : List (String × Json) :=
  [("value", .int l.value.toInt), ("bits", .nat l.bits.toNat)]

/-- The stored form of a literal. -/
def Literal.toJson (l : Literal) : Json := .obj l.members

/-- The literal with a stored form. -/
def Literal.ofJson? (j : Json) : Option Literal := do
  match ← j.record? ["value", "bits"] with
  | [value, bits] => return ⟨← value.signed64?, ← bits.word32?⟩
  | _ => none

namespace Expr

/-- The tags of expressions, in the order of their numbers. -/
def tags : List String := ["integer_literal", "vector_literal", "variable_reference", "call"]

mutual

/-- The stored form of an expression. -/
def toJson : Expr → Json
  | literal l => .obj (("type", .str "integer_literal") :: l.members)
  | vector elemBits elements =>
    .obj [("type", .str "vector_literal"), ("elem_bits", .nat elemBits.toNat),
      ("elements", .arr (elements.map Literal.toJson))]
  | var name => .obj [("type", .str "variable_reference"), ("name", .str name)]
  | call callee args =>
    .obj [("type", .str "call"), ("callee", .str callee), ("args", .arr (listToJson args))]

/-- The stored forms of some expressions. -/
def listToJson : List Expr → List Json
  | [] => []
  | e :: rest => toJson e :: listToJson rest

end

/-- The tag of an expression. Inside another expression it may be given by its number. -/
def tagOfJson? (nested : Bool) : Json → Option String
  | .str tag => some tag
  | .int n => if nested ∧ 0 ≤ n then tags[n.toNat]? else none
  | _ => none

/-- The expression with a stored form that is at most `fuel` levels deep. -/
def ofNested? : Nat → Bool → Json → Option Expr
  | 0, _, _ => none
  | fuel + 1, nested, j => do
    let (tag, contents) ← j.tagged? "type"
    let tag ← tagOfJson? nested tag
    if tag = "integer_literal" then
      return literal (← Literal.ofJson? contents)
    else if tag = "vector_literal" then
      match ← contents.record? ["elem_bits", "elements"] with
      | [bits, elements] =>
        return vector (← bits.word32?) (← (← elements.arr?).mapM Literal.ofJson?)
      | _ => none
    else if tag = "variable_reference" then
      match ← contents.record? ["name"] with
      | [name] => return var (← name.str?)
      | _ => none
    else if tag = "call" then
      match ← contents.record? ["callee", "args"] with
      | [callee, args] =>
        return call (← callee.str?) (← (← args.arr?).mapM (ofNested? fuel true))
      | _ => none
    else none

/-- **Reading expressions.** The expression with a stored form of at most so many levels. -/
def ofJson? (levels : Nat) (j : Json) : Option Expr :=
  if j.isHeldWithin levels then ofNested? (levels + 1) false j else none

end Expr

/-! ### Requests -/

/-- The stored form of a prototype. -/
def Prototype.toJson (p : Prototype) : Json :=
  .obj [("name", .str p.name), ("ret", p.ret.toJson), ("params", .arr (p.params.map Ty.toJson))]

/-- The prototype with a stored form of at most so many levels. -/
def Prototype.ofJson? (levels : Nat) (j : Json) : Option Prototype := do
  match ← j.record? ["name", "ret", "params"] with
  | [name, ret, params] =>
    let types ← (← params.arr?).mapM (Ty.ofJson? (levels - 2))
    return ⟨← name.str?, ← Ty.ofJson? (levels - 1) ret, types⟩
  | _ => none

/-- The stored form of a request. -/
def Definition.toJson (d : Definition) : Json :=
  .obj [("prototype", d.prototype.toJson), ("body", d.body.toJson)]

/-- **Reading requests.** The request with a stored form of at most so many levels. -/
def Definition.ofJson? (levels : Nat) (j : Json) : Option Definition := do
  match ← j.record? ["prototype", "body"] with
  | [prototype, body] =>
    return ⟨← Prototype.ofJson? (levels - 1) prototype, ← Expr.ofJson? (levels - 1) body⟩
  | _ => none

end VectorTrial.Program
