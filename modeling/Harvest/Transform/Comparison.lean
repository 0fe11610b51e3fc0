import Harvest.Transform.Step

/-!
Contract: transforms that read what is stored and compare with it.

`compare` orders two values by number where both denote one, and by text otherwise.
`combine` reads stored values and casts each to a type; a value that has no image in
that type becomes null.
-/

namespace Harvest.Transform

inductive DataType where
  | text
  | integer
  | number
  | truth

def DataType.ofName? (name : String) : Option DataType :=
  if name = "string" then some .text
  else if name = "int" then some .integer
  else if name = "float" then some .number
  else if name = "bool" ∨ name = "boolean" then some .truth
  else none

/-- The least integer of a 64-bit word with a sign. -/
def minInteger : Int := -9223372036854775808

/-- The greatest integer of a 64-bit word with a sign. -/
def maxInteger : Int := 9223372036854775807

/-- The integer that a text spells, when a 64-bit word with a sign holds it. -/
def readInteger? (text : List Char) : Option Int :=
  (Decimal.readInt? text).filter fun value => minInteger ≤ value && value ≤ maxInteger

/-- The integer that a value denotes: exactly when its text spells one, otherwise its number before the
fraction, moved into the range of a 64-bit word with a sign. -/
def toInteger? (value : Json) : Option Int :=
  (readInteger? (Harvest.Text.trimChars value.asText.toList)).or
    (value.asNumber.map (Binary64.truncateWithin minInteger maxInteger))

def DataType.cast (type : DataType) (value : Json) : Json :=
  match type with
  | .text => .string value.asText
  | .integer => Json.optional ((toInteger? value).map .int)
  | .number => Json.optional ((value.asNumber.filter Binary64.isFinite).map .real)
  | .truth => .bool value.isTruthy

/-- The stored value under the name that a value is, cast to the type of a name. -/
def castField (storage : Storage) (typeName : String) (field : Json) : Except TransformFault Json :=
  match field.text? with
  | none => .error .fieldNotText
  | some name =>
    match DataType.ofName? typeName with
    | none => .error (.unknownType typeName)
    | some type => .ok (type.cast (storage.get name))

/-- Reads stored values and casts each. -/
def combine : Rule := fun step storage _ =>
  match step.option? "fields" with
  | some (.array fields) =>
    (fields.mapM (castField storage ((step.text? "dataType").getD "string"))).map .array
  | _ => .error (.missing "fields")

/-- What a value is compared with: the stored value of a field, or a literal value. -/
def operand (step : Step) (storage : Storage) : Json :=
  match step.text? "field" with
  | some field => storage.get field
  | none => (step.option? "value").getD .null

/-- Whether two values are the same or have the same text. -/
def equal : Rule := fun step storage value =>
  let other := operand step storage
  .ok (.bool (value.same other || value.asText == other.asText))

/-- The order of two values, by number where both denote one and by text otherwise. None for a number that
has no place in the order. -/
def order? (left right : Json) : Option Ordering :=
  match left.asNumber, right.asNumber with
  | some left, some right => left.order? right
  | _, _ => some (compareOfLessAndEq left.asText right.asText)

inductive Operator where
  | eq
  | ne
  | gt
  | gte
  | lt
  | lte

def Operator.ofName? (name : String) : Option Operator :=
  if name = "eq" then some .eq
  else if name = "ne" then some .ne
  else if name = "gt" then some .gt
  else if name = "gte" then some .gte
  else if name = "lt" then some .lt
  else if name = "lte" then some .lte
  else none

def Operator.holds (operator : Operator) (order : Ordering) : Bool :=
  match operator with
  | .eq => order == .eq
  | .ne => order != .eq
  | .gt => order == .gt
  | .gte => order != .lt
  | .lt => order == .lt
  | .lte => order != .gt

/-- Compares a value. Values without an order satisfy no operator, known or not. -/
def compare : Rule := fun step storage value =>
  match order? value (operand step storage) with
  | none => .ok (.bool false)
  | some order =>
    let name := (step.text? "operator").getD "eq"
    match Operator.ofName? name with
    | some operator => .ok (.bool (operator.holds order))
    | none => .error (.unknownOperator name)

end Harvest.Transform
