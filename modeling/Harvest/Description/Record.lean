import Harvest.Description.Problem
import Harvest.Json.View

/-!
Contract: reading records from JSON.

A record is a mapping, or an array of its fields in the order of their declaration. The
first problem met in the order of the fields as written counts; fields that are missing
are found after that, in the order of declaration. Fields that a record does not know are
passed over. A tagged choice names its variant in one field, or in the first item of an
array.
-/

namespace Harvest.Description

abbrev Reading (α : Type) := Except Problem α

def readText : Json → Reading String
  | .string text => .ok text
  | other => .error (.wrongType other .text)

def readBool : Json → Reading Bool
  | .bool value => .ok value
  | other => .error (.wrongType other .boolean)

def readBelow (limit : Nat) (word : String) : Json → Reading Nat
  | .int value => if 0 ≤ value ∧ value < limit then .ok value.toNat else .error (.outOfRange value (.word word))
  | other => .error (.wrongType other (.word word))

def readWord : Json → Reading Nat :=
  readBelow 18446744073709551616 "u64"

def readSize : Json → Reading Nat :=
  readBelow 18446744073709551616 "usize"

def readShortWord : Json → Reading Nat :=
  readBelow 4294967296 "u32"

def readPath : Json → Reading String
  | .string text => .ok text
  | other => .error (.wrongType other .path)

def readMapping : Json → Reading Fields
  | .object fields => .ok (Fields.ofList (Json.normalFields fields))
  | other => .error (.wrongType other .mapping)

def readOptional {α : Type} (read : Json → Reading α) : Json → Reading (Option α)
  | .null => .ok none
  | value => (read value).map some

def readArray {α : Type} (read : Json → Reading α) : Json → Reading (List α)
  | .array items => items.mapM read
  | other => .error (.wrongType other .sequence)

structure RecordField (ρ : Type) where
  name : String
  read : Json → ρ → Reading ρ
  isRequired : Bool := false
  hasDefault : Bool := false

def RecordField.setting {ρ α : Type} (name : String) (read : Json → Reading α) (set : α → ρ → ρ) : RecordField ρ where
  name := name
  read := fun value record => (read value).map fun value => set value record

def RecordField.required {ρ α : Type} (name : String) (read : Json → Reading α) (set : α → ρ → ρ) : RecordField ρ :=
  { RecordField.setting name read set with isRequired := true }

def RecordField.defaulted {ρ α : Type} (name : String) (read : Json → Reading α) (set : α → ρ → ρ) : RecordField ρ :=
  { RecordField.setting name read set with hasDefault := true }

/-- Reads the fields of a mapping in the order in which they stand. -/
def readFields {ρ : Type} (fields : List (RecordField ρ)) : (seen : List String) → Fields → ρ → Reading (List String × ρ)
  | seen, [], record => .ok (seen, record)
  | seen, (name, value) :: rest, record =>
    match fields.find? (·.name == name) with
    | none => readFields fields seen rest record
    | some field =>
      if seen.contains name then .error (.repeatedField name)
      else (field.read value record).bind fun record => readFields fields (name :: seen) rest record

/-- Reads the items of an array as fields in the order of declaration. -/
def readItems {ρ : Type} (tooShort : Nat → Problem) :
    (place : Nat) → List (RecordField ρ) → List Json → ρ → Reading (List Json × ρ)
  | _, [], items, record => .ok (items, record)
  | place, field :: fields, [], record =>
    if field.hasDefault then readItems tooShort (place + 1) fields [] record else .error (tooShort place)
  | place, field :: fields, item :: items, record =>
    (field.read item record).bind fun record => readItems tooShort (place + 1) fields items record

/-- The first required field that has not been seen. -/
def missing? {ρ : Type} (fields : List (RecordField ρ)) (seen : List String) : Option String :=
  (fields.find? fun field => field.isRequired && !seen.contains field.name).map (·.name)

def readAsMapping {ρ : Type} (fields : List (RecordField ρ)) (start : ρ) (entries : Fields) : Reading ρ :=
  (readFields fields [] entries start).bind fun (seen, record) =>
    match missing? fields seen with
    | some name => .error (.missingField name)
    | none => .ok record

def readRecord {ρ : Type} (title : String) (fields : List (RecordField ρ)) (start : ρ) : Json → Reading ρ
  | .object entries => readAsMapping fields start entries
  | .array items =>
    (readItems (fun place => .tooShort place ("struct " ++ title) fields.length) 0 fields items start).bind
      fun (rest, record) => if rest.isEmpty then .ok record else .error (.tooLong items.length)
  | other => .error (.wrongType other (.record title))

/-- One of the variants of a tagged choice: its fields, and a record to begin with. -/
structure Variant (ρ : Type) where
  name : String
  title : String
  fields : List (RecordField ρ)
  start : ρ

def readTag {ρ : Type} (variants : List (Variant ρ)) : Json → Reading (Variant ρ)
  | .string name =>
    match variants.find? (·.name == name) with
    | some variant => .ok variant
    | none => .error (.unknownVariant name (variants.map (·.name)))
  | other => .error (.wrongType other .tag)

/-- The content of a variant as an array. A variant without fields takes any. -/
def readVariantItems {ρ : Type} (variant : Variant ρ) (items : List Json) : Reading ρ :=
  if variant.fields.isEmpty then .ok variant.start
  else
    (readItems (fun place => .tooShort place ("struct variant " ++ variant.title) variant.fields.length) 0
      variant.fields items variant.start).bind
      fun (rest, record) =>
        if rest.isEmpty then .ok record else .error (.tooManyItems items.length variant.fields.length)

def readChoice {ρ : Type} (title tag : String) (variants : List (Variant ρ)) : Json → Reading ρ
  | .object entries =>
    match entries.filter (·.1 == tag) with
    | [] => .error (.missingField tag)
    | [(_, name)] =>
      (readTag variants name).bind fun variant =>
        readAsMapping variant.fields variant.start (entries.filter (·.1 != tag))
    | (_, name) :: _ => (readTag variants name).bind fun _ => .error (.repeatedField tag)
  | .array [] => .error (.missingField tag)
  | .array (name :: items) => (readTag variants name).bind fun variant => readVariantItems variant items
  | other => .error (.wrongType other (.tagged title))

end Harvest.Description
