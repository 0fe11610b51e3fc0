import Harvest.Binary64

/-!
Contract: JSON values.

Integers and binary64 numbers are different values, as are `5` and `5.0`. A
mapping is a list of fields; `insert` keeps it sorted by name, names compared by
code points (which orders them as their UTF-8 octets do), with one field a name.
-/

namespace Harvest

inductive Json where
  | null
  | bool (value : Bool)
  | int (value : Int)
  | real (value : Binary64)
  | string (value : String)
  | array (items : List Json)
  | object (fields : List (String × Json))
deriving Inhabited

abbrev Fields := List (String × Json)

namespace Fields

def find? (name : String) : Fields → Option Json
  | [] => none
  | (key, value) :: rest => if key = name then some value else find? name rest

def has (name : String) (fields : Fields) : Bool :=
  (find? name fields).isSome

/-- The fields with `value` under `name`, in place of any value there before. -/
def insert (name : String) (value : Json) : Fields → Fields
  | [] => [(name, value)]
  | (key, former) :: rest =>
    if name = key then (name, value) :: rest
    else if name < key then (name, value) :: (key, former) :: rest
    else (key, former) :: insert name value rest

def remove (name : String) : Fields → Fields
  | [] => []
  | (key, value) :: rest => if key = name then remove name rest else (key, value) :: remove name rest

/-- The sorted fields of a list in any order; of two with one name the later counts. -/
def ofList (fields : Fields) : Fields :=
  fields.foldl (fun sorted field => insert field.1 field.2 sorted) []

theorem find?_insert_same (name : String) (value : Json) (fields : Fields) :
    find? name (insert name value fields) = some value := by
  induction fields with
  | nil => exact if_pos rfl
  | cons field fields inductionHypothesis =>
    obtain ⟨key, former⟩ := field
    rw [insert]
    split
    · exact if_pos rfl
    · rename_i different
      split
      · exact if_pos rfl
      · rw [find?, if_neg (Ne.symm different), inductionHypothesis]

theorem find?_insert_other {name other : String} (different : other ≠ name) (value : Json) (fields : Fields) :
    find? other (insert name value fields) = find? other fields := by
  induction fields with
  | nil => exact if_neg (Ne.symm different)
  | cons field fields inductionHypothesis =>
    obtain ⟨key, former⟩ := field
    rw [insert]
    split
    · rename_i same
      rw [find?, find?, if_neg (Ne.symm different), ← same, if_neg (Ne.symm different)]
    · split
      · rw [find?, if_neg (Ne.symm different)]
      · rw [find?, find?, inductionHypothesis]

end Fields

namespace Json

mutual

/-- Equality of values. Numbers are equal when both are integers or both are not, and they have the
same value. -/
def same : Json → Json → Bool
  | .null, .null => true
  | .bool left, .bool right => left == right
  | .int left, .int right => left == right
  | .real left, .real right => left.same right
  | .string left, .string right => left == right
  | .array left, .array right => sameItems left right
  | .object left, .object right => sameFields left right
  | _, _ => false

def sameItems : List Json → List Json → Bool
  | [], [] => true
  | left :: lefts, right :: rights => left.same right && sameItems lefts rights
  | _, _ => false

def sameFields : List (String × Json) → List (String × Json) → Bool
  | [], [] => true
  | (leftName, left) :: lefts, (rightName, right) :: rights =>
    leftName == rightName && left.same right && sameFields lefts rights
  | _, _ => false

end

mutual

/-- The value with the fields of every mapping in it sorted, the last of equal names kept. -/
def normal : Json → Json
  | .array items => .array (normalItems items)
  | .object fields => .object (Fields.ofList (normalFields fields))
  | other => other

def normalItems : List Json → List Json
  | [] => []
  | item :: items => item.normal :: normalItems items

def normalFields : List (String × Json) → List (String × Json)
  | [] => []
  | (name, value) :: fields => (name, value.normal) :: normalFields fields

end

def texts (items : List String) : Json :=
  .array (items.map .string)

def count (number : Nat) : Json :=
  .int number

/-- A value that may be absent; an absent one is null. -/
def optional (value : Option Json) : Json :=
  value.getD .null

def isNull : Json → Bool
  | .null => true
  | _ => false

def text? : Json → Option String
  | .string value => some value
  | _ => none

def bool? : Json → Option Bool
  | .bool value => some value
  | _ => none

/-- The natural number that a value is, when it is an integer that a 64-bit word holds. -/
def nat? : Json → Option Nat
  | .int value => if 0 ≤ value ∧ value < 18446744073709551616 then some value.toNat else none
  | _ => none

def fields? : Json → Option Fields
  | .object fields => some fields
  | _ => none

def items? : Json → Option (List Json)
  | .array items => some items
  | _ => none

/-- The value under a name of a mapping, or null. -/
def get (name : String) : Json → Json
  | .object fields => (Fields.find? name fields).getD .null
  | _ => .null

end Json

end Harvest
