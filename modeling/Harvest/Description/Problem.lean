import Harvest.Json.Printer
import Harvest.Text.Quoted

/-!
Contract: why a JSON value does not fit a description.

A reader stops at the first problem. `message` words it: what was found, as a
kind of JSON value, and what was wanted.
-/

namespace Harvest.Description

inductive Want where
  | text
  | boolean
  | sequence
  | mapping
  | path
  | word (name : String)
  | record (name : String)
  | tagged (name : String)
  | tag
  | choice
  | nothing
deriving DecidableEq

def Want.message : Want → String
  | .text => "a string"
  | .boolean => "a boolean"
  | .sequence => "a sequence"
  | .mapping => "a map"
  | .path => "path string"
  | .word name => name
  | .record name => "struct " ++ name
  | .tagged name => "internally tagged enum " ++ name
  | .tag => "variant identifier"
  | .choice => "string or map"
  | .nothing => "unit"

inductive Problem where
  | missingField (name : String)
  | repeatedField (name : String)
  | unknownVariant (name : String) (known : List String)
  | wrongType (found : Json) (wanted : Want)
  | outOfRange (found : Int) (wanted : Want)
  | severalFields
  | tooShort (length : Nat) (record : String) (size : Nat)
  | tooLong (length : Nat)
  | tooManyItems (length : Nat) (size : Nat)
  | noVariant (name : String)

/-- A name between the marks that set names off. -/
def marked (name : String) : String :=
  "`" ++ name ++ "`"

def alternatives : List String → String
  | [] => "there are no variants"
  | [only] => marked only
  | [first, second] => marked first ++ " or " ++ marked second
  | names => "one of " ++ ", ".intercalate (names.map marked)

def kindOf : Json → String
  | .null => "null"
  | .bool value => "boolean " ++ marked (if value then "true" else "false")
  | .int value => "integer " ++ marked (Json.int value).compact
  | .real value => "floating point " ++ marked (Json.real value).compact
  | .string value => "string " ++ Text.quoted value
  | .array _ => "sequence"
  | .object _ => "map"

def countText (count : Nat) : String :=
  String.ofList (Decimal.digitsOf count)

def Problem.message : Problem → String
  | .missingField name => "missing field " ++ marked name
  | .repeatedField name => "duplicate field " ++ marked name
  | .unknownVariant name known => "unknown variant " ++ marked name ++ ", expected " ++ alternatives known
  | .wrongType found wanted => "invalid type: " ++ kindOf found ++ ", expected " ++ wanted.message
  | .outOfRange found wanted =>
    "invalid value: integer " ++ marked (Json.int found).compact ++ ", expected " ++ wanted.message
  | .severalFields => "invalid value: map, expected map with a single key"
  | .tooShort length record size =>
    "invalid length " ++ countText length ++ ", expected " ++ record ++ " with " ++ countText size
      ++ (if size = 1 then " element" else " elements")
  | .tooLong length => "invalid length " ++ countText length ++ ", expected fewer elements in array"
  | .tooManyItems length size =>
    "invalid length " ++ countText length ++ ", expected " ++ countText size
      ++ (if size = 1 then " element" else " elements") ++ " in sequence"
  | .noVariant name => "data did not match any variant of untagged enum " ++ name

end Harvest.Description
