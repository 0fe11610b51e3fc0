import Harvest.Decimal.Reader
import Harvest.Json.Printer
import Harvest.Text.Blank
import Harvest.Text.Occurrence

/-!
Contract: JSON values read as texts, truth values, numbers and paths.

The text of a string is the string itself and that of null is empty; every other
value is written as JSON. A path names one field or one index at each level.
-/

namespace Harvest.Json

/-- The text of a value: a string is its own text, null is the empty text. -/
def asText : Json → String
  | .null => ""
  | .string value => value
  | other => other.compact

/-- Whether a value counts as true: null, false, zero and the empty text do not. -/
def isTruthy : Json → Bool
  | .null => false
  | .bool value => value
  | .int value => value != 0
  | .real value => !value.isZero && value != .nan
  | .string value => value != ""
  | .array _ => true
  | .object _ => true

/-- The number that a value denotes. A text denotes the decimal that it spells between blanks. -/
def asNumber : Json → Option Binary64
  | .int value => some (.ofInt value)
  | .real value => some value
  | .string value => Decimal.readReal? (Text.trimChars value.toList)
  | .bool value => some (.ofInt (if value then 1 else 0))
  | _ => none

/-- Whether a value denotes a number above zero. -/
def isPositive (value : Json) : Bool :=
  match value.asNumber with
  | some number => number.order? (.zero false) == some .gt
  | none => false

/-- The value one level down: a field of a mapping, or the item at an index of an array. -/
def child? (segment : String) : Json → Option Json
  | .object fields => Fields.find? segment fields
  | .array items => (Decimal.readIndex? segment.toList).bind fun index => items[index]?
  | _ => none

/-- The value that segments lead to, one level a segment. -/
def descend? : List String → Json → Option Json
  | [], value => some value
  | segment :: segments, value => (value.child? segment).bind (descend? segments)

def pathSegments (path : String) : List String :=
  (Text.splitAt '.' path.toList).map String.ofList

/-- The value at a dotted path; the empty path leads to the value itself. -/
def lookup? (path : String) (value : Json) : Option Json :=
  if path = "" then some value else value.descend? (pathSegments path)

/-- The texts of the items of an array, with blanks between them; the text of any other value. -/
def joinedText : Json → String
  | .array items => " ".intercalate (items.map asText)
  | other => other.asText

end Harvest.Json
