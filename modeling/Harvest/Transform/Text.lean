import Harvest.Text.LetterCase
import Harvest.Transform.Step

/-!
Contract: transforms that cut, join and change texts.

`split` cuts at a separator, a pattern or between all characters; `join` glues the
texts of an array. Trimming and changes of letter case apply to a text or to each
text of an array, and leave other values alone.
-/

namespace Harvest.Transform

def trimmedPiece (piece : List Char) : Json :=
  .string (String.ofList (Harvest.Text.trimChars piece))

/-- The pieces of a text. A separator that is empty parts all characters and trims none. -/
def piecesOf (step : Step) (text : List Char) : Except TransformFault (List Json) :=
  match step.option? "separator" with
  | none => .ok ((Harvest.Text.splitOn [','] text).map trimmedPiece)
  | some (.string separator) =>
    if separator = "" then .ok (text.map fun character => .string (String.ofList [character]))
    else .ok ((Harvest.Text.splitOn separator.toList text).map trimmedPiece)
  | some (.array parts) =>
    match Pattern.ofJson (.array parts) with
    | .ok pattern => .ok ((pattern.split text).map trimmedPiece)
    | .error fault => .error (.badPattern fault)
  | some other => .error (.badSeparator other)

/-- The pieces of a text as an array, or the one at an index. -/
def split : Rule := fun step _ value =>
  (piecesOf step value.asText.toList).map fun pieces =>
    if step.text? "dataType" = some "array" then .array pieces
    else
      let index := ((step.option? "index").bind Json.nat?).getD 0
      (pieces[index]?).getD .null

/-- The texts of an array with glue between them; the text of any other value. -/
def join : Rule := fun step _ value =>
  let glue := (step.text? "glue").getD " "
  match value with
  | .array items => .ok (.string (glue.intercalate (items.map Json.asText)))
  | other => .ok (.string other.asText)

def mapText (change : String → String) : Json → Json
  | .string text => .string (change text)
  | other => other

def mapTexts (change : String → String) : Json → Json
  | .array items => .array (items.map (mapText change))
  | other => mapText change other

def trim : Rule := fun _ _ value =>
  .ok (mapTexts Harvest.Text.trim value)

def toLowerCase : Rule := fun _ _ value =>
  .ok (mapTexts Harvest.Text.toLower value)

def toUpperCase : Rule := fun _ _ value =>
  .ok (mapTexts Harvest.Text.toUpper value)

def addition (step : Step) : String :=
  ((step.option? "value").map Json.asText).getD ""

def addInFront : Rule := fun step _ value =>
  .ok (.string (addition step ++ value.asText))

def addBehind : Rule := fun step _ value =>
  .ok (.string (value.asText ++ addition step))

end Harvest.Transform
