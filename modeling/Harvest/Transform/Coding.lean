import Harvest.Calendar.Reader
import Harvest.Calendar.Writer
import Harvest.Markup.Document
import Harvest.Transform.Step

/-!
Contract: transforms between forms of one text: percent escapes, character
references, base 64 and date formats.
-/

namespace Harvest.Transform

def encodeAddress : Rule := fun _ _ value =>
  .ok (.string (String.ofList (Uri.Percent.encodeAddress value.asText.toList)))

def decodeAddress : Rule := fun _ _ value =>
  .ok (.string (String.ofList (Uri.Percent.decode value.asText.toList)))

def decodeMarkup : Rule := fun _ _ value =>
  .ok (.string (Markup.Document.decodedText value.asText))

def decodeBase64 : Rule := fun _ _ value =>
  match Base64.decodeText (Harvest.Text.trim value.asText) with
  | .ok text => .ok (.string text)
  | .error fault => .error (.undecodable fault)

/-- The format of dates where a step names none. -/
def plainDate : String := "%Y-%m-%d"

def momentOf? (step : Step) (text : List Char) : Option Calendar.Moment :=
  match step.text? "from" with
  | some format => Calendar.Moment.read? text format
  | none => (Calendar.Moment.readInternet? text).or (Calendar.Moment.read? text plainDate)

/-- Writes a date in another format; what is no date becomes null. -/
def date : Rule := fun step _ value =>
  let format := (step.text? "to").getD plainDate
  match momentOf? step (Harvest.Text.trimChars value.asText.toList) with
  | none => .ok .null
  | some moment =>
    match moment.write? format with
    | some text => .ok (.string text)
    | none => .error (.badFormat format)

end Harvest.Transform
