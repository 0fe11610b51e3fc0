import Harvest.Markup.Writer
import Harvest.Page.Call
import Harvest.Selector.Positional
import Harvest.Text.LetterCase
import Harvest.Uri.Basic

/-!
Contract: a static document with what has been changed on it.

Changes are kept beside the document, by the number of the element they belong to: a
typed value, attributes given or taken away, and styles. What is read of an element is
the change if there is one, and otherwise what the document says.
-/

namespace Harvest

open Markup

structure PageSource where
  text : String
  document : Document
deriving Inhabited

def PageSource.ofText (text : String) : PageSource :=
  ⟨text, Document.ofText text⟩

/-- What has been changed on an element; of several entries of one name the first counts. -/
structure ElementChange where
  value : Option String := none
  attributes : List (String × Option String) := []
  style : List (String × String) := []

abbrev Changes := List (Nat × ElementChange)

namespace Changes

def of (changes : Changes) (node : Nat) : ElementChange :=
  (List.lookup node changes).getD {}

def update (changes : Changes) (node : Nat) (change : ElementChange → ElementChange) : Changes :=
  (node, change (changes.of node)) :: List.filter (fun entry => entry.1 != node) changes

def updateAll (changes : Changes) (nodes : List Nat) (change : ElementChange → ElementChange) : Changes :=
  nodes.foldl (fun changes node => changes.update node change) changes

end Changes

structure View where
  document : Document
  changes : Changes := []

namespace View

def attribute? (view : View) (node : Nat) (name : String) : Option String :=
  match (view.changes.of node).attributes.lookup name with
  | some changed => changed
  | none => view.document.attribute? node name

def value? (view : View) (node : Nat) : Option String :=
  match (view.changes.of node).value with
  | some value => some value
  | none =>
    if view.document.name? node = some "textarea" then some (view.document.textInside node)
    else view.attribute? node "value"

/-- A property. What has no rule of its own is read as an attribute. -/
def property? (view : View) (node : Nat) (name : String) : Option String :=
  match name with
  | "value" => view.value? node
  | "innerHTML" => some (view.document.inner node)
  | "outerHTML" => some (view.document.outer node)
  | "textContent" => some (view.document.textInside node)
  | "innerText" => some (view.document.textInside node)
  | other => view.attribute? node other

/-- What a query reads of an element: an attribute, a property or its text. -/
def reading? (view : View) (attr property : Option String) (node : Nat) : Option String :=
  match attr, property with
  | some name, _ => view.attribute? node name
  | none, some name => view.property? node name
  | none, none => some (view.document.textInside node)

def readDeclaration? (text : List Char) : Option (String × String) :=
  match text.dropWhile (· != ':') with
  | [] => none
  | _ :: value =>
    let name := Text.toLower (String.ofList (Text.trimChars (text.takeWhile (· != ':'))))
    if name = "" then none else some (name, Text.toLower (String.ofList (Text.trimChars value)))

def readStyle (text : String) : List (String × String) :=
  ((Text.splitAt ';' text.toList).filterMap readDeclaration?).reverse

/-- The style of an element: what has been changed, then what the document says. -/
def styleOf (view : View) (node : Nat) : List (String × String) :=
  (view.changes.of node).style ++ readStyle ((view.attribute? node "style").getD "")

/-- Whether an element hides itself and what lies inside it. -/
def hides (view : View) (node : Nat) : Bool :=
  (view.attribute? node "hidden").isSome
    || (view.document.name? node == some "input" && view.attribute? node "type" == some "hidden")
    || (view.styleOf node).lookup "display" == some "none"
    || (view.styleOf node).lookup "visibility" == some "hidden"

/-- Whether an element is visible: neither it nor an element around it hides itself. -/
def isVisible (view : View) (node : Nat) : Bool :=
  (node :: (view.document.ancestors node).filter view.document.isElement).all fun place => !view.hides place

end View

namespace ElementChange

def styleValue : Json → String
  | .string text => Text.toLower (Text.trim text)
  | other => other.compact

/-- An attribute value; null takes the attribute away. -/
def attributeValue : Json → Option String
  | .null => none
  | .string text => some text
  | other => some other.compact

def withStyle (style : Fields) (change : ElementChange) : ElementChange :=
  { change with
    style := (style.map fun field => (Text.toLower field.1, styleValue field.2)).reverse ++ change.style }

def withAttributes (attributes : Fields) (change : ElementChange) : ElementChange :=
  { change with
    attributes := (attributes.map fun field => (field.1, attributeValue field.2)).reverse ++ change.attributes }

def withValue (value : String) (change : ElementChange) : ElementChange :=
  { change with value := some value }

end ElementChange

end Harvest
