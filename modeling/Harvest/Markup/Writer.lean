import Harvest.Markup.Document

/-!
Contract: a part of a document written as markup.

`outer` writes an element with its tags, `inner` only what lies inside. Ampersands,
no-break spaces and angle brackets in texts are written as references, except inside
elements whose content is raw; elements without content have no end tag.
-/

namespace Harvest.Markup

def voidNames : List String := [
  "area", "base", "basefont", "bgsound", "br", "col", "embed", "frame", "hr", "img", "input", "keygen", "link",
  "meta", "param", "source", "track", "wbr"]

/-- The elements whose texts are written as they are. -/
def rawNames : List String :=
  ["style", "script", "xmp", "iframe", "noembed", "noframes", "plaintext", "noscript"]

/-- A character of an attribute value or of a text. -/
def escapedChar (inAttribute : Bool) (character : Char) : List Char :=
  if character = '&' then "&amp;".toList
  else if character.toNat = 0xA0 then "&nbsp;".toList
  else if inAttribute && character == '"' then "&quot;".toList
  else if !inAttribute && character == '<' then "&lt;".toList
  else if !inAttribute && character == '>' then "&gt;".toList
  else [character]

def escaped (inAttribute : Bool) (text : String) : String :=
  String.ofList (text.toList.flatMap (escapedChar inAttribute))

def startTagText (element : Element) : String :=
  "<" ++ element.name
    ++ String.join (element.attributes.map fun (name, value) => " " ++ name ++ "=\"" ++ escaped true value ++ "\"")
    ++ ">"

namespace Document

/-- Whether the texts directly inside a node are written as they are. -/
def isRaw (document : Document) (node : Nat) : Bool :=
  match document.element? node with
  | some element => element.vocabulary = .html && rawNames.contains element.name
  | none => false

/-- A node as markup; the fuel is above its depth. -/
def write (document : Document) (raw : Bool) : (fuel : Nat) → Nat → String
  | 0, _ => ""
  | fuel + 1, node =>
    match document.content? node with
    | some (.text text) => if raw then text else escaped false text
    | some (.comment text) => "<!--" ++ text ++ "-->"
    | some .doctype => "<!DOCTYPE html>"
    | some (.element element) =>
      if element.vocabulary = .html && voidNames.contains element.name then startTagText element
      else
        startTagText element
          ++ String.join ((document.children node).map (write document (document.isRaw node) fuel))
          ++ "</" ++ element.name ++ ">"
    | some .document => String.join ((document.children node).map (write document false fuel))
    | none => ""

def outer (document : Document) (node : Nat) : String :=
  document.write false (document.size + 1) node

def inner (document : Document) (node : Nat) : String :=
  String.join ((document.children node).map (document.write (document.isRaw node) (document.size + 1)))

end Document

end Harvest.Markup
