import Harvest.Markup.Token

/-!
Contract: a document under construction.

Nodes lie in a table and know their parent and their children; the open elements
and the formatting elements that are still active are lists of node numbers, the
latest first. The operations here are those that the insertion rules are made of.
-/

namespace Harvest.Markup

inductive Vocabulary where
  | html
  | svg
  | math
deriving DecidableEq

structure Element where
  vocabulary : Vocabulary
  name : String
  attributes : List (String × String)
deriving DecidableEq

inductive Content where
  | document
  | doctype
  | comment (text : String)
  | text (text : String)
  | element (element : Element)

structure Cell where
  content : Content
  parent : Option Nat
  children : Array Nat

inductive Mode where
  | initial
  | beforeHtml
  | beforeHead
  | inHead
  | afterHead
  | inBody
  | inText
  | inTable
  | inTableText
  | inCaption
  | inColumnGroup
  | inTableBody
  | inRow
  | inCell
  | inSelect
  | inSelectInTable
  | inTemplate
  | afterBody
  | inFrameset
  | afterFrameset
  | afterAfterBody
  | afterAfterFrameset
deriving DecidableEq

/-- An entry of the formatting elements: a bound that searches do not cross, or an element. -/
inductive Formatting where
  | bound
  | element (node : Nat)
deriving DecidableEq

structure Builder where
  cells : Array Cell
  stack : List Nat := []
  formatting : List Formatting := []
  mode : Mode := .initial
  original : Mode := .initial
  templates : List Mode := []
  head : Option Nat := none
  form : Option Nat := none
  framesetAllowed : Bool := true
  fostering : Bool := false
  tableText : List Char := []
  skipsNewline : Bool := false
  isQuirky : Bool := false
  isFragment : Bool := false
  content : ContentMode := .markup

abbrev Build := StateM Builder

/-- Where a node is inserted: behind the children of a node, or before one of them. -/
inductive Place where
  | inside (parent : Nat)
  | before (sibling parent : Nat)

namespace Build

def element? (node : Nat) : Build (Option Element) := do
  match (← get).cells[node]? with
  | some ⟨.element element, _, _⟩ => return some element
  | _ => return none

/-- Whether a node is an element of HTML with one of these names. -/
def isOneOf (names : List String) (node : Nat) : Build Bool := do
  match ← element? node with
  | some element => return element.vocabulary = .html && names.contains element.name
  | none => return false

/-- Whether a node is an element of HTML with this name. -/
def hasName (name : String) (node : Nat) : Build Bool :=
  isOneOf [name] node

def current? : Build (Option Nat) := do
  return (← get).stack.head?

/-- Whether the innermost open element is one of HTML with one of these names. -/
def currentIsOneOf (names : List String) : Build Bool := do
  match ← current? with
  | some node => isOneOf names node
  | none => return false

/-- Puts a node in the table without a place. -/
def create (content : Content) : Build Nat := do
  let node := (← get).cells.size
  modify fun builder => { builder with cells := builder.cells.push ⟨content, none, #[]⟩ }
  return node

def changeCell (node : Nat) (change : Cell → Cell) : Build Unit :=
  modify fun builder => { builder with cells := builder.cells.modify node change }

def detach (node : Nat) : Build Unit := do
  match ((← get).cells[node]?).bind (·.parent) with
  | some parent =>
    changeCell parent fun cell => { cell with children := cell.children.filter (· != node) }
    changeCell node fun cell => { cell with parent := none }
  | none => pure ()

/-- Puts a node at a place, taking it from where it was. -/
def attach (place : Place) (node : Nat) : Build Unit := do
  detach node
  match place with
  | .inside parent =>
    changeCell parent fun cell => { cell with children := cell.children.push node }
    changeCell node fun cell => { cell with parent := some parent }
  | .before sibling parent =>
    changeCell parent fun cell =>
      { cell with children := cell.children.toList.flatMap (fun child =>
          if child = sibling then [node, child] else [child]) |>.toArray }
    changeCell node fun cell => { cell with parent := some parent }

/-- The node just before a place, among its parent's children. -/
def nodeBefore? (place : Place) : Build (Option Nat) := do
  let cells := (← get).cells
  match place with
  | .inside parent => return (cells[parent]?).bind (·.children.back?)
  | .before sibling parent =>
    let children := ((cells[parent]?).map (·.children.toList)).getD []
    return (children.takeWhile (· != sibling)).getLast?

/-- The open elements from the innermost one outwards, up to the first with this name. -/
def outerUntil (name : String) : List Nat → Build (Option (Nat × List Nat))
  | [] => return none
  | node :: outer => do
    if ← hasName name node then return some (node, outer) else outerUntil name outer

/-- The place for a node that belongs into `target`. Under fostering, what does not belong into a table
goes before it. -/
def placeIn (target : Nat) : Build Place := do
  let builder ← get
  if builder.fostering && (← isOneOf ["table", "tbody", "tfoot", "thead", "tr"] target) then
    match ← outerUntil "table" builder.stack with
    | none => return .inside (builder.stack.getLast?.getD 0)
    | some (table, outer) =>
      let insideTemplate ← innerTemplate builder.stack
      match insideTemplate with
      | some template => return .inside template
      | none =>
        match ((builder.cells[table]?).bind (·.parent)), outer with
        | some parent, _ => return .before table parent
        | none, above :: _ => return .inside above
        | none, [] => return .inside 0
  else return .inside target
where
  innerTemplate : List Nat → Build (Option Nat)
    | [] => return none
    | node :: outer => do
      if ← hasName "table" node then return none
      else if ← hasName "template" node then return some node
      else innerTemplate outer

def nextPlace : Build Place := do
  match ← current? with
  | some node => placeIn node
  | none => return .inside 0

/-- Inserts characters at a place, joining them to a text just before it. -/
def insertTextAt (place : Place) (text : List Char) : Build Unit := do
  match ← nodeBefore? place with
  | some before =>
    match (← get).cells[before]? with
    | some ⟨.text former, _, _⟩ =>
      changeCell before fun cell => { cell with content := .text (former ++ String.ofList text) }
    | _ =>
      let node ← create (.text (String.ofList text))
      attach place node
  | none =>
    let node ← create (.text (String.ofList text))
    attach place node

def insertText (text : List Char) : Build Unit := do
  insertTextAt (← nextPlace) text

def insertComment (text : List Char) : Build Unit := do
  let node ← create (.comment (String.ofList text))
  attach (← nextPlace) node

def insertCommentIn (parent : Nat) (text : List Char) : Build Unit := do
  let node ← create (.comment (String.ofList text))
  attach (.inside parent) node

def openElement (element : Element) : Build Nat := do
  let place ← nextPlace
  let node ← create (.element element)
  attach place node
  modify fun builder => { builder with stack := node :: builder.stack }
  return node

def openTag (tag : Tag) : Build Nat :=
  openElement ⟨.html, tag.name, tag.attributes⟩

/-- Opens an HTML element that no tag stands for. -/
def openImplied (name : String) : Build Nat :=
  openElement ⟨.html, name, []⟩

def closeCurrent : Build Unit :=
  modify fun builder => { builder with stack := builder.stack.drop 1 }

def insertVoid (tag : Tag) : Build Unit := do
  let _ ← openTag tag
  closeCurrent

/-- Closes open elements up to and including the first with one of these names. -/
def closeThrough (names : List String) : Build Unit := do
  let rec go : List Nat → Build (List Nat)
    | [] => return []
    | node :: outer => do
      if ← isOneOf names node then return outer else go outer
  let rest ← go (← get).stack
  modify fun builder => { builder with stack := rest }

/-- Closes open elements until the innermost has one of these names. -/
def closeDownTo (names : List String) : Build Unit := do
  let rec go : List Nat → Build (List Nat)
    | [] => return []
    | node :: outer => do
      if ← isOneOf names node then return node :: outer else go outer
  let rest ← go (← get).stack
  modify fun builder => { builder with stack := rest }

def scopeBounds : List String :=
  ["applet", "caption", "html", "table", "td", "th", "marquee", "object", "template"]

/-- Whether an element of another vocabulary bounds every scope. -/
def isForeignBound (element : Element) : Bool :=
  match element.vocabulary with
  | .html => false
  | .math => ["mi", "mo", "mn", "ms", "mtext", "annotation-xml"].contains element.name
  | .svg => ["foreignObject", "desc", "title"].contains element.name

/-- Whether an open element that satisfies a test lies inside all elements with a bounding name. -/
def isInScopeOf (bounds : List String) (foreignBounds : Bool) (test : Nat → Build Bool) : Build Bool := do
  let rec go : List Nat → Build Bool
    | [] => return false
    | node :: outer => do
      if ← test node then return true
      else if ← isOneOf bounds node then return false
      else
        match ← element? node with
        | some element => if foreignBounds && isForeignBound element then return false else go outer
        | none => go outer
  go (← get).stack

/-- Whether an element with one of these names is in scope. -/
def inScope (names : List String) : Build Bool :=
  isInScopeOf scopeBounds true (isOneOf names)

def inButtonScope (name : String) : Build Bool :=
  isInScopeOf ("button" :: scopeBounds) true (hasName name)

def inListScope (name : String) : Build Bool :=
  isInScopeOf ("ol" :: "ul" :: scopeBounds) true (hasName name)

def inTableScope (names : List String) : Build Bool :=
  isInScopeOf ["html", "table", "template"] false (isOneOf names)

def inSelectScope (name : String) : Build Bool := do
  let rec go : List Nat → Build Bool
    | [] => return false
    | node :: outer => do
      if ← hasName name node then return true
      else if ← isOneOf ["optgroup", "option"] node then go outer
      else return false
  go (← get).stack

def impliedEnds : List String :=
  ["dd", "dt", "li", "optgroup", "option", "p", "rb", "rp", "rt", "rtc"]

/-- Closes elements whose end tags are implied, but none with the excepted name. -/
def closeImplied (except : String) : Build Unit := do
  let rec go : List Nat → Build (List Nat)
    | [] => return []
    | node :: outer => do
      if ← isOneOf (impliedEnds.filter (· != except)) node then go outer else return node :: outer
  let rest ← go (← get).stack
  modify fun builder => { builder with stack := rest }

/-- Closes elements whose end tags are implied at the end of a template. -/
def closeImpliedThoroughly : Build Unit := do
  let names := impliedEnds ++ ["caption", "colgroup", "tbody", "td", "tfoot", "th", "thead", "tr"]
  let rec go : List Nat → Build (List Nat)
    | [] => return []
    | node :: outer => do
      if ← isOneOf names node then go outer else return node :: outer
  let rest ← go (← get).stack
  modify fun builder => { builder with stack := rest }

def closeParagraph : Build Unit := do
  closeImplied "p"
  closeThrough ["p"]

def closeParagraphInScope : Build Unit := do
  if ← inButtonScope "p" then closeParagraph

def goto (mode : Mode) : Build Unit :=
  modify fun builder => { builder with mode := mode }

def isOpen (name : String) : Build Bool := do
  return (← outerUntil name (← get).stack).isSome

/-- The elements that are special to the closing of others. -/
def specialNames : List String := [
  "address", "applet", "area", "article", "aside", "base", "basefont", "bgsound", "blockquote", "body", "br",
  "button", "caption", "center", "col", "colgroup", "dd", "details", "dir", "div", "dl", "dt", "embed",
  "fieldset", "figcaption", "figure", "footer", "form", "frame", "frameset", "h1", "h2", "h3", "h4", "h5", "h6",
  "head", "header", "hgroup", "hr", "html", "iframe", "img", "input", "isindex", "li", "link", "listing", "main",
  "marquee", "menu", "meta", "nav", "noembed", "noframes", "noscript", "object", "ol", "p", "param", "plaintext",
  "pre", "script", "section", "select", "source", "style", "summary", "table", "tbody", "td", "template",
  "textarea", "tfoot", "th", "thead", "title", "tr", "track", "ul", "wbr", "xmp"]

def isSpecial (node : Nat) : Build Bool := do
  match ← element? node with
  | some element =>
    if element.vocabulary = .html then return specialNames.contains element.name
    else return isForeignBound element
  | none => return false

def pushBound : Build Unit :=
  modify fun builder => { builder with formatting := .bound :: builder.formatting }

/-- Forgets the formatting elements up to and including the latest bound. -/
def clearToBound : Build Unit :=
  modify fun builder => { builder with formatting := (builder.formatting.dropWhile (· != .bound)).drop 1 }

/-- The formatting elements since the latest bound. -/
def sinceBound : Build (List Nat) := do
  return (← get).formatting.takeWhile (· != .bound) |>.filterMap fun entry =>
    match entry with
    | .element node => some node
    | .bound => none

/-- Whether two attribute lists are the same, order aside. -/
def sameAttributes (left right : List (String × String)) : Bool :=
  left.length == right.length && left.all right.contains

/-- Adds a formatting element; of more than three alike the earliest is forgotten. -/
def pushFormatting (node : Nat) : Build Unit := do
  let some element ← element? node | return
  let recent ← sinceBound
  let alike ← recent.filterM fun other => do
    match ← element? other with
    | some known =>
      return known.vocabulary = element.vocabulary && known.name == element.name
        && sameAttributes known.attributes element.attributes
    | none => return false
  let dropped := if alike.length ≥ 3 then alike.getLast? else none
  modify fun builder =>
    let kept := match dropped with
      | some earliest => builder.formatting.filter (· != .element earliest)
      | none => builder.formatting
    { builder with formatting := .element node :: kept }

/-- Opens again the formatting elements that are no longer open. -/
def reconstruct : Build Unit := do
  let builder ← get
  let closed (entry : Formatting) : Bool :=
    match entry with
    | .bound => false
    | .element node => !builder.stack.contains node
  let pending := builder.formatting.takeWhile closed
  let others := builder.formatting.drop pending.length
  let mut fresh : List Formatting := []
  for entry in pending.reverse do
    match entry with
    | .element node =>
      match ← element? node with
      | some element =>
        let opened ← openElement element
        fresh := .element opened :: fresh
      | none => pure ()
    | .bound => pure ()
  modify fun builder => { builder with formatting := fresh ++ others }

def dropFormatting (node : Nat) : Build Unit :=
  modify fun builder => { builder with formatting := builder.formatting.filter (· != .element node) }

def dropOpen (node : Nat) : Build Unit :=
  modify fun builder => { builder with stack := builder.stack.filter (· != node) }

def moveChildren (source target : Nat) : Build Unit := do
  let children := (((← get).cells[source]?).map (·.children)).getD #[]
  for child in children do
    attach (.inside target) child

def resetMode : Build Unit := do
  let builder ← get
  let rec go : List Nat → Build Mode
    | [] => return .inBody
    | node :: outer => do
      let isLast := outer.isEmpty
      let some element ← element? node | return .inBody
      let name := if isLast && builder.isFragment then "body" else element.name
      match name with
      | "select" => if ← containsTable outer then return .inSelectInTable else return .inSelect
      | "td" => if isLast then return .inBody else return .inCell
      | "th" => if isLast then return .inBody else return .inCell
      | "tr" => return .inRow
      | "tbody" => return .inTableBody
      | "thead" => return .inTableBody
      | "tfoot" => return .inTableBody
      | "caption" => return .inCaption
      | "colgroup" => return .inColumnGroup
      | "table" => return .inTable
      | "template" => return builder.templates.headD .inTemplate
      | "head" => if isLast then return .inBody else return .inHead
      | "body" => return .inBody
      | "frameset" => return .inFrameset
      | "html" => if builder.head.isNone then return .beforeHead else return .afterHead
      | _ => if isLast then return .inBody else go outer
  goto (← go builder.stack)
where
  containsTable : List Nat → Build Bool
    | [] => return false
    | node :: outer => do
      if ← hasName "template" node then return false
      else if ← hasName "table" node then return true
      else containsTable outer

def mergeAttributes (node : Nat) (attributes : List (String × String)) : Build Unit := do
  let some element ← element? node | return
  let missing := attributes.filter fun (name, _) => !(element.attributes.any fun known => known.1 == name)
  changeCell node fun cell =>
    { cell with content := .element { element with attributes := element.attributes ++ missing } }

/-- Has the content of the element just opened read as raw text. -/
def readRaw (content : ContentMode) : Build Unit :=
  modify fun builder => { builder with content := content, original := builder.mode, mode := .inText }

end Build

end Harvest.Markup
