import Harvest.Markup.Document
import Harvest.Text.Blank
import Harvest.Text.Occurrence

/-!
Contract: selectors, and the elements that they match.

A compound is a row of tests on one element. A complex selector relates compounds by
combinators and is read from its last compound backwards; a selector is a list of
alternatives. Names of elements and attributes match in lower case on elements of HTML.
-/

namespace Harvest

namespace Selector

inductive ValueTest where
  | equals
  | hasWord
  | hasLanguage
  | startsWith
  | endsWith
  | contains
deriving DecidableEq

inductive LetterCase where
  | significant
  | ignored
  | byAttribute
deriving DecidableEq

/-- A place among siblings: every `step`-th one from `first` on. -/
structure Ordinal where
  step : Int
  first : Int

inductive Combinator where
  | descendant
  | child
  | nextSibling
  | laterSibling
deriving DecidableEq

mutual

inductive Simple where
  | any
  | name (name : String)
  | identity (name : String)
  | className (name : String)
  | hasAttribute (name : String)
  | attributeValue (name : String) (test : ValueTest) (value : String) (letterCase : LetterCase)
  | root
  | scopeElement
  | noContent
  | nth (ordinal : Ordinal) (ofType fromEnd : Bool)
  | never
  | none (options : List Complex)

inductive Complex where
  | compound (tests : List Simple)
  | related (left : Complex) (combinator : Combinator) (tests : List Simple)

end

end Selector

structure Selector where
  options : List Selector.Complex

namespace Selector

open Markup

/-- The white space that separates words in attributes tested for one of them. -/
def isWordSpace (character : Char) : Bool :=
  isSpace character

/-- The words of a text between characters that separate. -/
def wordsBy (separates : Char → Bool) (text : List Char) : List (List Char) :=
  (text.splitBy fun left right => separates left == separates right).filter fun run =>
    !(run.all separates)

/-- The attributes of HTML whose values are compared without regard to letter case. -/
def caselessAttributes : List String := [
  "accept", "accept-charset", "align", "alink", "axis", "bgcolor", "charset", "checked", "clear", "codetype",
  "color", "compact", "declare", "defer", "dir", "direction", "disabled", "enctype", "face", "frame", "hreflang",
  "http-equiv", "lang", "language", "link", "media", "method", "multiple", "nohref", "noresize", "noshade",
  "nowrap", "readonly", "rel", "rev", "rules", "scope", "scrolling", "selected", "shape", "target", "text",
  "type", "valign", "valuetype", "vlink"]

def lowerText (text : List Char) : List Char :=
  text.map lowerChar

/-- A name as elements of a vocabulary spell it. -/
def nameIn (vocabulary : Vocabulary) (name : String) : String :=
  if vocabulary = .html then String.ofList (lowerText name.toList) else name

def occursIn (part : List Char) (text : List Char) : Bool :=
  (Text.findFirst? part text).isSome

/-- Whether an attribute value passes a test. An empty value to look for is found nowhere. -/
def ValueTest.holds (test : ValueTest) (wanted actual : List Char) : Bool :=
  match test with
  | .equals => actual == wanted
  | .hasWord => !wanted.isEmpty && (wordsBy isWordSpace actual).contains wanted
  | .hasLanguage => actual == wanted || (Text.dropFront? (wanted ++ ['-']) actual).isSome
  | .startsWith => !wanted.isEmpty && wanted.isPrefixOf actual
  | .endsWith => !wanted.isEmpty && wanted.isSuffixOf actual
  | .contains => !wanted.isEmpty && occursIn wanted actual

/-- Whether a number is one of the places of an ordinal. -/
def Ordinal.holds (ordinal : Ordinal) (place : Int) : Bool :=
  let distance := place - ordinal.first
  if ordinal.step = 0 then distance == 0
  else distance.tmod ordinal.step == 0 && 0 ≤ distance.tdiv ordinal.step

/-- The elements that share the parent of a node, itself included. -/
def siblings (document : Document) (node : Nat) : List Nat :=
  match document.parent? node with
  | some parent => document.childElements parent
  | none => [node]

/-- Whether two elements have one name and vocabulary. -/
def sameType (document : Document) (left right : Nat) : Bool :=
  match document.element? left, document.element? right with
  | some left, some right => left.name == right.name && left.vocabulary = right.vocabulary
  | _, _ => false

/-- The place of an element among its siblings, or among those of its type. -/
def placeAmong (document : Document) (node : Nat) (ofType fromEnd : Bool) : Nat :=
  let all := siblings document node
  let counted := if ofType then all.filter (sameType document node) else all
  let ordered := if fromEnd then counted.reverse else counted
  (ordered.takeWhile (· != node)).length + 1

/-- Whether an attribute of an element passes a test. -/
def attributeHolds (element : Element) (name : String) (test : ValueTest) (wanted : String)
    (letterCase : LetterCase) : Bool :=
  let name := nameIn element.vocabulary name
  match element.attributes.lookup name with
  | none => false
  | some actual =>
    let caseless : Bool := match letterCase with
      | .significant => false
      | .ignored => true
      | .byAttribute => element.vocabulary = .html && caselessAttributes.contains name
    if caseless then test.holds (lowerText wanted.toList) (lowerText actual.toList)
    else test.holds wanted.toList actual.toList

def isRootElement (document : Document) (node : Nat) : Bool :=
  match document.parent? node with
  | some parent =>
    match document.content? parent with
    | some .document => true
    | _ => false
  | none => false

/-- Whether a node has neither an element nor a text directly inside. -/
def hasNoContent (document : Document) (node : Nat) : Bool :=
  (document.children node).all fun child =>
    match document.content? child with
    | some (.element _) => false
    | some (.text _) => false
    | _ => true

/-- The elements that stand before an element among its siblings, the nearest first. -/
def earlierSiblings (document : Document) (node : Nat) : List Nat :=
  ((siblings document node).takeWhile (· != node)).reverse

/-- The elements that a combinator leads to from an element. -/
def Combinator.sources (combinator : Combinator) (document : Document) (node : Nat) : List Nat :=
  match combinator with
  | .descendant => (document.ancestors node).filter document.isElement
  | .child => ((document.ancestors node).take 1).filter document.isElement
  | .nextSibling => (earlierSiblings document node).take 1
  | .laterSibling => earlierSiblings document node

mutual

/-- Whether an element passes a test; `scope` is the element that the search began at. -/
def Simple.holds (document : Document) (scope : Option Nat) (node : Nat) : Simple → Bool
  | .any => document.isElement node
  | .name name =>
    match document.element? node with
    | some element => element.name == nameIn element.vocabulary name
    | none => false
  | .identity name => document.attribute? node "id" == some name
  | .className name =>
    match document.attribute? node "class" with
    | some classes => (wordsBy Text.isBlank classes.toList).contains name.toList
    | none => false
  | .hasAttribute name =>
    match document.element? node with
    | some element => (element.attributes.lookup (nameIn element.vocabulary name)).isSome
    | none => false
  | .attributeValue name test value letterCase =>
    match document.element? node with
    | some element => attributeHolds element name test value letterCase
    | none => false
  | .root => isRootElement document node
  | .scopeElement =>
    match scope with
    | some start => node == start
    | none => isRootElement document node
  | .noContent => hasNoContent document node
  | .nth ordinal ofType fromEnd => ordinal.holds (placeAmong document node ofType fromEnd)
  | .never => false
  | .none options => !anyOption document scope node options

def allHold (document : Document) (scope : Option Nat) (node : Nat) : List Simple → Bool
  | [] => true
  | test :: tests => test.holds document scope node && allHold document scope node tests

def Complex.holds (document : Document) (scope : Option Nat) (node : Nat) : Complex → Bool
  | .compound tests => document.isElement node && allHold document scope node tests
  | .related left combinator tests =>
    document.isElement node && allHold document scope node tests
      && (combinator.sources document node).any fun source => left.holds document scope source

/-- Whether an element is matched by one of the alternatives. -/
def anyOption (document : Document) (scope : Option Nat) (node : Nat) : List Complex → Bool
  | [] => false
  | option :: options => option.holds document scope node || anyOption document scope node options

end

def holds (selector : Selector) (document : Document) (scope : Option Nat) (node : Nat) : Bool :=
  anyOption document scope node selector.options

def matched (selector : Selector) (document : Document) : List Nat :=
  document.elements.filter fun node => selector.holds document none node

/-- The elements inside a node that a selector matches, in document order. -/
def matchedInside (selector : Selector) (document : Document) (node : Nat) : List Nat :=
  ((document.descendants node).filter document.isElement).filter fun place =>
    selector.holds document (some node) place

/-- The elements directly inside a node that a selector matches, in document order. -/
def matchedChildren (selector : Selector) (document : Document) (node : Nat) : List Nat :=
  (document.childElements node).filter fun child => selector.holds document none child

end Selector

end Harvest
