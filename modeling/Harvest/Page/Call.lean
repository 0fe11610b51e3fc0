import Harvest.Description.Record

/-!
Contract: the calls that a page answers, and the events that it reports.

A call is written as a mapping whose field `call` names its kind, an event as one whose
field `event` does; reading gives back what was written.
-/

namespace Harvest

open Description

inductive PageCall where
  | query (selector : String) (attr property : Option String)
  | count (selector : String)
  | visible (selector : String)
  | click (selector : String)
  | mouseDown (selector : String)
  | mouseUp (selector : String)
  | focus (selector : String)
  | blur (selector : String)
  | type (selector text : String)
  | changeElement (selector : String) (style attributes : Fields)
  | scroll (selector : Option String)
  | scrollHeight (selector : Option String)
  | url
  | visit (address : String)
  | back
  | readyState
  | injectHelpers

inductive PageEvent where
  | navigated (url : String)
  | request (url : String)
  | error (text : String)

namespace PageCall

def textOf (selector : String) : PageCall :=
  .query selector none none

def kind : PageCall → String
  | .query .. => "query"
  | .count _ => "count"
  | .visible _ => "visible"
  | .click _ => "click"
  | .mouseDown _ => "mouseDown"
  | .mouseUp _ => "mouseUp"
  | .focus _ => "focus"
  | .blur _ => "blur"
  | .type .. => "type"
  | .changeElement .. => "changeElement"
  | .scroll _ => "scroll"
  | .scrollHeight _ => "scrollHeight"
  | .url => "url"
  | .visit _ => "open"
  | .back => "back"
  | .readyState => "readyState"
  | .injectHelpers => "injectHelpers"

def optionalText (text : Option String) : Json :=
  Json.optional (text.map .string)

def arguments : PageCall → Fields
  | .query selector attr property =>
    [("selector", .string selector), ("attr", optionalText attr), ("prop", optionalText property)]
  | .count selector => [("selector", .string selector)]
  | .visible selector => [("selector", .string selector)]
  | .click selector => [("selector", .string selector)]
  | .mouseDown selector => [("selector", .string selector)]
  | .mouseUp selector => [("selector", .string selector)]
  | .focus selector => [("selector", .string selector)]
  | .blur selector => [("selector", .string selector)]
  | .type selector text => [("selector", .string selector), ("text", .string text)]
  | .changeElement selector style attributes =>
    [("selector", .string selector), ("style", .object style), ("attr", .object attributes)]
  | .scroll selector => [("selector", optionalText selector)]
  | .scrollHeight selector => [("selector", optionalText selector)]
  | .visit address => [("url", .string address)]
  | .url => []
  | .back => []
  | .readyState => []
  | .injectHelpers => []

def fields (call : PageCall) : Fields :=
  ("call", .string call.kind) :: call.arguments

def toJson (call : PageCall) : Json :=
  .object (Fields.ofList call.fields)

/-- The script that has a page answer a call, behind the helpers that it needs. -/
def expression (call : PageCall) : String :=
  "\nJSON.stringify(window.__pageParser.run(" ++ (Json.object call.fields).compact ++ "))"

def selectorVariant (name title : String) (make : String → PageCall) : Variant PageCall where
  name := name
  title := "PageCall::" ++ title
  fields := [.required "selector" readText fun selector _ => make selector]
  start := make ""

def withSelector (selector : String) : PageCall → PageCall
  | .query _ attr property => .query selector attr property
  | .type _ text => .type selector text
  | .changeElement _ style attributes => .changeElement selector style attributes
  | other => other

def withAttribute (attr : Option String) : PageCall → PageCall
  | .query selector _ property => .query selector attr property
  | other => other

def withProperty (property : Option String) : PageCall → PageCall
  | .query selector attr _ => .query selector attr property
  | other => other

def withText (text : String) : PageCall → PageCall
  | .type selector _ => .type selector text
  | other => other

def withStyle (style : Fields) : PageCall → PageCall
  | .changeElement selector _ attributes => .changeElement selector style attributes
  | other => other

def withAttributes (attributes : Fields) : PageCall → PageCall
  | .changeElement selector style _ => .changeElement selector style attributes
  | other => other

def variants : List (Variant PageCall) := [
  { name := "query", title := "PageCall::Query", start := .query "" none none
    fields := [
      .required "selector" readText withSelector,
      .setting "attr" (readOptional readText) withAttribute,
      .setting "prop" (readOptional readText) withProperty] },
  selectorVariant "count" "Count" .count,
  selectorVariant "visible" "Visible" .visible,
  selectorVariant "click" "Click" .click,
  selectorVariant "mouseDown" "MouseDown" .mouseDown,
  selectorVariant "mouseUp" "MouseUp" .mouseUp,
  selectorVariant "focus" "Focus" .focus,
  selectorVariant "blur" "Blur" .blur,
  { name := "type", title := "PageCall::Type", start := .type "" ""
    fields := [.required "selector" readText withSelector, .required "text" readText withText] },
  { name := "changeElement", title := "PageCall::ChangeElement", start := .changeElement "" [] []
    fields := [
      .required "selector" readText withSelector,
      .defaulted "style" readMapping withStyle,
      .defaulted "attr" readMapping withAttributes] },
  { name := "scroll", title := "PageCall::Scroll", start := .scroll none
    fields := [.setting "selector" (readOptional readText) fun selector _ => .scroll selector] },
  { name := "scrollHeight", title := "PageCall::ScrollHeight", start := .scrollHeight none
    fields := [.setting "selector" (readOptional readText) fun selector _ => .scrollHeight selector] },
  { name := "url", title := "PageCall::Url", start := .url, fields := [] },
  { name := "open", title := "PageCall::Open", start := .visit ""
    fields := [.required "url" readText fun address _ => .visit address] },
  { name := "back", title := "PageCall::Back", start := .back, fields := [] },
  { name := "readyState", title := "PageCall::ReadyState", start := .readyState, fields := [] },
  { name := "injectHelpers", title := "PageCall::InjectHelpers", start := .injectHelpers, fields := [] }]

def read : Json → Reading PageCall :=
  readChoice "PageCall" "call" variants

end PageCall

namespace PageEvent

def variants : List (Variant PageEvent) := [
  { name := "navigated", title := "PageEvent::Navigated", start := .navigated ""
    fields := [.required "url" readText fun url _ => .navigated url] },
  { name := "request", title := "PageEvent::Request", start := .request ""
    fields := [.required "url" readText fun url _ => .request url] },
  { name := "error", title := "PageEvent::Error", start := .error ""
    fields := [.required "message" readText fun text _ => .error text] }]

def read : Json → Reading PageEvent :=
  readChoice "PageEvent" "event" variants

def toJson : PageEvent → Json
  | .navigated url => .object [("event", .string "navigated"), ("url", .string url)]
  | .request url => .object [("event", .string "request"), ("url", .string url)]
  | .error text => .object [("event", .string "error"), ("message", .string text)]

end PageEvent

end Harvest
