import Harvest.Failure
import Harvest.Page.Document

/-!
Contract: a page that answers calls.

A page shows a document at an address, knows other documents by theirs, and remembers
where it has been. Following a link or opening an address that it knows shows that
document; scrolling shows the next document of a feed. With a new document, what had been
changed on the former one is forgotten. Every interaction is noted, also one that fails.
-/

namespace Harvest

open Markup

structure Page where
  url : String := "about:blank"
  source : PageSource
  known : List (String × PageSource) := []
  history : List (String × PageSource) := []
  feed : List PageSource := []
  changes : Changes := []
  focused : Option Nat := none
  interactions : List String := []
  snapshots : List String := []
  preparations : Nat := 0
  tearDowns : Nat := 0
  helperCount : Nat := 0
deriving Inhabited

/-- What a page does on a call: its next state, the answer, and what it reports. -/
structure PageReply where
  page : Page
  answer : Except Failure Json
  events : List PageEvent := []

namespace Page

def view (page : Page) : View :=
  ⟨page.source.document, page.changes⟩

def select (page : Page) (selector : String) : Except Failure (List Nat) :=
  match Selector.select? page.source.document selector with
  | some nodes => .ok nodes
  | none => .error (.page (.badSelector selector))

def note (page : Page) (kind target : String) : Page :=
  { page with interactions := page.interactions ++ [kind ++ ":" ++ target] }

def reply (page : Page) (answer : Except Failure Json) : PageReply :=
  ⟨page, answer, []⟩

def present (page : Page) (source : PageSource) : Page :=
  { page with source := source, changes := [] }

def setContent (page : Page) (text : String) : Page :=
  page.present (.ofText text)

def navigate (page : Page) (url : String) : PageReply :=
  match page.known.lookup url with
  | none => page.reply (.error (.noDocument url))
  | some source =>
    let next := { page with
      url := url, source := source, history := (page.url, page.source) :: page.history, changes := [], focused := none }
    ⟨next, .ok (.string url), [.request url, .navigated url]⟩

def resolveLink (current target : String) : String :=
  match Uri.read current with
  | .error _ => target
  | .ok base =>
    match base.join target with
    | .ok address => address.text
    | .error _ => target

/-- Where a click on an element leads, if it is a link to a known address. -/
def linkOf? (page : Page) (node : Nat) : Option String :=
  if page.source.document.name? node = some "a" then
    ((page.source.document.attribute? node "href").map (resolveLink page.url)).filter fun url =>
      (page.known.lookup url).isSome
  else none

def click (page : Page) (selector : String) : PageReply :=
  let page := page.note "click" selector
  match page.select selector with
  | .error failure => page.reply (.error failure)
  | .ok [] => page.reply (.ok (.bool false))
  | .ok (node :: _) =>
    let requests := match page.source.document.attribute? node "data-request" with
      | some url => [PageEvent.request url]
      | none => []
    match page.linkOf? node with
    | none => ⟨page, .ok (.bool true), requests⟩
    | some url =>
      let moved := page.navigate url
      ⟨moved.page, moved.answer.map fun _ => .bool true, requests ++ moved.events⟩

def touch (page : Page) (kind selector : String) : PageReply :=
  let page := page.note kind selector
  page.reply ((page.select selector).map fun nodes => .bool !nodes.isEmpty)

/-- Puts the focus on the first of the elements that a selector matches. -/
def focus (page : Page) (selector : String) : PageReply :=
  match page.select selector with
  | .error failure => page.reply (.error failure)
  | .ok nodes =>
    let page := page.note "focus" selector
    { page with focused := nodes.head? }.reply (.ok (.bool nodes.head?.isSome))

/-- Takes the focus from an element that a selector matches. -/
def blur (page : Page) (selector : String) : PageReply :=
  let page := page.note "blur" selector
  match page.select selector with
  | .error failure => page.reply (.error failure)
  | .ok nodes =>
    match page.focused with
    | none => page.reply (.ok (.bool false))
    | some node =>
      if nodes.contains node then { page with focused := none }.reply (.ok (.bool true))
      else page.reply (.ok (.bool false))

def change (page : Page) (kind selector : String) (change : ElementChange → ElementChange) : PageReply :=
  let page := page.note kind selector
  match page.select selector with
  | .error failure => page.reply (.error failure)
  | .ok nodes =>
    { page with changes := page.changes.updateAll nodes change }.reply (.ok (.bool !nodes.isEmpty))

/-- Scrolls, which shows the next document of the feed. -/
def scroll (page : Page) (selector : Option String) : PageReply :=
  let page := page.note "scroll" (selector.getD "window")
  match page.feed with
  | [] => page.reply (.ok (.bool true))
  | next :: feed => ({ page with feed := feed }.present next).reply (.ok (.bool true))

/-- The height that one node adds. -/
def heightUnit : Nat := 20

/-- The height that can be scrolled: of the elements that a selector matches, or of the document. -/
def scrollHeight (page : Page) : Option String → Except Failure Json
  | none => .ok (.count (page.source.document.size * heightUnit))
  | some selector =>
    (page.select selector).map fun nodes =>
      .count ((nodes.map page.source.document.extent).foldl (· + ·) 0 * heightUnit)

def back (page : Page) : PageReply :=
  match page.history with
  | [] => page.reply (.ok (.bool false))
  | (url, source) :: history =>
    ⟨({ page with url := url, history := history }).present source, .ok (.string url), [.navigated url]⟩

/-- What the elements that a selector matches read; null if it is no selector. -/
def query (page : Page) (selector : String) (attr property : Option String) : Json :=
  match page.select selector with
  | .error _ => .null
  | .ok nodes =>
    .array ((nodes.filterMap (page.view.reading? attr property)).map fun text => .string (Text.trim text))

def dispatch (page : Page) : PageCall → PageReply
  | .query selector attr property => page.reply (.ok (page.query selector attr property))
  | .count selector => page.reply ((page.select selector).map fun nodes => .count nodes.length)
  | .visible selector =>
    page.reply ((page.select selector).map fun nodes => .bool (nodes.any page.view.isVisible))
  | .click selector => page.click selector
  | .mouseDown selector => page.touch "mouseDown" selector
  | .mouseUp selector => page.touch "mouseUp" selector
  | .focus selector => page.focus selector
  | .blur selector => page.blur selector
  | .type selector text => page.change "type" selector (ElementChange.withValue text)
  | .changeElement selector style attributes =>
    page.change "changeElement" selector fun change => (change.withStyle style).withAttributes attributes
  | .scroll selector => page.scroll selector
  | .scrollHeight selector => page.reply (page.scrollHeight selector)
  | .url => page.reply (.ok (.string page.url))
  | .visit url => (page.note "open" url).navigate url
  | .back => page.back
  | .readyState => page.reply (.ok (.string "complete"))
  | .injectHelpers => { page with helperCount := page.helperCount + 1 }.reply (.ok (.bool true))

def valueOf? (page : Page) (selector : String) : Option String :=
  match page.select selector with
  | .ok (node :: _) => page.view.value? node
  | _ => none

end Page

end Harvest
