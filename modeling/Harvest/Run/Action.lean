import Harvest.Registry
import Harvest.Rule.Scope
import Harvest.Run.Wait

/-!
Contract: what the built-in actions do that perform no other actions.

Each makes at most a few calls to the page, or waits. What an action needs is checked
before it touches the page; an action without a selector fails where it must have one.
-/

namespace Harvest

/-- What is done to the elements that a selector matches. -/
inductive Gesture where
  | click
  | mouseDown
  | mouseUp
  | focus
  | blur

def Gesture.call (gesture : Gesture) (selector : String) : PageCall :=
  match gesture with
  | .click => .click selector
  | .mouseDown => .mouseDown selector
  | .mouseUp => .mouseUp selector
  | .focus => .focus selector
  | .blur => .blur selector

inductive PageCondition where
  | present
  | visible
  | invisible
  | ready

inductive BuiltInAction where
  | gesture (gesture : Gesture)
  | type
  | changeElement
  | scroll
  | sleep
  | waitFor (condition : PageCondition)
  | waitForPattern
  | waitForPage
  | waitForRequest
  | exist
  | url
  | visit
  | back
  | snapshot
  | parse
  | condition
  | cases

/-- Who performs an action: a built-in rule, or a script with a name of its own that is given the action, its
selector and the result before it. -/
inductive Performer where
  | builtIn (kind : BuiltInAction)
  | custom (name : String) (run : ActionHead → String → Json → Script Json)

/-- What does not change while jobs run: who performs actions, and the settings. -/
structure Setup where
  performers : Registry Performer
  settings : Settings

namespace BuiltInAction

def named : List (String × BuiltInAction) := [
  ("click", .gesture .click), ("mouseClick", .gesture .click), ("mouseDown", .gesture .mouseDown),
  ("mouseUp", .gesture .mouseUp), ("focus", .gesture .focus), ("blur", .gesture .blur), ("type", .type),
  ("changeElement", .changeElement), ("scroll", .scroll), ("wait", .sleep), ("waitForElement", .waitFor .present),
  ("waitForVisible", .waitFor .visible), ("waitForInvisible", .waitFor .invisible),
  ("waitForReadyState", .waitFor .ready), ("waitForPattern", .waitForPattern), ("waitForPage", .waitForPage),
  ("waitForQuery", .waitForRequest), ("exist", .exist), ("url", .url), ("open", .visit), ("back", .back),
  ("snapshot", .snapshot), ("parse", .parse), ("condition", .condition), ("cases", .cases)]

end BuiltInAction

namespace Performer

def standard : Registry Performer :=
  Registry.ofList (BuiltInAction.named.map fun entry => (entry.1, .builtIn entry.2))

/-- Registers a script that performs actions under its name, without the blanks around it. -/
def register (registry : Registry Performer) (name : String) (run : ActionHead → String → Json → Script Json) :
    Except Failure (Registry Performer) :=
  registry.register .action (Text.trim name) (.custom name run)

/-- The name that the performer registered under a name gives itself. -/
def nameIn? (registry : Registry Performer) (name : String) : Option String :=
  (registry.find? name).map fun performer =>
    match performer with
    | .builtIn _ => name
    | .custom own _ => own

end Performer

namespace Run

def refuse {α : Type} (head : ActionHead) (fault : ActionFault) : Script α :=
  throw (.invalidAction head.kind fault)

def target (head : ActionHead) (selector : String) : Script String :=
  if selector = "" then refuse head .noScope else pure selector

def mappingParam (head : ActionHead) (name : String) : Script Fields :=
  match head.param? name with
  | none => pure []
  | some (.object fields) => pure fields
  | some _ => refuse head (.notMapping name)

def gesture (gesture : Gesture) (head : ActionHead) (selector : String) : Script Json := do
  Script.call (gesture.call (← target head selector))

def type (head : ActionHead) (selector : String) (previous : Json) : Script Json := do
  let selector ← target head selector
  let usesPrevious := ((head.param? "useActionResult").bind Json.bool?).getD false
  let text ← if usesPrevious then pure previous.asText else Script.settled (head.requireText "text")
  Script.call (.type selector text)

def changeElement (head : ActionHead) (selector : String) : Script Json := do
  let selector ← target head selector
  let style ← mappingParam head "style"
  let attributes ← mappingParam head "attr"
  Script.call (.changeElement selector style attributes)

def scroll (selector : String) : Script Json :=
  Script.call (.scroll (if selector = "" then none else some selector))

def sleep (head : ActionHead) (previous : Json) : Script Json :=
  match head.timeout with
  | none => refuse head (.missing "timeout")
  | some duration => do
    Script.sleep duration
    return previous

def conditionCall (condition : PageCondition) (head : ActionHead) (selector : String) : Script PageCall :=
  match condition with
  | .present => do return .count (← target head selector)
  | .visible => do return .visible (← target head selector)
  | .invisible => do return .visible (← target head selector)
  | .ready => pure .readyState

def conditionHolds (condition : PageCondition) (head : ActionHead) (answer : Json) : Bool :=
  match condition with
  | .present => answer.isPositive
  | .visible => answer.bool? == some true
  | .invisible => answer.bool? == some false
  | .ready => answer.asText == (head.textParam? "state").getD "complete"

def waitFor (setup : Setup) (condition : PageCondition) (head : ActionHead) (selector : String) : Script Json := do
  let call ← conditionCall condition head selector
  let _ ← Wait.poll (.ofAction head setup.settings.wait) call (conditionHolds condition head)
  return .bool true

def patternParam (head : ActionHead) : Script Pattern :=
  match head.param? "pattern" with
  | none => refuse head (.missing "pattern")
  | some value =>
    match Pattern.ofJson value with
    | .ok pattern => pure pattern
    | .error fault => refuse head (.badPattern fault)

/-- Polls until the text of elements matches a pattern. -/
def waitForPattern (setup : Setup) (head : ActionHead) (selector : String) : Script Json := do
  let pattern ← patternParam head
  let call := PageCall.query (← target head selector) (head.textParam? "attr") none
  let value ← Wait.poll (.ofAction head setup.settings.wait) call fun value => pattern.isIn value.joinedText
  return .string value.joinedText

/-- Waits for a navigation and has the page take up its helpers again. -/
def awaitNavigation (setup : Setup) (head : ActionHead) (subscription : Nat) : Script Json := do
  let event ← Wait.awaitEvent (.ofAction head setup.settings.wait) subscription Awaited.navigation
  let _ ← Script.call .injectHelpers
  match event with
  | .navigated url => return .string url
  | _ => return .null

/-- Waits for a request whose address matches a pattern. -/
def awaitRequest (setup : Setup) (head : ActionHead) (source : String) (subscription : Nat) : Script Json := do
  match Pattern.ofText source "" with
  | .error _ => refuse head (.badAddressPattern source)
  | .ok pattern =>
    match ← Wait.awaitEvent (.ofAction head setup.settings.wait) subscription (Awaited.requestFor pattern) with
    | .request url => return .string url
    | _ => return .null

def waitForPage (setup : Setup) (head : ActionHead) : Script Json := do
  awaitNavigation setup head (← Script.subscribe)

def waitForRequest (setup : Setup) (head : ActionHead) : Script Json := do
  let source ← Script.settled (head.requireText "uri")
  awaitRequest setup head source (← Script.subscribe)

def exist (head : ActionHead) (selector : String) : Script Json := do
  let count ← Script.call (.count (← target head selector))
  return .bool count.isPositive

/-- The address that a text leads to from the current one. -/
def resolve (current target : String) : Except ActionFault String :=
  match Uri.read target with
  | .ok address => .ok address.text
  | .error _ =>
    match Uri.read current with
    | .error _ => .error (.noBase target)
    | .ok base =>
      match base.join target with
      | .ok address => .ok address.text
      | .error fault => .error (.unresolved target fault)

def visit (head : ActionHead) : Script Json := do
  let wanted ← Script.settled (head.requireText "url")
  let current ← Script.call .url
  match resolve current.asText wanted with
  | .error fault => refuse head fault
  | .ok url =>
    let _ ← Script.call (.visit url)
    let _ ← Script.call .injectHelpers
    return .string url

def back : Script Json := do
  let result ← Script.call .back
  let _ ← Script.call .injectHelpers
  return result

def snapshot (head : ActionHead) (previous : Json) : Script Json := do
  Script.capture ((head.textParam? "label").getD "snapshot")
  return previous

def performAlone (setup : Setup) (kind : BuiltInAction) (head : ActionHead) (selector : String) (previous : Json) :
    Script Json :=
  match kind with
  | .gesture motion => gesture motion head selector
  | .type => type head selector previous
  | .changeElement => changeElement head selector
  | .scroll => scroll selector
  | .sleep => sleep head previous
  | .waitFor condition => waitFor setup condition head selector
  | .waitForPattern => waitForPattern setup head selector
  | .waitForPage => waitForPage setup head
  | .waitForRequest => waitForRequest setup head
  | .exist => exist head selector
  | .url => Script.call .url
  | .visit => visit head
  | .back => back
  | .snapshot => snapshot head previous
  | .parse => refuse head (.missing "rules")
  | .condition => pure previous
  | .cases => refuse head .noChains

def awaitPage (setup : Setup) (head : ActionHead) : (pages : Option Nat) → Script Unit
  | none => pure ()
  | some subscription => do
    let _ ← awaitNavigation setup head subscription

/-- Awaits the request that an action announces, if a subscription was opened for it. -/
def awaitAddress (setup : Setup) (head : ActionHead) : (source : Option String) → (requests : Option Nat) → Script Unit
  | some source, some subscription => do
    let _ ← awaitRequest setup head source subscription
  | _, _ => pure ()

/-- Awaits what an action announces to await, on subscriptions opened before it was performed. -/
def awaitAnnounced (setup : Setup) (head : ActionHead) (pages requests : Option Nat) : Script Unit := do
  awaitPage setup head pages
  awaitAddress setup head head.awaitsRequest requests

def subscribeIf (wanted : Bool) : Script (Option Nat) :=
  if wanted then some <$> Script.subscribe else pure none

/-- Makes an attempt at an action: its own work, and what it awaits afterwards. It subscribes to events
before. -/
def attempt (setup : Setup) (head : ActionHead) (parent : String) (work : Performer → String → Script Json) :
    Script Json :=
  match setup.performers.find? head.kind with
  | none => throw (.unsupportedAction head.kind)
  | some performer => do
    let pages ← subscribeIf head.awaitsPage
    let requests ← subscribeIf head.awaitsRequest.isSome
    let result ← work performer (head.selector parent)
    awaitAnnounced setup head pages requests
    return result

/-- Performs one action by an attempt at it. An action that is to be done once is recorded when the attempt has
succeeded, and passed over if it is recorded already. -/
def performOnce (head : ActionHead) (previous : Json) (attempt : Script Json) : Script Json :=
  if head.once then do
    if ← Script.isDone head.identity then return previous
    else
      let result ← attempt
      Script.record head.identity
      return result
  else attempt

end Run

end Harvest
