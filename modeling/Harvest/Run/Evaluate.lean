import Harvest.Rule.Kind
import Harvest.Run.Action
import Harvest.Run.Scoped

/-!
Contract: the evaluation of rules, and the actions that nest.

A simple rule queries the page; a collection evaluates its members in order into a
mapping and keeps each under its name; a grid does so for each row that the page has,
from an offset on. A row that fails ends the grid and the rows before it remain, unless the
description is at fault. Each rule pushes its scope for what is evaluated inside it and pops it
again, also where that fails.
-/

namespace Harvest

namespace Run

/-- What is queried where no scope is given. -/
def wholeDocument : String := "html"

/-- The texts of an answer, trimmed. Null is no answer. -/
def textsOf (selector : String) : Json → Except Failure (List String)
  | .null => .error (.emptyQuery selector)
  | .array items => .ok (items.map fun item => Text.trim item.asText)
  | other => .ok [Text.trim other.asText]

def convertEach (steps : List Transform.Step) : List String → Script (List Json)
  | [] => pure []
  | text :: texts => do
    let value ← Script.convert steps (.string text)
    return value :: (← convertEach steps texts)

/-- Pushes the scope of a rule, if it has any: whether a frame was pushed. -/
def enter (head : RuleHead) : Scoped Bool :=
  match Rule.frame? head with
  | none => pure false
  | some frame => do
    Scoped.push frame
    return true

/-- Pops the scope of a rule, if one was pushed. -/
def leave (pushed : Bool) : Scoped Unit :=
  if pushed then Scoped.pop else pure ()

/-- Queries the page for a simple rule and converts what it reads. -/
def readSimple (head : RuleHead) (selector : String) : Script Json := do
  let answer ← Script.call (.query selector head.attr head.property)
  let texts ← Script.settled (textsOf selector answer)
  match head.shape with
  | .array => return .array (← convertEach head.transforms texts)
  | .text => Script.convert head.transforms (.string (head.separatorText.intercalate texts))

def evaluateSimple (head : RuleHead) : Scoped Json := do
  let pushed ← enter head
  let resolved ← Scoped.selector
  leave pushed
  Scoped.ofScript (readSimple head (if resolved = "" then wholeDocument else resolved))

/-- Applies the transforms of a collection or a grid to the whole of it. -/
def convertWhole (head : RuleHead) (value : Json) : Script Json :=
  if head.transforms.isEmpty then pure value else Script.convert head.transforms value

def rowCount (answer : Json) : Nat :=
  match answer.asNumber with
  | some number => (number.truncateWithin 0 Decimal.maxIndex).toNat
  | none => 0

def rowFrame (scope : String) (parentScope : Option String) (index : Nat) : ScopeFrame :=
  ⟨scope ++ ":eq(" ++ Description.countText index ++ ")", parentScope⟩

/-- Evaluates rows from an index on, each inside a frame of its own, up to the first that fails. -/
def collectRows (frame : Nat → ScopeFrame) (row : Scoped Json) : (index remaining : Nat) → Scoped (List Json)
  | _, 0 => pure []
  | index, remaining + 1 => do
    Scoped.push (frame index)
    let outcome ← Scoped.outcome row
    Scoped.pop
    match outcome with
    | .ok value => return value :: (← collectRows frame row (index + 1) remaining)
    | .error failure => if failure.isConfiguration then throw failure else return []

def evaluateGrid (head : RuleHead) (offset : Nat) (row : Scoped Json) : Scoped Json :=
  match head.scope with
  | none => throw (.invalidRule (.gridWithoutScope head.describe))
  | some scope => do
    Scoped.push ⟨scope, head.parentScope⟩
    let selector ← Scoped.selector
    Scoped.pop
    let answer ← Scoped.ofScript (Script.call (.count selector))
    let rows ← collectRows (rowFrame scope head.parentScope) row offset (rowCount answer - offset)
    return .array rows

/-- Evaluates one named rule of a collection or a row, keeps its value, and adds it to the fields unless it is
virtual. -/
def collectField (head : RuleHead) (value : Scoped Json) (fields : Fields) : Scoped Fields := do
  match head.name with
  | none => throw (.invalidRule (.unnamedMember head.describe))
  | some name =>
    let value ← value
    Scoped.ofScript (Script.keep name value)
    return if head.isVirtual then fields else Fields.insert name value fields

/-- Has the actions of a rule performed, if it has any, with the selector around it. -/
def performFirst (actions : List Action) (performed : (parent : String) → Script Json) : Scoped Unit :=
  if actions.isEmpty then pure ()
  else do
    let parent ← Scoped.selector
    let _ ← Scoped.ofScript (performed parent)

def inside (head : RuleHead) (members : Scoped Json) : Scoped Json := do
  let pushed ← enter head
  let outcome ← Scoped.outcome members
  leave pushed
  Scoped.settled outcome

mutual

/-- Evaluates a rule inside the scopes on the stack; a grid begins at an offset. -/
def evaluateRule (setup : Setup) : Rule → (offset : Nat) → Scoped Json
  | .mk head members actions, offset => do
    let _ ← Scoped.settled (RuleKind.ofMembers head members)
    performFirst actions fun parent => performAll setup actions parent .null
    match members with
    | none => evaluateSimple head
    | some (.row rules :: _) =>
      let rows ← evaluateGrid head offset (evaluateRules setup rules [])
      Scoped.ofScript (convertWhole head rows)
    | some members =>
      let fields ← inside head (evaluateMembers setup members [])
      Scoped.ofScript (convertWhole head fields)

def evaluateMembers (setup : Setup) : List Member → Fields → Scoped Json
  | [], fields => pure (.object fields)
  | .rule rule :: members, fields => do
    let fields ← collectField rule.head (evaluateRule setup rule 0) fields
    evaluateMembers setup members fields
  | .row _ :: members, fields => evaluateMembers setup members fields

def evaluateRules (setup : Setup) : List Rule → Fields → Scoped Json
  | [], fields => pure (.object fields)
  | rule :: rules, fields => do
    let fields ← collectField rule.head (evaluateRule setup rule 0) fields
    evaluateRules setup rules fields

/-- Performs an action, given the selector around it and the result before it. -/
def perform (setup : Setup) : Action → (parent : String) → (previous : Json) → Script Json
  | .mk head actions conditions otherwise cases rules, parent, previous =>
    performOnce head previous <| attempt setup head parent fun performer selector =>
      match performer with
      | .custom _ run => run head selector previous
      | .builtIn .parse =>
        match rules with
        | none => refuse head (.missing "rules")
        | some rule => (evaluateRule setup rule 0).within (.rootedAt selector)
      | .builtIn .condition => do
        let verdict ← performAll setup conditions selector previous
        if verdict.isTruthy then performAll setup actions selector verdict
        else
          match otherwise with
          | none => return .bool false
          | some actions => performAll setup actions selector verdict
      | .builtIn .cases => if cases.isEmpty then throw (.invalidAction "cases" .noChains)
        else Script.race cases selector previous
      | .builtIn kind => performAlone setup kind head selector previous

/-- Performs actions in order, each with the result of the one before it. -/
def performAll (setup : Setup) : List Action → (parent : String) → (previous : Json) → Script Json
  | [], _, previous => pure previous
  | action :: actions, parent, previous => do
    let result ← perform setup action parent previous
    performAll setup actions parent result

end

def evaluateWithin (setup : Setup) (rule : Rule) (stack : ScopeStack) (offset : Nat) : Script Json :=
  (evaluateRule setup rule offset).within stack

/-- Performs the steps of a case. The first step that is marked to win the race and succeeds reports its
result, and the case goes on. -/
def performCase (setup : Setup) (selector : String) : (hasWon : Bool) → List Action → (previous : Json) → Script Json
  | _, [], previous => pure previous
  | hasWon, action :: actions, previous => do
    let result ← perform setup action selector previous
    if action.head.winsRace && !hasWon then
      Script.win result
      performCase setup selector true actions result
    else performCase setup selector hasWon actions result

end Run

end Harvest
