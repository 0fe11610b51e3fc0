import Harvest.Description.Rule

/-!
Contract: writing rules, actions and steps as JSON.

Absent texts are written as null; lists that are empty are not written. A step or an
action writes its options or parameters beside the fields that all know, an option in
place of the type of a step if it is called so.
-/

namespace Harvest

def Transform.Step.toJson (step : Transform.Step) : Json :=
  .object (Fields.ofList (("type", .string step.kind) :: step.options))

def ResultShape.word : ResultShape → String
  | .text => "string"
  | .array => "array"

namespace Description

def textOrNull (text : Option String) : Json :=
  Json.optional (text.map .string)

def countOrNull (number : Option Nat) : Json :=
  Json.optional (number.map Json.count)

def unlessEmpty (name : String) (items : List Json) : Fields :=
  if items.isEmpty then [] else [(name, .array items)]

def ruleHeadFields (head : RuleHead) : Fields :=
  [("scope", textOrNull head.scope), ("parentScope", textOrNull head.parentScope), ("name", textOrNull head.name)]
    ++ unlessEmpty "transform" (head.transforms.map Transform.Step.toJson)
    ++ [("type", .string head.shape.word), ("separator", textOrNull head.separator), ("attr", textOrNull head.attr),
      ("prop", textOrNull head.property), ("virtual", .bool head.isVirtual)]

def actionHeadFields (head : ActionHead) : Fields :=
  [("type", .string head.kind), ("scope", textOrNull head.scope), ("parentScope", textOrNull head.parentScope),
    ("once", .bool head.once), ("timeout", countOrNull head.timeout), ("interval", countOrNull head.interval),
    ("trueCase", .bool head.winsRace), ("waitForPage", .bool head.awaitsPage),
    ("waitForQuery", textOrNull head.awaitsRequest)]

mutual

def writeRule : Rule → Json
  | .mk head members actions =>
    .object (Fields.ofList (ruleHeadFields head ++ [("collection", writeMembersOrNull members)]
      ++ unlessEmpty "actions" (writeActions actions)))

def writeMembersOrNull : Option (List Member) → Json
  | none => .null
  | some members => .array (writeMembers members)

def writeMembers : List Member → List Json
  | [] => []
  | member :: members => writeMember member :: writeMembers members

def writeMember : Member → Json
  | .rule rule => writeRule rule
  | .row rules => .array (writeRules rules)

def writeRules : List Rule → List Json
  | [] => []
  | rule :: rules => writeRule rule :: writeRules rules

def writeRuleOrNull : Option Rule → Json
  | none => .null
  | some rule => writeRule rule

def writeAction : Action → Json
  | .mk head actions conditions otherwise cases rules =>
    .object (Fields.ofList (actionHeadFields head
      ++ unlessEmpty "actions" (writeActions actions) ++ unlessEmpty "conditions" (writeActions conditions)
      ++ [("elseActions", writeActionsOrNull otherwise)] ++ unlessEmpty "cases" (writeCases cases)
      ++ [("rules", writeRuleOrNull rules)] ++ head.params))

def writeActions : List Action → List Json
  | [] => []
  | action :: actions => writeAction action :: writeActions actions

def writeActionsOrNull : Option (List Action) → Json
  | none => .null
  | some actions => .array (writeActions actions)

def writeCases : List (List Action) → List Json
  | [] => []
  | actions :: cases => .array (writeActions actions) :: writeCases cases

end

end Description

end Harvest
