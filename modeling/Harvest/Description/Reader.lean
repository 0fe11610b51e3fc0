import Harvest.Description.Record
import Harvest.Description.Rule

/-!
Contract: reading rules, actions and steps from JSON.

A rule is a mapping or an array of its eleven fields; an action and a step are mappings,
and what they do not know is kept as parameters or options. A member of a rule is an
array of rules where its items can be read so, and a rule otherwise. Actions come out
without identity.
-/

namespace Harvest.Description

def readStepFields : (kind : Option String) → (options : Fields) → Fields → Reading Transform.Step
  | some kind, options, [] => .ok ⟨kind, options⟩
  | none, _, [] => .error (.missingField "type")
  | kind, options, (name, value) :: rest =>
    if name = "type" then
      if kind.isSome then .error (.repeatedField "type")
      else (readText value).bind fun kind => readStepFields (some kind) options rest
    else readStepFields kind (Fields.insert name value.normal options) rest

def readStep : Json → Reading Transform.Step
  | .object fields => readStepFields none [] fields
  | other => .error (.wrongType other (.record "TransformStep"))

def shapeNamed (word : String) : Reading ResultShape :=
  if word = "string" then .ok .text
  else if word = "array" then .ok .array
  else .error (.unknownVariant word ["string", "array"])

/-- The shape of what a rule gives: a word, or a mapping of the word to null. -/
def readShape : Json → Reading ResultShape
  | .string word => shapeNamed word
  | .object [(word, value)] =>
    (shapeNamed word).bind fun shape =>
      match value with
      | .null => .ok shape
      | other => .error (.wrongType other .nothing)
  | .object _ => .error .severalFields
  | other => .error (.wrongType other .choice)

def readTextOrNull : Json → Reading (Option String) :=
  readOptional readText

structure RuleDraft where
  head : RuleHead := {}
  members : Option (List Member) := none
  actions : List Action := []

def RuleDraft.finish (draft : RuleDraft) : Rule :=
  .mk draft.head draft.members draft.actions

/-- The fields of a rule in the order of declaration, and whether each has a default. -/
def ruleFields : List (String × Bool) := [
  ("scope", false), ("parentScope", false), ("name", false), ("collection", false), ("transform", true),
  ("actions", true), ("type", true), ("separator", false), ("attr", false), ("prop", false), ("virtual", true)]

/-- Reads one field of a rule; how the nested descriptions are read is given. -/
def readRuleField (members : Unit → Reading (Option (List Member))) (actions : Unit → Reading (List Action))
    (name : String) (value : Json) (draft : RuleDraft) : Reading RuleDraft :=
  let changing (change : RuleHead) : RuleDraft := { draft with head := change }
  match name with
  | "scope" => (readTextOrNull value).map fun scope => changing { draft.head with scope := scope }
  | "parentScope" => (readTextOrNull value).map fun scope => changing { draft.head with parentScope := scope }
  | "name" => (readTextOrNull value).map fun name => changing { draft.head with name := name }
  | "collection" => (members ()).map fun members => { draft with members := members }
  | "transform" => (readArray readStep value).map fun steps => changing { draft.head with transforms := steps }
  | "actions" => (actions ()).map fun actions => { draft with actions := actions }
  | "type" => (readShape value).map fun shape => changing { draft.head with shape := shape }
  | "separator" => (readTextOrNull value).map fun text => changing { draft.head with separator := text }
  | "attr" => (readTextOrNull value).map fun text => changing { draft.head with attr := text }
  | "prop" => (readTextOrNull value).map fun text => changing { draft.head with property := text }
  | "virtual" => (readBool value).map fun flag => changing { draft.head with isVirtual := flag }
  | _ => .ok draft

structure ActionDraft where
  head : ActionHead := {}
  actions : List Action := []
  conditions : List Action := []
  otherwise : Option (List Action) := none
  cases : List (List Action) := []
  rules : Option Rule := none

def ActionDraft.finish (draft : ActionDraft) (seen : List String) : Reading Action :=
  if seen.contains "type" then
    .ok (.mk draft.head draft.actions draft.conditions draft.otherwise draft.cases draft.rules)
  else .error (.missingField "type")

def actionFields : List String := [
  "type", "scope", "parentScope", "once", "timeout", "interval", "trueCase", "actions", "conditions", "elseActions",
  "cases", "rules", "waitForPage", "waitForQuery"]

structure NestedReading where
  actions : Unit → Reading (List Action)
  otherwise : Unit → Reading (Option (List Action))
  cases : Unit → Reading (List (List Action))
  rules : Unit → Reading (Option Rule)

/-- Reads one field of an action. A field that actions do not know is a parameter. -/
def readActionField (nested : NestedReading) (name : String) (value : Json) (draft : ActionDraft) :
    Reading ActionDraft :=
  let changing (change : ActionHead) : ActionDraft := { draft with head := change }
  match name with
  | "type" => (readText value).map fun kind => changing { draft.head with kind := kind }
  | "scope" => (readTextOrNull value).map fun scope => changing { draft.head with scope := scope }
  | "parentScope" => (readTextOrNull value).map fun scope => changing { draft.head with parentScope := scope }
  | "once" => (readBool value).map fun flag => changing { draft.head with once := flag }
  | "timeout" => (readOptional readWord value).map fun time => changing { draft.head with timeout := time }
  | "interval" => (readOptional readWord value).map fun time => changing { draft.head with interval := time }
  | "trueCase" => (readBool value).map fun flag => changing { draft.head with winsRace := flag }
  | "actions" => (nested.actions ()).map fun actions => { draft with actions := actions }
  | "conditions" => (nested.actions ()).map fun actions => { draft with conditions := actions }
  | "elseActions" => (nested.otherwise ()).map fun actions => { draft with otherwise := actions }
  | "cases" => (nested.cases ()).map fun cases => { draft with cases := cases }
  | "rules" => (nested.rules ()).map fun rules => { draft with rules := rules }
  | "waitForPage" => (readBool value).map fun flag => changing { draft.head with awaitsPage := flag }
  | "waitForQuery" => (readTextOrNull value).map fun text => changing { draft.head with awaitsRequest := text }
  | _ => .ok (changing { draft.head with params := Fields.insert name value.normal draft.head.params })

/-- The first place from one on whose field has no default. -/
def missingPlace? : (place : Nat) → (fields : List (String × Bool)) → Option Nat
  | _, [] => none
  | place, (_, hasDefault) :: fields => if hasDefault then missingPlace? (place + 1) fields else some place

mutual

def readRule : Json → Reading Rule
  | .object fields => (readRuleFields [] fields {}).map RuleDraft.finish
  | .array items => (readRuleItems 0 ruleFields items {}).map RuleDraft.finish
  | other => .error (.wrongType other (.record "Rule"))

def readRuleFields : (seen : List String) → List (String × Json) → RuleDraft → Reading RuleDraft
  | _, [], draft => .ok draft
  | seen, (name, value) :: rest, draft =>
    if seen.contains name then .error (.repeatedField name)
    else
      match readRuleField (fun _ => readMembersOrNull value) (fun _ => readActionList value) name value draft with
      | .error problem => .error problem
      | .ok draft =>
        readRuleFields (if ruleFields.any (·.1 == name) then name :: seen else seen) rest draft

/-- The fields of a rule in the order of declaration. -/
def readRuleItems : (place : Nat) → (fields : List (String × Bool)) → List Json → RuleDraft → Reading RuleDraft
  | place, fields, [], draft =>
    match missingPlace? place fields with
    | some place => .error (.tooShort place "struct Rule" ruleFields.length)
    | none => .ok draft
  | place, [], _ :: rest, _ => .error (.tooLong (place + rest.length + 1))
  | place, (name, _) :: fields, value :: rest, draft =>
    match readRuleField (fun _ => readMembersOrNull value) (fun _ => readActionList value) name value draft with
    | .error problem => .error problem
    | .ok draft => readRuleItems (place + 1) fields rest draft

def readMembersOrNull : Json → Reading (Option (List Member))
  | .null => .ok none
  | .array items => (readMembers items).map some
  | other => .error (.wrongType other .sequence)

def readMembers : List Json → Reading (List Member)
  | [] => .ok []
  | value :: rest =>
    match readMember value with
    | .error problem => .error problem
    | .ok member => (readMembers rest).map fun members => member :: members

def readMember : Json → Reading Member
  | .array items =>
    match readRules items with
    | .ok rules => .ok (.row rules)
    | .error _ =>
      match readRuleItems 0 ruleFields items {} with
      | .ok draft => .ok (.rule draft.finish)
      | .error _ => .error (.noVariant "RuleNode")
  | .object fields =>
    match readRuleFields [] fields {} with
    | .ok draft => .ok (.rule draft.finish)
    | .error _ => .error (.noVariant "RuleNode")
  | _ => .error (.noVariant "RuleNode")

def readRules : List Json → Reading (List Rule)
  | [] => .ok []
  | value :: rest =>
    match readRule value with
    | .error problem => .error problem
    | .ok rule => (readRules rest).map fun rules => rule :: rules

def readRuleOrNull : Json → Reading (Option Rule)
  | .null => .ok none
  | .object fields => (readRuleFields [] fields {}).map fun draft => some draft.finish
  | .array items => (readRuleItems 0 ruleFields items {}).map fun draft => some draft.finish
  | other => .error (.wrongType other (.record "Rule"))

def readAction : Json → Reading Action
  | .object fields => readActionFields [] fields {}
  | other => .error (.wrongType other (.record "ActionSpec"))

def readActionFields : (seen : List String) → List (String × Json) → ActionDraft → Reading Action
  | seen, [], draft => draft.finish seen
  | seen, (name, value) :: rest, draft =>
    if seen.contains name then .error (.repeatedField name)
    else
      let nested : NestedReading := ⟨fun _ => readActionList value, fun _ => readActionsOrNull value,
        fun _ => readCaseList value, fun _ => readRuleOrNull value⟩
      match readActionField nested name value draft with
      | .error problem => .error problem
      | .ok draft => readActionFields (if actionFields.contains name then name :: seen else seen) rest draft

def readActionList : Json → Reading (List Action)
  | .array items => readActions items
  | other => .error (.wrongType other .sequence)

def readActionsOrNull : Json → Reading (Option (List Action))
  | .null => .ok none
  | .array items => (readActions items).map some
  | other => .error (.wrongType other .sequence)

def readActions : List Json → Reading (List Action)
  | [] => .ok []
  | value :: rest =>
    match readAction value with
    | .error problem => .error problem
    | .ok action => (readActions rest).map fun actions => action :: actions

def readCaseList : Json → Reading (List (List Action))
  | .array items => readCases items
  | other => .error (.wrongType other .sequence)

def readCases : List Json → Reading (List (List Action))
  | [] => .ok []
  | value :: rest =>
    match readActionList value with
    | .error problem => .error problem
    | .ok actions => (readCases rest).map fun cases => actions :: cases

end

end Harvest.Description
