import Harvest.Proofs.Description.Readers

/-!
Contract: which field of a description determines which part of it.

Steps, rules and actions are taken apart here, once: every part has a field of its own, a reader,
and a place in the draft. Fields that a step or an action does not know are collected
as its options or parameters.
-/

namespace Harvest.Description

theorem map_map_eq {α β : Type} {reading : Reading α} {make : α → β} {part : β → α}
    (undoes : ∀ value, part (make value) = value) :
    (reading.map make).map part = reading := by
  cases reading with
  | error problem => rfl
  | ok value => exact congrArg Except.ok (undoes value)

/-! ### Steps -/

/-- The only part of a step that has a field of its own is its kind. -/
def stepParts : stepReader.Parts where
  Index := Unit
  Value _ := String
  field _ := "type"
  read _ := readText
  of _ step := step.kind
  determines _ := {
    known := rfl
    own := fun value step => map_map_eq fun _ => rfl
    other := fun field value step changed different reads => by
      simp only [stepReader, if_neg different] at reads
      cases reads
      rfl }
  covers name known := ⟨(), (beq_iff_eq.mp known).symm⟩
  passes name value step unknown := by
    have different : name ≠ "type" := fun same => by simp [stepReader, same] at unknown
    exact ⟨_, if_neg different⟩

theorem stepReader_collects : stepReader.Collects fun step => step.options where
  unknown name value step changed unknown reads := by
    have different : name ≠ "type" := fun same => by simp [stepReader, same] at unknown
    simp only [stepReader, if_neg different] at reads
    cases reads
    rfl
  known name value step changed known reads := by
    have same : name = "type" := beq_iff_eq.mp known
    simp only [stepReader, if_pos same] at reads
    obtain ⟨_, _, rfl⟩ := exists_of_map_eq_ok reads
    rfl

/-! ### Rules -/

inductive RulePart where
  | scope | parentScope | name | members | transforms | actions | shape | separator | attr | property | isVirtual

namespace RulePart

@[reducible]
def Value : RulePart → Type
  | members => Option (List Member)
  | transforms => List Transform.Step
  | actions => List Action
  | shape => ResultShape
  | isVirtual => Bool
  | _ => Option String

def field : RulePart → String
  | scope => "scope"
  | parentScope => "parentScope"
  | name => "name"
  | members => "collection"
  | transforms => "transform"
  | actions => "actions"
  | shape => "type"
  | separator => "separator"
  | attr => "attr"
  | property => "prop"
  | isVirtual => "virtual"

def read : (part : RulePart) → Json → Reading part.Value
  | scope | parentScope | name | separator | attr | property => readTextOrNull
  | members => readMembersOrNull
  | transforms => readArray readStep
  | actions => readActionList
  | shape => readShape
  | isVirtual => readBool

def of : (part : RulePart) → RuleDraft → part.Value
  | scope, draft => draft.head.scope
  | parentScope, draft => draft.head.parentScope
  | name, draft => draft.head.name
  | members, draft => draft.members
  | transforms, draft => draft.head.transforms
  | actions, draft => draft.actions
  | shape, draft => draft.head.shape
  | separator, draft => draft.head.separator
  | attr, draft => draft.head.attr
  | property, draft => draft.head.property
  | isVirtual, draft => draft.head.isVirtual

theorem determines (part : RulePart) : ruleReader.Determines part.field part.read part.of where
  known := by cases part <;> rfl
  own value draft := by cases part <;> exact map_map_eq fun _ => rfl
  other field value draft changed different reads := by
    simp only [ruleReader, readRuleField] at reads
    split at reads
    case h_12 =>
      cases reads
      rfl
    all_goals
      obtain ⟨_, _, rfl⟩ := exists_of_map_eq_ok reads
      cases part <;> first | rfl | exact absurd rfl different

theorem covers (name : String) (known : ruleReader.knows name = true) : ∃ part : RulePart, part.field = name := by
  simp only [ruleReader, ruleFields, List.any_cons, List.any_nil, Bool.or_false, Bool.or_eq_true, beq_iff_eq] at known
  rcases known with rfl | rfl | rfl | rfl | rfl | rfl | rfl | rfl | rfl | rfl | rfl
  exacts [⟨.scope, rfl⟩, ⟨.parentScope, rfl⟩, ⟨.name, rfl⟩, ⟨.members, rfl⟩, ⟨.transforms, rfl⟩, ⟨.actions, rfl⟩,
    ⟨.shape, rfl⟩, ⟨.separator, rfl⟩, ⟨.attr, rfl⟩, ⟨.property, rfl⟩, ⟨.isVirtual, rfl⟩]

/-- Fields that a rule does not know are passed over. -/
theorem passes (name : String) (value : Json) (draft : RuleDraft) (unknown : ruleReader.knows name = false) :
    ∃ changed, ruleReader.read name value draft = .ok changed := by
  refine ⟨draft, ?_⟩
  simp only [ruleReader, readRuleField]
  split
  case h_12 => rfl
  all_goals exact absurd unknown (by decide)

/-- A draft is determined by its parts. -/
theorem ext {draft other : RuleDraft} (same : ∀ part : RulePart, part.of draft = part.of other) : draft = other := by
  obtain ⟨⟨_, _, _, _, _, _, _, _, _⟩, _, _⟩ := draft
  obtain ⟨⟨_, _, _, _, _, _, _, _, _⟩, _, _⟩ := other
  simp only [RuleDraft.mk.injEq, RuleHead.mk.injEq]
  exact ⟨⟨same scope, same parentScope, same name, same transforms, same shape, same separator, same attr,
    same property,
    same isVirtual⟩, same members, same actions⟩

end RulePart

def ruleParts : ruleReader.Parts where
  Index := RulePart
  Value := RulePart.Value
  field := RulePart.field
  read := RulePart.read
  of := RulePart.of
  determines := RulePart.determines
  covers := RulePart.covers
  passes := RulePart.passes

/-! ### Actions -/

inductive ActionPart where
  | kind | scope | parentScope | once | timeout | interval | winsRace | actions | conditions | otherwise | cases | rules
  | awaitsPage | awaitsRequest

namespace ActionPart

@[reducible]
def Value : ActionPart → Type
  | kind => String
  | once | winsRace | awaitsPage => Bool
  | timeout | interval => Option Nat
  | actions | conditions => List Action
  | otherwise => Option (List Action)
  | cases => List (List Action)
  | rules => Option Rule
  | _ => Option String

def field : ActionPart → String
  | kind => "type"
  | scope => "scope"
  | parentScope => "parentScope"
  | once => "once"
  | timeout => "timeout"
  | interval => "interval"
  | winsRace => "trueCase"
  | actions => "actions"
  | conditions => "conditions"
  | otherwise => "elseActions"
  | cases => "cases"
  | rules => "rules"
  | awaitsPage => "waitForPage"
  | awaitsRequest => "waitForQuery"

def read : (part : ActionPart) → Json → Reading part.Value
  | kind => readText
  | scope | parentScope | awaitsRequest => readTextOrNull
  | once | winsRace | awaitsPage => readBool
  | timeout | interval => readOptional readWord
  | actions | conditions => readActionList
  | otherwise => readActionsOrNull
  | cases => readCaseList
  | rules => readRuleOrNull

def of : (part : ActionPart) → ActionDraft → part.Value
  | kind, draft => draft.head.kind
  | scope, draft => draft.head.scope
  | parentScope, draft => draft.head.parentScope
  | once, draft => draft.head.once
  | timeout, draft => draft.head.timeout
  | interval, draft => draft.head.interval
  | winsRace, draft => draft.head.winsRace
  | actions, draft => draft.actions
  | conditions, draft => draft.conditions
  | otherwise, draft => draft.otherwise
  | cases, draft => draft.cases
  | rules, draft => draft.rules
  | awaitsPage, draft => draft.head.awaitsPage
  | awaitsRequest, draft => draft.head.awaitsRequest

theorem determines (part : ActionPart) : actionReader.Determines part.field part.read part.of where
  known := by cases part <;> rfl
  own value draft := by cases part <;> exact map_map_eq fun _ => rfl
  other field value draft changed different reads := by
    simp only [actionReader, readActionField] at reads
    split at reads
    case h_15 =>
      cases reads
      cases part <;> rfl
    all_goals
      obtain ⟨_, _, rfl⟩ := exists_of_map_eq_ok reads
      cases part <;> first | rfl | exact absurd rfl different

theorem covers (name : String) (known : actionReader.knows name = true) : ∃ part : ActionPart, part.field = name := by
  simp only [actionReader, actionFields, List.contains_cons, List.contains_nil, Bool.or_false, Bool.or_eq_true,
    beq_iff_eq] at known
  rcases known with rfl | rfl | rfl | rfl | rfl | rfl | rfl | rfl | rfl | rfl | rfl | rfl | rfl | rfl
  exacts [⟨.kind, rfl⟩, ⟨.scope, rfl⟩, ⟨.parentScope, rfl⟩, ⟨.once, rfl⟩, ⟨.timeout, rfl⟩, ⟨.interval, rfl⟩,
    ⟨.winsRace, rfl⟩, ⟨.actions, rfl⟩, ⟨.conditions, rfl⟩, ⟨.otherwise, rfl⟩, ⟨.cases, rfl⟩, ⟨.rules, rfl⟩,
    ⟨.awaitsPage, rfl⟩, ⟨.awaitsRequest, rfl⟩]

/-- Fields that an action does not know are kept. -/
theorem passes (name : String) (value : Json) (draft : ActionDraft) (unknown : actionReader.knows name = false) :
    ∃ changed, actionReader.read name value draft = .ok changed := by
  simp only [actionReader, readActionField]
  split
  case h_15 => exact ⟨_, rfl⟩
  all_goals exact absurd unknown (by decide)

/-- A draft is determined by its parts, its parameters, and what is not read. -/
theorem ext {draft other : ActionDraft} (same : ∀ part : ActionPart, part.of draft = part.of other)
    (params : draft.head.params = other.head.params) (identity : draft.head.identity = other.head.identity)
    (breaker : draft.head.breaker = other.head.breaker) : draft = other := by
  obtain ⟨⟨_, _, _, _, _, _, _, _, _, _, _, _⟩, _, _, _, _, _⟩ := draft
  obtain ⟨⟨_, _, _, _, _, _, _, _, _, _, _, _⟩, _, _, _, _, _⟩ := other
  simp only [ActionDraft.mk.injEq, ActionHead.mk.injEq]
  exact ⟨⟨identity, same kind, same scope, same parentScope, same once, same timeout, same interval, breaker,
    same winsRace,
    same awaitsPage, same awaitsRequest, params⟩, same actions, same conditions, same otherwise, same cases, same rules⟩

end ActionPart

def actionParts : actionReader.Parts where
  Index := ActionPart
  Value := ActionPart.Value
  field := ActionPart.field
  read := ActionPart.read
  of := ActionPart.of
  determines := ActionPart.determines
  covers := ActionPart.covers
  passes := ActionPart.passes

theorem actionReader_collects : actionReader.Collects fun draft => draft.head.params where
  unknown name value draft changed unknown reads := by
    simp only [actionReader, readActionField] at reads
    split at reads
    case h_15 =>
      cases reads
      rfl
    all_goals exact absurd unknown (by decide)
  known name value draft changed known reads := by
    obtain ⟨part, rfl⟩ := ActionPart.covers name known
    cases part
    all_goals
      obtain ⟨_, _, rfl⟩ := exists_of_map_eq_ok reads
      rfl

/-- Reading gives an action neither identity nor breaker. -/
theorem actionReader_unchanged (name : String) (value : Json) (draft changed : ActionDraft)
    (reads : actionReader.read name value draft = .ok changed) :
    (changed.head.identity, changed.head.breaker) = (draft.head.identity, draft.head.breaker) := by
  simp only [actionReader, readActionField] at reads
  split at reads
  case h_15 =>
    cases reads
    rfl
  all_goals
    obtain ⟨_, _, rfl⟩ := exists_of_map_eq_ok reads
    rfl

end Harvest.Description
