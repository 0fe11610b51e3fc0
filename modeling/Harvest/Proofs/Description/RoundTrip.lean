import Harvest.Proofs.Description.Places

/-!
Contract: descriptions are read back from what they are written as.

`Kept` is the law: what was read from a value is read again from what is written, and nothing
that a place shows is lost, added or renamed on the way. It holds of every description by
induction on the values: of a rule or an action if it holds of what stands in its fields, and of an
array if it holds of its items.
-/

namespace Harvest.Description

variable {α : Type} {site inner : Site} {read : Json → Reading α} {write : α → Json} {found : Option Json}

/-! ### Writing as maps -/

theorem writeActions_eq_map (actions : List Action) : writeActions actions = actions.map writeAction := by
  induction actions with
  | nil => rfl
  | cons action actions inductionHypothesis => rw [writeActions, inductionHypothesis, List.map_cons]

theorem writeRules_eq_map (rules : List Rule) : writeRules rules = rules.map writeRule := by
  induction rules with
  | nil => rfl
  | cons rule rules inductionHypothesis => rw [writeRules, inductionHypothesis, List.map_cons]

theorem writeMembers_eq_map (members : List Member) : writeMembers members = members.map writeMember := by
  induction members with
  | nil => rfl
  | cons member members inductionHypothesis => rw [writeMembers, inductionHypothesis, List.map_cons]

def actionArray (actions : List Action) : Json :=
  .array (actions.map writeAction)

theorem writeCases_eq_map (cases : List (List Action)) : writeCases cases = cases.map actionArray := by
  induction cases with
  | nil => rfl
  | cons actions cases inductionHypothesis =>
    rw [writeCases, inductionHypothesis, List.map_cons, writeActions_eq_map]
    rfl

theorem writeMembersOrNull_eq (members : Option (List Member)) :
    writeMembersOrNull members = Json.optional (members.map fun members => .array (members.map writeMember)) := by
  cases members with
  | none => rfl
  | some members => exact congrArg Json.array (writeMembers_eq_map members)

theorem writeActionsOrNull_eq (actions : Option (List Action)) :
    writeActionsOrNull actions = Json.optional (actions.map actionArray) := by
  cases actions with
  | none => rfl
  | some actions => exact congrArg Json.array (writeActions_eq_map actions)

theorem writeRuleOrNull_eq (rule : Option Rule) : writeRuleOrNull rule = Json.optional (rule.map writeRule) := by
  cases rule <;> rfl

/-! ### The law -/

/-- What is read from a value is read again from what it is written as, and the same is shown everywhere. -/
def Kept (site : Site) (read : Json → Reading α) (write : α → Json) (value : Json) : Prop :=
  ∀ result, read value = .ok result → read (write result) = .ok result ∧ AlikeAt site value (write result)

theorem mapM_eq_ok_iff {items : List Json} {results : List α} :
    items.mapM read = .ok results ↔ List.Forall₂ (fun item result => read item = .ok result) items results := by
  induction items generalizing results with
  | nil =>
    rw [List.mapM_nil]
    constructor
    · intro same
      cases same
      exact .nil
    · intro none
      cases none
      rfl
  | cons item items inductionHypothesis =>
    rw [List.mapM_cons]
    constructor
    · intro reads
      obtain ⟨result, first, more⟩ := exists_of_bind_eq_ok reads
      obtain ⟨rest, others, same⟩ := exists_of_bind_eq_ok more
      cases same
      exact .cons first (inductionHypothesis.mp others)
    · intro each
      cases each with
      | cons first later =>
        rw [first, inductionHypothesis.mpr later]
        rfl

theorem kept_items {items : List Json} {results : List α}
    (each : List.Forall₂ (fun item result => read item = .ok result) items results)
    (kept : ∀ item ∈ items, Kept inner read write item) :
    (results.map write).mapM read = .ok results ∧ List.Forall₂ (AlikeAt inner) items (results.map write) := by
  induction each with
  | nil => exact ⟨rfl, .nil⟩
  | cons first _ inductionHypothesis =>
    obtain ⟨again, alike⟩ := kept _ List.mem_cons_self _ first
    obtain ⟨others, alikeOthers⟩ := inductionHypothesis fun item member => kept item (List.mem_cons_of_mem _ member)
    exact ⟨mapM_eq_ok_iff.mpr (.cons again (mapM_eq_ok_iff.mp others)), .cons alike alikeOthers⟩

/-- An array is kept if its items are. -/
theorem kept_array (isArray : site.IsArrayOf inner) {value : Json}
    (kept : ∀ item ∈ value.children, Kept inner read write item) :
    Kept site (readArray read) (fun results => .array (results.map write)) value := by
  intro results reads
  cases value with
  | array items =>
    obtain ⟨again, alike⟩ := kept_items (mapM_eq_ok_iff.mp reads) kept
    exact ⟨again, alikeAt_array isArray alike⟩
  | _ => exact nomatch reads

/-- What may be null is kept if it is kept where it is not. -/
theorem kept_orNull {value : Json} (kept : Kept site read write value)
    (present : ∀ result, (write result).isNull = false) :
    Kept site (readOptional read) (fun result => Json.optional (result.map write)) value := by
  intro result reads
  have nonNull : ∀ other : Json, other.isNull = false → readOptional read other = (read other).map some := by
    intro other notNull
    cases other with
    | null => exact nomatch notNull
    | _ => rfl
  cases missing : value.isNull with
  | true =>
    cases value with
    | null =>
      cases reads
      exact ⟨rfl, fun _ => rfl⟩
    | _ => exact nomatch missing
  | false =>
    rw [nonNull value missing] at reads
    obtain ⟨inner, own, rfl⟩ := exists_of_map_eq_ok reads
    obtain ⟨again, alike⟩ := kept inner own
    refine ⟨?_, alike⟩
    show readOptional read (write inner) = _
    rw [nonNull _ (present inner), again]
    rfl

/-! ### Fields -/

/-- The array of a field, which is absent where it is empty. -/
def unlessNone (items : List Json) : Option Json :=
  if items.isEmpty then none else some (.array items)

/-- The field of a part is kept: what is written reads to the same part, and shows the same. -/
def FieldKept (site : Site) (default : α) (read : Json → Reading α) (found written : Option Json) (part : α) : Prop :=
  readOr default read written = .ok part ∧ ∀ path, found.bind (shownAt path site) = written.bind (shownAt path site)

theorem fieldKept_orNull {part : Option α} (kept : ∀ child, found = some child → Kept site read write child)
    (present : ∀ result, (write result).isNull = false) (reads : readOr none (readOptional read) found = .ok part) :
    FieldKept site none (readOptional read) found (some (Json.optional (part.map write))) part := by
  cases found with
  | none =>
    cases reads
    exact ⟨rfl, fun path => (shownAt_null path site).symm⟩
  | some child => exact kept_orNull (kept child rfl) present part reads

theorem fieldKept_array (isArray : site.IsArrayOf inner) {parts : List α}
    (kept : ∀ child, found = some child → Kept site (readArray read) (fun results => .array (results.map write)) child)
    (reads : readOr [] (readArray read) found = .ok parts) :
    FieldKept site [] (readArray read) found (unlessNone (parts.map write)) parts := by
  have same : ∀ path, (unlessNone (parts.map write)).bind (shownAt path site) =
      shownAt path site (.array (parts.map write)) := by
    intro path
    cases parts with
    | cons part parts => rfl
    | nil =>
      rw [shownAt_array isArray]
      match path with
      | [] => rfl
      | .field name :: path => rfl
      | .item index :: path => rfl
  cases found with
  | none =>
    cases reads
    exact ⟨rfl, fun path => rfl⟩
  | some child =>
    obtain ⟨again, alike⟩ := kept child rfl parts reads
    refine ⟨?_, fun path => (alike path).trans (same path).symm⟩
    cases parts with
    | nil => rfl
    | cons part parts => exact again

/-! ### Steps -/

open FieldReader

theorem kept_step (value : Json) : Kept .step readStep Transform.Step.toJson value := by
  intro step reads
  obtain ⟨fields, after, rfl, walked⟩ := readStep_walk reads
  have options : step.options = free stepReader.knows fields := stepReader_collects.eq_free walked rfl
  have known : ∀ name ∈ [("type", Json.string step.kind)].map Prod.fst, stepReader.knows name = true := by
    simp [stepReader]
  have written : step.toJson =
      .object (Fields.ofList ([("type", Json.string step.kind)] ++ free stepReader.knows fields)) := by
    rw [← options]
    rfl
  have kind : Fields.find? "type" (Fields.ofList ([("type", Json.string step.kind)] ++ free stepReader.knows fields)) =
      some (.string step.kind) := find?_beside_free rfl
  rw [written]
  constructor
  · have readFrom : stepParts.ReadFrom
        (Fields.ofList ([("type", Json.string step.kind)] ++ free stepReader.knows fields)) ⟨"", []⟩ step := by
      intro index
      show readOr _ _ (Fields.find? "type" _) = _
      rw [kind]
      rfl
    obtain ⟨last, again, walkedAgain, same⟩ := readFrom.exists_walk (Fields.isSorted_ofList _).nodup_keys
    have equal : again = step := by
      have kinds : again.kind = step.kind := same ()
      have others : again.options = step.options := by
        rw [stepReader_collects.eq_free walkedAgain rfl, free_beside_free known, options]
      obtain ⟨_, _⟩ := again
      obtain ⟨_, _⟩ := step
      cases kinds
      cases others
      rfl
    rw [equal] at walkedAgain
    refine readStep_object walkedAgain ?_
    by_contra absent
    rw [Fields.find?_eq_none_iff.mpr absent] at kind
    exact nomatch kind
  · refine alikeAt_record (fun _ => rfl) rfl ?_ (fun name inner there => nomatch there)
    exact congrArg (some ∘ Shown.free) (free_beside_free known).symm

/-! ### Rules -/

/-- What stands in a value is kept, whatever it is read as. -/
structure IsKept (value : Json) : Prop where
  rule : Kept .rule readRule writeRule value
  member : Kept .member readMember writeMember value
  members : Kept .members (readArray readMember) (fun members => .array (members.map writeMember)) value
  action : Kept .action readAction writeAction value
  actions : Kept .actions (readArray readAction) actionArray value
  cases : Kept .cases (readArray readActionList) (fun cases => .array (cases.map actionArray)) value

theorem mem_children_of_find?_entriesOf {names : List String} {value child : Json} {name : String}
    (found : Fields.find? name (entriesOf names value) = some child) : child ∈ value.children := by
  have member := Fields.mem_of_find? found
  cases value with
  | object fields => exact List.mem_map_of_mem member
  | array items => exact (List.of_mem_zip member).2
  | _ => exact nomatch member

def RulePart.written (draft : RuleDraft) : RulePart → Option Json
  | scope => some (textOrNull draft.head.scope)
  | parentScope => some (textOrNull draft.head.parentScope)
  | name => some (textOrNull draft.head.name)
  | members => some (Json.optional (draft.members.map fun members => .array (members.map writeMember)))
  | transforms => unlessNone (draft.head.transforms.map Transform.Step.toJson)
  | actions => unlessNone (draft.actions.map writeAction)
  | shape => some (.string draft.head.shape.word)
  | separator => some (textOrNull draft.head.separator)
  | attr => some (textOrNull draft.head.attr)
  | property => some (textOrNull draft.head.property)
  | isVirtual => some (.bool draft.head.isVirtual)

theorem find?_unlessEmpty (name field : String) (items : List Json) :
    Fields.find? name (unlessEmpty field items) = if field = name then unlessNone items else none := by
  unfold unlessEmpty unlessNone
  cases items <;> simp [Fields.find?]

theorem reverse_unlessEmpty (field : String) (items : List Json) :
    (unlessEmpty field items).reverse = unlessEmpty field items := by
  unfold unlessEmpty
  cases items <;> rfl

def ruleEntries (draft : RuleDraft) : Fields :=
  Fields.ofList (ruleHeadFields draft.head ++ [("collection", writeMembersOrNull draft.members)]
    ++ unlessEmpty "actions" (writeActions draft.actions))

theorem find?_ruleEntries (draft : RuleDraft) (part : RulePart) :
    Fields.find? part.field (ruleEntries draft) = part.written draft := by
  unfold ruleEntries ruleHeadFields
  rw [Fields.find?_ofList, writeMembersOrNull_eq, writeActions_eq_map]
  cases part <;>
    simp [RulePart.field, RulePart.written, Fields.find?_append, find?_unlessEmpty, reverse_unlessEmpty, Fields.find?]

theorem isArrayOf_members : Site.members.IsArrayOf .member := ⟨rfl, fun _ => rfl, fun _ => rfl, fun _ => rfl⟩

theorem isArrayOf_row : Site.row.IsArrayOf .rule := ⟨rfl, fun _ => rfl, fun _ => rfl, fun _ => rfl⟩

theorem isArrayOf_steps : Site.steps.IsArrayOf .step := ⟨rfl, fun _ => rfl, fun _ => rfl, fun _ => rfl⟩

theorem isArrayOf_actions : Site.actions.IsArrayOf .action := ⟨rfl, fun _ => rfl, fun _ => rfl, fun _ => rfl⟩

theorem isArrayOf_cases : Site.cases.IsArrayOf .actions := ⟨rfl, fun _ => rfl, fun _ => rfl, fun _ => rfl⟩

theorem readTextOrNull_textOrNull (text : Option String) : readTextOrNull (textOrNull text) = .ok text := by
  cases text <;> rfl

theorem readShape_word (shape : ResultShape) : readShape (.string shape.word) = .ok shape := by
  cases shape <;> simp [readShape, shapeNamed, ResultShape.word]

/-- A rule is kept if what stands in it is. -/
theorem kept_rule {value : Json} (inside : ∀ child ∈ value.children, IsKept child) :
    Kept .rule readRule writeRule value := by
  intro rule reads
  obtain ⟨after, draft, walked, rfl⟩ := readRule_walk reads
  have parts := ruleParts.readFrom_of_walk walked
  -- The three fields that hold further descriptions are kept because those are; the others read back on sight.
  have each : ∀ {name child}, Fields.find? name (entriesOf ruleNames value) = some child → IsKept child :=
    fun found => inside _ (mem_children_of_find?_entriesOf found)
  have members : FieldKept .members none readMembersOrNull (Fields.find? "collection" (entriesOf ruleNames value))
      (Fields.find? "collection" (ruleEntries draft)) draft.members := by
    rw [show Fields.find? "collection" (ruleEntries draft) = _ from find?_ruleEntries draft .members,
      readMembersOrNull_eq]
    exact fieldKept_orNull (fun child found => (each found).members) (fun _ => rfl)
      (readMembersOrNull_eq ▸ parts .members)
  have transforms : FieldKept .steps [] (readArray readStep) (Fields.find? "transform" (entriesOf ruleNames value))
      (Fields.find? "transform" (ruleEntries draft)) draft.head.transforms := by
    rw [show Fields.find? "transform" (ruleEntries draft) = _ from find?_ruleEntries draft .transforms]
    exact fieldKept_array isArrayOf_steps (fun child found => kept_array isArrayOf_steps fun item _ => kept_step item)
      (parts .transforms)
  have actions : FieldKept .actions [] readActionList (Fields.find? "actions" (entriesOf ruleNames value))
      (Fields.find? "actions" (ruleEntries draft)) draft.actions := by
    rw [show Fields.find? "actions" (ruleEntries draft) = _ from find?_ruleEntries draft .actions, readActionList_eq]
    exact fieldKept_array isArrayOf_actions (fun child found => (each found).actions)
      (readActionList_eq ▸ parts .actions)
  have again : readRule (writeRule draft.finish) = .ok draft.finish := by
    have readFrom : ruleParts.ReadFrom (ruleEntries draft) {} draft := by
      intro (part : RulePart)
      show readOr (part.of {}) part.read (Fields.find? part.field (ruleEntries draft)) = .ok (part.of draft)
      cases part with
      | members => exact members.1
      | transforms => exact transforms.1
      | actions => exact actions.1
      | shape =>
        rw [find?_ruleEntries]
        exact readShape_word _
      | isVirtual => rw [find?_ruleEntries]; rfl
      | _ => rw [find?_ruleEntries]; exact readTextOrNull_textOrNull _
    obtain ⟨last, other, walkedAgain, same⟩ := readFrom.exists_walk (Fields.isSorted_ofList _).nodup_keys
    rw [RulePart.ext same] at walkedAgain
    exact readRule_object walkedAgain
  refine ⟨again, alikeAt_record (fun _ => rfl) rfl ?_ fun name inner there path => ?_⟩
  · show (readRule value).toOption.map _ = (readRule (writeRule draft.finish)).toOption.map _
    rw [reads, again]
  · obtain ⟨rfl, rfl⟩ | ⟨rfl, rfl⟩ | ⟨rfl, rfl⟩ := Site.inField?_rule there
    · exact members.2 path
    · exact transforms.2 path
    · exact actions.2 path

/-- A member is kept if the rules in it are, and so is what it is as a rule. -/
theorem kept_member {value : Json} (inside : ∀ child ∈ value.children, IsKept child)
    (rule : Kept .rule readRule writeRule value) : Kept .member readMember writeMember value := by
  intro member reads
  obtain ⟨items, rules, rfl, row, rfl⟩ | ⟨noRow, own, read, rfl⟩ := readMember_cases reads
  · obtain ⟨again, alike⟩ := kept_array isArrayOf_row (fun item there => (inside item there).rule) rules row
    have written : writeMember (.row rules) = .array (rules.map writeRule) := by rw [writeMember, writeRules_eq_map]
    have rowAgain : (rules.map writeRule).mapM readRule = .ok rules := again
    rw [written]
    constructor
    · rw [readMember, readRules_eq_mapM, rowAgain]
    · refine alikeAt_of_settled ?_ ?_ alike
      · rw [Site.settled, row]
        rfl
      · rw [Site.settled, rowAgain]
        rfl
  · obtain ⟨again, alike⟩ := rule own read
    obtain ⟨fields, isObject⟩ : ∃ fields, writeRule own = .object fields := by
      cases own
      exact ⟨_, rfl⟩
    rw [writeMember]
    constructor
    · rw [isObject, readRule] at again
      obtain ⟨draft, drafted, finished⟩ := exists_of_map_eq_ok again
      rw [isObject, readMember, drafted]
      exact congrArg (Except.ok ∘ Member.rule) finished
    · refine alikeAt_of_settled ?_ (by rw [isObject]; rfl) alike
      cases value with
      | array items =>
        rw [Site.settled]
        cases others : items.mapM readRule with
        | ok rules => exact absurd others (noRow items rules rfl)
        | error problem => rfl
      | _ => rfl

/-! ### Actions -/

def ActionPart.written (draft : ActionDraft) : ActionPart → Option Json
  | kind => some (.string draft.head.kind)
  | scope => some (textOrNull draft.head.scope)
  | parentScope => some (textOrNull draft.head.parentScope)
  | once => some (.bool draft.head.once)
  | timeout => some (countOrNull draft.head.timeout)
  | interval => some (countOrNull draft.head.interval)
  | winsRace => some (.bool draft.head.winsRace)
  | actions => unlessNone (draft.actions.map writeAction)
  | conditions => unlessNone (draft.conditions.map writeAction)
  | otherwise => some (Json.optional (draft.otherwise.map actionArray))
  | cases => unlessNone (draft.cases.map actionArray)
  | rules => some (Json.optional (draft.rules.map writeRule))
  | awaitsPage => some (.bool draft.head.awaitsPage)
  | awaitsRequest => some (textOrNull draft.head.awaitsRequest)

/-- The fields that an action is written as, without its parameters. -/
def knownEntries (draft : ActionDraft) : Fields :=
  actionHeadFields draft.head ++ unlessEmpty "actions" (writeActions draft.actions)
    ++ unlessEmpty "conditions" (writeActions draft.conditions) ++ [("elseActions", writeActionsOrNull draft.otherwise)]
    ++ unlessEmpty "cases" (writeCases draft.cases) ++ [("rules", writeRuleOrNull draft.rules)]

theorem find?_knownEntries (draft : ActionDraft) (part : ActionPart) :
    Fields.find? part.field (knownEntries draft).reverse = part.written draft := by
  unfold knownEntries actionHeadFields
  rw [writeActionsOrNull_eq, writeRuleOrNull_eq, writeActions_eq_map, writeActions_eq_map, writeCases_eq_map]
  cases part <;>
    simp [ActionPart.field, ActionPart.written, Fields.find?_append, find?_unlessEmpty, reverse_unlessEmpty,
      Fields.find?]

theorem mem_keys_unlessEmpty {name field : String} {items : List Json}
    (member : name ∈ (unlessEmpty field items).map Prod.fst) : name = field := by
  unfold unlessEmpty at member
  split at member
  · exact nomatch member
  · exact List.mem_singleton.mp member

theorem knows_knownEntries (draft : ActionDraft) (name : String) (member : name ∈ (knownEntries draft).map Prod.fst) :
    actionReader.knows name = true := by
  simp only [knownEntries, List.map_append, List.mem_append] at member
  rcases member with ((((head | actions) | conditions) | otherwise) | cases) | rules
  · simp only [actionHeadFields, List.map_cons, List.map_nil, List.mem_cons, List.not_mem_nil, or_false] at head
    rcases head with rfl | rfl | rfl | rfl | rfl | rfl | rfl | rfl | rfl <;> rfl
  · rw [mem_keys_unlessEmpty actions]; rfl
  · rw [mem_keys_unlessEmpty conditions]; rfl
  · rw [List.mem_singleton.mp otherwise]; rfl
  · rw [mem_keys_unlessEmpty cases]; rfl
  · rw [List.mem_singleton.mp rules]; rfl

theorem read_of_readOptional {value : Json} {result : α} (reads : readOptional read value = .ok (some result)) :
    read value = .ok result := by
  unfold readOptional at reads
  split at reads
  · exact nomatch reads
  · obtain ⟨_, own, same⟩ := exists_of_map_eq_ok reads
    cases same
    exact own

/-- A number below a limit is read from what it is written as. -/
theorem readBelow_countOrNull {limit : Nat} {word : String} {number : Option Nat} (found : Option Json)
    (reads : readOr none (readOptional (readBelow limit word)) found = .ok number) :
    readOptional (readBelow limit word) (countOrNull number) = .ok number := by
  cases number with
  | none => rfl
  | some number =>
    have below : number < limit := by
      match found, reads with
      | some (.int value), reads =>
        have own := read_of_readOptional (show readOptional (readBelow limit word) (.int value) = _ from reads)
        simp only [readBelow] at own
        split at own
        case isTrue range =>
          cases own
          omega
        case isFalse => exact nomatch own
    have range : 0 ≤ (number : Int) ∧ (number : Int) < limit := by omega
    show (readBelow limit word (.int number)).map some = _
    rw [readBelow, if_pos range]
    rfl

def actionEntries (draft : ActionDraft) : Fields :=
  Fields.ofList (knownEntries draft ++ draft.head.params)

section Action

variable {fields : Fields} {draft : ActionDraft} {after : List String}

theorem find?_actionEntries (params : draft.head.params = free actionReader.knows fields) (part : ActionPart) :
    Fields.find? part.field (actionEntries draft) = part.written draft := by
  rw [actionEntries, params, find?_beside_free part.determines.known, find?_knownEntries]

theorem free_actionEntries (params : draft.head.params = free actionReader.knows fields) :
    free actionReader.knows (actionEntries draft) = free actionReader.knows fields := by
  rw [actionEntries, params, free_beside_free (knows_knownEntries draft)]

variable (fields draft) in
/-- The fields of an action that hold further descriptions are kept. -/
structure NestedKept : Prop where
  actions : FieldKept .actions [] readActionList (Fields.find? "actions" fields)
    (Fields.find? "actions" (actionEntries draft)) draft.actions
  conditions : FieldKept .actions [] readActionList (Fields.find? "conditions" fields)
    (Fields.find? "conditions" (actionEntries draft)) draft.conditions
  otherwise : FieldKept .actions none readActionsOrNull (Fields.find? "elseActions" fields)
    (Fields.find? "elseActions" (actionEntries draft)) draft.otherwise
  cases : FieldKept .cases [] readCaseList (Fields.find? "cases" fields)
    (Fields.find? "cases" (actionEntries draft)) draft.cases
  rules : FieldKept .rule none readRuleOrNull (Fields.find? "rules" fields)
    (Fields.find? "rules" (actionEntries draft)) draft.rules

theorem nestedKept_of_parts (params : draft.head.params = free actionReader.knows fields)
    (parts : actionParts.ReadFrom fields {} draft)
    (each : ∀ {name child}, Fields.find? name fields = some child → IsKept child) : NestedKept fields draft where
  actions := by
    rw [show Fields.find? "actions" (actionEntries draft) = _ from find?_actionEntries params .actions,
      readActionList_eq]
    exact fieldKept_array isArrayOf_actions (fun child found => (each found).actions)
      (readActionList_eq ▸ parts .actions)
  conditions := by
    rw [show Fields.find? "conditions" (actionEntries draft) = _ from find?_actionEntries params .conditions,
      readActionList_eq]
    exact fieldKept_array isArrayOf_actions (fun child found => (each found).actions)
      (readActionList_eq ▸ parts .conditions)
  otherwise := by
    rw [show Fields.find? "elseActions" (actionEntries draft) = _ from find?_actionEntries params .otherwise,
      readActionsOrNull_eq, readActionList_eq]
    exact fieldKept_orNull (fun child found => (each found).actions) (fun _ => rfl)
      (readActionList_eq ▸ readActionsOrNull_eq ▸ parts .otherwise)
  cases := by
    rw [show Fields.find? "cases" (actionEntries draft) = _ from find?_actionEntries params .cases, readCaseList_eq]
    exact fieldKept_array isArrayOf_cases (fun child found => readActionList_eq ▸ (each found).cases)
      (readCaseList_eq ▸ parts .cases)
  rules := by
    rw [show Fields.find? "rules" (actionEntries draft) = _ from find?_actionEntries params .rules, readRuleOrNull_eq]
    exact fieldKept_orNull (fun child found => (each found).rule) (fun rule => by cases rule; rfl)
      (readRuleOrNull_eq ▸ parts .rules)

/-- What an action is written as is read as that action if the descriptions in it are. -/
theorem readAction_actionEntries (walked : actionReader.walk [] fields {} = .ok (after, draft))
    (kept : NestedKept fields draft) : readAction (.object (actionEntries draft)) =
      .ok (.mk draft.head draft.actions draft.conditions draft.otherwise draft.cases draft.rules) := by
  have parts := actionParts.readFrom_of_walk walked
  have params : draft.head.params = free actionReader.knows fields := actionReader_collects.eq_free walked rfl
  have readFrom : actionParts.ReadFrom (actionEntries draft) {} draft := by
    intro (part : ActionPart)
    show readOr (part.of {}) part.read (Fields.find? part.field (actionEntries draft)) = .ok (part.of draft)
    cases part with
    | actions => exact kept.actions.1
    | conditions => exact kept.conditions.1
    | otherwise => exact kept.otherwise.1
    | cases => exact kept.cases.1
    | rules => exact kept.rules.1
    | timeout => rw [find?_actionEntries params]; exact readBelow_countOrNull _ (parts .timeout)
    | interval => rw [find?_actionEntries params]; exact readBelow_countOrNull _ (parts .interval)
    | scope | parentScope | awaitsRequest => rw [find?_actionEntries params]; exact readTextOrNull_textOrNull _
    | kind | once | winsRace | awaitsPage => rw [find?_actionEntries params]; rfl
  obtain ⟨last, other, walkedAgain, same⟩ := readFrom.exists_walk (Fields.isSorted_ofList _).nodup_keys
  have paramsAgain : other.head.params = draft.head.params := by
    rw [actionReader_collects.eq_free walkedAgain rfl, free_actionEntries params, params]
  have unread := eq_of_unchanged (fun name _ => actionReader_unchanged name) walked
  have unreadAgain := (eq_of_unchanged (fun name _ => actionReader_unchanged name) walkedAgain).trans unread.symm
  have equal : other = draft :=
    ActionPart.ext same paramsAgain (congrArg Prod.fst unreadAgain) (congrArg Prod.snd unreadAgain)
  rw [equal] at walkedAgain
  refine readAction_object walkedAgain ?_
  by_contra absent
  have kind := find?_actionEntries params .kind
  rw [show ActionPart.kind.field = "type" from rfl, Fields.find?_eq_none_iff.mpr absent] at kind
  exact nomatch kind

end Action

/-- An action is kept if what stands in it is. -/
theorem kept_action {value : Json} (inside : ∀ child ∈ value.children, IsKept child) :
    Kept .action readAction writeAction value := by
  intro action reads
  obtain ⟨fields, after, draft, rfl, walked, rfl⟩ := readAction_walk reads
  -- Parameters are the fields that no part knows, and they are written beside those of the parts.
  have params : draft.head.params = free actionReader.knows fields := actionReader_collects.eq_free walked rfl
  have kept : NestedKept fields draft := nestedKept_of_parts params (actionParts.readFrom_of_walk walked) fun found =>
    inside _ (Json.mem_children_of_find? found)
  have isObject : writeAction (.mk draft.head draft.actions draft.conditions draft.otherwise draft.cases draft.rules) =
      .object (actionEntries draft) := by
    rw [writeAction]
    rfl
  rw [isObject]
  refine ⟨readAction_actionEntries walked kept, alikeAt_record (fun _ => rfl) rfl ?_ fun name inner there path => ?_⟩
  · exact congrArg (some ∘ Shown.free) (free_actionEntries params).symm
  · obtain ⟨rfl, rfl⟩ | ⟨rfl, rfl⟩ | ⟨rfl, rfl⟩ | ⟨rfl, rfl⟩ | ⟨rfl, rfl⟩ := Site.inField?_action there
    · exact kept.actions.2 path
    · exact kept.conditions.2 path
    · exact kept.otherwise.2 path
    · exact kept.cases.2 path
    · exact kept.rules.2 path

/-! ### All values -/

/-- Whatever is read from a value is kept. -/
theorem isKept (value : Json) : IsKept value := by
  -- Rules hold actions and actions hold rules, so one induction on the value serves both.
  induction value using Json.induction with
  | step value inside =>
    have rule := kept_rule inside
    exact {
      rule := rule
      member := kept_member inside rule
      members := kept_array isArrayOf_members fun item there => (inside item there).member
      action := kept_action inside
      actions := kept_array isArrayOf_actions fun item there => (inside item there).action
      cases := kept_array isArrayOf_cases fun item there => readActionList_eq ▸ (inside item there).actions }

end Harvest.Description
