import Harvest.Description.Reader
import Harvest.Proofs.Description.FieldReader

/-!
Contract: rules, actions and steps are read field by field.

Each reader is a walk over the fields with a reader of its own for one field, and arrays that
nest are read item by item. `RuleFieldRead` and `ActionFieldRead` say once what one field can do to
a draft.
-/

namespace Harvest.Description

/-! ### Lists that nest -/

/-- A reader of lists that reads the first item and then the others. -/
theorem eq_mapM {α : Type} (read : Json → Reading α) {readAll : List Json → Reading (List α)}
    (none : readAll [] = .ok [])
    (more : ∀ item items, readAll (item :: items) =
      (read item).bind fun value => (readAll items).map fun values => value :: values) (items : List Json) :
    readAll items = items.mapM read := by
  induction items with
  | nil => exact none
  | cons item items inductionHypothesis =>
    rw [more, List.mapM_cons, inductionHypothesis]
    cases read item with
    | error problem => rfl
    | ok value => cases items.mapM read <;> rfl

theorem readMembers_eq_mapM (items : List Json) : readMembers items = items.mapM readMember := by
  refine eq_mapM readMember readMembers.eq_1 (fun item items => ?_) items
  rw [readMembers]
  cases readMember item <;> rfl

theorem readRules_eq_mapM (items : List Json) : readRules items = items.mapM readRule := by
  refine eq_mapM readRule readRules.eq_1 (fun item items => ?_) items
  rw [readRules]
  cases readRule item <;> rfl

theorem readActions_eq_mapM (items : List Json) : readActions items = items.mapM readAction := by
  refine eq_mapM readAction readActions.eq_1 (fun item items => ?_) items
  rw [readActions]
  cases readAction item <;> rfl

theorem readCases_eq_mapM (items : List Json) : readCases items = items.mapM readActionList := by
  refine eq_mapM readActionList readCases.eq_1 (fun item items => ?_) items
  rw [readCases]
  cases readActionList item <;> rfl

theorem readActionList_eq : readActionList = readArray readAction := by
  funext value
  cases value with
  | array items => exact (readActionList.eq_1 items).trans (readActions_eq_mapM items)
  | _ => rfl

theorem readCaseList_eq : readCaseList = readArray readActionList := by
  funext value
  cases value with
  | array items => exact (readCaseList.eq_1 items).trans (readCases_eq_mapM items)
  | _ => rfl

theorem readActionsOrNull_eq : readActionsOrNull = readOptional readActionList := by
  funext value
  cases value <;> rfl

theorem readMembersOrNull_eq : readMembersOrNull = readOptional (readArray readMember) := by
  funext value
  cases value with
  | array items => exact congrArg (Except.map some) (readMembers_eq_mapM items)
  | _ => rfl

theorem readRuleOrNull_eq : readRuleOrNull = readOptional readRule := by
  funext value
  cases value with
  | object fields =>
    show (readRuleFields [] fields {}).map _ = ((readRuleFields [] fields {}).map _).map _
    cases readRuleFields [] fields {} <;> rfl
  | array items =>
    show (readRuleItems 0 ruleFields items {}).map _ = ((readRuleItems 0 ruleFields items {}).map _).map _
    cases readRuleItems 0 ruleFields items {} <;> rfl
  | _ => rfl

/-- A member that is an array whose items can be read as rules is a row of them, and any other is a rule. -/
theorem readMember_cases {value : Json} {member : Member} (read : readMember value = .ok member) :
    (∃ items rules, value = .array items ∧ items.mapM readRule = .ok rules ∧ member = .row rules) ∨
      ((∀ items rules, value = .array items → items.mapM readRule ≠ .ok rules) ∧
        ∃ rule, readRule value = .ok rule ∧ member = .rule rule) := by
  cases value with
  | array items =>
    rw [readMember, readRules_eq_mapM] at read
    cases row : items.mapM readRule with
    | ok rules =>
      rw [row] at read
      cases read
      exact .inl ⟨items, rules, rfl, row, rfl⟩
    | error problem =>
      rw [row] at read
      refine .inr ⟨fun others rules same => ?_, ?_⟩
      · cases same
        rw [row]
        exact nofun
      · rw [readRule]
        cases drafted : readRuleItems 0 ruleFields items {} with
        | ok draft =>
          rw [drafted] at read
          exact ⟨_, rfl, (Except.ok.inj read).symm⟩
        | error problem =>
          rw [drafted] at read
          exact nomatch read
  | object fields =>
    refine .inr ⟨nofun, ?_⟩
    rw [readMember] at read
    rw [readRule]
    cases drafted : readRuleFields [] fields {} with
    | ok draft =>
      rw [drafted] at read
      exact ⟨_, rfl, (Except.ok.inj read).symm⟩
    | error problem =>
      rw [drafted] at read
      exact nomatch read
  | _ => exact nomatch read

/-! ### Steps -/

/-- How the fields of a step are read, with no kind to begin with. -/
def stepReader : FieldReader Transform.Step where
  knows name := name == "type"
  read name value step :=
    if name = "type" then (readText value).map fun kind => { step with kind := kind }
    else .ok { step with options := Fields.insert name value.normal step.options }

theorem readStepFields_eq (kind : Option String) (options : Fields) (fields : Fields) :
    readStepFields kind options fields =
      (stepReader.walk (kind.elim [] fun _ => ["type"]) fields ⟨kind.getD "", options⟩).bind fun (seen, step) =>
        if seen.contains "type" then .ok step else .error (.missingField "type") := by
  induction fields generalizing kind options with
  | nil => cases kind <;> rfl
  | cons field fields inductionHypothesis =>
    obtain ⟨name, value⟩ := field
    by_cases isType : name = "type"
    · subst isType
      cases kind with
      | some kind => simp [readStepFields, FieldReader.walk, Except.bind]
      | none =>
        simp only [readStepFields, FieldReader.walk, stepReader]
        cases readText value with
        | error problem => rfl
        | ok kind => exact inductionHypothesis (some kind) options
    · have unseen : (kind.elim [] fun _ => ["type"]).contains name = false := by
        cases kind <;> simp [isType]
      have passed := inductionHypothesis kind (Fields.insert name value.normal options)
      simp only [readStepFields, FieldReader.walk, if_neg isType, unseen, passed]
      simp [stepReader, isType, Except.bind]

theorem readStep_walk {value : Json} {step : Transform.Step} (read : readStep value = .ok step) :
    ∃ fields after, value = .object fields ∧ stepReader.walk [] fields ⟨"", []⟩ = .ok (after, step) := by
  cases value with
  | object fields =>
    rw [readStep, readStepFields_eq] at read
    obtain ⟨⟨after, last⟩, walked, typed⟩ := exists_of_bind_eq_ok read
    dsimp only at typed
    split at typed
    · cases typed
      exact ⟨fields, after, rfl, walked⟩
    · exact nomatch typed
  | _ => exact nomatch read

theorem readStep_object {fields : Fields} {after : List String} {step : Transform.Step}
    (walked : stepReader.walk [] fields ⟨"", []⟩ = .ok (after, step)) (typed : "type" ∈ fields.map Prod.fst) :
    readStep (.object fields) = .ok step := by
  have seen : "type" ∈ after := (FieldReader.mem_after walked rfl).mpr (.inr typed)
  rw [readStep, readStepFields_eq]
  simp [walked, Except.bind, seen]

/-! ### Rules -/

def ruleReader : FieldReader RuleDraft where
  knows name := ruleFields.any (·.1 == name)
  read name value := readRuleField (fun _ => readMembersOrNull value) (fun _ => readActionList value) name value

theorem readRuleFields_eq (seen : List String) (fields : Fields) (draft : RuleDraft) :
    readRuleFields seen fields draft = (ruleReader.walk seen fields draft).map Prod.snd := by
  induction fields generalizing seen draft with
  | nil => rfl
  | cons field fields inductionHypothesis =>
    obtain ⟨name, value⟩ := field
    rw [readRuleFields, FieldReader.walk]
    split
    · rfl
    · simp only [ruleReader]
      cases readRuleField (fun _ => readMembersOrNull value) (fun _ => readActionList value) name value draft with
      | error problem => rfl
      | ok changed => exact inductionHypothesis _ changed

def ruleNames : List String :=
  ruleFields.map Prod.fst

theorem walk_of_readRuleItems {place : Nat} {fields : List (String × Bool)} {items : List Json}
    {draft result : RuleDraft}
    {seen : List String} (read : readRuleItems place fields items draft = .ok result)
    (distinct : (fields.map Prod.fst).Nodup) (fresh : ∀ name ∈ fields.map Prod.fst, name ∉ seen) :
    ∃ after, ruleReader.walk seen ((fields.map Prod.fst).zip items) draft = .ok (after, result) := by
  induction fields generalizing place items draft seen with
  | nil =>
    cases items with
    | nil =>
      cases read
      exact ⟨_, rfl⟩
    | cons item items => exact nomatch read
  | cons field fields inductionHypothesis =>
    obtain ⟨name, hasDefault⟩ := field
    rw [List.map_cons, List.nodup_cons] at distinct
    cases items with
    | nil =>
      rw [readRuleItems] at read
      split at read
      · exact nomatch read
      · cases read
        exact ⟨_, rfl⟩
    | cons item items =>
      rw [readRuleItems] at read
      split at read
      · exact nomatch read
      case h_2 changed own =>
        have unseen : ¬seen.contains name = true := fun contained =>
          fresh name List.mem_cons_self (List.contains_iff_mem.mp contained)
        have reads : ruleReader.read name item draft = .ok changed := own
        obtain ⟨after, walked⟩ := inductionHypothesis read distinct.2 (FieldReader.fresh_of_cons distinct.1 fresh)
        refine ⟨after, ?_⟩
        rw [List.map_cons, List.zip_cons_cons, FieldReader.walk, if_neg unseen, reads]
        exact walked

theorem readRule_walk {value : Json} {rule : Rule} (read : readRule value = .ok rule) :
    ∃ after draft, ruleReader.walk [] (entriesOf ruleNames value) {} = .ok (after, draft) ∧ rule = draft.finish := by
  cases value with
  | object fields =>
    rw [readRule, readRuleFields_eq] at read
    obtain ⟨draft, drafted, finished⟩ := exists_of_map_eq_ok read
    obtain ⟨⟨after, last⟩, walked, rfl⟩ := exists_of_map_eq_ok drafted
    exact ⟨after, last, walked, finished.symm⟩
  | array items =>
    rw [readRule] at read
    obtain ⟨draft, drafted, finished⟩ := exists_of_map_eq_ok read
    obtain ⟨after, walked⟩ := walk_of_readRuleItems drafted (by decide) fun _ _ => List.not_mem_nil
    exact ⟨after, draft, walked, finished.symm⟩
  | _ => exact nomatch read

theorem readRule_object {fields : Fields} {after : List String} {draft : RuleDraft}
    (walked : ruleReader.walk [] fields {} = .ok (after, draft)) : readRule (.object fields) = .ok draft.finish := by
  rw [readRule, readRuleFields_eq, walked]
  rfl

/-! ### Actions -/

def actionReader : FieldReader ActionDraft where
  knows := actionFields.contains
  read name value := readActionField ⟨fun _ => readActionList value, fun _ => readActionsOrNull value,
    fun _ => readCaseList value, fun _ => readRuleOrNull value⟩ name value

theorem readActionFields_eq (seen : List String) (fields : Fields) (draft : ActionDraft) :
    readActionFields seen fields draft =
      (actionReader.walk seen fields draft).bind fun (seen, draft) => draft.finish seen := by
  induction fields generalizing seen draft with
  | nil => rfl
  | cons field fields inductionHypothesis =>
    obtain ⟨name, value⟩ := field
    rw [readActionFields, FieldReader.walk]
    split
    · rfl
    · simp only [actionReader]
      cases readActionField ⟨fun _ => readActionList value, fun _ => readActionsOrNull value,
        fun _ => readCaseList value, fun _ => readRuleOrNull value⟩ name value draft with
      | error problem => rfl
      | ok changed => exact inductionHypothesis _ changed

theorem readAction_walk {value : Json} {action : Action} (read : readAction value = .ok action) :
    ∃ fields after draft, value = .object fields ∧ actionReader.walk [] fields {} = .ok (after, draft) ∧
      action = .mk draft.head draft.actions draft.conditions draft.otherwise draft.cases draft.rules := by
  cases value with
  | object fields =>
    rw [readAction, readActionFields_eq] at read
    obtain ⟨⟨after, draft⟩, walked, finished⟩ := exists_of_bind_eq_ok read
    simp only [ActionDraft.finish] at finished
    split at finished
    · exact ⟨fields, after, draft, rfl, walked, (Except.ok.inj finished).symm⟩
    · exact nomatch finished
  | _ => exact nomatch read

theorem readAction_object {fields : Fields} {after : List String} {draft : ActionDraft}
    (walked : actionReader.walk [] fields {} = .ok (after, draft)) (typed : "type" ∈ fields.map Prod.fst) :
    readAction (.object fields) =
      .ok (.mk draft.head draft.actions draft.conditions draft.otherwise draft.cases draft.rules) := by
  have seen : "type" ∈ after := (FieldReader.mem_after walked rfl).mpr (.inr typed)
  rw [readAction, readActionFields_eq]
  simp [walked, Except.bind, ActionDraft.finish, seen]

end Harvest.Description
