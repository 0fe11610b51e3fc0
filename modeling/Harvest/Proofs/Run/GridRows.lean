import Harvest.Proofs.Decimal.Count
import Harvest.Proofs.Rule.Scope
import Harvest.Proofs.Run.AtOnce
import Harvest.Proofs.Selector.Steady
import Harvest.Proofs.Selector.Selection

/-!
Contract: the rows of a grid are the elements that its selector selects, from the offset on.

The grid asks for a count first, and then each field of each row asks with a selector of its own. `select?_field` says that
those selectors lead inside the elements that were counted, one after the other. A row holds what each of its
fields reads there.
-/

namespace Harvest

open Markup Selector

/-! ### What a field reads -/

/-- What a simple rule makes of elements. -/
def View.reading (view : View) (head : RuleHead) (nodes : List Nat) : Json :=
  let texts := (nodes.filterMap (view.reading? head.attr head.property)).map Text.trim
  match head.shape with
  | .array => .array (texts.map .string)
  | .text => .string (head.separatorText.intercalate texts)

namespace RuleHead

def ownSelector? (head : RuleHead) : Option Selector :=
  head.scope.bind fun scope => read? (Text.trimChars scope.toList)

/-- The elements inside a node that the scope of a rule matches. -/
def matchedInside (head : RuleHead) (document : Document) (node : Nat) : List Nat :=
  match head.ownSelector? with
  | some selector => selector.matchedInside document node
  | none => []

end RuleHead

/-- A simple rule with a name and with a scope that is a selector without positional filters. It has no actions,
no transforms and no parent scope. -/
structure Rule.IsField (rule : Rule) : Prop where
  simple : rule.members = none
  still : rule.actions = []
  untransformed : rule.head.transforms = []
  unparented : rule.head.parentScope = none
  named : rule.head.name.isSome
  visible : ∃ scope, rule.head.scope = some scope ∧ Text.isBlankText scope = false
  readable : rule.head.ownSelector?.isSome
  unfiltered : ∀ scope, rule.head.scope = some scope → ¬ filterMark <:+: scope.toList

/-! ### The selectors of rows -/

theorem trimmed_filterText (index : Nat) : Text.Trimmed (filterText index) where
  starts := ⟨':', _, rfl, by decide⟩
  ends := ⟨filterMark ++ Decimal.digitsOf index, ')', (List.append_assoc _ _ _).symm, by decide⟩

/-- The scope of a row is the trimmed scope of the grid with a filter behind it; blanks may stand between them. -/
theorem trimChars_rowFrame {scope : String} (visible : Text.isBlankText scope = false) (parentScope : Option String)
    (index : Nat) : ∃ blanks, (∀ character ∈ blanks, Text.isBlank character = true) ∧
      Text.trimChars (Run.rowFrame scope parentScope index).scope.toList =
        Text.trimChars scope.toList ++ (blanks ++ filterText index) := by
  obtain ⟨before, blanks, shape, trimmed, blankBefore, blankBehind⟩ :=
    Text.exists_trimmed (Text.not_blank_of_visible visible)
  refine ⟨blanks, blankBehind, ?_⟩
  have whole : (Run.rowFrame scope parentScope index).scope.toList =
      before ++ (Text.trimChars scope.toList ++ blanks ++ filterText index) ++ [] := by
    have written : (Run.rowFrame scope parentScope index).scope.toList = scope.toList ++ filterText index := by
      simp [Run.rowFrame, Description.countText, filterText, filterMark]
    rw [written]
    exact (congrArg (· ++ filterText index) shape).trans (by simp)
  rw [whole, (trimmed.append (trimmed_filterText index) blanks).trimChars_between blankBefore (by simp),
    List.append_assoc]

/-- The selector of a row is that of the grid with a filter behind it; blanks may stand between them. -/
theorem toList_selector_rowFrame_of_visible {scope : String} (visible : Text.isBlankText scope = false)
    (parentScope : Option String) (stack : ScopeStack) (index : Nat) :
    ∃ blanks, (∀ character ∈ blanks, Text.isBlank character = true) ∧
      (ScopeStack.selector (Run.rowFrame scope parentScope index :: stack)).toList =
        (ScopeStack.selector (⟨scope, parentScope⟩ :: stack)).toList ++ (blanks ++ filterText index) := by
  obtain ⟨blanks, blank, rowScope⟩ := trimChars_rowFrame visible parentScope index
  have seen := Text.trimChars_ne_nil_of_visible visible
  refine ⟨blanks, blank, ?_⟩
  rw [ScopeStack.toList_selector_push _ stack (by rw [rowScope]; simp [seen]), rowScope,
    ScopeStack.toList_selector_push ⟨scope, parentScope⟩ stack seen, List.append_assoc]
  rfl

theorem isField_scope {rule : Rule} (field : rule.IsField) : ∃ scope selector, rule.head.scope = some scope ∧
    Text.Trimmed (Text.trimChars scope.toList) ∧ read? (Text.trimChars scope.toList) = some selector ∧
    nextFilter? (Text.trimChars scope.toList) = none ∧
    ∀ document node, rule.head.matchedInside document node = selector.matchedInside document node := by
  obtain ⟨scope, written, visible⟩ := field.visible
  obtain ⟨selector, own⟩ := Option.isSome_iff_exists.mp field.readable
  have read := own
  rw [RuleHead.ownSelector?, written, Option.bind_some] at read
  obtain ⟨before, behind, shape, trimmed, _, _⟩ := Text.exists_trimmed (Text.not_blank_of_visible visible)
  refine ⟨scope, selector, written, trimmed, read, ?_, fun document node => ?_⟩
  · cases found : nextFilter? (Text.trimChars scope.toList) with
    | none => rfl
    | some filter =>
      obtain ⟨front, position, rest⟩ := filter
      obtain ⟨digits, text⟩ := eq_of_nextFilter? found
      refine absurd ⟨before ++ front, digits ++ ')' :: rest ++ behind, ?_⟩ (field.unfiltered scope written)
      rw [text] at shape
      rw [shape]
      simp
  · unfold RuleHead.matchedInside
    rw [own]

/-- The selector of a field in a row leads inside the element that the row is about. -/
theorem select?_field {document : Document} {scope : String} (visible : Text.isBlankText scope = false)
    {parentScope : Option String} {stack : ScopeStack} {nodes : List Nat}
    (selects : select? document (ScopeStack.selector (⟨scope, parentScope⟩ :: stack)) = some nodes) {index : Nat}
    (bound : index ≤ Decimal.maxIndex) {rule : Rule} (field : rule.IsField) {inner : String}
    (written : rule.head.scope = some inner) :
    select? document (ScopeStack.selector (⟨inner, none⟩ :: Run.rowFrame scope parentScope index :: stack)) =
      some (nodes[index]?.toList.flatMap (rule.head.matchedInside document)) := by
  obtain ⟨_, selector, same, trimmed, read, unfiltered, matches_⟩ := isField_scope field
  cases written.symm.trans same
  obtain ⟨blanks, blank, row⟩ := toList_selector_rowFrame_of_visible visible parentScope stack index
  have some_grid := ScopeStack.some_selector_push ⟨scope, parentScope⟩ stack visible
  have some_row : ScopeStack.selector (Run.rowFrame scope parentScope index :: stack) ≠ "" := by
    intro empty
    rw [empty] at row
    exact some_grid (List.append_eq_nil_iff.mp row.symm).1
  have whole := ScopeStack.toList_selector_nested trimmed.ne_nil some_row
  rw [row] at whole
  have notChild : (Text.trimChars inner.toList).head? ≠ some '>' := by
    intro child
    obtain ⟨rest, shape⟩ := List.head?_eq_some_iff.mp child
    rw [shape] at read
    exact absurd (startsCompound_of_read? read) (by decide)
  rw [← String.ofList_toList (s := ScopeStack.selector (⟨inner, none⟩ :: _)), whole, List.append_assoc, List.append_assoc,
    select?_row some_grid selects blank bound trimmed notChild unfiltered read]
  simp only [funext (matches_ document)]

namespace Run

variable {surroundings : Surroundings Stage} {stage : Stage}

theorem endsAt_convertEach (texts : List String) :
    (convertEach [] texts).run.EndsAt surroundings stage (.ok (texts.map .string)) := by
  induction texts with
  | nil => exact .done _
  | cons text texts inductionHypothesis =>
    rw [convertEach]
    exact Script.endsAt_bind (Job.EndsAt.convert text) (Script.endsAt_bind inductionHypothesis (.done _))

/-- The answer to a query, as texts. -/
theorem textsOf_query (page : Page) {selector : String} {nodes : List Nat}
    (selects : select? page.source.document selector = some nodes) (attr property : Option String) :
    textsOf selector (page.query selector attr property) =
      .ok ((nodes.filterMap (page.view.reading? attr property)).map Text.trim) := by
  unfold Page.query Page.select
  rw [selects]
  simp only [textsOf, List.map_map, Except.ok.injEq]
  exact List.map_congr_left fun text _ => Text.trim_trim text

theorem endsAt_readSimple (serves : surroundings.serve = Stage.serve) (unfixed : stage.fixed = []) {head : RuleHead}
    (untransformed : head.transforms = []) {selector : String} {nodes : List Nat}
    (selects : select? stage.page.source.document selector = some nodes) :
    (readSimple head selector).run.EndsAt surroundings stage (.ok (stage.page.view.reading head nodes)) := by
  unfold readSimple
  refine Script.endsAt_bind (Job.EndsAt.call serves unfixed rfl) ?_
  rw [textsOf_query stage.page selects]
  refine Script.endsAt_bind (.done _) ?_
  rw [untransformed]
  unfold View.reading
  cases head.shape with
  | array => exact Script.endsAt_bind (endsAt_convertEach _) (.done _)
  | text => exact Job.EndsAt.convert _

/-! ### The evaluation of a row -/

def rowFields (view : View) (node : Nat) : List Rule → Fields → Fields
  | [], fields => fields
  | rule :: rules, fields =>
    rowFields view node rules <|
      if rule.head.isVirtual then fields
      else Fields.insert (rule.head.name.getD "") (view.reading rule.head (rule.head.matchedInside view.document node)) fields

variable (serves : surroundings.serve = Stage.serve) (unfixed : stage.fixed = [])

include serves unfixed

/-- A field is evaluated to what it reads inside the element that the row is about. -/
theorem endsAt_field (setup : Setup) {rule : Rule} (field : rule.IsField) {stack : ScopeStack} {node : Nat}
    (selects : ∀ inner, rule.head.scope = some inner →
      select? stage.page.source.document (ScopeStack.selector (⟨inner, none⟩ :: stack)) =
        some (rule.head.matchedInside stage.page.source.document node))
    (some_selector : ∀ inner, rule.head.scope = some inner → ScopeStack.selector (⟨inner, none⟩ :: stack) ≠ "") :
    (evaluateRule setup rule 0).EndsAt surroundings stage stack
      (stage.page.view.reading rule.head (rule.head.matchedInside stage.page.source.document node)) stack := by
  obtain ⟨inner, written, _⟩ := field.visible
  obtain ⟨head, members, actions⟩ := rule
  have simple : members = none := field.simple
  have still : actions = [] := field.still
  have unparented : head.parentScope = none := field.unparented
  have own : head.scope = some inner := written
  have framed : Rule.frame? head = some ⟨inner, none⟩ := by
    unfold Rule.frame?
    rw [own, unparented]
    rfl
  subst simple still
  rw [evaluateRule]
  refine Scoped.endsAt_bind (Job.EndsAt.done _) ?_
  refine Scoped.endsAt_bind (Scoped.endsAt_pure () stack) ?_
  unfold evaluateSimple enter
  rw [framed]
  refine Scoped.endsAt_bind (Scoped.endsAt_bind (Scoped.endsAt_push _ stack) (Scoped.endsAt_pure true _)) ?_
  refine Scoped.endsAt_bind (Scoped.endsAt_selector _) ?_
  refine Scoped.endsAt_bind (Scoped.endsAt_pop _ stack) ?_
  rw [if_neg (some_selector inner written)]
  exact Scoped.endsAt_ofScript (endsAt_readSimple serves unfixed field.untransformed (selects inner written)) stack

/-- The fields of a row are evaluated one after the other, each on the same stack. -/
theorem endsAt_evaluateRules (setup : Setup) {template : List Rule} (plain : ∀ rule ∈ template, rule.IsField)
    {stack : ScopeStack} {node : Nat}
    (selects : ∀ rule ∈ template, ∀ inner, rule.head.scope = some inner →
      select? stage.page.source.document (ScopeStack.selector (⟨inner, none⟩ :: stack)) =
        some (rule.head.matchedInside stage.page.source.document node))
    (some_selector : ∀ rule ∈ template, ∀ inner, rule.head.scope = some inner →
      ScopeStack.selector (⟨inner, none⟩ :: stack) ≠ "") (fields : Fields) :
    (evaluateRules setup template fields).EndsAt surroundings stage stack
      (.object (rowFields stage.page.view node template fields)) stack := by
  induction template generalizing fields with
  | nil =>
    rw [evaluateRules]
    exact Scoped.endsAt_pure _ stack
  | cons rule template inductionHypothesis =>
    have first := plain rule List.mem_cons_self
    obtain ⟨name, named⟩ := Option.isSome_iff_exists.mp first.named
    have value := endsAt_field serves unfixed setup first (selects rule List.mem_cons_self)
      (some_selector rule List.mem_cons_self)
    have later := inductionHypothesis (fun other member => plain other (List.mem_cons_of_mem _ member))
      (fun other member => selects other (List.mem_cons_of_mem _ member))
      (fun other member => some_selector other (List.mem_cons_of_mem _ member))
    rw [evaluateRules, rowFields, named, Option.getD_some]
    refine Scoped.endsAt_bind ?_ (later _)
    unfold collectField
    rw [named]
    refine Scoped.endsAt_bind value (Scoped.endsAt_bind (Scoped.endsAt_ofScript (Job.EndsAt.keep name _) stack) ?_)
    exact Scoped.endsAt_pure _ stack

omit serves unfixed in
/-- Rows are evaluated one after the other, each inside a frame of its own, which is popped behind it. -/
theorem endsAt_collectRows {frame : Nat → ScopeFrame} {row : Scoped Json} {stack : ScopeStack} {value : Nat → Json}
    (index remaining : Nat)
    (each : ∀ place, index ≤ place → place < index + remaining →
      row.EndsAt surroundings stage (frame place :: stack) (value place) (frame place :: stack)) :
    (collectRows frame row index remaining).EndsAt surroundings stage stack
      ((List.range' index remaining).map value) stack := by
  induction remaining generalizing index with
  | zero => exact Scoped.endsAt_pure [] stack
  | succ remaining inductionHypothesis =>
    have later := inductionHypothesis (index + 1) fun place low high => each place (by omega) (by omega)
    rw [collectRows, List.range'_succ, List.map_cons]
    refine Scoped.endsAt_bind (Scoped.endsAt_push _ stack) ?_
    refine Scoped.endsAt_bind (Scoped.endsAt_outcome (each index (by omega) (by omega))) ?_
    refine Scoped.endsAt_bind (Scoped.endsAt_pop _ stack) ?_
    exact Scoped.endsAt_bind later (Scoped.endsAt_pure _ stack)

omit serves unfixed in
/-- The number of rows that a count says there are. -/
theorem rowCount_count {count : Nat} (exact_ : count < 2 ^ 53) : rowCount (.count count) = count := by
  have whole := Binary64.truncate?_ofInt exact_
  have bound : (count : Int) ≤ Decimal.maxIndex := by
    unfold Decimal.maxIndex
    omega
  unfold rowCount Json.count Json.asNumber
  simp only
  unfold Binary64.truncateWithin
  cases number : Binary64.ofInt count with
  | nan =>
    rw [number] at whole
    exact nomatch whole
  | infinite negative =>
    rw [number] at whole
    exact nomatch whole
  | finite negative mantissa exponent =>
    rw [number] at whole
    simp only [whole, Option.getD_some]
    omega

/-! ### The evaluation of a grid -/

/-- A grid is evaluated to one row for each element from the offset on. -/
theorem endsAt_evaluateGrid (setup : Setup) {head : RuleHead} {scope : String} (own : head.scope = some scope)
    (visible : Text.isBlankText scope = false) {template : List Rule} (plain : ∀ rule ∈ template, rule.IsField)
    {stack : ScopeStack} (offset : Nat) {nodes : List Nat}
    (selects : select? stage.page.source.document (ScopeStack.selector (⟨scope, head.parentScope⟩ :: stack)) = some nodes)
    (countable : nodes.length < 2 ^ 53) :
    (evaluateGrid head offset (evaluateRules setup template [])).EndsAt surroundings stage stack
      (.array ((List.range' offset (nodes.length - offset)).map fun place =>
        .object (rowFields stage.page.view (nodes[place]?.getD 0) template []))) stack := by
  have counted : stage.page.dispatch (.count (ScopeStack.selector (⟨scope, head.parentScope⟩ :: stack))) =
      stage.page.reply (.ok (.count nodes.length)) := by
    simp only [Page.dispatch, Page.select, selects]
    rfl
  unfold evaluateGrid
  rw [own]
  refine Scoped.endsAt_bind (Scoped.endsAt_push _ stack) ?_
  refine Scoped.endsAt_bind (Scoped.endsAt_selector _) ?_
  refine Scoped.endsAt_bind (Scoped.endsAt_pop _ stack) ?_
  refine Scoped.endsAt_bind (Scoped.endsAt_ofScript (Job.EndsAt.call serves unfixed counted) stack) ?_
  rw [rowCount_count countable]
  refine Scoped.endsAt_bind (endsAt_collectRows offset _ fun place low high => ?_) (Scoped.endsAt_pure _ stack)
  have inside : place < nodes.length := by omega
  have bound : place ≤ Decimal.maxIndex := by
    unfold Decimal.maxIndex
    omega
  refine endsAt_evaluateRules serves unfixed setup plain (fun rule member inner written => ?_)
    (fun rule member inner written => ?_) []
  · rw [select?_field visible selects bound (plain rule member) written, List.getElem?_eq_getElem inside]
    simp
  · obtain ⟨_, same, seen⟩ := (plain rule member).visible
    cases written.symm.trans same
    intro empty
    exact ScopeStack.some_selector_push ⟨inner, none⟩ _ seen (by rw [empty]; rfl)

omit serves unfixed

def plainSurroundings : Surroundings Stage where
  serve := Stage.serve
  setup := { performers := Performer.standard, settings := {} }
  transforms := Transform.standard

def titleField : Rule :=
  .mk { name := some "title", scope := some "b" } none []

theorem isField_titleField : titleField.IsField where
  simple := rfl
  still := rfl
  untransformed := rfl
  unparented := rfl
  named := rfl
  visible := ⟨"b", rfl, by decide⟩
  readable := by decide +kernel
  unfiltered := by
    intro scope written
    cases written
    decide

end Run

end Harvest
