import Harvest.Proofs.Run.AtOnce
import Harvest.Run.Parse

/-!
Contract: rules whose evaluation depends on nothing but the view that the page shows.

A rule is still if nothing in it is an action and each of its transforms is a built-in one that
makes the same of a value whatever is stored. Its evaluation ends at once, leaves the page and
the stack of scopes as they are, and comes to one outcome on all pages that show one view:
it does not matter what is stored, nor when it is evaluated, and failures are outcomes too.
`Rule.IsStill.evaluateRule` is the induction over the rule.
-/

namespace Harvest

open World

/-! ### Still rules -/

/-- A step applies a built-in transform, which makes the same of a value whatever is stored. -/
def Transform.Step.IgnoresStorage (transforms : Registry Transform) (step : Transform.Step) : Prop :=
  ∃ kind, transforms.find? step.kind = some (.builtIn kind) ∧
    ∀ storage other value, kind.rule step storage value = kind.rule step other value

/-- Nothing in a rule is an action, and no step in it depends on what is stored. -/
inductive Rule.IsStill (transforms : Registry Transform) : Rule → Prop where
  | simple {head : RuleHead} (steps : ∀ step ∈ head.transforms, step.IgnoresStorage transforms) :
      IsStill transforms (.mk head none [])
  | composed {head : RuleHead} {members : List Member}
      (steps : ∀ step ∈ head.transforms, step.IgnoresStorage transforms)
      (rules : ∀ rule, Member.rule rule ∈ members → IsStill transforms rule)
      (rows : ∀ row, Member.row row ∈ members → ∀ rule ∈ row, IsStill transforms rule) :
      IsStill transforms (.mk head (some members) [])

namespace Transform

theorem applyAll_of_ignores {transforms : Registry Transform} {steps : List Step}
    (ignore : ∀ step ∈ steps, step.IgnoresStorage transforms) (storage other : Storage) (value : Json) :
    applyAll transforms steps storage value = ((applyAll transforms steps other value).1, storage) := by
  induction steps generalizing value with
  | nil => rfl
  | cons step steps inductionHypothesis =>
    obtain ⟨kind, known, same⟩ := ignore step List.mem_cons_self
    have later := inductionHypothesis fun step member => ignore step (List.mem_cons_of_mem _ member)
    simp only [applyAll, known, apply, same storage other value]
    cases kind.rule step other value with
    | error fault => rfl
    | ok result => exact later result

end Transform

/-! ### Outcomes on a view -/

section

variable {surroundings : Surroundings Stage} {view : View} {α β : Type}

/-- A job ends at once with a value in front of all pages that show a view, where nothing stands in front of them. -/
def Job.EndsOn (surroundings : Surroundings Stage) (view : View) (job : Job α) (value : α) : Prop :=
  ∀ stage : Stage, stage.fixed = [] → stage.page.view = view → job.EndsAt surroundings stage value

theorem Job.EndsOn.done (value : α) : (Job.done value).EndsOn surroundings view value :=
  fun _ _ _ => .done value

theorem Job.EndsOn.andThen {job : Job α} {next : α → Job β} {value : α} {result : β}
    (first : job.EndsOn surroundings view value) (last : (next value).EndsOn surroundings view result) :
    (job.andThen next).EndsOn surroundings view result :=
  fun stage unfixed shows => (first stage unfixed shows).andThen (last stage unfixed shows)

/-- A script comes to one outcome on each view. -/
def Script.IsStill (surroundings : Surroundings Stage) (script : Script α) : Prop :=
  ∀ view, ∃ outcome, script.run.EndsOn surroundings view outcome

/-- A script on a stack of scopes ends at once with an outcome and another stack in front of all pages that show a
view. -/
def Scoped.EndsOn (surroundings : Surroundings Stage) (view : View) (nested : Scoped α) (before : ScopeStack)
    (outcome : Except Failure α) (after : ScopeStack) : Prop :=
  (nested.run.run before).EndsOn surroundings view (outcome, after)

/-- A script on a stack of scopes comes to one outcome on each view and each stack, and leaves the stack as it is. -/
def Scoped.IsStill (surroundings : Surroundings Stage) (nested : Scoped α) : Prop :=
  ∀ view stack, ∃ outcome, nested.EndsOn surroundings view stack outcome stack

end

section

variable {surroundings : Surroundings Stage} {α β : Type}

namespace Script

theorem isStill_settled (outcome : Except Failure α) : (settled outcome).IsStill surroundings :=
  fun _ => ⟨outcome, .done outcome⟩

theorem isStill_pure (value : α) : (pure value : Script α).IsStill surroundings :=
  isStill_settled (.ok value)

/-- A call that leaves every page as it is and answers by the view alone. -/
theorem endsOn_call (serves : surroundings.serve = Stage.serve) {pageCall : PageCall}
    {answer : View → Except Failure Json}
    (replies : ∀ page : Page, page.dispatch pageCall = page.reply (answer page.view)) (view : View) :
    (call pageCall).run.EndsOn surroundings view (answer view) := by
  intro stage unfixed shows
  apply Job.EndsAt.call serves unfixed
  rw [replies, shows]

theorem endsOn_follow {view : View} {script : Script α} {next : α → Script β} {outcome : Except Failure α}
    {following : α → Except Failure β} (first : script.run.EndsOn surroundings view outcome)
    (last : ∀ value, (next value).run.EndsOn surroundings view (following value)) :
    (script >>= next).run.EndsOn surroundings view (outcome >>= following) := by
  cases outcome with
  | error failure => exact first.andThen (.done _)
  | ok value => exact first.andThen (last value)

theorem endsOn_convert {steps : List Transform.Step}
    (ignore : ∀ step ∈ steps, step.IgnoresStorage surroundings.transforms) (value : Json) (view : View) :
    (convert steps value).run.EndsOn surroundings view (Transform.produce surroundings.transforms steps {} value).1 := by
  intro stage _ _
  refine @Job.EndsAt.perform surroundings stage (.convert steps value) _ fun records race world here => ?_
  refine ⟨world.withStorage records (world.storage records), here, ?_⟩
  rw [attend, Transform.produce, Transform.applyAll_of_ignores ignore _ {}]
  rfl

theorem isStill_convert {steps : List Transform.Step}
    (ignore : ∀ step ∈ steps, step.IgnoresStorage surroundings.transforms) (value : Json) :
    (convert steps value).IsStill surroundings :=
  fun view => ⟨_, endsOn_convert ignore value view⟩

theorem isStill_keep (name : String) (value : Json) : (keep name value).IsStill surroundings :=
  fun _ => ⟨.ok (), fun _ _ _ => .keep name value⟩

end Script

namespace Scoped

theorem EndsOn.bind {view : View} {nested : Scoped α} {next : α → Scoped β} {before middle after : ScopeStack}
    {value : α} {outcome : Except Failure β} (first : nested.EndsOn surroundings view before (.ok value) middle)
    (last : (next value).EndsOn surroundings view middle outcome after) :
    (nested >>= next).EndsOn surroundings view before outcome after :=
  Job.EndsOn.andThen first last

theorem EndsOn.bind_error {view : View} {nested : Scoped α} {next : α → Scoped β} {before after : ScopeStack}
    {failure : Failure} (first : nested.EndsOn surroundings view before (.error failure) after) :
    (nested >>= next).EndsOn surroundings view before (.error failure) after :=
  Job.EndsOn.andThen first (.done _)

/-- A sequence on one stack ends with the outcome of its parts in sequence. -/
theorem EndsOn.follow {view : View} {nested : Scoped α} {next : α → Scoped β} {stack : ScopeStack}
    {outcome : Except Failure α} {following : α → Except Failure β}
    (first : nested.EndsOn surroundings view stack outcome stack)
    (last : ∀ value, (next value).EndsOn surroundings view stack (following value) stack) :
    (nested >>= next).EndsOn surroundings view stack (outcome >>= following) stack := by
  cases outcome with
  | error failure => exact first.bind_error
  | ok value => exact first.bind (last value)

theorem EndsOn.outcome {view : View} {nested : Scoped α} {before after : ScopeStack} {outcome : Except Failure α}
    (ends : nested.EndsOn surroundings view before outcome after) :
    (Scoped.outcome nested).EndsOn surroundings view before (.ok outcome) after :=
  Job.EndsOn.andThen ends (.done _)

theorem endsOn_push (view : View) (frame : ScopeFrame) (stack : ScopeStack) :
    (push frame).EndsOn surroundings view stack (.ok ()) (frame :: stack) :=
  .done _

theorem endsOn_pop (view : View) (frame : ScopeFrame) (stack : ScopeStack) :
    pop.EndsOn surroundings view (frame :: stack) (.ok ()) stack :=
  .done _

theorem endsOn_settled (view : View) (outcome : Except Failure α) (stack : ScopeStack) :
    (settled outcome).EndsOn surroundings view stack outcome stack :=
  .done _

theorem endsOn_selector (view : View) (stack : ScopeStack) :
    selector.EndsOn surroundings view stack (.ok stack.selector) stack :=
  .done _

theorem endsOn_ofScript {view : View} {script : Script α} {outcome : Except Failure α}
    (ends : script.run.EndsOn surroundings view outcome) (stack : ScopeStack) :
    (ofScript script).EndsOn surroundings view stack outcome stack :=
  Job.EndsOn.andThen ends (.done _)

theorem isStill_settled (outcome : Except Failure α) : (settled outcome).IsStill surroundings :=
  fun view stack => ⟨outcome, endsOn_settled view outcome stack⟩

theorem isStill_pure (value : α) : (pure value : Scoped α).IsStill surroundings :=
  isStill_settled (.ok value)

theorem isStill_throw (failure : Failure) : (throw failure : Scoped α).IsStill surroundings :=
  isStill_settled (.error failure)

theorem isStill_ofScript {script : Script α} (still : script.IsStill surroundings) :
    (ofScript script).IsStill surroundings := by
  intro view stack
  obtain ⟨outcome, ends⟩ := still view
  exact ⟨outcome, endsOn_ofScript ends stack⟩

theorem IsStill.bind {nested : Scoped α} {next : α → Scoped β} (first : nested.IsStill surroundings)
    (last : ∀ value, (next value).IsStill surroundings) : (nested >>= next).IsStill surroundings := by
  intro view stack
  obtain ⟨outcome, ends⟩ := first view stack
  exact ⟨_, ends.follow fun value => (last value view stack).choose_spec⟩

end Scoped

/-- The page that shows a view and knows nothing else. -/
def Page.ofView (view : View) : Page where
  source := ⟨"", view.document⟩
  changes := view.changes

namespace Run

/-! ### Simple rules -/

/-- What the steps of a rule make of a text. -/
def converted (transforms : Registry Transform) (steps : List Transform.Step) (text : String) : Except Failure Json :=
  (Transform.produce transforms steps {} (.string text)).1

theorem endsOn_convertEach {steps : List Transform.Step}
    (ignore : ∀ step ∈ steps, step.IgnoresStorage surroundings.transforms) (view : View) (texts : List String) :
    (convertEach steps texts).run.EndsOn surroundings view (texts.mapM (converted surroundings.transforms steps)) := by
  induction texts with
  | nil => exact .done _
  | cons text texts inductionHypothesis =>
    rw [convertEach, List.mapM_cons]
    apply Script.endsOn_follow (Script.endsOn_convert ignore _ view)
    intro value
    apply Script.endsOn_follow inductionHypothesis
    intro values
    exact .done _

/-- What a simple rule makes of what a selector matches on a view. -/
def readOutcome (transforms : Registry Transform) (view : View) (head : RuleHead) (selector : String) :
    Except Failure Json := do
  let texts ← textsOf selector ((Page.ofView view).query selector head.attr head.property)
  match head.shape with
  | .array => return .array (← texts.mapM (converted transforms head.transforms))
  | .text => converted transforms head.transforms (head.separatorText.intercalate texts)

theorem endsOn_readSimple (serves : surroundings.serve = Stage.serve) {head : RuleHead}
    (ignore : ∀ step ∈ head.transforms, step.IgnoresStorage surroundings.transforms) (selector : String) (view : View) :
    (readSimple head selector).run.EndsOn surroundings view
      (readOutcome surroundings.transforms view head selector) := by
  have asked := @Script.endsOn_call surroundings serves (.query selector head.attr head.property)
    (fun view => .ok ((Page.ofView view).query selector head.attr head.property)) (fun _ => rfl) view
  have settled : ∀ outcome : Except Failure (List String), (Script.settled outcome).run.EndsOn surroundings view outcome :=
    fun _ => .done _
  unfold readSimple readOutcome
  apply asked.andThen
  apply Script.endsOn_follow (settled _)
  intro texts
  cases head.shape with
  | text => exact Script.endsOn_convert ignore _ view
  | array =>
    apply Script.endsOn_follow (endsOn_convertEach ignore view texts)
    intro values
    exact .done _

def framed (head : RuleHead) (stack : ScopeStack) : ScopeStack :=
  (Rule.frame? head).toList ++ stack

theorem endsOn_enter (view : View) (head : RuleHead) (stack : ScopeStack) :
    (enter head).EndsOn surroundings view stack (.ok (Rule.frame? head).isSome) (framed head stack) := by
  unfold enter framed
  cases Rule.frame? head <;> exact .done _

theorem endsOn_leave (view : View) (head : RuleHead) (stack : ScopeStack) :
    (leave (Rule.frame? head).isSome).EndsOn surroundings view (framed head stack) (.ok ()) stack := by
  unfold leave framed
  cases Rule.frame? head <;> exact .done _

/-- The selector that a simple rule queries inside a stack of scopes. -/
def source (head : RuleHead) (stack : ScopeStack) : String :=
  if (framed head stack).selector = "" then wholeDocument else (framed head stack).selector

theorem endsOn_evaluateSimple (serves : surroundings.serve = Stage.serve) {head : RuleHead}
    (ignore : ∀ step ∈ head.transforms, step.IgnoresStorage surroundings.transforms) (view : View) (stack : ScopeStack) :
    (evaluateSimple head).EndsOn surroundings view stack
      (readOutcome surroundings.transforms view head (source head stack)) stack := by
  unfold evaluateSimple
  apply (endsOn_enter view head stack).bind
  apply (Scoped.endsOn_selector view (framed head stack)).bind
  apply (endsOn_leave view head stack).bind
  exact Scoped.endsOn_ofScript (endsOn_readSimple serves ignore _ view) stack

theorem isStill_evaluateSimple (serves : surroundings.serve = Stage.serve) {head : RuleHead}
    (ignore : ∀ step ∈ head.transforms, step.IgnoresStorage surroundings.transforms) :
    (evaluateSimple head).IsStill surroundings :=
  fun view stack => ⟨_, endsOn_evaluateSimple serves ignore view stack⟩

/-! ### Rules with members -/

theorem isStill_inside {head : RuleHead} {members : Scoped Json} (still : members.IsStill surroundings) :
    (inside head members).IsStill surroundings := by
  intro view stack
  obtain ⟨outcome, ends⟩ := still view (framed head stack)
  refine ⟨outcome, ?_⟩
  unfold inside
  apply (endsOn_enter view head stack).bind
  apply ends.outcome.bind
  apply (endsOn_leave view head stack).bind
  exact Scoped.endsOn_settled view outcome stack

theorem isStill_convertWhole {head : RuleHead}
    (ignore : ∀ step ∈ head.transforms, step.IgnoresStorage surroundings.transforms) (value : Json) :
    (convertWhole head value).IsStill surroundings := by
  unfold convertWhole
  split
  · exact Script.isStill_pure value
  · exact Script.isStill_convert ignore value

theorem isStill_collectField (head : RuleHead) {value : Scoped Json} (still : value.IsStill surroundings)
    (fields : Fields) : (collectField head value fields).IsStill surroundings := by
  unfold collectField
  cases head.name with
  | none => exact Scoped.isStill_throw _
  | some name =>
    apply still.bind
    intro value
    apply (Scoped.isStill_ofScript (Script.isStill_keep name value)).bind
    intro _
    exact Scoped.isStill_pure _

/-! ### Grids -/

/-- The rows from an index on, when the outcome of each is known: those up to the first that fails, unless the
description is at fault there. -/
def rowsFrom (value : Nat → Except Failure Json) : (index remaining : Nat) → Except Failure (List Json)
  | _, 0 => .ok []
  | index, remaining + 1 =>
    match value index with
    | .ok row => (rowsFrom value (index + 1) remaining).map fun rows => row :: rows
    | .error failure => if failure.isConfiguration then .error failure else .ok []

theorem rowsFrom_succ_eq_ok {value : Nat → Except Failure Json} {index remaining : Nat} {rows : List Json}
    (collected : rowsFrom value index (remaining + 1) = .ok rows) : rows = [] ∨ ∃ row others,
      value index = .ok row ∧ rowsFrom value (index + 1) remaining = .ok others ∧ rows = row :: others := by
  rw [rowsFrom] at collected
  cases here : value index with
  | error failure =>
    rw [here] at collected
    dsimp only at collected
    split at collected
    · cases collected
    · cases collected
      exact .inl rfl
  | ok row =>
    rw [here] at collected
    dsimp only at collected
    cases behind : rowsFrom value (index + 1) remaining with
    | error failure =>
      rw [behind] at collected
      cases collected
    | ok others =>
      rw [behind] at collected
      cases collected
      exact .inr ⟨row, others, rfl, rfl, rfl⟩

/-- There are no more rows than remain, and each has the value of its place. -/
theorem row_of_rowsFrom {value : Nat → Except Failure Json} {index remaining : Nat} {rows : List Json}
    (collected : rowsFrom value index remaining = .ok rows) : rows.length ≤ remaining ∧
      ∀ place row, rows[place]? = some row → value (index + place) = .ok row := by
  induction remaining generalizing index rows with
  | zero =>
    cases collected
    exact ⟨Nat.le_refl 0, fun place row there => by simp at there⟩
  | succ remaining inductionHypothesis =>
    rcases rowsFrom_succ_eq_ok collected with rfl | ⟨first, others, here, behind, rfl⟩
    · exact ⟨Nat.zero_le _, fun place row there => by simp at there⟩
    · obtain ⟨fewer, each⟩ := inductionHypothesis behind
      refine ⟨Nat.succ_le_succ fewer, fun place row there => ?_⟩
      cases place with
      | zero =>
        cases there
        exact here
      | succ place =>
        have later := each place row there
        rw [show index + 1 + place = index + (place + 1) by omega] at later
        exact later

theorem endsOn_collectRows {view : View} {frame : Nat → ScopeFrame} {row : Scoped Json} {stack : ScopeStack}
    {value : Nat → Except Failure Json}
    (each : ∀ index, row.EndsOn surroundings view (frame index :: stack) (value index) (frame index :: stack))
    (index remaining : Nat) :
    (collectRows frame row index remaining).EndsOn surroundings view stack (rowsFrom value index remaining) stack := by
  induction remaining generalizing index with
  | zero => exact .done _
  | succ remaining inductionHypothesis =>
    have later := inductionHypothesis (index + 1)
    rw [collectRows]
    apply (Scoped.endsOn_push view (frame index) stack).bind
    apply (each index).outcome.bind
    apply (Scoped.endsOn_pop view (frame index) stack).bind
    rw [rowsFrom]
    cases value index with
    | ok row =>
      cases behind : rowsFrom value (index + 1) remaining with
      | ok rows =>
        rw [behind] at later
        exact later.bind (.done _)
      | error failure =>
        rw [behind] at later
        exact later.bind_error
    | error failure =>
      dsimp only
      split
      · exact .done _
      · exact .done _

/-- How many elements a selector matches on a view, as an answer. -/
def countOn (view : View) (selector : String) : Except Failure Json :=
  ((Page.ofView view).select selector).map fun nodes => .count nodes.length

/-- The outcome of a grid from an offset on, when the outcome of each row is known. -/
def gridOutcome (view : View) (head : RuleHead) (stack : ScopeStack) (value : Nat → Except Failure Json)
    (offset : Nat) : Except Failure Json :=
  match head.scope with
  | none => .error (.invalidRule (.gridWithoutScope head.describe))
  | some scope => do
    let answer ← countOn view (ScopeStack.selector (⟨scope, head.parentScope⟩ :: stack))
    let rows ← rowsFrom value offset (rowCount answer - offset)
    return .array rows

theorem bind_eq_ok_iff {α β : Type} {first : Except Failure α} {next : α → Except Failure β} {result : β} :
    (first >>= next) = .ok result ↔ ∃ value, first = .ok value ∧ next value = .ok result := by
  cases first with
  | error failure => simp [bind, Except.bind]
  | ok value => simp [bind, Except.bind]

/-- A grid has an outcome when its elements can be counted and its rows have one. -/
theorem gridOutcome_eq_ok_iff {view : View} {head : RuleHead} {stack : ScopeStack} {value : Nat → Except Failure Json}
    {offset : Nat} {result : Json} :
    gridOutcome view head stack value offset = .ok result ↔ ∃ scope, head.scope = some scope ∧ ∃ answer,
      countOn view (ScopeStack.selector (⟨scope, head.parentScope⟩ :: stack)) = .ok answer ∧ ∃ rows,
      rowsFrom value offset (rowCount answer - offset) = .ok rows ∧ .array rows = result := by
  unfold gridOutcome
  cases head.scope with
  | none => simp
  | some scope => simp [bind_eq_ok_iff, pure, Except.pure]

def gridFrame (head : RuleHead) (index : Nat) : ScopeFrame :=
  rowFrame (head.scope.getD "") head.parentScope index

theorem endsOn_evaluateGrid (serves : surroundings.serve = Stage.serve) {view : View} {head : RuleHead}
    {row : Scoped Json} {stack : ScopeStack} {value : Nat → Except Failure Json}
    (each : ∀ index, row.EndsOn surroundings view (gridFrame head index :: stack) (value index)
      (gridFrame head index :: stack)) (offset : Nat) :
    (evaluateGrid head offset row).EndsOn surroundings view stack (gridOutcome view head stack value offset) stack := by
  unfold evaluateGrid gridOutcome
  cases own : head.scope with
  | none => exact .done _
  | some scope =>
    have frames : gridFrame head = rowFrame scope head.parentScope := by
      funext index
      rw [gridFrame, own, Option.getD_some]
    rw [frames] at each
    apply (Scoped.endsOn_push view ⟨scope, head.parentScope⟩ stack).bind
    apply (Scoped.endsOn_selector view _).bind
    apply (Scoped.endsOn_pop view _ stack).bind
    have counted := @Script.endsOn_call surroundings serves
      (.count (ScopeStack.selector (⟨scope, head.parentScope⟩ :: stack)))
      (fun view => countOn view (ScopeStack.selector (⟨scope, head.parentScope⟩ :: stack))) (fun _ => rfl) view
    have rowsEnd : ∀ answer, (collectRows (rowFrame scope head.parentScope) row offset (rowCount answer - offset)).EndsOn
        surroundings view stack (rowsFrom value offset (rowCount answer - offset)) stack :=
      fun answer => endsOn_collectRows each offset _
    apply (Scoped.endsOn_ofScript counted stack).follow
    intro answer
    apply (rowsEnd answer).follow
    intro rows
    exact .done _

theorem isStill_evaluateGrid (serves : surroundings.serve = Stage.serve) (head : RuleHead) {row : Scoped Json}
    (still : row.IsStill surroundings) (offset : Nat) : (evaluateGrid head offset row).IsStill surroundings := by
  intro view stack
  have each := fun index => (still view (gridFrame head index :: stack)).choose_spec
  exact ⟨_, endsOn_evaluateGrid serves each offset⟩

/-! ### All rules -/

theorem isStill_evaluateMembers (setup : Setup) {members : List Member}
    (each : ∀ rule, Member.rule rule ∈ members → (evaluateRule setup rule 0).IsStill surroundings) (fields : Fields) :
    (evaluateMembers setup members fields).IsStill surroundings := by
  induction members generalizing fields with
  | nil =>
    rw [evaluateMembers]
    exact Scoped.isStill_pure _
  | cons member members inductionHypothesis =>
    have later := inductionHypothesis fun rule among => each rule (List.mem_cons_of_mem _ among)
    cases member with
    | rule rule =>
      rw [evaluateMembers]
      apply (isStill_collectField rule.head (each rule List.mem_cons_self) fields).bind
      exact later
    | row rules =>
      rw [evaluateMembers]
      exact later fields

theorem isStill_evaluateRules (setup : Setup) {rules : List Rule}
    (each : ∀ rule ∈ rules, (evaluateRule setup rule 0).IsStill surroundings) (fields : Fields) :
    (evaluateRules setup rules fields).IsStill surroundings := by
  induction rules generalizing fields with
  | nil =>
    rw [evaluateRules]
    exact Scoped.isStill_pure _
  | cons rule rules inductionHypothesis =>
    rw [evaluateRules]
    apply (isStill_collectField rule.head (each rule List.mem_cons_self) fields).bind
    exact inductionHypothesis fun other among => each other (List.mem_cons_of_mem _ among)

end Run

theorem Rule.IsStill.evaluateRule (serves : surroundings.serve = Stage.serve) (setup : Setup) {rule : Rule}
    (still : rule.IsStill surroundings.transforms) (offset : Nat) :
    (Run.evaluateRule setup rule offset).IsStill surroundings := by
  induction still generalizing offset with
  | simple steps =>
    rw [Run.evaluateRule]
    apply (Scoped.isStill_settled _).bind
    intro _
    apply (Scoped.isStill_pure ()).bind
    intro _
    exact Run.isStill_evaluateSimple serves steps
  | @composed head members steps _ _ rules rows =>
    have collection : (Run.inside head (Run.evaluateMembers setup members []) >>= fun fields =>
        Scoped.ofScript (Run.convertWhole head fields)).IsStill surroundings := by
      apply (Run.isStill_inside (Run.isStill_evaluateMembers setup (fun rule member => rules rule member 0) [])).bind
      intro fields
      exact Scoped.isStill_ofScript (Run.isStill_convertWhole steps fields)
    unfold Run.evaluateRule
    apply (Scoped.isStill_settled _).bind
    intro _
    apply (Scoped.isStill_pure ()).bind
    intro _
    cases members with
    | nil => exact collection
    | cons member others =>
      cases member with
      | rule rule => exact collection
      | row template =>
        have row := Run.isStill_evaluateRules setup (fun rule member => rows template List.mem_cons_self rule member 0) []
        apply (Run.isStill_evaluateGrid serves head row offset).bind
        intro collected
        exact Scoped.isStill_ofScript (Run.isStill_convertWhole steps collected)

namespace Run

/-- A grid without transforms of its own that stands in no other rule. -/
theorem endsOn_evaluateWithin_grid (serves : surroundings.serve = Stage.serve) (setup : Setup) {head : RuleHead}
    {template : List Rule} (others : List Member) (untransformed : head.transforms = []) {view : View}
    {value : Nat → Except Failure Json}
    (each : ∀ index, (evaluateRules setup template []).EndsOn surroundings view [gridFrame head index] (value index)
      [gridFrame head index]) (offset : Nat) :
    (evaluateWithin setup (.mk head (some (.row template :: others)) []) [] offset).run.EndsOn surroundings view
      (gridOutcome view head [] value offset) := by
  have grid := endsOn_evaluateGrid serves each offset
  have evaluated : (evaluateRule setup (.mk head (some (.row template :: others)) []) offset).EndsOn surroundings view []
      (gridOutcome view head [] value offset) [] := by
    rw [evaluateRule]
    apply (Scoped.endsOn_settled view (.ok (RuleKind.grid template)) []).bind
    apply (Scoped.endsOn_settled view (.ok ()) []).bind
    unfold convertWhole
    rw [untransformed]
    cases outcome : gridOutcome view head [] value offset with
    | error failure =>
      rw [outcome] at grid
      exact grid.bind_error
    | ok rows =>
      rw [outcome] at grid
      exact grid.bind (.done _)
  exact Job.EndsOn.andThen evaluated (.done _)

/-- The rows of a still grid have outcomes, and that of the grid comes from them. -/
theorem exists_gridOutcome (serves : surroundings.serve = Stage.serve) (setup : Setup) {head : RuleHead}
    {template : List Rule} {others : List Member} (untransformed : head.transforms = [])
    (still : Rule.IsStill surroundings.transforms (.mk head (some (.row template :: others)) [])) :
    ∃ value : View → Nat → Except Failure Json,
      (∀ view index, (evaluateRules setup template []).EndsOn surroundings view [gridFrame head index]
        (value view index) [gridFrame head index]) ∧
      ∀ view offset, (evaluateWithin setup (.mk head (some (.row template :: others)) []) [] offset).run.EndsOn
        surroundings view (gridOutcome view head [] (value view) offset) := by
  have row : (evaluateRules setup template []).IsStill surroundings := by
    cases still with
    | composed steps rules rows =>
      have each := fun rule member => (rows template List.mem_cons_self rule member).evaluateRule serves setup 0
      exact isStill_evaluateRules setup each []
  have each := fun view index => (row view [gridFrame head index]).choose_spec
  exact ⟨_, each, fun view => endsOn_evaluateWithin_grid serves setup others untransformed (each view)⟩

/-- A simple rule that stands in no other. -/
theorem endsOn_evaluateWithin_simple (serves : surroundings.serve = Stage.serve) (setup : Setup) {head : RuleHead}
    (ignore : ∀ step ∈ head.transforms, step.IgnoresStorage surroundings.transforms) (view : View) (offset : Nat) :
    (evaluateWithin setup (.mk head none []) [] offset).run.EndsOn surroundings view
      (readOutcome surroundings.transforms view head (source head [])) := by
  have evaluated : (evaluateRule setup (.mk head none []) offset).EndsOn surroundings view []
      (readOutcome surroundings.transforms view head (source head [])) [] := by
    rw [evaluateRule]
    apply (Scoped.endsOn_settled view (.ok RuleKind.simple) []).bind
    apply (Scoped.endsOn_settled view (.ok ()) []).bind
    exact endsOn_evaluateSimple serves ignore view []
  exact Job.EndsOn.andThen evaluated (.done _)

end Run

end

end Harvest
