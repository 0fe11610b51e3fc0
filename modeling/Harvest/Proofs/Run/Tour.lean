import Harvest.Proofs.Rule.Path
import Harvest.Proofs.Run.Trail
import Harvest.Run.Evaluate

/-!
Contract: the evaluation of a rule tree as a tour of its nodes.

A tour goes to the nodes in the order of evaluation and has work done at each. It knows
neither selectors nor a stack: whoever does the work is told the path to the node, and nothing
else about where it is. `evaluation_is_a_tour` says that evaluating on a stack of scopes is the
tour whose workers call the page with the selector of that path, and that it leaves the stack as
it was, whatever the outcome.
-/

namespace Harvest

/-! ### Tours -/

/-- Who works at the nodes of a rule tree: reads a simple rule, counts the rows of a grid, and performs the actions of
any rule. Each is told the path to the node. -/
structure Workers where
  read : Path → RuleHead → Script Json
  count : Path → RuleHead → Script Json
  perform : Path → List Action → Script Json

namespace Tour

/-- Visits rows from an index on, up to the first that fails. -/
def rows (row : (index : Nat) → Script Json) : (index remaining : Nat) → Script (List Json)
  | _, 0 => pure []
  | index, remaining + 1 => do
    match ← Script.outcome (row index) with
    | .ok value => return value :: (← rows row (index + 1) remaining)
    | .error failure => if failure.isConfiguration then throw failure else return []

/-- Visits a named rule, keeps its value, and adds it to the fields unless it is virtual. -/
def field (head : RuleHead) (value : Script Json) (fields : Fields) : Script Fields := do
  match head.name with
  | none => throw (.invalidRule (.unnamedMember head.describe))
  | some name =>
    let value ← value
    Script.keep name value
    return if head.isVirtual then fields else Fields.insert name value fields

/-- Visits the rows of a grid, given the visit of one row. -/
def grid (workers : Workers) (head : RuleHead) (path : Path) (offset : Nat) (row : Path → Script Json) : Script Json :=
  match head.scope with
  | none => throw (.invalidRule (.gridWithoutScope head.describe))
  | some _ => do
    let answer ← workers.count path head
    return .array (← rows (fun index => row (.row head index :: path)) offset (Run.rowCount answer - offset))

def actions (workers : Workers) (path : Path) (actions : List Action) : Script Unit :=
  if actions.isEmpty then pure ()
  else do
    let _ ← workers.perform path actions

/-- Converts what a collection or a grid has come to, as a whole, if its rule has transforms. -/
def whole (head : RuleHead) (value : Json) : Script Json :=
  match head.transforms with
  | [] => pure value
  | steps => Script.convert steps value

mutual

/-- Visits a rule at the end of a path; a grid begins at an offset. -/
def rule (workers : Workers) : Rule → (path : Path) → (offset : Nat) → Script Json
  | .mk head members performed, path, offset => do
    let _ ← Script.settled (RuleKind.ofMembers head members)
    actions workers path performed
    match members with
    | none => workers.read path head
    | some (.row template :: _) =>
      whole head (← grid workers head path offset fun path => rules workers template path [])
    | some members => whole head (← Tour.members workers members (.collection head :: path) [])

def members (workers : Workers) : List Member → (path : Path) → Fields → Script Json
  | [], _, fields => pure (.object fields)
  | .rule member :: others, path, fields => do
    members workers others path (← field member.head (rule workers member path 0) fields)
  | .row _ :: others, path, fields => members workers others path fields

def rules (workers : Workers) : List Rule → (path : Path) → Fields → Script Json
  | [], _, fields => pure (.object fields)
  | first :: others, path, fields => do
    rules workers others path (← field first.head (rule workers first path 0) fields)

end

end Tour

/-- The workers of an evaluation inside some frames: each calls the page with the selector that belongs to its node. -/
def Workers.inside (setup : Setup) (start : ScopeStack) : Workers where
  read path head := do
    let own := path.ownSelector start head
    let selector := if own = "" then "html" else own
    let answer ← Script.call (.query selector head.attr head.property)
    let texts ← Script.settled (Run.textsOf selector answer)
    match head.shape with
    | .text => Script.convert head.transforms (.string (head.separatorText.intercalate texts))
    | .array => return .array (← texts.mapM fun text => Script.convert head.transforms (.string text))
  count path head := Script.call (.count (path.ownSelector start head))
  perform path actions := Run.performAll setup actions (path.outerSelector start) .null

/-! ### Scripts that leave the stack as it was -/

namespace Scoped

variable {α β : Type}

/-- On a stack, a script on stacks does what a plain script does, and leaves that stack behind. -/
def ActsAs (nested : Scoped α) (stack : ScopeStack) (script : Script α) : Prop :=
  nested.run.run stack = script.run.andThen fun outcome => .done (outcome, stack)

theorem actsAs_settled (outcome : Except Failure α) (stack : ScopeStack) :
    (settled outcome).ActsAs stack (Script.settled outcome) :=
  rfl

theorem actsAs_pure (value : α) (stack : ScopeStack) : (pure value : Scoped α).ActsAs stack (pure value) :=
  rfl

theorem actsAs_fail (failure : Failure) (stack : ScopeStack) : (throw failure : Scoped α).ActsAs stack
    (throw failure) :=
  rfl

theorem actsAs_ofScript (script : Script α) (stack : ScopeStack) : (ofScript script).ActsAs stack script :=
  rfl

theorem ActsAs.bind {nested : Scoped α} {next : α → Scoped β} {stack : ScopeStack} {script : Script α}
    {following : α → Script β} (first : nested.ActsAs stack script)
    (last : ∀ value, (next value).ActsAs stack (following value)) :
    (nested >>= next).ActsAs stack (script >>= following) := by
  show (nested.run.run stack).andThen _ = (script.run.andThen _).andThen _
  rw [first, Job.andThen_assoc, Job.andThen_assoc]
  congr 1
  funext outcome
  cases outcome with
  | error failure => rfl
  | ok value => exact last value

theorem ActsAs.outcome {nested : Scoped α} {stack : ScopeStack} {script : Script α}
    (acts : nested.ActsAs stack script) :
    (Scoped.outcome nested).ActsAs stack (Script.outcome script) := by
  show (nested.run.run stack).andThen _ = (script.run.andThen _).andThen _
  rw [acts, Job.andThen_assoc, Job.andThen_assoc]
  rfl

/-- On a stack of its own, a script on stacks is the plain script that does the same. -/
theorem ActsAs.within_eq {nested : Scoped α} {stack : ScopeStack} {script : Script α}
    (acts : nested.ActsAs stack script) : nested.within stack = script := by
  show (nested.run.run stack).andThen _ = script.run
  rw [acts, Job.andThen_assoc]
  exact Job.andThen_done script.run

/-- What runs between a push and the pop that belongs to it has the frame, and nothing behind them does, whatever the
outcome. -/
theorem actsAs_framed {nested : Scoped α} {next : Except Failure α → Scoped β} {stack : ScopeStack} {frame : ScopeFrame}
    {script : Script α} {following : Except Failure α → Script β} (acts : nested.ActsAs (frame :: stack) script)
    (last : ∀ outcome, (next outcome).ActsAs stack (following outcome)) :
    (do push frame; let outcome ← Scoped.outcome nested; pop; next outcome : Scoped β).ActsAs stack
      (Script.outcome script >>= following) := by
  show ((nested.run.run (frame :: stack)).andThen _).andThen _ = ((script.run.andThen _).andThen _).andThen _
  rw [acts]
  simp only [Job.andThen_assoc]
  congr 1
  funext outcome
  exact last outcome

end Scoped

namespace Run

open Scoped

variable (setup : Setup) (start : ScopeStack) (path : Path)

theorem convertEach_eq (steps : List Transform.Step) (texts : List String) :
    convertEach steps texts = texts.mapM fun text => Script.convert steps (.string text) := by
  induction texts with
  | nil => rfl
  | cons text texts inductionHypothesis => rw [convertEach, inductionHypothesis, List.mapM_cons]

theorem convertWhole_eq (head : RuleHead) (value : Json) : convertWhole head value = Tour.whole head value := by
  unfold convertWhole Tour.whole
  cases head.transforms <;> rfl

theorem read_inside (head : RuleHead) : (Workers.inside setup start).read path head =
    readSimple head (if path.ownSelector start head = "" then wholeDocument else path.ownSelector start head) := by
  simp only [Workers.inside, readSimple, convertEach_eq]
  cases head.shape <;> rfl

theorem actsAs_evaluateSimple (head : RuleHead) :
    (evaluateSimple head).ActsAs (path.frames start) ((Workers.inside setup start).read path head) := by
  rw [read_inside]
  unfold evaluateSimple enter
  cases pushes : Rule.frame? head with
  | none =>
    show (ofScript (readSimple head (if (path.frames start).selector = "" then _ else _))).ActsAs _ _
    rw [Path.selector_frameless start path pushes]
    exact actsAs_ofScript _ _
  | some frame =>
    show (ofScript (readSimple head (if ScopeStack.selector
      (frame :: path.frames start) = "" then _ else _))).ActsAs _ _
    rw [Path.selector_own start path pushes]
    exact actsAs_ofScript _ _

theorem actsAs_performFirst (actions : List Action) :
    (performFirst actions fun parent => performAll setup actions parent .null).ActsAs (path.frames start)
      (Tour.actions (.inside setup start) path actions) := by
  unfold performFirst Tour.actions
  split
  · exact actsAs_pure _ _
  · show (ofScript (performAll setup actions (path.frames start).selector .null) >>= fun _ => pure ()).ActsAs _ _
    rw [Path.selector_frames]
    exact (actsAs_ofScript _ _).bind fun _ => actsAs_pure _ _

theorem actsAs_inside {head : RuleHead} {nested : Scoped Json} {script : Script Json}
    (acts : nested.ActsAs (Path.frames start (.collection head :: path)) script) :
    (inside head nested).ActsAs (path.frames start) script := by
  have whole : (Script.outcome script >>= Script.settled) = script := by
    show (script.run.andThen _).andThen _ = script.run
    rw [Job.andThen_assoc]
    exact Job.andThen_done script.run
  rw [← whole]
  unfold inside enter
  cases pushes : Rule.frame? head with
  | none =>
    rw [Path.frames_frameless start path pushes] at acts
    exact acts.outcome.bind fun outcome => actsAs_settled outcome _
  | some frame =>
    rw [Path.frames_collection start path pushes] at acts
    exact actsAs_framed acts fun outcome => actsAs_settled outcome _

theorem actsAs_collectRows {frame : Nat → ScopeFrame} {stack : ScopeStack} {row : Scoped Json}
    {script : Nat → Script Json} (acts : ∀ index, row.ActsAs (frame index :: stack) (script index))
    (index remaining : Nat) :
    (collectRows frame row index remaining).ActsAs stack (Tour.rows script index remaining) := by
  induction remaining generalizing index with
  | zero => exact actsAs_pure _ _
  | succ remaining inductionHypothesis =>
    rw [collectRows, Tour.rows]
    refine actsAs_framed (acts index) fun outcome => ?_
    cases outcome with
    | ok value => exact (inductionHypothesis (index + 1)).bind fun _ => actsAs_pure _ _
    | error failure =>
      dsimp only
      split
      · exact actsAs_fail _ _
      · exact actsAs_pure _ _

theorem actsAs_evaluateGrid {head : RuleHead} {row : Scoped Json} {script : Path → Script Json}
    (acts : ∀ index, row.ActsAs (Path.frames start (.row head index :: path)) (script (.row head index :: path)))
    (offset : Nat) :
    (evaluateGrid head offset row).ActsAs (path.frames start)
      (Tour.grid (.inside setup start) head path offset script) := by
  unfold evaluateGrid Tour.grid
  cases given : head.scope with
  | none => exact actsAs_fail _ _
  | some scope =>
    have pushes : Rule.frame? head = some ⟨scope, head.parentScope⟩ := by simp [Rule.frame?, given]
    have rows : ∀ answer : Json, (collectRows (rowFrame scope head.parentScope) row offset
      (rowCount answer - offset)).ActsAs
        (path.frames start) (Tour.rows (fun index => script (.row head index :: path)) offset
          (rowCount answer - offset)) :=
      fun answer => actsAs_collectRows (fun index => Path.frames_row start path given index ▸ acts index) _ _
    show (ofScript (Script.call (.count (ScopeStack.selector (⟨scope, head.parentScope⟩ :: path.frames start)))) >>=
      fun answer => _).ActsAs _ _
    rw [Path.selector_own start path pushes]
    exact (actsAs_ofScript _ _).bind fun answer => (rows answer).bind fun _ => actsAs_pure _ _

theorem actsAs_collectField {head : RuleHead} {stack : ScopeStack} {value : Scoped Json} {script : Script Json}
    (acts : value.ActsAs stack script) (fields : Fields) :
    (collectField head value fields).ActsAs stack (Tour.field head script fields) := by
  unfold collectField Tour.field
  cases head.name with
  | none => exact actsAs_fail _ _
  | some name => exact acts.bind fun value => (actsAs_ofScript _ _).bind fun _ => actsAs_pure _ _

mutual

/-- Evaluating a rule is visiting it. -/
theorem actsAs_evaluateRule : ∀ (rule : Rule) (path : Path) (offset : Nat),
    (evaluateRule setup rule offset).ActsAs (path.frames start) (Tour.rule (.inside setup start) rule path offset)
  | .mk head members actions, path, offset => by
    unfold evaluateRule Tour.rule
    refine (actsAs_settled _ _).bind fun _ => (actsAs_performFirst setup start path actions).bind fun _ => ?_
    simp only [convertWhole_eq]
    match members with
    | none => exact actsAs_evaluateSimple setup start path head
    | some [] =>
      exact (actsAs_inside start path (actsAs_evaluateMembers [] _ [])).bind fun _ => actsAs_ofScript _ _
    | some (.row template :: _) =>
      exact (actsAs_evaluateGrid setup start path (fun _ => actsAs_evaluateRules template _ []) offset).bind fun _ =>
        actsAs_ofScript _ _
    | some (.rule first :: others) =>
      exact (actsAs_inside start path (actsAs_evaluateMembers (.rule first :: others) _ [])).bind fun _ =>
        actsAs_ofScript _ _

/-- Evaluating members is visiting them. -/
theorem actsAs_evaluateMembers : ∀ (members : List Member) (path : Path) (fields : Fields),
    (evaluateMembers setup members fields).ActsAs (path.frames start)
      (Tour.members (.inside setup start) members path fields)
  | [], _, _ => by
    unfold evaluateMembers Tour.members
    exact actsAs_pure _ _
  | .rule member :: others, path, fields => by
    unfold evaluateMembers Tour.members
    exact (actsAs_collectField (actsAs_evaluateRule member path 0) fields).bind fun _ =>
      actsAs_evaluateMembers others path _
  | .row _ :: others, path, fields => by
    unfold evaluateMembers Tour.members
    exact actsAs_evaluateMembers others path fields

/-- Evaluating the rules of a row is visiting them. -/
theorem actsAs_evaluateRules : ∀ (rules : List Rule) (path : Path) (fields : Fields),
    (evaluateRules setup rules fields).ActsAs (path.frames start) (Tour.rules (.inside setup start) rules path fields)
  | [], _, _ => by
    unfold evaluateRules Tour.rules
    exact actsAs_pure _ _
  | first :: others, path, fields => by
    unfold evaluateRules Tour.rules
    exact (actsAs_collectField (actsAs_evaluateRule first path 0) fields).bind fun _ =>
      actsAs_evaluateRules others path _

end

/-- Evaluating a rule inside the frames of a path is visiting it at the end of that path. -/
theorem evaluateWithin_frames (rule : Rule) (path : Path) (offset : Nat) :
    evaluateWithin setup rule (path.frames start) offset = Tour.rule (.inside setup start) rule path offset :=
  (actsAs_evaluateRule setup start rule path offset).within_eq

theorem evaluateWithin_eq (rule : Rule) (offset : Nat) :
    evaluateWithin setup rule start offset = Tour.rule (.inside setup start) rule [] offset :=
  evaluateWithin_frames setup start rule [] offset

/-- Evaluating a rule tree on a stack of scopes is the tour whose workers get the selectors of the paths to their nodes,
and on every way, also where it fails, the stack is in the end what it was in the beginning. -/
theorem evaluation_is_a_tour (rule : Rule) (offset : Nat) :
    (evaluateRule setup rule offset).run.run start =
      (Tour.rule (.inside setup start) rule [] offset).run.andThen fun outcome => .done (outcome, start) :=
  actsAs_evaluateRule setup start rule [] offset

/-- A shelf with books, which are shown behind a click, and with a note. -/
def shelfRule : Rule :=
  .mk { scope := some ".shelf" } (some [
    .rule (.mk { name := some "books", scope := some ".book", parentScope := some "main" }
      (some [.row [.mk { name := some "title", scope := some " b " } none []]])
      [.mk { kind := "click", scope := some ".more" } [] [] none [] none]),
    .rule (.mk { name := some "note" } none [])]) []

/-- The second book has no title, so the books end there. The note is read where the shelf is, all the same. -/
theorem calls_of_shelf :
    Job.Trail ((evaluateRule ⟨Performer.standard, {}⟩ shelfRule 0).run.run [⟨"#root", none⟩])
      [⟨.ask (.call (.click "#root .shelf .more")), .ok (.bool true)⟩,
        ⟨.ask (.call (.count "main .book")), .ok (.int 2)⟩,
        ⟨.ask (.call (.query "main .book:eq(0) b" none none)), .ok (.string "Emma")⟩,
        ⟨.convert [] (.string "Emma"), .ok (.string "Emma")⟩,
        ⟨.keep "title" (.string "Emma"), ()⟩,
        ⟨.ask (.call (.query "main .book:eq(1) b" none none)), .ok .null⟩,
        ⟨.keep "books" (.array [.object [("title", .string "Emma")]]), ()⟩,
        ⟨.ask (.call (.query "#root .shelf" none none)), .ok (.string "All")⟩,
        ⟨.convert [] (.string "All"), .ok (.string "All")⟩,
        ⟨.keep "note" (.string "All"), ()⟩]
      (.done (.ok (.object [("books", .array [.object [("title", .string "Emma")]]), ("note", .string "All")]),
        [⟨"#root", none⟩])) := by
  rw [evaluation_is_a_tour]
  exact .step (.step (.step (.step (.step (.step (.step (.step (.step (.step (.stay _))))))))))

end Run

end Harvest
