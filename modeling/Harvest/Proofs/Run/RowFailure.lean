import Harvest.Proofs.Run.GridRows
import Harvest.Proofs.Run.Tour

/-!
Contract: what becomes of a grid when one of its rows fails.

The rows before it are lost or kept, as the failure is one of the description or not. That a race
was lost is not, whatever its cases failed with: of all failures that go back to the
description, those that are hidden in a race are the ones with which the rows before remain.
-/

namespace Harvest

namespace Failure

/-- What a failure goes back to: a race that was lost goes back to what the failure reported last goes back to. -/
def rootCause : Failure → Failure
  | .raceFailed _ last => last.rootCause
  | failure => failure

def isLostRace : Failure → Bool
  | .raceFailed _ _ => true
  | _ => false

/-- A failure that goes back to the description is one of the description, unless it is hidden in a race. -/
theorem isConfiguration_eq_not_isLostRace {failure : Failure} (fault : failure.rootCause.isConfiguration = true) :
    failure.isConfiguration = !failure.isLostRace := by
  cases failure with
  | raceFailed chains last => rfl
  | _ => exact fault

end Failure

namespace Run

open Job

/-! ### Rows up to the first that fails -/

/-- Rows that end without a failure from an index on: their values, and what is exchanged meanwhile. -/
inductive RowsPass (row : Nat → Script Json) : (index : Nat) → List Json → List Exchange → Prop where
  | none (index : Nat) : RowsPass row index [] []
  | next {index : Nat} {value : Json} {values : List Json} {front back : List Exchange}
      (first : Trail (row index).run front (.done (.ok value))) (later : RowsPass row (index + 1) values back) :
      RowsPass row index (value :: values) (front ++ back)

theorem trail_outcome {α : Type} {script : Script α} {trail : List Exchange} {outcome : Except Failure α}
    (ends : Trail script.run trail (.done outcome)) : Trail (Script.outcome script).run trail (.done (.ok outcome)) :=
  List.append_nil trail ▸ ends.andThen (.stay _)

/-- Behind rows that end without a failure, a row that fails is the last one that is visited. -/
theorem trail_rows {row : Nat → Script Json} {index remaining : Nat} {values : List Json}
    {before failed : List Exchange} {failure : Failure} (passed : RowsPass row index values before)
    (room : values.length < remaining) (fails : Trail (row (index + values.length)).run failed
      (.done (.error failure))) :
    Trail (Tour.rows row index remaining).run (before ++ failed)
      (.done (if failure.isConfiguration then .error failure else .ok values)) := by
  induction passed generalizing remaining with
  | none index =>
    obtain ⟨remaining, rfl⟩ := Nat.exists_eq_succ_of_ne_zero (Nat.ne_of_gt room)
    rw [Tour.rows, List.nil_append, ← List.append_nil failed]
    refine (trail_outcome fails).bind ?_
    dsimp only
    split <;> exact .stay _
  | @next index value values front back first later inductionHypothesis =>
    obtain ⟨remaining, rfl⟩ := Nat.exists_eq_succ_of_ne_zero (Nat.ne_of_gt (Nat.zero_lt_of_lt room))
    rw [List.length_cons] at room fails
    have behind := inductionHypothesis (Nat.lt_of_succ_lt_succ room) (by rwa [Nat.add_right_comm])
    rw [Tour.rows, List.append_assoc]
    refine (trail_outcome first).bind ?_
    dsimp only
    split at behind
    case isTrue fault =>
      rw [if_pos fault]
      exact behind.inside _
    case isFalse other =>
      rw [if_neg other, ← List.append_nil (back ++ failed)]
      exact behind.bind (.stay _)

/-- A grid is visited by way of the count of its rows. -/
theorem trail_grid {workers : Workers} {head : RuleHead} {scope : String} {path : Path} {offset : Nat}
    (row : Path → Script Json) {answer : Json} {front back : List Exchange} {outcome : Except Failure (List Json)}
    (own : head.scope = some scope) (counted : Trail (workers.count path head).run front (.done (.ok answer)))
    (visited : Trail (Tour.rows (fun index => row (.row head index :: path)) offset (rowCount answer - offset)).run back
      (.done outcome)) :
    Trail (Tour.grid workers head path offset row).run (front ++ back) (.done (outcome.map .array)) := by
  unfold Tour.grid
  rw [own, ← List.append_nil back]
  refine counted.bind (visited.andThen ?_)
  cases outcome <;> exact .stay _

/-! ### The grid -/

section

variable (setup : Setup) (head : RuleHead) (template : List Rule) (actions : List Action) (stack : ScopeStack)
    (offset : Nat)

/-- The evaluation of a grid comes to a row that fails: its actions are performed, the page says how many rows there
are,
and the rows up to that one are evaluated to values. -/
inductive ComesToFailure : List Json → Failure → List Exchange → Prop where
  | mk {scope : String} {result answer : Json} {values : List Json} {performed before failed : List Exchange}
      {failure : Failure} (own : head.scope = some scope)
      (acted : Trail (performAll setup actions stack.selector .null).run performed (.done (.ok result)))
      (passed : RowsPass (fun index => (evaluateRules setup template []).within
        (rowFrame scope head.parentScope index :: stack)) offset values before)
      (room : offset + values.length < rowCount answer)
      (fails : Trail ((evaluateRules setup template []).within
        (rowFrame scope head.parentScope (offset + values.length) :: stack)).run failed (.done (.error failure))) :
      ComesToFailure values failure
        (performed ++ ⟨.ask (.call (.count (ScopeStack.selector (⟨scope, head.parentScope⟩ :: stack)))), .ok answer⟩ ::
          (before ++ failed))

variable {setup head template actions stack offset} {values : List Json} {failure : Failure} {way : List Exchange}

/-- The actions of a rule, where they are performed without a failure. -/
theorem trail_actions {performed : List Exchange} {result : Json}
    (acted : Trail (performAll setup actions stack.selector .null).run performed (.done (.ok result))) :
    Trail (Tour.actions (.inside setup stack) [] actions).run performed (.done (.ok ())) := by
  unfold Tour.actions
  cases actions with
  | nil =>
    rw [performAll] at acted
    rw [acted.eq_of_done.1]
    exact .stay _
  | cons action actions =>
    rw [← List.append_nil performed]
    have same : ScopeStack.selector stack = Path.outerSelector stack [] := Path.selector_frames stack []
    rw [same] at acted
    exact acted.bind (.stay _)

/-- A grid that comes to a row that fails fails too if the description is at fault, and goes on with the rows before it
if not. -/
theorem ComesToFailure.trail (comes : ComesToFailure setup head template actions stack offset values failure way)
    (others : List Member) :
    Trail (evaluateWithin setup (.mk head (some (.row template :: others)) actions) stack offset).run way
      (if failure.isConfiguration then .done (.error failure) else (convertWhole head (.array values)).run) := by
  obtain @⟨scope, result, answer, _, performed, before, failed, _, own, acted, passed, room, fails⟩ := comes
  have row : ∀ index, (evaluateRules setup template []).within (rowFrame scope head.parentScope index :: stack) =
      Tour.rules (.inside setup stack) template [.row head index] [] := by
    intro index
    have acts := actsAs_evaluateRules setup stack template [.row head index] []
    rw [Path.frames_row stack [] own index] at acts
    exact acts.within_eq
  have pushes : Rule.frame? head = some ⟨scope, head.parentScope⟩ := by simp [Rule.frame?, own]
  simp only [row] at passed fails
  have rows := trail_rows passed (Nat.lt_sub_of_add_lt (by rwa [Nat.add_comm])) fails
  have selects : ScopeStack.selector (⟨scope, head.parentScope⟩ :: stack) = Path.ownSelector stack [] head :=
    Path.selector_own stack [] pushes
  rw [evaluateWithin_eq, Tour.rule, convertWhole_eq]
  have classified : Trail (Script.settled (RuleKind.ofMembers head (some (.row template :: others)))).run []
      (.done (.ok (.grid template))) := .stay _
  refine classified.bind ((trail_actions acted).bind ?_)
  have counted : Trail ((Workers.inside setup stack).count [] head).run
      [⟨.ask (.call (.count (Path.ownSelector stack [] head))), .ok answer⟩] (.done (.ok answer)) := .step (.stay _)
  have grid := trail_grid (fun path => Tour.rules (.inside setup stack) template path []) own counted rows
  rw [selects]
  cases fault : failure.isConfiguration with
  | true =>
    rw [fault] at grid
    exact grid.inside _
  | false =>
    rw [fault] at grid
    rw [← List.append_nil (_ :: _)]
    exact grid.bind (.stay _)

/-- What becomes of a grid in which a row fails, where the failure goes back to the description: that failure ends
the grid,
unless it is a lost race. Then the grid goes on with the rows before. -/
theorem faulty_row_ends_grid_iff (comes : ComesToFailure setup head template actions stack offset values failure way)
    (fault : failure.rootCause.isConfiguration = true) (others : List Member) :
    (Trail (evaluateWithin setup (.mk head (some (.row template :: others)) actions) stack offset).run way
        (.done (.error failure)) ↔ failure.isLostRace = false) ∧
      (failure.isLostRace = true →
        Trail (evaluateWithin setup (.mk head (some (.row template :: others)) actions) stack offset).run way
          (convertWhole head (.array values)).run) := by
  have goes := comes.trail others
  rw [Failure.isConfiguration_eq_not_isLostRace fault] at goes
  cases lost : failure.isLostRace with
  | false =>
    rw [lost] at goes
    exact ⟨iff_of_true goes rfl, fun absurd => nomatch absurd⟩
  | true =>
    rw [lost] at goes
    refine ⟨iff_of_false (fun ends => ?_) (fun absurd => nomatch absurd), fun _ => goes⟩
    have same : (convertWhole head (.array values)).run = _ := goes.unique ends
    unfold convertWhole at same
    split at same <;> exact nomatch same

end

/-! ### A list in which one item cannot be read -/

/-- Where an element of class `bad` can be clicked, a race of one case that no performer knows. -/
def unknownWhereBad : Action :=
  .mk { kind := "condition" } [.mk { kind := "cases" } [] [] none [[.ofKind "unknown"]] none]
    [.mk { kind := "click", scope := some ".bad" } [] [] none [] none] none [] none

def itemFields : List Rule := [.mk { name := some "text" } none [unknownWhereBad]]

def itemGrid : Rule := .mk { scope := some "li" } (some [.row itemFields]) []

/-- A page with two items, the second of which is bad. -/
def badWorld : World Stage where
  state := { page := { source := .ofText "<ul><li>a</li><li>b<i class='bad'></i></li></ul>" } }
  channel := Channel.ofCapacity 1
  storages := #[{}]
  ledgers := #[{}]

def onBadWorld (script : Script Json) : Except Failure Json :=
  (badWorld.run plainSurroundings ⟨0, 0⟩ script).2

def rowsCollected? : Except Failure Json → Option Nat
  | .ok (.array rows) => some rows.length
  | _ => none

/-- The failure that a failed evaluation goes back to. -/
def rootCause? : Except Failure Json → Option Failure
  | .ok _ => none
  | .error failure => some failure.rootCause

/-- A grid of two items is cut short behind the first, although the second fails because of its description. -/
theorem grid_cut_short_by_description :
    Selector.select? badWorld.state.page.source.document "li" = some [5, 7] ∧
      (rootCause? (onBadWorld ((evaluateRules plainSurroundings.setup itemFields []).within
        [rowFrame "li" none 1]))).any
        Failure.isConfiguration = true ∧
      rowsCollected? (onBadWorld (evaluateWithin plainSurroundings.setup itemGrid [] 0)) = some 1 := by
  decide +kernel

def itemWay : List Exchange :=
  ⟨.ask (.call (.count "li")), .ok (.count 2)⟩ ::
    ([⟨.ask (.call (.click "li:eq(0) .bad")), .ok (.bool false)⟩,
      ⟨.ask (.call (.query "li:eq(0)" none none)), .ok (.array [.string "a"])⟩,
      ⟨.convert [] (.string "a"), .ok (.string "a")⟩, ⟨.keep "text" (.string "a"), ()⟩] ++ [] ++
    [⟨.ask (.call (.click "li:eq(1) .bad")), .ok (.bool true)⟩,
      ⟨.race [[.ofKind "unknown"]] "li:eq(1)" (.bool true), .error (.raceFailed 1 (.unsupportedAction "unknown"))⟩])

theorem comes_itemWay : ComesToFailure plainSurroundings.setup { scope := some "li" } itemFields [] [] 0
    [.object [("text", .string "a")]] (.raceFailed 1 (.unsupportedAction "unknown")) itemWay :=
  @ComesToFailure.mk plainSurroundings.setup { scope := some "li" } itemFields [] [] 0 "li" .null (.count 2) _ []
    _ _ _ rfl (.stay _) (.next (.step (.step (.step (.step (.stay _))))) (.none 1)) (by decide)
    (.step (.step (.stay _)))

/-- A field without a name, which is the description's fault. -/
theorem comes_unnamed : ComesToFailure plainSurroundings.setup { scope := some "li" } [.within "b"] [] [] 0 []
    (.invalidRule (.unnamedMember "with scope `b`")) [⟨.ask (.call (.count "li")), .ok (.count 2)⟩] :=
  @ComesToFailure.mk plainSurroundings.setup { scope := some "li" } [.within "b"] [] [] 0 "li" .null (.count 2) [] []
    [] []
    _ rfl (.stay _) (.none 0) (by decide) (.stay _)

/-- A field without a name ends the grid; behind the race that is lost, the first item remains. -/
theorem faulty_rows_of_items :
    Trail (evaluateWithin plainSurroundings.setup (.mk { scope := some "li" } (some [.row [.within "b"]]) []) [] 0).run
        [⟨.ask (.call (.count "li")), .ok (.count 2)⟩]
        (.done (.error (.invalidRule (.unnamedMember "with scope `b`")))) ∧
      Trail (evaluateWithin plainSurroundings.setup itemGrid [] 0).run itemWay
        (.done (.ok (.array [.object [("text", .string "a")]]))) :=
  ⟨(faulty_row_ends_grid_iff comes_unnamed rfl []).1.mpr rfl, (faulty_row_ends_grid_iff comes_itemWay rfl []).2 rfl⟩

end Run

end Harvest
