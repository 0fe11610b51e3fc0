import Harvest.Description.Rule

/-!
Contract: actions without those inside that are done already.

An action that is to be done once is spent when its identity has been recorded. Spent actions are left out at any
depth, among actions, conditions, alternatives and the steps of cases, except where their mark decides a race. No
list of alternatives and no case disappears by that, though any may be empty then.
-/

namespace Harvest

/-- An action that is to be done once has been done, and no race is decided by it. -/
def ActionHead.isSpent (recorded : Nat → Bool) (head : ActionHead) : Bool :=
  head.once && !head.winsRace && recorded head.identity

namespace Action

mutual

/-- An action without the spent actions inside. -/
def elide (recorded : Nat → Bool) : Action → Action
  | .mk head actions conditions otherwise cases rules =>
    .mk head (elideAll recorded actions) (elideAll recorded conditions) (elideElse recorded otherwise)
      (elideCases recorded cases) rules

/-- Actions without those that are spent, at any depth. -/
def elideAll (recorded : Nat → Bool) : List Action → List Action
  | [] => []
  | action :: actions =>
    if action.head.isSpent recorded then elideAll recorded actions
    else action.elide recorded :: elideAll recorded actions

def elideElse (recorded : Nat → Bool) : Option (List Action) → Option (List Action)
  | none => none
  | some actions => some (elideAll recorded actions)

/-- Cases without the steps that are spent. -/
def elideCases (recorded : Nat → Bool) : List (List Action) → List (List Action)
  | [] => []
  | steps :: cases => elideAll recorded steps :: elideCases recorded cases

end

variable {recorded : Nat → Bool}

@[simp]
theorem head_elide (action : Action) : (action.elide recorded).head = action.head := by
  cases action
  rw [elide]
  rfl

theorem elideCases_eq_map (cases : List (List Action)) :
    elideCases recorded cases = cases.map (elideAll recorded) := by
  induction cases with
  | nil => rw [elideCases, List.map_nil]
  | cons steps cases inductionHypothesis => rw [elideCases, inductionHypothesis, List.map_cons]

end Action

end Harvest
