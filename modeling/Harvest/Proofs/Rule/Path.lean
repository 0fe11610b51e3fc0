import Harvest.Run.Evaluate

/-!
Contract: the selectors that belong to the nodes of a rule tree.

A path leads from the root of a rule tree to one of its nodes, through collections and through
rows of grids. The frames that it stands for and what a node does decide the selector; nothing
else of the tree does. `counting_eq` says that a stack with these frames resolves to it.
-/

namespace Harvest

/-! ### The parts of a selector that count -/

namespace ScopeStack

/-- A frame without a parent scope leaves the frames outside of it in sight. -/
def isOpen (frame : ScopeFrame) : Bool :=
  frame.parentScope.isNone

/-- The texts that count of nested frames, the outermost first: the scopes up to the innermost frame with a parent
scope, and that parent scope in front of them. -/
def counting (frames : ScopeStack) : List String :=
  match frames.dropWhile isOpen with
  | [] => (frames.map ScopeFrame.scope).reverse
  | cutting :: _ =>
    cutting.parentScope.toList ++ cutting.scope :: ((frames.takeWhile isOpen).map ScopeFrame.scope).reverse

theorem counting_eq (frames : ScopeStack) : frames.counting = frames.parts.reverse := by
  induction frames with
  | nil => rfl
  | cons frame frames inductionHypothesis =>
    unfold counting parts
    unfold counting at inductionHypothesis
    cases parent : frame.parentScope with
    | some parent => simp [isOpen, parent]
    | none =>
      simp only [isOpen, parent, Option.isNone_none, List.dropWhile_cons_of_pos, List.takeWhile_cons_of_pos,
        List.map_cons, List.reverse_cons]
      rw [← inductionHypothesis]
      split <;> simp

end ScopeStack

/-! ### Paths -/

/-- One level between the root of a rule tree and a node: a collection, or a row of a grid. -/
inductive Level where
  | collection (head : RuleHead)
  | row (head : RuleHead) (index : Nat)

/-- The frame that a level stands for. A collection has the scopes of its rule, if it has any; a row has the scope of
its grid with a filter for the row behind it. -/
def Level.frame? : Level → Option ScopeFrame
  | .collection head =>
    match head.scope, head.parentScope with
    | none, none => none
    | scope, parentScope => some ⟨scope.getD "", parentScope⟩
  | .row head index => head.scope.map fun scope =>
    ⟨scope ++ ":eq(" ++ Description.countText index ++ ")", head.parentScope⟩

theorem Level.frame?_collection (head : RuleHead) : Level.frame? (.collection head) = Rule.frame? head := by
  cases scope : head.scope <;> cases parent : head.parentScope <;> simp [Level.frame?, Rule.frame?, scope, parent]

abbrev Path := List Level

namespace Path

/-- The frames that a path stands for, inside some frames to begin with. -/
def frames (start : ScopeStack) (path : Path) : ScopeStack :=
  path.filterMap Level.frame? ++ start

/-- Parts of a selector, trimmed, with a blank between those that are not empty. -/
def joined (parts : List String) : String :=
  " ".intercalate ((parts.map Text.trim).filter (· ≠ ""))

/-- The selector around the node at the end of a path, which is what its actions get. -/
def outerSelector (start : ScopeStack) (path : Path) : String :=
  joined (path.frames start).counting

/-- The selector of a node itself, which is what lies inside its own scopes, too. -/
def ownSelector (start : ScopeStack) (path : Path) (head : RuleHead) : String :=
  outerSelector start (.collection head :: path)

theorem joined_eq (parts : List String) : joined parts = joinSelectors parts := by
  unfold joined joinSelectors
  congr 2
  funext part
  exact Bool.eq_iff_iff.mpr (by simp)

variable (start : ScopeStack) (path : Path)

theorem selector_frames : (path.frames start).selector = path.outerSelector start := by
  rw [outerSelector, joined_eq, ScopeStack.counting_eq]
  rfl

theorem frames_collection {head : RuleHead} {frame : ScopeFrame} (pushes : Rule.frame? head = some frame) :
    frames start (.collection head :: path) = frame :: path.frames start := by
  simp [frames, Level.frame?_collection, pushes]

theorem frames_frameless {head : RuleHead} (pushes : Rule.frame? head = none) :
    frames start (.collection head :: path) = path.frames start := by
  simp [frames, Level.frame?_collection, pushes]

theorem selector_own {head : RuleHead} {frame : ScopeFrame} (pushes : Rule.frame? head = some frame) :
    ScopeStack.selector (frame :: path.frames start) = path.ownSelector start head := by
  rw [← frames_collection start path pushes]
  exact selector_frames start _

theorem selector_frameless {head : RuleHead} (pushes : Rule.frame? head = none) :
    (path.frames start).selector = path.ownSelector start head := by
  rw [← frames_frameless start path pushes]
  exact selector_frames start _

theorem frames_row {head : RuleHead} {scope : String} (given : head.scope = some scope) (index : Nat) :
    frames start (.row head index :: path) = Run.rowFrame scope head.parentScope index :: path.frames start := by
  simp [frames, Level.frame?, given, Run.rowFrame]

end Path

end Harvest
