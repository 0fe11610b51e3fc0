import Harvest.Description.Rule
import Harvest.Text.Blank

/-!
Contract: the selectors that nested scopes resolve to.

A stack of scopes has a frame for each level of nesting, the innermost first. Its selector
joins the scopes from the outermost one inwards; a frame with a parent scope hides the
frames outside it. Joining drops blank parts and the blanks around the others.
-/

namespace Harvest

def joinSelectors (parts : List String) : String :=
  " ".intercalate ((parts.map Text.trim).filter (· != ""))

structure ScopeFrame where
  scope : String
  parentScope : Option String := none
deriving DecidableEq

abbrev ScopeStack := List ScopeFrame

namespace ScopeStack

/-- The scopes that count, the innermost first: those up to the first frame with a parent scope, and that
parent scope. -/
def parts : ScopeStack → List String
  | [] => []
  | frame :: outer =>
    match frame.parentScope with
    | some parent => [frame.scope, parent]
    | none => frame.scope :: parts outer

def selector (stack : ScopeStack) : String :=
  joinSelectors (parts stack).reverse

/-- The stack inside a selector that is already resolved. -/
def rootedAt (selector : String) : ScopeStack :=
  if Text.isBlankText selector then [] else [⟨selector, none⟩]

end ScopeStack

namespace Rule

/-- The frame that a rule pushes for its members; a rule without any scope stays where it is. -/
def frame? (head : RuleHead) : Option ScopeFrame :=
  if head.scope.isNone && head.parentScope.isNone then none
  else some ⟨head.scope.getD "", head.parentScope⟩

end Rule

/-- The selector of an action: its scope, under its parent scope or else under a given selector. -/
def ActionHead.selector (head : ActionHead) (parent : String) : String :=
  joinSelectors [head.parentScope.getD parent, head.scope.getD ""]

end Harvest
