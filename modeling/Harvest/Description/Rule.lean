import Harvest.Transform.Step

/-!
Contract: descriptions of what to extract and of what to do on the page.

Rules and actions nest in each other: a rule may perform actions before it is evaluated,
and an action may evaluate rules. A rule's members are rules or rows of rules. What an
action needs besides the common fields are its parameters.
-/

namespace Harvest

/-- When a breaker trips: always, once an amount of time has passed, or once it has been checked a number
of times. -/
inductive Trip where
  | always
  | after (time : Nat)
  | checks (count : Nat)
deriving DecidableEq

/-- What a simple rule gives: one text, or an array of texts. -/
inductive ResultShape where
  | text
  | array
deriving DecidableEq

structure RuleHead where
  scope : Option String := none
  parentScope : Option String := none
  name : Option String := none
  transforms : List Transform.Step := []
  shape : ResultShape := .text
  separator : Option String := none
  attr : Option String := none
  property : Option String := none
  isVirtual : Bool := false
deriving Inhabited

structure ActionHead where
  identity : Nat := 0
  kind : String := ""
  scope : Option String := none
  parentScope : Option String := none
  once : Bool := false
  timeout : Option Nat := none
  interval : Option Nat := none
  breaker : Option Trip := none
  winsRace : Bool := false
  awaitsPage : Bool := false
  awaitsRequest : Option String := none
  params : Fields := []
deriving Inhabited

mutual

inductive Rule where
  | mk (head : RuleHead) (members : Option (List Member)) (actions : List Action)

/-- A member of a rule: a rule, or the rules of a row. -/
inductive Member where
  | rule (rule : Rule)
  | row (rules : List Rule)

inductive Action where
  | mk (head : ActionHead) (actions conditions : List Action) (otherwise : Option (List Action))
      (cases : List (List Action)) (rules : Option Rule)

end

namespace Rule

def head : Rule → RuleHead
  | .mk head _ _ => head

def members : Rule → Option (List Member)
  | .mk _ members _ => members

def actions : Rule → List Action
  | .mk _ _ actions => actions

instance : Inhabited Rule :=
  ⟨.mk {} none []⟩

def within (scope : String) : Rule :=
  .mk { scope := some scope } none []

def mapHead (change : RuleHead → RuleHead) : Rule → Rule
  | .mk head members actions => .mk (change head) members actions

def withMembers (members : List Member) : Rule → Rule
  | .mk head _ actions => .mk head (some members) actions

def withAction (action : Action) : Rule → Rule
  | .mk head members actions => .mk head members (actions ++ [action])

end Rule

namespace Action

def head : Action → ActionHead
  | .mk head _ _ _ _ _ => head

instance : Inhabited Action :=
  ⟨.mk {} [] [] none [] none⟩

def ofKind (kind : String) : Action :=
  .mk { kind := kind } [] [] none [] none

def mapHead (change : ActionHead → ActionHead) : Action → Action
  | .mk head actions conditions otherwise cases rules => .mk (change head) actions conditions otherwise cases rules

end Action

namespace ActionHead

/-- The parameter under a name, unless it is null. -/
def param? (head : ActionHead) (name : String) : Option Json :=
  (Fields.find? name head.params).filter fun value => !value.isNull

def textParam? (head : ActionHead) (name : String) : Option String :=
  (head.param? name).bind Json.text?

def requireText (head : ActionHead) (name : String) : Except Failure String :=
  match head.textParam? name with
  | some text => .ok text
  | none => .error (.invalidAction head.kind (.missing name))

end ActionHead

end Harvest
