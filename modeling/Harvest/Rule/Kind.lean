import Harvest.Description.Rule

/-!
Contract: what kind of result a rule describes.

The first member decides: a rule without members is simple, a first member that is a rule
makes a collection of named rules, and a first member that is a row makes a grid of such
rows. A collection that holds a row is refused, as is one without members.
-/

namespace Harvest

inductive RuleKind where
  | simple
  | collection (rules : List Rule)
  | grid (row : List Rule)

def RuleHead.describe (head : RuleHead) : String :=
  match head.name, head.scope with
  | some name, _ => Description.marked name
  | none, some scope => "with scope " ++ Description.marked scope
  | none, none => "<root>"

def Member.rules? : List Member → Option (List Rule)
  | [] => some []
  | .rule first :: members => (rules? members).map fun others => first :: others
  | .row _ :: _ => none

def RuleKind.ofMembers (head : RuleHead) : Option (List Member) → Except Failure RuleKind
  | none => .ok .simple
  | some [] => .error (.invalidRule (.emptyCollection head.describe))
  | some (.row rules :: _) => .ok (.grid rules)
  | some (.rule rule :: members) =>
    match Member.rules? members with
    | some rules => .ok (.collection (rule :: rules))
    | none => .error (.invalidRule (.mixedCollection head.describe))

def Rule.kind (rule : Rule) : Except Failure RuleKind :=
  RuleKind.ofMembers rule.head rule.members

def RuleHead.separatorText (head : RuleHead) : String :=
  head.separator.getD " "

end Harvest
