import Harvest.Proofs.Rule.Inside

/-!
Contract: ways through collections, and the names in a rule tree.

A way leads from a rule through members of collections to another rule, never into the rows of a grid. The names in a
tree are those of all its rules, in the rows of grids, too; where they are distinct, no name inside one member of a
collection is met inside another one.
-/

namespace Harvest

/-! ### Names -/

mutual

def Rule.namesBelow : Rule → List String
  | .mk _ none _ => []
  | .mk _ (some members) _ => Member.allNames members

def Member.allNames : List Member → List String
  | [] => []
  | .rule rule :: members => (rule.head.name.toList ++ rule.namesBelow) ++ Member.allNames members
  | .row template :: members => Rule.allNames template ++ Member.allNames members

def Rule.allNames : List Rule → List String
  | [] => []
  | rule :: rules => (rule.head.name.toList ++ rule.namesBelow) ++ Rule.allNames rules

end

def Rule.namesInside (rule : Rule) : List String :=
  rule.head.name.toList ++ rule.namesBelow

def Member.namesInside : Member → List String
  | .rule inner => inner.namesInside
  | .row template => Rule.allNames template

theorem Member.allNames_cons (member : Member) (members : List Member) :
    allNames (member :: members) = member.namesInside ++ allNames members := by
  cases member <;> rw [allNames] <;> rfl

/-- The names inside a member are among those of all members. -/
theorem Member.sublist_allNames {member : Member} {members : List Member} (among : member ∈ members) :
    member.namesInside.Sublist (allNames members) := by
  induction members with
  | nil => cases among
  | cons first members inductionHypothesis =>
    rw [allNames_cons]
    rcases List.mem_cons.mp among with rfl | later
    · exact List.sublist_append_left _ _
    · exact (inductionHypothesis later).trans (List.sublist_append_right _ _)

namespace Rule

theorem sublist_allNames {rule : Rule} {template : List Rule} (within : rule ∈ template) :
    rule.namesInside.Sublist (allNames template) := by
  induction template with
  | nil => cases within
  | cons first template inductionHypothesis =>
    rw [allNames]
    rcases List.mem_cons.mp within with rfl | later
    · exact List.sublist_append_left _ _
    · exact (inductionHypothesis later).trans (List.sublist_append_right _ _)

theorem mem_namesInside {rule : Rule} {name : String} (named : rule.head.name = some name) :
    name ∈ rule.namesInside := by
  rw [namesInside, named]
  exact List.mem_cons_self

/-- A name that is given inside a rule is one of the names inside it. -/
theorem Names.mem_namesInside {rule : Rule} {name : String} (names : rule.Names name) : name ∈ rule.namesInside := by
  obtain ⟨inner, inside, named⟩ := names
  induction inside with
  | self => exact Rule.mem_namesInside named
  | member among _ inductionHypothesis =>
    exact List.mem_append_right _ ((Member.sublist_allNames among).subset inductionHypothesis)
  | row among within _ inductionHypothesis =>
    have here := (sublist_allNames within).trans (Member.sublist_allNames among)
    exact List.mem_append_right _ (here.subset inductionHypothesis)

/-! ### Ways -/

/-- A way leads from a rule through members of collections to another rule. These are the heads of the collections that
it goes through, the outermost first. -/
inductive Way : Rule → (heads : List RuleHead) → Rule → Prop where
  | here (rule : Rule) : Way rule [] rule
  | member {head : RuleHead} {first between inner : Rule} {others : List Member} {actions : List Action}
      {heads : List RuleHead} (among : Member.rule between ∈ Member.rule first :: others)
      (further : Way between heads inner) : Way (.mk head (some (.rule first :: others)) actions) (head :: heads) inner

namespace Way

variable {rule inner deep : Rule} {heads : List RuleHead}

/-- What lies inside the end of a way lies inside the rule where it begins. -/
theorem inside (way : rule.Way heads inner) (lies : deep.Inside inner) : deep.Inside rule := by
  induction way with
  | here => exact lies
  | member among _ inductionHypothesis => exact .member among (inductionHypothesis lies)

theorem isIdle (way : rule.Way heads inner) (idle : rule.IsIdle) : inner.IsIdle :=
  fun deep lies => idle deep (way.inside lies)

theorem hasStep (way : rule.Way heads inner) {step : Transform.Step} (has : inner.HasStep step) : rule.HasStep step :=
  has.imp fun _ found => ⟨way.inside found.1, found.2⟩

theorem sublist_namesBelow (way : rule.Way heads inner) : inner.namesBelow.Sublist rule.namesBelow := by
  induction way with
  | here => exact .refl _
  | member among _ inductionHypothesis =>
    exact (inductionHypothesis.trans (List.sublist_append_right _ _)).trans (Member.sublist_allNames among)

/-- The first head of a way is that of the rule where it begins. -/
theorem heads_eq (way : rule.Way heads inner) :
    heads ++ [inner.head] = rule.head :: (heads ++ [inner.head]).tail := by
  cases way <;> rfl

end Way

end Rule

end Harvest
