import Harvest.Description.Rule

/-!
Contract: the rules that lie inside a rule.

A rule lies inside itself, and inside each rule around it: that of which it is a member, or
in one of whose rows it stands.
-/

namespace Harvest

namespace Rule

/-- A rule is another one, or it stands at any depth among its members and rows. -/
inductive Inside (inner : Rule) : Rule → Prop where
  | self : Inside inner inner
  | member {head : RuleHead} {members : List Member} {actions : List Action} {rule : Rule}
      (among : Member.rule rule ∈ members) (inside : Inside inner rule) : Inside inner (.mk head (some members) actions)
  | row {head : RuleHead} {members : List Member} {actions : List Action} {row : List Rule} {rule : Rule}
      (among : Member.row row ∈ members) (within : rule ∈ row) (inside : Inside inner rule) :
      Inside inner (.mk head (some members) actions)

def Names (rule : Rule) (name : String) : Prop :=
  ∃ inner : Rule, inner.Inside rule ∧ inner.head.name = some name

/-- Nothing inside a rule is an action. -/
def IsIdle (rule : Rule) : Prop :=
  ∀ inner : Rule, inner.Inside rule → inner.actions = []

def HasStep (rule : Rule) (step : Transform.Step) : Prop :=
  ∃ inner : Rule, inner.Inside rule ∧ step ∈ inner.head.transforms

/-- Nothing else lies inside a rule without members. -/
theorem Inside.eq_of_simple {inner : Rule} {head : RuleHead} {actions : List Action}
    (inside : inner.Inside (.mk head none actions)) : inner = .mk head none actions := by
  cases inside
  rfl

theorem isIdle_simple (head : RuleHead) : IsIdle (.mk head none []) := by
  intro inner inside
  rw [inside.eq_of_simple]
  rfl

theorem isIdle_collection (head : RuleHead) {rules : List Rule} (each : ∀ rule ∈ rules, rule.IsIdle) :
    IsIdle (.mk head (some (rules.map Member.rule)) []) := by
  intro inner inside
  cases inside with
  | self => rfl
  | member among inside =>
    obtain ⟨_, member, same⟩ := List.mem_map.mp among
    cases same
    exact each _ member inner inside
  | row among =>
    obtain ⟨_, _, same⟩ := List.mem_map.mp among
    cases same

theorem names_simple_iff {head : RuleHead} {actions : List Action} {name : String} :
    Names (.mk head none actions) name ↔ head.name = some name := by
  constructor
  · rintro ⟨inner, inside, named⟩
    rw [inside.eq_of_simple] at named
    exact named
  · exact fun named => ⟨_, .self, named⟩

theorem hasStep_simple_iff {head : RuleHead} {actions : List Action} {step : Transform.Step} :
    HasStep (.mk head none actions) step ↔ step ∈ head.transforms := by
  constructor
  · rintro ⟨inner, inside, member⟩
    rw [inside.eq_of_simple] at member
    exact member
  · exact fun member => ⟨_, .self, member⟩

/-- What lies inside a rule with some of the members of another one is that rule, or it lies inside the other one. -/
theorem Inside.of_members {inner : Rule} {head : RuleHead} {members others : List Member} {actions : List Action}
    (fewer : ∀ member ∈ members, member ∈ others) (inside : inner.Inside (.mk head (some members) actions)) :
    inner = .mk head (some members) actions ∨ inner.Inside (.mk head (some others) actions) := by
  cases inside with
  | self => exact .inl rfl
  | member among inside => exact .inr (.member (fewer _ among) inside)
  | row among within inside => exact .inr (.row (fewer _ among) within inside)

theorem IsIdle.of_members {head : RuleHead} {members others : List Member}
    (fewer : ∀ member ∈ members, member ∈ others) (idle : IsIdle (.mk head (some others) [])) :
    IsIdle (.mk head (some members) []) := by
  intro inner inside
  rcases inside.of_members fewer with rfl | other
  · rfl
  · exact idle inner other

theorem HasStep.of_members {head : RuleHead} {members others : List Member} {actions : List Action}
    {step : Transform.Step} (fewer : ∀ member ∈ members, member ∈ others)
    (has : HasStep (.mk head (some members) actions) step) : HasStep (.mk head (some others) actions) step := by
  obtain ⟨inner, inside, member⟩ := has
  rcases inside.of_members fewer with rfl | other
  · exact ⟨_, .self, member⟩
  · exact ⟨inner, other, member⟩

/-- Nothing inside a member is an action if nothing inside the rule around it is. -/
theorem IsIdle.member {head : RuleHead} {members : List Member} {actions : List Action} {rule : Rule}
    (idle : IsIdle (.mk head (some members) actions)) (among : Member.rule rule ∈ members) : rule.IsIdle :=
  fun inner inside => idle inner (.member among inside)

theorem HasStep.member {head : RuleHead} {members : List Member} {actions : List Action} {rule : Rule}
    {step : Transform.Step} (has : rule.HasStep step) (among : Member.rule rule ∈ members) :
    HasStep (.mk head (some members) actions) step :=
  has.imp fun _ found => ⟨.member among found.1, found.2⟩

end Rule

end Harvest
