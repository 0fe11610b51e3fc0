import Harvest.Description.Config
import Harvest.Run.Action

/-!
Contract: the actions that stand inside rules and inside other actions.

An action stands inside itself, and inside each action and rule that would perform it on the way. The cases of an
action do not count: it is a race that performs them. Where no action inside starts a race, there are none to count.
-/

namespace Harvest

mutual

/-- An action is another one, or it stands at any depth among the actions, conditions, alternatives and rules of that. -/
inductive Action.Inside (inner : Action) : Action → Prop where
  | self : Action.Inside inner inner
  | action {head : ActionHead} {actions conditions : List Action} {otherwise : Option (List Action)}
      {cases : List (List Action)} {rules : Option Rule} {action : Action} (among : action ∈ actions)
      (inside : Action.Inside inner action) : Action.Inside inner (.mk head actions conditions otherwise cases rules)
  | condition {head : ActionHead} {actions conditions : List Action} {otherwise : Option (List Action)}
      {cases : List (List Action)} {rules : Option Rule} {action : Action} (among : action ∈ conditions)
      (inside : Action.Inside inner action) : Action.Inside inner (.mk head actions conditions otherwise cases rules)
  | alternative {head : ActionHead} {actions conditions others : List Action} {cases : List (List Action)}
      {rules : Option Rule} {action : Action} (among : action ∈ others) (inside : Action.Inside inner action) :
      Action.Inside inner (.mk head actions conditions (some others) cases rules)
  | rules {head : ActionHead} {actions conditions : List Action} {otherwise : Option (List Action)}
      {cases : List (List Action)} {rule : Rule} (performs : Rule.Performs inner rule) :
      Action.Inside inner (.mk head actions conditions otherwise cases (some rule))

/-- An action stands inside the actions of a rule, or inside those of a rule among its members and rows. -/
inductive Rule.Performs (inner : Action) : Rule → Prop where
  | own {head : RuleHead} {members : Option (List Member)} {actions : List Action} {action : Action}
      (among : action ∈ actions) (inside : Action.Inside inner action) : Rule.Performs inner (.mk head members actions)
  | member {head : RuleHead} {members : List Member} {actions : List Action} {rule : Rule}
      (among : Member.rule rule ∈ members) (performs : Rule.Performs inner rule) :
      Rule.Performs inner (.mk head (some members) actions)
  | row {head : RuleHead} {members : List Member} {actions : List Action} {row : List Rule} {rule : Rule}
      (among : Member.row row ∈ members) (within : rule ∈ row) (performs : Rule.Performs inner rule) :
      Rule.Performs inner (.mk head (some members) actions)

end

/-! ### Races -/

namespace Action

def cases : Action → List (List Action)
  | .mk _ _ _ _ cases _ => cases

/-- An action runs cases against each other, when it is performed. -/
def StartsRace (setup : Setup) (action : Action) : Prop :=
  setup.performers.find? action.head.kind = some (.builtIn .cases) ∧ action.cases ≠ []

/-- No action inside an action starts a race. -/
def IsCaseless (setup : Setup) (action : Action) : Prop :=
  ∀ inner : Action, inner.Inside action → ¬ inner.StartsRace setup

end Action

/-- No action inside a rule starts a race. -/
def Rule.IsCaseless (setup : Setup) (rule : Rule) : Prop :=
  ∀ inner : Action, Rule.Performs inner rule → ¬ inner.StartsRace setup

/-- No action of a parse starts a race, nor does any that its rules perform. -/
structure ParseConfig.IsCaseless (setup : Setup) (config : ParseConfig) : Prop where
  actions : ∀ action ∈ config.actions, action.IsCaseless setup
  rules : config.rules.IsCaseless setup

end Harvest
