import Harvest.Description.Config

/-!
Contract: the identities of actions.

Each action of a description gets a number of its own, counted on from a given one; a
breaker is attached to every action whose parameters ask for it. Copies of an action keep
its number.
-/

namespace Harvest.Description

/-- How the parameters of an action ask for a breaker. -/
abbrev BreakerOf := Fields → Option Trip

def noBreaker : BreakerOf :=
  fun _ => none

/-- A breaker trips once the time under the name of the first parameter has passed, or after as many checks as
the second one says. -/
def breakerParams : BreakerOf := fun params =>
  match (Fields.find? "breakAfter" params).bind Json.nat?, (Fields.find? "breakChecks" params).bind Json.nat? with
  | some time, _ => some (.after time)
  | none, some count => some (.checks count)
  | none, none => none

def nextIdentity : StateM Nat Nat := do
  let identity ← get
  set (identity + 1)
  return identity

mutual

def identifyRule (breakerOf : BreakerOf) : Rule → StateM Nat Rule
  | .mk head members actions => do
    let members ← identifyMembersIn breakerOf members
    return .mk head members (← identifyActions breakerOf actions)

def identifyMembersIn (breakerOf : BreakerOf) : Option (List Member) → StateM Nat (Option (List Member))
  | none => return none
  | some members => do return some (← identifyMembers breakerOf members)

def identifyMembers (breakerOf : BreakerOf) : List Member → StateM Nat (List Member)
  | [] => return []
  | member :: members => do
    let member ← identifyMember breakerOf member
    return member :: (← identifyMembers breakerOf members)

def identifyMember (breakerOf : BreakerOf) : Member → StateM Nat Member
  | .rule rule => do return .rule (← identifyRule breakerOf rule)
  | .row rules => do return .row (← identifyRules breakerOf rules)

def identifyRules (breakerOf : BreakerOf) : List Rule → StateM Nat (List Rule)
  | [] => return []
  | rule :: rules => do
    let rule ← identifyRule breakerOf rule
    return rule :: (← identifyRules breakerOf rules)

def identifyAction (breakerOf : BreakerOf) : Action → StateM Nat Action
  | .mk head actions conditions otherwise cases rules => do
    let identity ← nextIdentity
    let actions ← identifyActions breakerOf actions
    let conditions ← identifyActions breakerOf conditions
    let otherwise ← identifyActionsIn breakerOf otherwise
    let cases ← identifyCases breakerOf cases
    let rules ← identifyRuleIn breakerOf rules
    return .mk { head with identity := identity, breaker := breakerOf head.params }
      actions conditions otherwise cases rules

def identifyRuleIn (breakerOf : BreakerOf) : Option Rule → StateM Nat (Option Rule)
  | none => return none
  | some rule => do return some (← identifyRule breakerOf rule)

def identifyActions (breakerOf : BreakerOf) : List Action → StateM Nat (List Action)
  | [] => return []
  | action :: actions => do
    let action ← identifyAction breakerOf action
    return action :: (← identifyActions breakerOf actions)

def identifyActionsIn (breakerOf : BreakerOf) : Option (List Action) → StateM Nat (Option (List Action))
  | none => return none
  | some actions => do return some (← identifyActions breakerOf actions)

def identifyCases (breakerOf : BreakerOf) : List (List Action) → StateM Nat (List (List Action))
  | [] => return []
  | actions :: cases => do
    let actions ← identifyActions breakerOf actions
    return actions :: (← identifyCases breakerOf cases)

end

def identifyConfig (breakerOf : BreakerOf) (config : ParseConfig) : StateM Nat ParseConfig := do
  let rules ← identifyRule breakerOf config.rules
  return { config with rules := rules, actions := ← identifyActions breakerOf config.actions }

end Harvest.Description
