import Harvest.Rule.Scope
import Harvest.Run.Job

/-!
Contract: scripts that work on a stack of scopes.

The stack belongs to one evaluation. Frames are pushed on it and popped from it as the
evaluation goes down the rules and comes back. What is on it when a script fails stays on it, so
a script that pushes must also pop where what lies between fails.
-/

namespace Harvest

abbrev Scoped (α : Type) := ExceptT Failure (StateT ScopeStack Job) α

namespace Scoped

variable {α : Type}

def ofScript (script : Script α) : Scoped α :=
  ExceptT.mk (StateT.lift script.run)

/-- Ends at once with a value or a failure. -/
def settled (outcome : Except Failure α) : Scoped α :=
  ExceptT.mk (pure outcome)

/-- The outcome of a script, as the value of one that cannot fail. -/
def outcome (nested : Scoped α) : Scoped (Except Failure α) :=
  ExceptT.lift nested.run

def push (frame : ScopeFrame) : Scoped Unit :=
  ExceptT.lift (modify fun stack => frame :: stack)

def pop : Scoped Unit :=
  ExceptT.lift (modify List.tail)

def selector : Scoped String :=
  ExceptT.lift do return (← get).selector

def within (stack : ScopeStack) (nested : Scoped α) : Script α :=
  ExceptT.mk do
    let (outcome, _) ← nested.run.run stack
    return outcome

end Scoped

end Harvest
