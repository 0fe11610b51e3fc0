import Harvest.Run.Job

/-!
Contract: races between cases.

The first report of a success decides a race, whatever is reported afterwards. A race is
lost when all its cases have ended and none has reported a success; its failure is then the
one reported last.
-/

namespace Harvest

/-- A race: how many cases it began with, how many have not ended, and what has been reported, the earliest
first. A report is the result of a step that wins, or the outcome of a case. -/
structure Race where
  size : Nat
  running : Nat
  reports : List (Except Failure Json) := []

namespace Race

def start (size : Nat) : Race where
  size := size
  running := size

def report (race : Race) (outcome : Except Failure Json) : Race :=
  { race with reports := race.reports ++ [outcome] }

def leave (race : Race) : Race :=
  { race with running := race.running - 1 }

def winner? (race : Race) : Option Json :=
  race.reports.findSome? Except.toOption

def failure? : Except Failure Json → Option Failure
  | .ok _ => none
  | .error failure => some failure

/-- The failure of a race that is lost: the one reported last, if any case has reported. -/
def defeat (race : Race) : Failure :=
  .raceFailed race.size ((race.reports.reverse.findSome? failure?).getD (.page .abandonedRace))

def outcome? (race : Race) : Option (Except Failure Json) :=
  match race.winner? with
  | some value => some (.ok value)
  | none => if race.running = 0 then some (.error race.defeat) else none

end Race

end Harvest
