import Harvest.Run.World

/-!
Contract: surroundings that answer from a list, whatever they are asked.

Each piece of work takes the next answer; the last answer repeats. An answer can take its
time.
-/

namespace Harvest

structure Cue where
  outcome : Except Failure Json
  delay : Nat := 0

/-- Answers to come, and the number of those that have been asked for. -/
structure Rehearsal where
  cues : List Cue
  count : Nat := 0

namespace Rehearsal

/-- The answer to come next, and those behind it. Without any answer it is null. -/
def next : List Cue → Cue × List Cue
  | [] => ({ outcome := .ok .null }, [])
  | [last] => (last, [last])
  | cue :: cues => (cue, cues)

def serve (rehearsal : Rehearsal) (_ : PageWork) : Service Rehearsal :=
  let (cue, cues) := next rehearsal.cues
  { state := ⟨cues, rehearsal.count + 1⟩, outcome := cue.outcome, delay := cue.delay }

end Rehearsal

end Harvest
