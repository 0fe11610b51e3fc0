import Harvest.Pattern.Program
import Harvest.Pattern.Property

/-!
Contract: searching a text for the match of a program.

`searchFrom?` finds the leftmost match that begins at or behind a place, and of
the matches there the preferred one. Alternatives are tried from a stack; a pair
of instruction and place that failed once is not tried again, so each pair costs
at most one step. Places count characters.
-/

namespace Harvest.Pattern

open Harvest.Text

/-- A match: where it begins and ends, and the same of each group that took part in it. -/
structure Match where
  start : Nat
  stop : Nat
  groups : List (Option (Nat × Nat))

def isWordAt (text : Array Char) (place : Nat) : Bool :=
  (text[place]?).any isWordChar

def isWordBefore (text : Array Char) (place : Nat) : Bool :=
  place > 0 && isWordAt text (place - 1)

def Look.holds (condition : Look) (text : Array Char) (place : Nat) : Bool :=
  let before := if place = 0 then none else text[place - 1]?
  let after := text[place]?
  match condition with
  | .textStart => place == 0
  | .textEnd => place ≥ text.size
  | .lineStart => before.isNone || before == some '\n'
  | .lineEnd => after.isNone || after == some '\n'
  | .lineStartAny =>
    before.isNone || before == some '\n' || (before == some '\r' && after != some '\n')
  | .lineEndAny =>
    after.isNone || after == some '\r' || (after == some '\n' && before != some '\r')
  | .wordBoundary => isWordBefore text place != isWordAt text place
  | .notWordBoundary => isWordBefore text place == isWordAt text place
  | .wordStart => !isWordBefore text place && isWordAt text place
  | .wordEnd => isWordBefore text place && !isWordAt text place
  | .wordStartHalf => !isWordBefore text place
  | .wordEndHalf => !isWordAt text place

/-- A way to go on: an instruction, a place, and the slots filled so far. -/
structure Thread where
  instruction : Nat
  place : Nat
  slots : List (Nat × Nat)

/-- Tries the threads in order until one reaches the end of the program. `tried` marks the pairs of
instruction and place that need no second try. -/
def runThreads (program : Program) (text : Array Char) :
    (fuel : Nat) → (tried : Array Bool) → List Thread → Option (List (Nat × Nat)) × Array Bool
  | 0, tried, _ => (none, tried)
  | _, tried, [] => (none, tried)
  | fuel + 1, tried, thread :: threads =>
    let pair := thread.instruction * (text.size + 1) + thread.place
    if tried.getD pair true then runThreads program text fuel tried threads
    else
      let tried := tried.set! pair true
      let go (instruction place : Nat) (slots : List (Nat × Nat)) :=
        runThreads program text fuel tried (⟨instruction, place, slots⟩ :: threads)
      match program[thread.instruction]? with
      | none => runThreads program text fuel tried threads
      | some .accept => (some thread.slots, tried)
      | some (.set ranges next) =>
        match text[thread.place]? with
        | some character =>
          if CodeRanges.holds ranges character.toNat then go next (thread.place + 1) thread.slots
          else runThreads program text fuel tried threads
        | none => runThreads program text fuel tried threads
      | some (.fork preferred other) =>
        runThreads program text fuel tried
          (⟨preferred, thread.place, thread.slots⟩ :: ⟨other, thread.place, thread.slots⟩ :: threads)
      | some (.save slot next) => go next thread.place ((slot, thread.place) :: thread.slots)
      | some (.look condition next) =>
        if condition.holds text thread.place then go next thread.place thread.slots
        else runThreads program text fuel tried threads
      | some (.goto next) => go next thread.place thread.slots

/-- The place in a slot: the one saved last. -/
def slotOf (slots : List (Nat × Nat)) (slot : Nat) : Option Nat :=
  slots.lookup slot

def groupOf (slots : List (Nat × Nat)) (index : Nat) : Option (Nat × Nat) := do
  let start ← slotOf slots (2 * index)
  let stop ← slotOf slots (2 * index + 1)
  return (start, stop)

/-- Tries to match at each place in turn. -/
def searchPlaces (begin : Nat) (program : Program) (text : Array Char) :
    (count place : Nat) → Array Bool → Option (List (Nat × Nat))
  | 0, _, _ => none
  | count + 1, place, tried =>
    let fuel := 2 * program.size * (text.size + 2) + 2
    match runThreads program text fuel tried [⟨begin, place, []⟩] with
    | (some slots, _) => some slots
    | (none, tried) => searchPlaces begin program text count (place + 1) tried

/-- The leftmost match that begins at `place` or behind it. -/
def searchFrom? (begin : Nat) (program : Program) (groupCount : Nat) (text : Array Char) (place : Nat) : Option Match :=
  let tried := Array.replicate (program.size * (text.size + 1)) false
  match searchPlaces begin program text (text.size + 1 - place) place tried with
  | none => none
  | some slots =>
    match groupOf slots 0 with
    | none => none
    | some (start, stop) =>
      some ⟨start, stop, (List.range groupCount).map fun index => groupOf slots (index + 1)⟩

end Harvest.Pattern
