import Harvest.Pattern.Expression

/-!
Contract: programs that carry out regular expressions.

A program is a table of instructions. Where an instruction forks, its first
target is preferred, so the first match found in that order is the match of the
expression. A star over something that may be empty is laid out as an optional
plus, which keeps the order of preference.
-/

namespace Harvest.Pattern

open Harvest.Text

inductive Instruction where
  | accept
  | set (ranges : CodeRanges) (next : Nat)
  | fork (preferred other : Nat)
  | save (slot next : Nat)
  | look (condition : Look) (next : Nat)
  | goto (next : Nat)

abbrev Program := Array Instruction

/-- A fork to a loop's body and to what follows it. -/
def forkTo (greedy : Bool) (body after : Nat) : Instruction :=
  if greedy then .fork body after else .fork after body

namespace Program

def maxSize : Nat := 300000

mutual

/-- Appends the instructions of an expression that goes on at `next`; the result is where it begins.
Instructions are laid out from the end of the expression to its beginning. -/
def layOut : Expression → (next : Nat) → Program → Nat × Program
  | .empty, next, program => (next, program)
  | .set ranges, next, program => (program.size, program.push (.set ranges next))
  | .look condition, next, program => (program.size, program.push (.look condition next))
  | .sequence first second, next, program =>
    let (middle, program) := layOut second next program
    layOut first middle program
  | .choice first second, next, program =>
    let (left, program) := layOut first next program
    let (right, program) := layOut second next program
    (program.size, program.push (.fork left right))
  | .group index inner, next, program =>
    let closing := program.size
    let (start, program) := layOut inner closing (program.push (.save (2 * index + 1) next))
    (program.size, program.push (.save (2 * index) start))
  | .repeated least most greedy inner, next, program =>
    match most with
    | some most =>
      if most = 0 then (next, program)
      else
        let (start, program) := layOutOptional inner greedy next (most - least) next program
        layOutTimes inner least start program
    | none =>
      if least = 0 then
        if inner.minLength > 0 then
          let loop := program.size
          let (start, program) := layOut inner loop (program.push (.goto next))
          (loop, program.set! loop (forkTo greedy start next))
        else
          let plus := program.size
          let (start, program) := layOut inner plus (program.push (.goto next))
          let program := program.set! plus (forkTo greedy start next)
          (program.size, program.push (forkTo greedy start next))
      else
        let plus := program.size
        let (start, program) := layOut inner plus (program.push (.goto next))
        let program := program.set! plus (forkTo greedy start next)
        layOutTimes inner (least - 1) start program

/-- An expression so many times in a row. -/
def layOutTimes (inner : Expression) : Nat → (next : Nat) → Program → Nat × Program
  | 0, next, program => (next, program)
  | times + 1, next, program =>
    if program.size > maxSize then (next, program)
    else
      let (start, program) := layOut inner next program
      layOutTimes inner times start program

/-- An expression up to so many times, each of them behind the one before; all leave to `exit`. -/
def layOutOptional (inner : Expression) (greedy : Bool) (exit : Nat) : Nat → (next : Nat) → Program → Nat × Program
  | 0, next, program => (next, program)
  | times + 1, next, program =>
    if program.size > maxSize then (next, program)
    else
      let (start, program) := layOut inner next program
      layOutOptional inner greedy exit times program.size (program.push (forkTo greedy start exit))

end

/-- The program of an expression, and where it begins. Slots `0` and `1` hold the ends of the whole
match. -/
def ofExpression (expression : Expression) : Nat × Program :=
  layOut (.group 0 expression) 0 #[.accept]

end Program

end Harvest.Pattern
