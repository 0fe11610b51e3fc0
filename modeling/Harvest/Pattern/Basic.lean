import Harvest.Json.View
import Harvest.Pattern.Reader
import Harvest.Pattern.Search

/-!
Contract: patterns, their matches in a text, and their description as JSON.

A pattern is described by its text, or by its text and flags: `g` for all
matches, `i` for any letter case, `m` for lines, `s` for a dot that matches line
breaks; other flags mean nothing. `matchesIn` lists the matches from left to
right, each search beginning where the match before it ended; an empty match does
not count where the match before it ended.
-/

namespace Harvest

structure Pattern where
  source : String
  isGlobal : Bool
  groupCount : Nat
  names : List (String × Nat)
  program : Pattern.Program
  start : Nat

namespace Pattern

inductive Fault where
  | notText
  | unexpected (found : Json)
  | malformed (source : String)

def Fault.message : Fault → String
  | .notText => "pattern must be a string"
  | .unexpected found => "expected pattern or [pattern, flags], got " ++ found.compact
  | .malformed source => "malformed pattern " ++ source

def compile? (flags : Flags) (isGlobal : Bool) (source : String) : Option Pattern :=
  match readExpression? flags source.toList with
  | none => none
  | some (expression, names) =>
    let (start, program) := Program.ofExpression expression
    if program.size > Program.maxSize then none
    else
      some ⟨source, isGlobal, expression.lastGroup, names.filter fun entry => expression.hasGroup entry.2, program, start⟩

def ofText (source flags : String) : Except Fault Pattern :=
  let letters := flags.toList
  let settings : Flags :=
    { ignoreCase := letters.contains 'i', multiLine := letters.contains 'm', dotNewline := letters.contains 's' }
  match compile? settings (letters.contains 'g') source with
  | some pattern => .ok pattern
  | none => .error (.malformed source)

def ofJson : Json → Except Fault Pattern
  | .string source => ofText source ""
  | .array (.string source :: .string flags :: _) => ofText source flags
  | .array (.string source :: _) => ofText source ""
  | .array _ => .error .notText
  | other => .error (.unexpected other)

def searchAt? (pattern : Pattern) (text : Array Char) (place : Nat) : Option Match :=
  searchFrom? pattern.start pattern.program pattern.groupCount text place

def search? (pattern : Pattern) (text : List Char) : Option Match :=
  pattern.searchAt? text.toArray 0

def isIn (pattern : Pattern) (text : String) : Bool :=
  (pattern.search? text.toList).isSome

/-- The matches from a place on, where `ended` is the end of the match before. -/
def matchesFrom (pattern : Pattern) (text : Array Char) : (fuel place : Nat) → (ended : Option Nat) → List Match
  | 0, _, _ => []
  | fuel + 1, place, ended =>
    match pattern.searchAt? text place with
    | none => []
    | some found =>
      if found.start = found.stop ∧ ended = some found.stop then
        matchesFrom pattern text fuel (place + 1) ended
      else found :: matchesFrom pattern text fuel found.stop (some found.stop)

def matchesIn (pattern : Pattern) (text : List Char) : List Match :=
  pattern.matchesFrom text.toArray (2 * text.length + 3) 0 none

def between (text : List Char) (start stop : Nat) : List Char :=
  (text.drop start).take (stop - start)

/-- The text of a group of a match; group zero is the whole match. -/
def Match.group? (found : Match) (text : List Char) (index : Nat) : Option (List Char) :=
  if index = 0 then some (between text found.start found.stop)
  else ((found.groups[index - 1]?).bind id).map fun ends => between text ends.1 ends.2

def piecesBetween (text : List Char) : (place : Nat) → List Match → List (List Char)
  | place, [] => [text.drop place]
  | place, found :: rest => between text place found.start :: piecesBetween text found.stop rest

def split (pattern : Pattern) (text : List Char) : List (List Char) :=
  piecesBetween text 0 (pattern.matchesIn text)

def replaceMatches (expand : Match → List Char) (text : List Char) : (place : Nat) → List Match → List Char
  | place, [] => text.drop place
  | place, found :: rest =>
    between text place found.start ++ expand found ++ replaceMatches expand text found.stop rest

/-- The text with all matches replaced, or the first one if the pattern is not global. -/
def replace (pattern : Pattern) (expand : Match → List Char) (text : List Char) : List Char :=
  let found := pattern.matchesIn text
  replaceMatches expand text 0 (if pattern.isGlobal then found else found.take 1)

end Pattern

end Harvest
