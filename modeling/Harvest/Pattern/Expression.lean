import Harvest.Text.CodeRanges

/-!
Contract: regular expressions, after their written form has been read.

Letter case, line and dot flags are already worked into the sets and the
conditions, so an expression has one meaning. Groups are numbered from one, by
their opening parentheses.
-/

namespace Harvest.Pattern

open Harvest.Text

inductive Look where
  | textStart
  | textEnd
  | lineStart
  | lineEnd
  | lineStartAny
  | lineEndAny
  | wordBoundary
  | notWordBoundary
  | wordStart
  | wordEnd
  | wordStartHalf
  | wordEndHalf
deriving DecidableEq

inductive Expression where
  | empty
  | set (ranges : CodeRanges)
  | look (condition : Look)
  | sequence (first second : Expression)
  | choice (first second : Expression)
  | repeated (least : Nat) (most : Option Nat) (greedy : Bool) (inner : Expression)
  | group (index : Nat) (inner : Expression)

namespace Expression

def ofSequence : List Expression → Expression
  | [] => .empty
  | [item] => item
  | item :: items => .sequence item (ofSequence items)

def ofChoice : List Expression → Expression
  | [] => .empty
  | [branch] => branch
  | branch :: branches => .choice branch (ofChoice branches)

/-- The least number of characters that a match takes. -/
def minLength : Expression → Nat
  | .empty => 0
  | .set _ => 1
  | .look _ => 0
  | .sequence first second => first.minLength + second.minLength
  | .choice first second => min first.minLength second.minLength
  | .repeated least _ _ inner => least * inner.minLength
  | .group _ inner => inner.minLength

/-- The greatest group number; the inside of what is repeated no times does not count. -/
def lastGroup : Expression → Nat
  | .empty => 0
  | .set _ => 0
  | .look _ => 0
  | .sequence first second => max first.lastGroup second.lastGroup
  | .choice first second => max first.lastGroup second.lastGroup
  | .repeated _ most _ inner => if most = some 0 then 0 else inner.lastGroup
  | .group index inner => max index inner.lastGroup

/-- Whether there is a group with this number; the inside of what is repeated no times does not count. -/
def hasGroup (index : Nat) : Expression → Bool
  | .empty => false
  | .set _ => false
  | .look _ => false
  | .sequence first second => first.hasGroup index || second.hasGroup index
  | .choice first second => first.hasGroup index || second.hasGroup index
  | .repeated _ most _ inner => most != some 0 && inner.hasGroup index
  | .group own inner => own == index || inner.hasGroup index

end Expression

end Harvest.Pattern
