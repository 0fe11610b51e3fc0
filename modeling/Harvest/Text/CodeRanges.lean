import Harvest.Text.Occurrence

/-!
Contract: sets of code points, as sorted lists of disjoint closed ranges.

`ofList` brings any ranges into that form, and the operations of set algebra keep
it. `read` decodes the written form of the property tables: hexadecimal ranges
with blanks between them.
-/

namespace Harvest.Text

abbrev CodeRanges := List (Nat × Nat)

namespace CodeRanges

def maxCode : Nat := 0x10FFFF

/-- Sorted ranges with those that touch or overlap made one. -/
def merge : CodeRanges → CodeRanges
  | [] => []
  | [range] => [range]
  | (low, high) :: (nextLow, nextHigh) :: rest =>
    if nextLow ≤ high + 1 then merge ((low, max high nextHigh) :: rest)
    else (low, high) :: merge ((nextLow, nextHigh) :: rest)
termination_by ranges => ranges.length

/-- The canonical form of ranges in any order; empty ones vanish. -/
def ofList (ranges : List (Nat × Nat)) : CodeRanges :=
  merge ((ranges.filter fun range => range.1 ≤ range.2).mergeSort fun left right => left.1 ≤ right.1)

def holds (ranges : CodeRanges) (code : Nat) : Bool :=
  ranges.any fun range => range.1 ≤ code && code ≤ range.2

/-- The gaps of sorted ranges from `start` on. -/
def gapsFrom (start : Nat) : CodeRanges → CodeRanges
  | [] => if start ≤ maxCode then [(start, maxCode)] else []
  | (low, high) :: rest =>
    if start < low then (start, low - 1) :: gapsFrom (high + 1) rest else gapsFrom (max start (high + 1)) rest

def complement (ranges : CodeRanges) : CodeRanges :=
  gapsFrom 0 ranges

def union (left right : CodeRanges) : CodeRanges :=
  ofList (left ++ right)

def inter (left right : CodeRanges) : CodeRanges :=
  ofList (left.flatMap fun one =>
    right.filterMap fun other =>
      let low := max one.1 other.1
      let high := min one.2 other.2
      if low ≤ high then some (low, high) else none)

def difference (left right : CodeRanges) : CodeRanges :=
  inter left (complement right)

/-- The code points in exactly one of the two. -/
def symmetricDifference (left right : CodeRanges) : CodeRanges :=
  union (difference left right) (difference right left)

def words (text : List Char) : List (List Char) :=
  (splitAt ' ' text).filter fun word => !word.isEmpty

/-- The value of upper-case hexadecimal digits. -/
def hexValue (digits : List Char) : Nat :=
  digits.foldl (fun value digit =>
    value * 16 + (if digit.toNat < 65 then digit.toNat - 48 else digit.toNat - 55)) 0

def read (table : String) : CodeRanges :=
  (words table.toList).map fun word =>
    match splitAt '-' word with
    | [single] => (hexValue single, hexValue single)
    | low :: high :: _ => (hexValue low, hexValue high)
    | [] => (1, 0)

end CodeRanges

end Harvest.Text
