import Harvest.Selector.Reader
import Harvest.Text.Offset

/-!
Contract: selectors with positional filters.

A selector may be cut by filters `:eq(n)`, each of which keeps the n-th of the elements
reached so far, in document order. The piece in front of the first filter searches the
whole document; each piece behind a filter goes on from the elements kept: behind white
space to the elements inside them, behind `>` to those directly inside, and glued to the
filter it tests the elements themselves.
-/

namespace Harvest.Selector

open Markup

def filterMark : List Char :=
  ":eq(".toList

/-- A positional filter of a text: the offsets at which it starts and stops, and its position. -/
@[ext]
structure FilterSpan where
  start : Nat
  stop : Nat
  position : Nat
deriving DecidableEq

/-- What looking for a filter comes to: there is none, there is one, or a mark has been passed that opens none. -/
inductive Look where
  | nowhere
  | found (filter : FilterSpan)
  | passed (offset : Nat)

/-- Reads the filter whose mark stands at an offset. Where no bracket closes it there is no filter further on either.
None if a cut would go through a character. -/
def readFilter? (text : List Char) (start : Nat) : Option Look := do
  let opened := start + Text.octets filterMark
  let inner ← Text.behind? opened text
  match Text.findOffset? [')'] inner with
  | none => return .nowhere
  | some length =>
    let closed := opened + length
    let inside ← Text.between? opened closed text
    match Decimal.readIndex? (Text.trimChars inside) with
    | some position => return .found ⟨start, closed + 1, position⟩
    | none => return .passed opened

def look? (text : List Char) (offset : Nat) : Option Look := do
  let ahead ← Text.behind? offset text
  match Text.findOffset? filterMark ahead with
  | none => return .nowhere
  | some distance => readFilter? text (offset + distance)

/-- What has been found or passed ends behind an offset. -/
def Look.EndsBehind (text : List Char) (offset : Nat) : Look → Prop
  | .nowhere => True
  | .found filter => offset < filter.stop
  | .passed further => offset < further ∧ further ≤ Text.octets text

theorem endsBehind_of_readFilter? {text : List Char} {start offset : Nat} (further : offset ≤ start) {look : Look}
    (read : readFilter? text start = some look) : look.EndsBehind text offset := by
  have width : Text.octets filterMark = 4 := by decide
  unfold readFilter? at read
  obtain ⟨inner, behind, read⟩ := Option.bind_eq_some_iff.mp read
  have bound := Text.le_octets_of_behind? behind
  split at read
  next =>
    cases read
    trivial
  next length _ =>
    obtain ⟨inside, _, read⟩ := Option.bind_eq_some_iff.mp read
    split at read
    next =>
      cases read
      show offset < start + Text.octets filterMark + length + 1
      omega
    next =>
      cases read
      exact ⟨by omega, bound⟩

theorem endsBehind_of_look? {text : List Char} {offset : Nat} {look : Look} (looked : look? text offset = some look) :
    look.EndsBehind text offset := by
  unfold look? at looked
  obtain ⟨ahead, _, looked⟩ := Option.bind_eq_some_iff.mp looked
  split at looked
  next =>
    cases looked
    trivial
  next distance _ => exact endsBehind_of_readFilter? (Nat.le_add_right offset distance) looked

/-- The leftmost positional filter of a text behind an offset, if there is any. What stands inside a mark that opens no
filter is looked at again. None if a cut would go through a character. -/
def findFilter? (text : List Char) (offset : Nat) : Option (Option FilterSpan) :=
  match looked : look? text offset with
  | none => none
  | some .nowhere => some none
  | some (.found filter) => some (some filter)
  | some (.passed further) =>
    have : offset < further ∧ further ≤ Text.octets text := endsBehind_of_look? looked
    findFilter? text further
termination_by Text.octets text - offset

/-- A text cut at its leftmost filter: what stands before it, the position, and what follows. -/
def cut? (text : List Char) : Option (List Char × Nat × List Char) := do
  let filter ← (findFilter? text 0).join
  let before ← Text.upTo? filter.start text
  let rest ← Text.behind? filter.stop text
  return (before, filter.position, rest)

theorem stop_pos_of_findFilter? {text : List Char} {offset : Nat} {filter : FilterSpan}
    (found : findFilter? text offset = some (some filter)) : 0 < filter.stop := by
  fun_induction findFilter? text offset with
  | case1 => exact nomatch found
  | case2 => exact nomatch found
  | case3 offset filter looked =>
    cases found
    exact Nat.zero_lt_of_lt (endsBehind_of_look? looked)
  | case4 offset further looked _ inductionHypothesis => exact inductionHypothesis found

/-- What follows a filter is shorter than the text that is cut at it. -/
theorem length_lt_of_cut? {text before rest : List Char} {position : Nat} (cut : cut? text = some (before, position, rest)) :
    rest.length < text.length := by
  obtain ⟨filter, found, cut⟩ := Option.bind_eq_some_iff.mp cut
  obtain ⟨front, _, cut⟩ := Option.bind_eq_some_iff.mp cut
  obtain ⟨back, behind, cut⟩ := Option.bind_eq_some_iff.mp cut
  cases cut
  exact Text.length_lt_of_behind? behind (stop_pos_of_findFilter? (Option.join_eq_some_iff.mp found))

/-- A piece of a selector, with the position that is kept behind it. -/
structure Piece where
  text : List Char
  position : Option Nat

/-- The pieces of a selector between its filters. A filter at the very end is followed by nothing. -/
def pieces (text : List Char) : List Piece :=
  match cut : cut? text with
  | none => [⟨text, none⟩]
  | some (before, position, rest) =>
    have : rest.length < text.length := length_lt_of_cut? cut
    ⟨before, some position⟩ :: (if rest.isEmpty then [] else pieces rest)
termination_by text.length

/-- The elements that remain of those reached when only one position is kept. -/
def keepAt (position : Option Nat) (reached : List Nat) : List Nat :=
  match position with
  | none => reached
  | some index => reached[index]?.toList

/-- The elements that a piece behind a filter leads to. None if it is no selector. -/
def narrow? (document : Document) (reached : List Nat) (piece : List Char) : Option (List Nat) :=
  match Text.trimChars piece with
  | [] => some reached
  | '>' :: inner =>
    (read? (Text.trimChars inner)).map fun selector =>
      reached.flatMap fun node => selector.matchedChildren document node
  | trimmed =>
    (read? trimmed).map fun selector =>
      if (piece.head?.map Text.isBlank).getD false then
        reached.flatMap fun node => selector.matchedInside document node
      else reached.filter fun node => selector.holds document none node

/-- The elements that pieces lead to from those reached. -/
def follow? (document : Document) : List Piece → List Nat → Option (List Nat)
  | [], reached => some reached
  | piece :: rest, reached =>
    (narrow? document reached piece.text).bind fun next => follow? document rest (keepAt piece.position next)

/-- The elements without those that stand further ahead in the list. -/
def distinct (nodes : List Nat) : List Nat :=
  (nodes.foldl (fun seen node => if seen.contains node then seen else node :: seen) []).reverse

/-- The elements that a selector with positional filters matches. None if it is no selector. -/
def select? (document : Document) (text : String) : Option (List Nat) :=
  match pieces text.toList with
  | [] => some []
  | first :: rest =>
    (read? (Text.trimChars first.text)).bind fun selector =>
      (follow? document rest (keepAt first.position (selector.matched document))).map distinct

end Harvest.Selector
