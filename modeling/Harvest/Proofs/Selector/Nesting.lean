import Harvest.Proofs.Selector.Joint
import Harvest.Proofs.Selector.Selection
import Harvest.Proofs.Selector.Steady

/-!
Contract: where a selector leads that is put behind another.

The last piece of the outer selector and the first piece of the inner one become one piece, which searches where the outer one
searched. Each element that it finds is loose, or lies inside an element that the outer selector finds. A filter behind a
selector keeps one of the elements that it finds.
-/

namespace Harvest.Selector

open Markup

/-! ### Pieces at the joint -/

/-- A piece without a filter is the end of the text. -/
theorem suffix_of_pieces {text : List Char} {front : List Piece} {last : List Char}
    (shape : pieces text = front ++ [⟨last, none⟩]) : last <:+ text := by
  induction text using pieces_induction generalizing front with
  | whole text found =>
    rw [pieces_of_none found] at shape
    cases front with
    | nil =>
      cases shape
      exact List.suffix_refl _
    | cons first front => exact absurd (congrArg List.length shape) (by simp)
  | cut text before position rest found inductionHypothesis =>
    obtain ⟨digits, whole⟩ := eq_of_nextFilter? found
    have behind : rest <:+ text := ⟨before ++ filterMark ++ digits ++ [')'], by rw [whole]; simp⟩
    rw [pieces_of_some found] at shape
    cases front with
    | nil => exact nomatch (List.cons.inj shape).1
    | cons first front =>
      have later := (List.cons.inj shape).2
      split at later
      · exact absurd (congrArg List.length later) (by simp)
      · exact (inductionHypothesis later).trans behind

theorem prefix_of_pieces {text initial : List Char} {position : Option Nat} {behind : List Piece}
    (shape : pieces text = ⟨initial, position⟩ :: behind) : initial <+: text := by
  cases found : nextFilter? text with
  | none =>
    rw [pieces_of_none found] at shape
    cases shape
    exact List.prefix_refl _
  | some filter =>
    obtain ⟨before, index, rest⟩ := filter
    obtain ⟨digits, whole⟩ := eq_of_nextFilter? found
    rw [pieces_of_some found] at shape
    cases shape
    exact ⟨filterMark ++ digits ++ ')' :: rest, by rw [whole]; simp⟩

theorem read?_nil : read? [] = none := by
  unfold read?
  rw [readOptions?, readCompound?_nil]
  rfl

/-- The first piece of a selector begins as a compound does. -/
theorem starts_of_pieces {first : Char} {rest initial : List Char} (visible : Text.isBlank first = false)
    {position : Option Nat} {behind : List Piece} (shape : pieces (first :: rest) = ⟨initial, position⟩ :: behind)
    {selector : Selector} (read : read? (Text.trimChars initial) = some selector) :
    (∃ others, initial = first :: others) ∧ startsCompound first = true := by
  obtain ⟨further, whole⟩ := prefix_of_pieces shape
  cases initial with
  | nil => exact nomatch read?_nil.symm.trans read
  | cons begin_ others =>
    obtain ⟨rfl, _⟩ := List.cons.inj whole
    refine ⟨⟨others, rfl⟩, ?_⟩
    obtain ⟨after, trimmed, _, _⟩ := Text.exists_trimmed_behind visible others
    cases core : Text.trimChars (begin_ :: others) with
    | nil =>
      rw [core, read?_nil] at read
      exact nomatch read
    | cons same inner =>
      rw [core] at trimmed read
      rw [(List.cons.inj trimmed).1]
      exact startsCompound_of_read? read

/-- No compound begins with a digit. -/
theorem startsCompound_of_isDigit {first : Char} (digit : Decimal.isDigit first = true) : startsCompound first = false := by
  simp only [Decimal.isDigit, Bool.and_eq_true, decide_eq_true_eq, Char.le_def, UInt32.le_iff_toNat_le] at digit
  have low : 48 ≤ first.toNat := digit.1
  have high : first.toNat < 58 := Nat.lt_succ_of_le digit.2
  have each : ∀ code < 58, 48 ≤ code → startsCompound (Char.ofNat code) = false := by decide
  rw [← Char.ofNat_toNat first]
  exact each first.toNat high low

/-- What a compound begins with does not go on with a position. -/
theorem apart_of_startsCompound {first : Char} (starts : startsCompound first = true) (visible : Text.isBlank first = false)
    (others : List Char) : Apart (' ' :: first :: others) := by
  refine apart_blank ?_ others
  have notDigit : Decimal.isDigit first = false := by
    cases digit : Decimal.isDigit first with
    | false => rfl
    | true => exact absurd starts (by rw [startsCompound_of_isDigit digit]; exact Bool.false_ne_true)
  have notMark : ∀ mark, startsCompound mark = false → first ≠ mark := fun mark other same =>
    Bool.false_ne_true (other.symm.trans (same ▸ starts))
  simp only [isInPosition, visible, notDigit, Bool.or_eq_false_iff, beq_eq_false_iff_ne]
  exact ⟨⟨⟨trivial, trivial⟩, notMark '+' (by decide)⟩, notMark ')' (by decide)⟩

/-- Behind a text without filters, a selector goes on with its first piece. -/
theorem pieces_joint {front text : List Char} (unfiltered : nextFilter? front = none) {first : Char} {others : List Char}
    (shape : text = first :: others) (starts : startsCompound first = true) (visible : Text.isBlank first = false) :
    ∃ initial position behind, pieces text = ⟨initial, position⟩ :: behind ∧
      pieces (front ++ ' ' :: text) = ⟨front ++ ' ' :: initial, position⟩ :: behind := by
  subst shape
  have joined := nextFilter?_append_of_none (apart_of_startsCompound starts visible others) unfiltered
  rw [nextFilter?_cons_of_none (filterHere?_blank (by decide) _), Option.map_map] at joined
  cases found : nextFilter? (first :: others) with
  | none =>
    rw [found] at joined
    exact ⟨_, none, [], pieces_of_none found, pieces_of_none joined⟩
  | some filter =>
    obtain ⟨before, position, rest⟩ := filter
    rw [found] at joined
    exact ⟨before, some position, _, pieces_of_some found, pieces_of_some joined⟩

/-! ### Where a piece searches -/

/-- Where a piece of a selector looks for elements: its own selector, the elements it looks through, and the
one that its search begins at. -/
structure Search where
  text : List Char
  places : List Nat
  scope : Option Nat

namespace Search

/-- The elements of a search that one of the alternatives holds of. -/
def selected (search : Search) (document : Document) (options : List Complex) : List Nat :=
  search.places.filter fun node => anyOption document search.scope node options

/-- The search of a first piece: the whole document. -/
def whole (document : Document) (piece : List Char) : Search :=
  ⟨Text.trimChars piece, document.elements, none⟩

/-- The search of a piece behind a filter that has left some elements. -/
def behind (document : Document) (reached : List Nat) (piece : List Char) : Search :=
  match Text.trimChars piece with
  | '>' :: inner => ⟨Text.trimChars inner, reached.flatMap document.childElements, none⟩
  | trimmed =>
    if (piece.head?.map Text.isBlank).getD false then
      ⟨trimmed, reached.flatMap fun node => (document.descendants node).filter document.isElement, reached.head?⟩
    else ⟨trimmed, reached, none⟩

variable {document : Document} {reached : List Nat} {piece : List Char}

theorem behind_child {inner : List Char} (shape : Text.trimChars piece = '>' :: inner) :
    behind document reached piece = ⟨Text.trimChars inner, reached.flatMap document.childElements, none⟩ := by
  unfold behind
  rw [shape]
  rfl

theorem behind_other {first : Char} {others : List Char} (shape : Text.trimChars piece = first :: others)
    (other : first ≠ '>') :
    behind document reached piece =
      if (piece.head?.map Text.isBlank).getD false then
        ⟨first :: others, reached.flatMap fun node => (document.descendants node).filter document.isElement, reached.head?⟩
      else ⟨first :: others, reached, none⟩ := by
  unfold behind
  rw [shape]
  split
  · rename_i same
    exact absurd (List.cons.inj same).1 other
  · rfl

end Search

theorem narrow?_child {document : Document} {reached : List Nat} {piece inner : List Char}
    (shape : Text.trimChars piece = '>' :: inner) :
    narrow? document reached piece = (read? (Text.trimChars inner)).map fun selector =>
      reached.flatMap fun node => selector.matchedChildren document node := by
  unfold narrow?
  rw [shape]
  rfl

theorem narrow?_other {document : Document} {reached : List Nat} {piece others : List Char} {first : Char}
    (shape : Text.trimChars piece = first :: others) (other : first ≠ '>') :
    narrow? document reached piece = (read? (first :: others)).map fun selector =>
      if (piece.head?.map Text.isBlank).getD false then
        reached.flatMap fun node => selector.matchedInside document node
      else reached.filter fun node => selector.holds document none node := by
  unfold narrow?
  rw [shape]
  split
  · rename_i none_
    exact nomatch none_
  · rename_i same
    exact absurd (List.cons.inj same).1 other
  · rfl

/-- What a piece behind a filter leads to is what its search selects. -/
theorem narrow?_eq {document : Document} {reached : List Nat} (single : reached.length ≤ 1) {piece : List Char}
    (visible : Text.trimChars piece ≠ []) :
    narrow? document reached piece =
      (read? (Search.behind document reached piece).text).map fun selector =>
        (Search.behind document reached piece).selected document selector.options := by
  obtain ⟨first, others, shape⟩ := List.exists_cons_of_ne_nil visible
  by_cases child : first = '>'
  · subst child
    rw [narrow?_child shape, Search.behind_child shape]
    simp only [Search.selected, List.filter_flatMap]
    rfl
  · rw [narrow?_other shape child, Search.behind_other shape child]
    split
    · match reached, single with
      | [], _ => rfl
      | [node], _ =>
        simp only [List.flatMap_cons, List.flatMap_nil, List.append_nil]
        rfl
    · rfl

/-! ### Searches at the joint -/

section

variable {front rest : List Char} {last first : Char} (ends : Text.isBlank last = false) (starts : Text.isBlank first = false)

include ends starts

theorem Search.whole_joint (document : Document) :
    Search.whole document (front ++ [last] ++ ' ' :: first :: rest) =
      { Search.whole document (front ++ [last]) with
        text := (Search.whole document (front ++ [last])).text ++ ' ' :: Text.trimChars (first :: rest) } := by
  unfold Search.whole
  rw [← List.singleton_append (x := ' '), ← List.append_assoc, Text.trimChars_joint ends starts _ [' ']]
  simp

/-- A piece that goes on searches in the same places. -/
theorem Search.behind_joint (document : Document) (reached : List Nat)
    (some_text : (Search.behind document reached (front ++ [last])).text ≠ []) :
    Search.behind document reached (front ++ [last] ++ ' ' :: first :: rest) =
      { Search.behind document reached (front ++ [last]) with
        text := (Search.behind document reached (front ++ [last])).text ++ ' ' :: Text.trimChars (first :: rest) } := by
  have whole : Text.trimChars (front ++ [last] ++ ' ' :: first :: rest) =
      Text.trimChars (front ++ [last]) ++ ' ' :: Text.trimChars (first :: rest) := by
    rw [← List.singleton_append (x := ' '), ← List.append_assoc, Text.trimChars_joint ends starts _ [' ']]
    simp
  obtain ⟨before, shape, trimmed, _⟩ := Text.exists_trimmed_front ends front
  obtain ⟨initial, others, same⟩ := List.exists_cons_of_ne_nil trimmed.ne_nil
  rw [same, List.cons_append] at whole
  by_cases child : initial = '>'
  · subst child
    rw [Search.behind_child same] at some_text ⊢
    rw [Search.behind_child whole]
    obtain ⟨inner, final, concat, visible⟩ : ∃ inner final, others = inner ++ [final] ∧ Text.isBlank final = false := by
      obtain ⟨inner, final, concat, visible⟩ := trimmed.ends
      rw [same] at concat
      cases inner with
      | nil =>
        cases concat
        exact absurd rfl some_text
      | cons mark inner => exact ⟨inner, final, (List.cons.inj concat).2, visible⟩
    obtain ⟨_, _, trimmedBehind, _⟩ := Text.exists_trimmed_behind starts rest
    obtain ⟨next, further, shapeBehind, seen⟩ := trimmedBehind.starts
    have joint := Text.trimChars_joint visible seen inner [' '] further
    rw [← shapeBehind, Text.trimChars_trimChars, ← concat, List.append_assoc, List.append_assoc] at joint
    exact congrArg (Search.mk · _ _) joint
  · have head : (front ++ [last] ++ ' ' :: first :: rest).head? = (front ++ [last]).head? := by
      cases front <;> rfl
    rw [Search.behind_other same child, Search.behind_other whole child, head]
    split <;> rfl

end

/-! ### The search of the last piece -/

/-- The search of a piece behind others; none if one of those is no selector. -/
def searchBehind? (document : Document) (front : List Piece) (last : List Char) : Option Search :=
  match front with
  | [] => some (.whole document last)
  | first :: others => (reach? document (first :: others)).map fun reached => .behind document reached last

/-- The search of the last piece of a selector; none if the selector ends with a filter. -/
def openSearch? (document : Document) (text : List Char) : Option Search :=
  match (pieces text).getLast? with
  | some ⟨last, none⟩ => searchBehind? document (pieces text).dropLast last
  | _ => none

theorem searchBehind?_cons (document : Document) (first : Piece) (front : List Piece) (last : List Char) :
    searchBehind? document (first :: front) last =
      (reach? document (first :: front)).map fun reached => .behind document reached last :=
  rfl

theorem openSearch?_of_pieces {document : Document} {text last : List Char} {front : List Piece}
    (shape : pieces text = front ++ [⟨last, none⟩]) : openSearch? document text = searchBehind? document front last := by
  unfold openSearch?
  rw [shape, List.getLast?_concat, List.dropLast_concat]

/-- Pieces lead to what the search of one of them selects, and on from there. -/
theorem reach?_search {document : Document} {front : List Piece} (positioned : ∀ piece ∈ front, piece.position.isSome)
    {last : List Char} (visible : Text.trimChars last ≠ []) (position : Option Nat) (others : List Piece) :
    reach? document (front ++ ⟨last, position⟩ :: others) =
      (searchBehind? document front last).bind fun search => (read? search.text).bind fun selector =>
        follow? document others (keepAt position (search.selected document selector.options)) := by
  cases front with
  | nil => rfl
  | cons first front =>
    rw [reach?_append (List.cons_ne_nil first front), searchBehind?_cons]
    cases reaches : reach? document (first :: front) with
    | none => rfl
    | some reached =>
      have single := length_reach?_le (List.cons_ne_nil first front) positioned reaches
      simp only [Option.map_some, Option.bind_some, follow?, narrow?_eq single visible, Option.bind_map]
      rfl

theorem searchBehind?_joint {document : Document} {front : List Piece} {piece rest : List Char} {last first : Char}
    (ends : Text.isBlank last = false) (starts : Text.isBlank first = false) {search : Search}
    (found : searchBehind? document front (piece ++ [last]) = some search) (some_text : search.text ≠ []) :
    searchBehind? document front (piece ++ [last] ++ ' ' :: first :: rest) =
      some { search with text := search.text ++ ' ' :: Text.trimChars (first :: rest) } := by
  cases front with
  | nil =>
    cases found
    exact congrArg some (Search.whole_joint ends starts document)
  | cons initial others =>
    rw [searchBehind?_cons] at found ⊢
    obtain ⟨reached, reaches, rfl⟩ := Option.map_eq_some_iff.mp found
    rw [reaches]
    exact congrArg some (Search.behind_joint ends starts document reached some_text)

/-! ### Loose elements -/

def alternatives (text : List Char) : List Complex :=
  ((read? text).map Selector.options).getD []

def firstAlternatives (text : List Char) : List Complex :=
  match pieces text with
  | [] => []
  | first :: _ => alternatives (Text.trimChars first.text)

/-- An element that the joint may find although it lies inside nothing that the outer selector finds. `outer` are the
alternatives of the outer selector's last piece and `inner` those of the inner selector's first piece. -/
inductive Loose (document : Document) (search : Search) (outer inner : List Complex) (element : Nat) : Prop
  /-- The outer selector takes in the blank behind it. -/
  | taken (takes : ¬ ClosedAs search.text outer)
  /-- A comma in the outer selector: all its alternatives but the last are left alone. -/
  | outer (stray : Complex) (member : stray ∈ outer.dropLast) (met : stray.holds document search.scope element = true)
  /-- A comma in the inner selector: all its alternatives but the first search on their own. -/
  | inner (stray : Complex) (member : stray ∈ inner.tail) (met : stray.holds document search.scope element = true)
  /-- The last alternative of the outer selector is met further out, outside of what a filter has kept. -/
  | above (last : Complex) (is_last : outer.getLast? = some last) (outside : Nat) (beyond : outside ∉ search.places)
      (inside : document.isInside element outside = true) (met : last.holds document search.scope outside = true)

/-- What pieces lead to is what was reached before them, or lies inside it. -/
theorem mem_follow? {document : Document} {others : List Piece} {reached nodes : List Nat}
    (followed : follow? document others reached = some nodes) {node : Nat} (member : node ∈ nodes) :
    ∃ source ∈ reached, node = source ∨ document.isInside node source = true := by
  induction others generalizing reached with
  | nil =>
    cases followed
    exact ⟨node, member, .inl rfl⟩
  | cons piece others inductionHypothesis =>
    obtain ⟨next, narrowed, later⟩ := Option.bind_eq_some_iff.mp followed
    obtain ⟨middle, kept, below⟩ := inductionHypothesis later
    rcases mem_narrow? narrowed (keepAt_subset piece.position next kept) with here | ⟨source, reachedSource, inside⟩
    · exact ⟨middle, here, below⟩
    · refine ⟨source, reachedSource, .inr ?_⟩
      rcases below with rfl | deeper
      · exact inside
      · exact Document.isInside_trans deeper inside

theorem mem_selected {document : Document} {search : Search} {options : List Complex} {node : Nat} :
    node ∈ search.selected document options ↔
      node ∈ search.places ∧ ∃ option ∈ options, option.holds document search.scope node = true := by
  unfold Search.selected
  rw [List.mem_filter, anyOption_iff]

/-- Selectors hold of elements only. -/
theorem mem_elements_of_holds {document : Document} {scope : Option Nat} {option : Complex} {node : Nat}
    (holds : option.holds document scope node = true) : node ∈ document.elements := by
  rw [Document.mem_elements]
  cases option with
  | compound tests =>
    rw [Complex.holds, Bool.and_eq_true] at holds
    exact holds.1
  | related left combinator tests =>
    rw [Complex.holds, Bool.and_eq_true, Bool.and_eq_true] at holds
    exact holds.1.1

/-- An element that a joined selector finds is loose, or lies inside one that the outer selector finds. -/
theorem inside_or_loose_of_joint {document : Document} {search : Search} {outer joined own : Selector} {text : List Char}
    (readOwn : read? text = some own)
    (readJoined : read? (search.text ++ ' ' :: text) = some joined) {element : Nat}
    (found : element ∈ search.selected document joined.options) :
    (∃ above ∈ search.selected document outer.options, document.isInside element above = true) ∨
      Loose document search outer.options own.options element := by
  by_cases closed : ClosedAs search.text outer.options
  · obtain ⟨before, last, first, others, outerShape, innerShape, joint⟩ := read?_joint closed readOwn
    rw [readJoined] at joint
    obtain ⟨_, option, member, met⟩ := mem_selected.mp found
    rw [Option.some.inj joint] at member
    rcases List.mem_append.mp member with front | back
    · exact .inr (.outer option (by rw [outerShape, List.dropLast_concat]; exact front) met)
    · rcases List.mem_cons.mp back with rfl | further
      · obtain ⟨above, inside, meets⟩ := holds_graft met
        by_cases place : above ∈ search.places
        · exact .inl ⟨above, mem_selected.mpr ⟨place, last, by rw [outerShape]; simp, meets⟩, inside⟩
        · exact .inr (.above last (by rw [outerShape, List.getLast?_concat]) above place inside meets)
      · exact .inr (.inner option (by rw [innerShape]; exact further) met)
  · exact .inr (.taken closed)

/-! ### Nested selectors -/

theorem alternatives_of_read {text : List Char} {selector : Selector} (read : read? text = some selector) :
    alternatives text = selector.options := by
  unfold alternatives
  rw [read]
  rfl

theorem firstAlternatives_of_pieces {text initial : List Char} {position : Option Nat} {behind : List Piece}
    (cut : pieces text = ⟨initial, position⟩ :: behind) {selector : Selector}
    (read : read? (Text.trimChars initial) = some selector) : firstAlternatives text = selector.options := by
  unfold firstAlternatives
  rw [cut]
  exact alternatives_of_read read

/-- The first piece of a selector is itself a selector. -/
theorem exists_first_piece {document : Document} {text : List Char} {own : List Nat}
    (reaches : reach? document (pieces text) = some own) (some_text : text ≠ []) :
    ∃ initial position behind selector, pieces text = ⟨initial, position⟩ :: behind ∧
      read? (Text.trimChars initial) = some selector := by
  cases cut : pieces text with
  | nil =>
    obtain ⟨front, last, _, cases_⟩ := pieces_append some_text (List.cons_ne_nil ' ' [])
    rcases cases_ with ⟨shape, _⟩ | ⟨_, shape, _⟩
    · exact absurd (cut.symm.trans shape).symm (List.append_ne_nil_of_right_ne_nil _ (List.cons_ne_nil _ _))
    · exact absurd (cut.symm.trans shape).symm (List.append_ne_nil_of_right_ne_nil _ (List.cons_ne_nil _ _))
  | cons piece behind =>
    rw [cut] at reaches
    obtain ⟨selector, read, _⟩ := Option.bind_eq_some_iff.mp reaches
    exact ⟨piece.text, piece.position, behind, selector, rfl, read⟩

section

variable {document : Document} {outer inner : List Char} {enclosing own nodes : List Nat}
  (outerReaches : reach? document (pieces outer) = some enclosing)
  (ownReaches : reach? document (pieces inner) = some own)
  (reaches : reach? document (pieces (outer ++ ' ' :: inner)) = some nodes)
  (outerTrimmed : Text.Trimmed outer) (innerTrimmed : Text.Trimmed inner)

include outerReaches ownReaches reaches innerTrimmed

/-- Behind a filter, a selector leads inside the element that is kept. -/
theorem inside_of_filter {front : List Piece} {last : List Char} {index : Nat}
    (cut : pieces outer = front ++ [⟨last, some index⟩])
    (joined : pieces (outer ++ ' ' :: inner) = front ++ ⟨last, some index⟩ :: pieces (' ' :: inner)) :
    ∀ node ∈ nodes, ∃ above ∈ enclosing, document.isInside node above = true := by
  intro node member
  obtain ⟨first, rest, rfl, visible⟩ := innerTrimmed.starts
  obtain ⟨initial, position, behind, selector, innerCut, read⟩ := exists_first_piece ownReaches (List.cons_ne_nil _ _)
  obtain ⟨⟨others, rfl⟩, starts⟩ := starts_of_pieces visible innerCut read
  obtain ⟨_, _, _, same, blankCut⟩ := pieces_joint (show nextFilter? [] = none from rfl) rfl starts visible
  rw [innerCut] at same
  cases same
  have whole : front ++ ⟨last, some index⟩ :: pieces (' ' :: first :: rest) =
      pieces outer ++ ⟨' ' :: first :: others, position⟩ :: behind := by
    rw [cut, show pieces (' ' :: first :: rest) = _ from blankCut]
    simp
  rw [joined, whole, reach?_append (by rw [cut]; simp), outerReaches, Option.bind_some] at reaches
  obtain ⟨next, narrowed, followed⟩ := Option.bind_eq_some_iff.mp reaches
  obtain ⟨after, shape, trimmed, blank⟩ := Text.exists_trimmed_behind visible others
  have notChild : (Text.trimChars (first :: others)).head? ≠ some '>' := by
    intro child
    obtain ⟨inside, same⟩ := List.head?_eq_some_iff.mp child
    rw [same] at read
    exact absurd (startsCompound_of_read? read) (by decide)
  have inside : narrow? document enclosing (' ' :: first :: others) =
      some (enclosing.flatMap (selector.matchedInside document)) := by
    rw [shape, ← List.cons_append, narrow?_append (List.cons_ne_nil _ _) blank, narrow?_inside trimmed notChild read]
  rw [inside] at narrowed
  obtain ⟨source, kept, below⟩ := mem_follow? followed member
  have found := keepAt_subset position next kept
  cases narrowed
  obtain ⟨above, aboveMember, matched⟩ := List.mem_flatMap.mp found
  have deeper := Document.mem_descendants.mp (List.mem_filter.mp (List.mem_filter.mp matched).1).1
  refine ⟨above, aboveMember, ?_⟩
  rcases below with rfl | lower
  · exact deeper
  · exact Document.isInside_trans lower deeper

include outerTrimmed

/-- Without a filter at the joint, a selector leads to loose elements, to what lies inside them, or inside what
the outer selector finds. -/
theorem inside_or_loose_of_open {front : List Piece} {last : List Char} (positioned : ∀ piece ∈ front, piece.position.isSome)
    (some_last : last ≠ []) (unfiltered : nextFilter? last = none) (cut : pieces outer = front ++ [⟨last, none⟩])
    (joined : pieces (outer ++ ' ' :: inner) = front ++ pieces (last ++ ' ' :: inner)) :
    ∃ search, openSearch? document outer = some search ∧ ∀ node ∈ nodes,
      (∃ above ∈ enclosing, document.isInside node above = true) ∨
        ∃ element ∈ search.places,
          Loose document search (alternatives search.text) (firstAlternatives inner) element ∧
            (node = element ∨ document.isInside node element = true) := by
  obtain ⟨piece, final, rfl, ends⟩ : ∃ piece final, last = piece ++ [final] ∧ Text.isBlank final = false := by
    obtain ⟨before, final, shape, visible⟩ := outerTrimmed.ends
    obtain ⟨start, suffix⟩ := suffix_of_pieces cut
    obtain ⟨piece, other, rfl⟩ := (List.eq_nil_or_concat last).resolve_left some_last
    rw [List.concat_eq_append, ← List.append_assoc, shape] at suffix
    have same : other = final := (List.cons.inj (List.append_inj_right' suffix rfl)).1
    exact ⟨piece, other, List.concat_eq_append, same ▸ visible⟩
  obtain ⟨_, _, trimmedLast, _⟩ := Text.exists_trimmed_front ends piece
  rw [cut, reach?_search positioned trimmedLast.ne_nil] at outerReaches
  obtain ⟨search, found, outerRead⟩ := Option.bind_eq_some_iff.mp outerReaches
  obtain ⟨outerSelector, readOuter, kept⟩ := Option.bind_eq_some_iff.mp outerRead
  cases kept
  have some_text : search.text ≠ [] := by
    intro none_
    rw [none_, read?_nil] at readOuter
    exact nomatch readOuter
  refine ⟨search, (openSearch?_of_pieces cut).trans found, fun node member => ?_⟩
  obtain ⟨first, rest, rfl, visible⟩ := innerTrimmed.starts
  obtain ⟨initial, position, behind, selector, innerCut, read⟩ := exists_first_piece ownReaches (List.cons_ne_nil _ _)
  obtain ⟨⟨others, rfl⟩, starts⟩ := starts_of_pieces visible innerCut read
  obtain ⟨_, _, _, same, jointCut⟩ := pieces_joint unfiltered rfl starts visible
  rw [innerCut] at same
  cases same
  have jointVisible : Text.trimChars (piece ++ [final] ++ ' ' :: first :: others) ≠ [] := by
    rw [← List.singleton_append (x := ' '), ← List.append_assoc, Text.trimChars_joint ends visible _ [' ']]
    exact List.append_ne_nil_of_left_ne_nil (List.append_ne_nil_of_left_ne_nil trimmedLast.ne_nil _) _
  rw [joined, jointCut, reach?_search positioned jointVisible, searchBehind?_joint ends visible found some_text,
    Option.bind_some] at reaches
  obtain ⟨joinedSelector, readJoined, followed⟩ := Option.bind_eq_some_iff.mp reaches
  obtain ⟨source, kept, below⟩ := mem_follow? followed member
  have selected : source ∈ search.selected document joinedSelector.options := keepAt_subset position _ kept
  rw [alternatives_of_read readOuter, firstAlternatives_of_pieces innerCut read]
  rcases inside_or_loose_of_joint read readJoined selected with ⟨above, aboveMember, inside⟩ | loose
  · refine .inl ⟨above, aboveMember, ?_⟩
    rcases below with rfl | deeper
    · exact inside
    · exact Document.isInside_trans deeper inside
  · exact .inr ⟨source, (mem_selected.mp selected).1, loose, below⟩

/-- What a nested selector leads to is loose, or lies inside something loose, or inside what the outer selector finds. -/
theorem inside_or_loose : ∀ node ∈ nodes,
    (∃ above ∈ enclosing, document.isInside node above = true) ∨
      ∃ search, openSearch? document outer = some search ∧ ∃ element ∈ search.places,
        Loose document search (alternatives search.text) (firstAlternatives inner) element ∧
          (node = element ∨ document.isInside node element = true) := by
  intro node member
  obtain ⟨front, last, positioned, cases_⟩ := pieces_append outerTrimmed.ne_nil (List.cons_ne_nil ' ' inner)
  rcases cases_ with ⟨cut, some_last, unfiltered, joined⟩ | ⟨index, cut, joined⟩
  · obtain ⟨search, found, each⟩ := inside_or_loose_of_open outerReaches ownReaches reaches outerTrimmed innerTrimmed
      positioned some_last unfiltered cut joined
    rcases each node member with inside | loose
    · exact .inl inside
    · exact .inr ⟨search, found, loose⟩
  · exact .inl (inside_of_filter outerReaches ownReaches reaches innerTrimmed cut joined node member)

end

/-! ### A filter behind a selector -/

/-- A filter behind any text keeps one of the elements that the text selects; it makes no selector of a text that is none,
and takes none of a text that is one. -/
theorem position_keeps_one (document : Document) (text : String) {index : Nat} (bound : index ≤ Decimal.maxIndex) :
    select? document (text ++ ":eq(" ++ toString index ++ ")") =
      (select? document text).map fun nodes => nodes[index]?.toList := by
  have written : (text ++ ":eq(" ++ toString index ++ ")").toList = text.toList ++ ([] ++ (filterText index ++ [])) := by
    simp [filterText, filterMark, Decimal.digitsOf]
  have some_whole : (text ++ ":eq(" ++ toString index ++ ")").toList ≠ [] := by
    rw [written]
    simp [filterText, filterMark]
  rw [select?_of_reach? some_whole, written]
  by_cases empty : text.toList = []
  · -- an empty text is no selector, and neither is one that begins with a filter
    have alone : pieces ([] ++ (filterText index ++ [])) = [⟨[], some index⟩] :=
      pieces_of_some (nextFilter?_filterText (List.forall_mem_nil _) bound [])
    have none : ∀ position, reach? document [⟨[], position⟩] = none := by
      intro position
      rw [reach?, show Text.trimChars [] = [] from rfl, read?_nil]
      rfl
    rw [select?_eq, empty, List.nil_append, alone, pieces_of_none (show nextFilter? [] = .none from rfl), none, none]
    rfl
  · rw [reach?_filter empty (List.forall_mem_nil _) bound, select?_of_reach? empty]
    cases reach? document (pieces text.toList) <;> rfl

/-- What opens a filter in quotation marks is no filter, and a filter behind another keeps the first of what that one keeps. -/
theorem position_behind_quoted : select? (.ofText "<li title=':eq('>a</li><li title=':eq('>b</li>")
    ("[title=':eq(']:eq(1)" ++ ":eq(" ++ toString 0 ++ ")") = some [6] := by
  rw [position_keeps_one _ _ (by decide)]
  decide +kernel

end Harvest.Selector
