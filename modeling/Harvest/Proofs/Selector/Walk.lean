import Mathlib.Data.List.Sort
import Harvest.Proofs.Markup.Inside
import Harvest.Selector.Basic

/-!
Contract: selectors that are read from the front.

A complex selector is matched from its last compound backwards. One that relates its compounds as descendants and
children only can be read from the front as well: it begins with the elements that meet its first compound, and each
further compound leads from there to elements inside, or directly inside, those reached. `walk_complex` says that both
readings find the same. `leadsFrom` is the reading backwards that also asks where the first compound is met.
-/

namespace Harvest.Selector

open Markup

/-- A step of a selector that is read from the front. -/
inductive Move where
  | inside (tests : List Simple)
  | directlyInside (tests : List Simple)
  | also (tests : List Simple)
  | only (index : Nat)

/-- Whether a node is an element that meets a compound. -/
def meets (document : Document) (tests : List Simple) (node : Nat) : Bool :=
  document.isElement node && allHold document none node tests

/-- Where a move leads from elements reached: to the elements inside them, or directly inside them, that meet a
compound, or to those of them that do so, or to the one at a position among them. -/
def Move.next (document : Document) (reached : List Nat) : Move → List Nat
  | .inside tests =>
    document.elements.filter fun node => meets document tests node && reached.any fun outer => document.isInside node outer
  | .directlyInside tests =>
    document.elements.filter fun node => meets document tests node && reached.any fun outer => document.parent? node == some outer
  | .also tests => reached.filter (meets document tests)
  | .only index => reached[index]?.toList

def walk (document : Document) (moves : List Move) (reached : List Nat) : List Nat :=
  moves.foldl (Move.next document) reached

theorem walk_append (document : Document) (front back : List Move) (reached : List Nat) :
    walk document (front ++ back) reached = walk document back (walk document front reached) :=
  List.foldl_append

theorem walk_flatMap {α : Type} (document : Document) (stages : List α) (moves : α → List Move) (reached : List Nat) :
    walk document (stages.flatMap moves) reached =
      stages.foldl (fun reached stage => walk document (moves stage) reached) reached :=
  List.foldl_flatMap

/-! ### Order -/

theorem ordered_next {document : Document} {reached : List Nat} (ordered : reached.Pairwise (· < ·)) (move : Move) :
    (move.next document reached).Pairwise (· < ·) := by
  cases move with
  | inside tests => exact Document.ordered_filter document.ordered_elements _
  | directlyInside tests => exact Document.ordered_filter document.ordered_elements _
  | also tests => exact Document.ordered_filter ordered _
  | only index =>
    rw [Move.next]
    cases reached[index]? with
    | none => exact .nil
    | some node => exact List.pairwise_singleton _ node

/-- A walk leads on in document order. -/
theorem ordered_walk {document : Document} {reached : List Nat} (ordered : reached.Pairwise (· < ·)) (moves : List Move) :
    (walk document moves reached).Pairwise (· < ·) := by
  induction moves generalizing reached with
  | nil => exact ordered
  | cons move moves inductionHypothesis => exact inductionHypothesis (ordered_next ordered move)

/-! ### Complex selectors -/

namespace Complex

/-- Whether compounds are related as descendants and children only. -/
def isPlain : Complex → Bool
  | .compound _ => true
  | .related left combinator _ => left.isPlain && (combinator == .descendant || combinator == .child)

def first : Complex → List Simple
  | .compound tests => tests
  | .related left _ _ => left.first

def moves : Complex → List Move
  | .compound _ => []
  | .related left .child tests => left.moves ++ [.directlyInside tests]
  | .related left _ tests => left.moves ++ [.inside tests]

/-- Whether a node is matched from an element that a test allows to begin with. -/
def leadsFrom (document : Document) (starts : Nat → Bool) : Complex → Nat → Bool
  | .compound tests, node => meets document tests node && starts node
  | .related left combinator tests, node =>
    meets document tests node && (combinator.sources document node).any (left.leadsFrom document starts)

end Complex

/-- If any element may be begun with, all that are matched are led to. -/
theorem leadsFrom_anywhere (document : Document) (complex : Complex) (node : Nat) :
    complex.leadsFrom document (fun _ => true) node = complex.holds document none node := by
  match complex with
  | .compound tests => rw [Complex.leadsFrom, Complex.holds, Bool.and_true, meets]
  | .related left combinator tests =>
    rw [Complex.leadsFrom, Complex.holds, meets]
    congr 2
    funext source
    exact leadsFrom_anywhere document left source

/-- If no element may be begun with, none is led to. -/
theorem leadsFrom_nowhere (document : Document) (complex : Complex) (node : Nat) :
    complex.leadsFrom document (fun _ => false) node = false := by
  match complex with
  | .compound tests => rw [Complex.leadsFrom, Bool.and_false]
  | .related left combinator tests =>
    rw [Complex.leadsFrom, List.any_eq_false.mpr, Bool.and_false]
    intro source _
    rw [leadsFrom_nowhere document left source]
    exact Bool.false_ne_true

theorem isElement_of_leadsFrom {document : Document} {starts : Nat → Bool} {complex : Complex} {node : Nat}
    (leads : complex.leadsFrom document starts node = true) : document.isElement node = true := by
  cases complex with
  | compound tests => exact (Bool.and_eq_true_iff.mp (Bool.and_eq_true_iff.mp leads).1).1
  | related left combinator tests => exact (Bool.and_eq_true_iff.mp (Bool.and_eq_true_iff.mp leads).1).1

section

variable (document : Document) (test : Nat → Bool)

theorem next_inside (tests : List Simple) : (Move.inside tests).next document (document.elements.filter test) =
    document.elements.filter fun node =>
      meets document tests node && (Combinator.descendant.sources document node).any test := by
  refine List.filter_congr fun node _ => congrArg (meets document tests node && ·) ?_
  rw [Bool.eq_iff_iff, List.any_eq_true, List.any_eq_true]
  constructor
  · rintro ⟨outer, member, inside⟩
    obtain ⟨element, passes⟩ := List.mem_filter.mp member
    exact ⟨outer, List.mem_filter.mpr ⟨List.contains_iff_mem.mp inside, Document.mem_elements.mp element⟩, passes⟩
  · rintro ⟨outer, member, passes⟩
    obtain ⟨above, element⟩ := List.mem_filter.mp member
    exact ⟨outer, List.mem_filter.mpr ⟨Document.mem_elements.mpr element, passes⟩, List.contains_iff_mem.mpr above⟩

theorem next_directlyInside (tests : List Simple) :
    (Move.directlyInside tests).next document (document.elements.filter test) =
      document.elements.filter fun node =>
        meets document tests node && (Combinator.child.sources document node).any test := by
  refine List.filter_congr fun node _ => congrArg (meets document tests node && ·) ?_
  rw [Combinator.sources]
  cases lies : document.parent? node with
  | none =>
    rw [Document.ancestors_of_none lies]
    exact List.any_eq_false.mpr fun outer _ => Bool.false_ne_true
  | some parent =>
    rw [Document.ancestors_of_parent lies, Bool.eq_iff_iff, List.any_eq_true, List.any_eq_true]
    constructor
    · rintro ⟨outer, member, same⟩
      obtain ⟨element, passes⟩ := List.mem_filter.mp member
      obtain rfl := Option.some.inj (beq_iff_eq.mp same)
      exact ⟨parent, List.mem_filter.mpr ⟨List.mem_singleton_self parent, Document.mem_elements.mp element⟩, passes⟩
    · rintro ⟨outer, member, passes⟩
      obtain ⟨above, element⟩ := List.mem_filter.mp member
      obtain rfl := List.mem_singleton.mp above
      exact ⟨outer, List.mem_filter.mpr ⟨Document.mem_elements.mpr element, passes⟩, beq_self_eq_true _⟩

end

/-- Read from the front, a selector finds what it finds read from its last compound backwards. -/
theorem walk_complex (document : Document) (starts : Nat → Bool) {complex : Complex} (plain : complex.isPlain = true) :
    walk document complex.moves (document.elements.filter fun node => meets document complex.first node && starts node) =
      document.elements.filter (complex.leadsFrom document starts) := by
  match complex with
  | .compound tests => rfl
  | .related left combinator tests =>
    rw [Complex.isPlain, Bool.and_eq_true, Bool.or_eq_true, beq_iff_eq, beq_iff_eq] at plain
    have before := walk_complex document starts plain.1
    rcases plain.2 with rfl | rfl
    · rw [Complex.moves, Complex.first, walk_append, before]
      · exact next_inside document _ tests
      · exact nofun
    · rw [Complex.moves, Complex.first, walk_append, before]
      exact next_directlyInside document _ tests

/-! ### Selectors that do not ask where the search began -/

mutual

/-- Whether a test asks where the search began. -/
def Simple.asksScope : Simple → Bool
  | .scopeElement => true
  | .none options => someOptionAsksScope options
  | _ => false

/-- Whether a complex selector asks where the search began. -/
def Complex.asksScope : Complex → Bool
  | .compound tests => someTestAsksScope tests
  | .related left _ tests => left.asksScope || someTestAsksScope tests

/-- Whether one of several tests asks where the search began. -/
def someTestAsksScope : List Simple → Bool
  | [] => false
  | test :: tests => test.asksScope || someTestAsksScope tests

/-- Whether one of several alternatives asks where the search began. -/
def someOptionAsksScope : List Complex → Bool
  | [] => false
  | option :: options => option.asksScope || someOptionAsksScope options

end

mutual

theorem Simple.holds_unscoped (document : Document) (scope : Option Nat) (node : Nat) {test : Simple}
    (unscoped : test.asksScope = false) : test.holds document scope node = test.holds document none node := by
  match test with
  | .none options =>
    rw [Simple.asksScope] at unscoped
    exact congrArg (! ·) (anyOption_unscoped document scope node unscoped)
  | .scopeElement => exact nomatch unscoped
  | .any | .name _ | .identity _ | .className _ | .hasAttribute _ | .attributeValue _ _ _ _ | .root | .noContent
  | .nth _ _ _ | .never => rfl

theorem allHold_unscoped (document : Document) (scope : Option Nat) (node : Nat) {tests : List Simple}
    (unscoped : someTestAsksScope tests = false) : allHold document scope node tests = allHold document none node tests := by
  match tests with
  | [] => rfl
  | test :: tests =>
    rw [someTestAsksScope, Bool.or_eq_false_iff] at unscoped
    rw [allHold, allHold, Simple.holds_unscoped document scope node unscoped.1,
      allHold_unscoped document scope node unscoped.2]

theorem Complex.holds_unscoped (document : Document) (scope : Option Nat) (node : Nat) {complex : Complex}
    (unscoped : complex.asksScope = false) : complex.holds document scope node = complex.holds document none node := by
  match complex with
  | .compound tests =>
    rw [Complex.asksScope] at unscoped
    rw [Complex.holds, Complex.holds, allHold_unscoped document scope node unscoped]
  | .related left combinator tests =>
    rw [Complex.asksScope, Bool.or_eq_false_iff] at unscoped
    have sources : left.holds document scope = left.holds document none :=
      funext fun source => Complex.holds_unscoped document scope source unscoped.1
    rw [Complex.holds, Complex.holds, allHold_unscoped document scope node unscoped.2, sources]

theorem anyOption_unscoped (document : Document) (scope : Option Nat) (node : Nat) {options : List Complex}
    (unscoped : someOptionAsksScope options = false) :
    anyOption document scope node options = anyOption document none node options := by
  match options with
  | [] => rfl
  | option :: options =>
    rw [someOptionAsksScope, Bool.or_eq_false_iff] at unscoped
    rw [anyOption, anyOption, Complex.holds_unscoped document scope node unscoped.1,
      anyOption_unscoped document scope node unscoped.2]

end

end Harvest.Selector
