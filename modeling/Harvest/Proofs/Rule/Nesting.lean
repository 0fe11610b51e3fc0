import Harvest.Proofs.Rule.Scope
import Harvest.Proofs.Selector.Nesting

/-!
Contract: what a nested scope is kept inside of.

A nested scope is put behind the selector of the rules around it as text, so it is kept inside what they select only as far as the
joined text reads so. `nested_inside_iff` names all that may lie outside: elements that are loose, and what is inside those.
With one alternative on each side and no filter nothing is loose; a comma on either side is enough for something to be.
-/

namespace Harvest

open Markup Selector Text

namespace ScopeStack

/-! ### Elements that are kept inside -/

section

variable {document : Document} {stack : ScopeStack} {head : RuleHead} {frame : ScopeFrame} {enclosing own nodes : List Nat}
  (pushed : Rule.frame? head = some frame) (unparented : head.parentScope = none)
  (visible : isBlankText frame.scope = false) (enclosed : stack.selector ≠ "")

include pushed unparented

theorem frame_of_unparented : frame = ⟨frame.scope, none⟩ := by
  unfold Rule.frame? at pushed
  split at pushed
  · exact nomatch pushed
  · cases pushed
    rw [unparented]

include visible enclosed

/-- The selector of a nested rule is that of the rules around it, a blank and its own scope. -/
theorem selector_nested :
    (selector (frame :: stack)).toList = stack.selector.toList ++ ' ' :: trimChars frame.scope.toList ∧
      Trimmed stack.selector.toList ∧ Trimmed (trimChars frame.scope.toList) := by
  have seen := trimChars_ne_nil_of_visible visible
  refine ⟨?_, trimmed_joinSelectors enclosed, (trimmed_or_nil _).resolve_right seen⟩
  rw [frame_of_unparented pushed unparented]
  exact toList_selector_nested seen enclosed

variable (outerSelects : select? document stack.selector = some enclosing)
  (ownSelects : select? document (trim frame.scope) = some own)
  (selects : select? document (selector (frame :: stack)) = some nodes)

include outerSelects ownSelects selects

theorem nested_inside_or_loose : ∀ node ∈ nodes,
    (∃ above ∈ enclosing, document.isInside node above = true) ∨
      ∃ search, openSearch? document stack.selector.toList = some search ∧ ∃ element ∈ search.places,
        Loose document search (alternatives search.text) (firstAlternatives (trimChars frame.scope.toList)) element ∧
          (node = element ∨ document.isInside node element = true) := by
  obtain ⟨joined, outerTrimmed, ownTrimmed⟩ := selector_nested pushed unparented visible enclosed
  rw [select?_of_reach? outerTrimmed.ne_nil] at outerSelects
  rw [select?_of_reach? (by rw [toList_trim]; exact ownTrimmed.ne_nil), toList_trim] at ownSelects
  rw [select?_of_reach? (by rw [joined]; simp), joined] at selects
  exact inside_or_loose outerSelects ownSelects selects outerTrimmed ownTrimmed

/-- All that a nested rule selects lies inside what the rules around it select exactly if that is so for the loose elements
and what is inside them. -/
theorem nested_inside_iff :
    (∀ node ∈ nodes, ∃ above ∈ enclosing, document.isInside node above = true) ↔
      ∀ search, openSearch? document stack.selector.toList = some search → ∀ element ∈ search.places,
        Loose document search (alternatives search.text) (firstAlternatives (trimChars frame.scope.toList)) element →
          ∀ node ∈ nodes, node = element ∨ document.isInside node element = true →
            ∃ above ∈ enclosing, document.isInside node above = true := by
  refine ⟨fun inside _ _ _ _ _ node member _ => inside node member, fun loose node member => ?_⟩
  rcases nested_inside_or_loose pushed unparented visible enclosed outerSelects ownSelects selects node member with
    inside | ⟨search, found, element, place, isLoose, below⟩
  · exact inside
  · exact loose search found element place isLoose node member below

/-- Without filters and commas around it, a nested scope is kept inside, whatever filters it has itself. -/
theorem nested_inside {last first : Selector.Complex} (unfiltered : nextFilter? stack.selector.toList = none)
    (closed : ClosedAs stack.selector.toList [last])
    (single : firstAlternatives (trimChars frame.scope.toList) = [first]) :
    ∀ node ∈ nodes, ∃ above ∈ enclosing, document.isInside node above = true := by
  intro node member
  obtain ⟨_, outerTrimmed, _⟩ := selector_nested pushed unparented visible enclosed
  rcases nested_inside_or_loose pushed unparented visible enclosed outerSelects ownSelects selects node member with
    inside | ⟨search, found, element, place, loose, _⟩
  · exact inside
  · have alone := @openSearch?_of_pieces document _ _ _ (show pieces stack.selector.toList = [] ++ [⟨_, none⟩] from
      pieces_of_none unfiltered)
    have whole : search = Search.whole document stack.selector.toList :=
      (Option.some.inj (alone.symm.trans found)).symm
    have same : search.text = stack.selector.toList := by
      rw [whole]
      exact outerTrimmed.trimChars_eq
    rw [same, alternatives_of_read closed.1, single] at loose
    cases loose with
    | taken takes => exact absurd (same ▸ closed) takes
    | outer stray stands met => exact nomatch stands
    | inner stray stands met => exact nomatch stands
    | above meets is_last outside beyond lies met =>
      refine absurd ?_ beyond
      rw [whole]
      exact mem_elements_of_holds met

end

/-! ### Commas -/

/-- Without filters, a nested scope is kept inside exactly if the alternatives that a comma sets apart are. -/
theorem nested_inside_iff_strays {document : Document} {stack : ScopeStack} {head : RuleHead} {frame : ScopeFrame}
    (pushed : Rule.frame? head = some frame) (unparented : head.parentScope = none)
    (visible : isBlankText frame.scope = false) (enclosed : stack.selector ≠ "") {before others : List Selector.Complex}
    {last first : Selector.Complex} (closed : ClosedAs stack.selector.toList (before ++ [last]))
    (read : read? (trimChars frame.scope.toList) = some ⟨first :: others⟩)
    (outerUnfiltered : nextFilter? stack.selector.toList = none)
    (unfiltered : nextFilter? (trimChars frame.scope.toList) = none) :
    ∃ enclosing nodes, select? document stack.selector = some enclosing ∧
      select? document (selector (frame :: stack)) = some nodes ∧
      ((∀ node ∈ nodes, ∃ above ∈ enclosing, document.isInside node above = true) ↔
        ∀ stray ∈ before ++ others, ∀ element ∈ document.elements, stray.holds document none element = true →
          ∃ above ∈ enclosing, document.isInside element above = true) := by
  obtain ⟨joined, outerTrimmed, ownTrimmed⟩ := selector_nested pushed unparented visible enclosed
  obtain ⟨_, _, _, _, outerShape, innerShape, joint⟩ := read?_joint closed read
  obtain ⟨rfl, rfl⟩ := List.append_inj' outerShape rfl |>.imp_right fun same => (List.cons.inj same).1
  cases innerShape
  have jointUnfiltered : nextFilter? (selector (frame :: stack)).toList = none := by
    obtain ⟨initial, rest, shape, seen⟩ := ownTrimmed.starts
    have starts := startsCompound_of_read? (shape ▸ read)
    rw [joined, shape, nextFilter?_append_of_none (apart_of_startsCompound starts seen rest) outerUnfiltered,
      nextFilter?_cons_of_none (filterHere?_blank (by decide) _), ← shape, unfiltered]
    rfl
  have jointTrimmed : Trimmed (selector (frame :: stack)).toList := by
    have whole := outerTrimmed.append ownTrimmed [' ']
    rw [joined]
    simpa using whole
  refine ⟨_, _, select?_unfiltered outerTrimmed outerUnfiltered closed.1,
    select?_unfiltered jointTrimmed jointUnfiltered (by rw [joined]; exact joint), ?_, ?_⟩
  · intro inside stray member element place holds
    refine inside element (List.mem_filter.mpr ⟨place, anyOption_iff.mpr ⟨stray, ?_, holds⟩⟩)
    rcases List.mem_append.mp member with front | back
    · exact List.mem_append_left _ front
    · exact List.mem_append_right _ (List.mem_cons_of_mem _ back)
  · intro strays element found
    obtain ⟨place, holds⟩ := List.mem_filter.mp found
    obtain ⟨option, member, met⟩ := anyOption_iff.mp holds
    rcases List.mem_append.mp member with front | back
    · exact strays option (List.mem_append_left _ front) element place met
    · rcases List.mem_cons.mp back with rfl | further
      · obtain ⟨above, inside, meets⟩ := holds_graft met
        exact ⟨above, List.mem_filter.mpr ⟨mem_elements_of_holds meets, anyOption_iff.mpr ⟨_, by simp, meets⟩⟩, inside⟩
      · exact strays option (List.mem_append_right _ further) element place met

/-- A card with two texts, and a third text outside of it. -/
def cardPage : Document :=
  .ofText "<div class='card'><p class='a'>in a</p><p class='b'>in b</p></div><p class='b'>outside</p>"

def cardStack : ScopeStack :=
  [⟨".card", none⟩]

theorem cardPage_selects :
    select? cardPage cardStack.selector = some [4] ∧ select? cardPage (trim ".a, .b") = some [5, 7, 9] ∧
      select? cardPage (selector (⟨".a, .b", none⟩ :: cardStack)) = some [5, 7, 9] ∧
      ¬ ∀ node ∈ [5, 7, 9], ∃ above ∈ [4], cardPage.isInside node above = true := by
  decide +kernel

/-- The second alternative of a scope inside the card selects the text outside of it too. -/
theorem comma_leaves_card : ∃ enclosing own nodes, cardStack.selector ≠ "" ∧
    Rule.frame? { scope := some ".a, .b" } = some ⟨".a, .b", none⟩ ∧
    select? cardPage cardStack.selector = some enclosing ∧ select? cardPage (trim ".a, .b") = some own ∧
    select? cardPage (selector (⟨".a, .b", none⟩ :: cardStack)) = some nodes ∧
    ¬ ∀ node ∈ nodes, ∃ above ∈ enclosing, cardPage.isInside node above = true := by
  obtain ⟨outerSelects, ownSelects, selects, outside⟩ := cardPage_selects
  exact ⟨[4], [5, 7, 9], [5, 7, 9], by decide, rfl, outerSelects, ownSelects, selects, outside⟩

/-- What it selects there is loose. -/
theorem comma_is_loose : ∃ search, openSearch? cardPage cardStack.selector.toList = some search ∧
    ∃ element ∈ search.places,
      Loose cardPage search (alternatives search.text) (firstAlternatives (trimChars ".a, .b".toList)) element := by
  obtain ⟨outerSelects, ownSelects, selects, outside⟩ := cardPage_selects
  have pushed : Rule.frame? { scope := some ".a, .b" } = some ⟨".a, .b", none⟩ := rfl
  have iff := nested_inside_iff pushed rfl (by decide) (by decide) outerSelects ownSelects selects
  refine Classical.byContradiction fun none_ => outside (iff.mpr fun search found element place loose => ?_)
  exact absurd ⟨search, found, element, place, loose⟩ none_

end ScopeStack

end Harvest
