import Harvest.Proofs.Page.LastWrite
import Harvest.Proofs.Selector.Selection

/-!
Contract: to hide what a selector matches hides that, what lies inside it, and nothing else.

An element is visible unless it, or an element around it, hides itself: by an attribute, by being a hidden field, or by its
style. The style `display: none` makes the elements that are matched hide themselves. It takes the place of any other
display that they had, and it leaves all that is read of the other elements as it was; so an element is visible afterwards
if it was before, and neither it nor an element around it is matched.
-/

namespace Harvest

open Markup

/-- A node is none of the given ones, and it lies inside none of them. -/
def Markup.Document.IsClear (document : Document) (nodes : List Nat) (node : Nat) : Prop :=
  ∀ place ∈ node :: document.ancestors node, place ∉ nodes

namespace PageCall

def hide (selector : String) : PageCall :=
  .changeElement selector [("display", .string "none")] []

theorem writes_hide (selector : String) : (hide selector).Writes := trivial

theorem given?_hide (selector name : String) : given? name (hide selector) = none := rfl

theorem styled?_hide (selector name : String) :
    styled? name (hide selector) = if name = "display" then some "none" else none := by
  have none_ : ElementChange.styleValue (.string "none") = "none" := by decide +kernel
  have display : Text.toLower "display" = "display" := by decide +kernel
  show (List.lookup name [(Text.toLower "display", Json.string "none")]).map ElementChange.styleValue = _
  rw [display, List.lookup_cons]
  by_cases same : name = "display"
  · rw [if_pos same, same, beq_self_eq_true]
    exact congrArg some none_
  · rw [if_neg same, beq_false_of_ne same]
    rfl

end PageCall

namespace Page

variable (page : Page)

def withHidden (selector : String) : Page :=
  page.after (.call (.hide selector))

theorem source_withHidden (selector : String) : (page.withHidden selector).source = page.source :=
  (page.sameBeneath_after_write (PageCall.writes_hide selector)).source

/-- A selector matches the same before and after. -/
theorem select_withHidden (selector target : String) : (page.withHidden selector).select target = page.select target := by
  unfold select
  rw [source_withHidden]

theorem attribute?_withHidden (selector : String) (node : Nat) (name : String) :
    (page.withHidden selector).view.attribute? node name = page.view.attribute? node name := by
  have held : ((page.withHidden selector).changes.of node).attributes.lookup name = _ :=
    held_after_write (ElementChange.attribute_asSaid name) page (PageCall.writes_hide selector) node
  rw [PageCall.given?_hide, ite_self, Option.none_or] at held
  unfold view View.attribute?
  rw [source_withHidden]
  dsimp only
  rw [held]

variable {selector : String} {matched : List Nat} (selects : page.select selector = .ok matched)

include selects

theorem select?_of_select : Selector.select? page.source.document selector = some matched := by
  unfold select at selects
  split at selects
  next nodes found =>
    cases selects
    exact found
  next => exact nomatch selects

/-- The elements that are matched have the display that hides them, and all other styles are what they were. -/
theorem style_withHidden (node : Nat) (name : String) : ((page.withHidden selector).view.styleOf node).lookup name =
    if node ∈ matched ∧ name = "display" then some "none" else (page.view.styleOf node).lookup name := by
  have held := held_after_write (ElementChange.style_asSaid name) page (PageCall.writes_hide selector) node
  have writes : (PageCall.hide selector).writesOn page.source.document node = matched.contains node := by
    show ((Selector.select? page.source.document selector).getD []).contains node = _
    rw [page.select?_of_select selects]
    rfl
  rw [PageCall.styled?_hide, writes] at held
  unfold View.styleOf
  rw [attribute?_withHidden, List.lookup_append, List.lookup_append]
  show (((page.withHidden selector).changes.of node).style.lookup name).or _ = _
  rw [show ((page.withHidden selector).changes.of node).style.lookup name = _ from held, Option.or_assoc]
  by_cases among : node ∈ matched
  · by_cases display : name = "display"
    · rw [if_pos (by simpa using among), if_pos display, if_pos ⟨among, display⟩]
      rfl
    · rw [if_pos (by simpa using among), if_neg display, if_neg fun both => display both.2]
      rfl
  · rw [if_neg (by simpa using among), if_neg fun both => among both.1]
    rfl

theorem hides_withHidden (node : Nat) :
    (page.withHidden selector).view.hides node = (matched.contains node || page.view.hides node) := by
  have name : (page.withHidden selector).view.document.name? node = page.view.document.name? node := by
    show (page.withHidden selector).source.document.name? node = _
    rw [source_withHidden]
    rfl
  unfold View.hides
  rw [attribute?_withHidden, attribute?_withHidden, page.style_withHidden selects, page.style_withHidden selects, name,
    if_neg (by simp : ¬ (node ∈ matched ∧ "visibility" = "display"))]
  by_cases among : node ∈ matched
  · rw [if_pos ⟨among, rfl⟩, List.contains_iff_mem.mpr among]
    simp
  · rw [if_neg fun both => among both.1, List.contains_eq_mem, decide_eq_false among]
    rfl

/-- An element is visible afterwards if it was before, and neither it nor an element around it is matched. -/
theorem isVisible_withHidden (node : Nat) : (page.withHidden selector).view.isVisible node = true ↔
    page.view.isVisible node = true ∧ page.source.document.IsClear matched node := by
  have document : (page.withHidden selector).view.document = page.source.document :=
    congrArg PageSource.document (page.source_withHidden selector)
  have keeps : ∀ place, (!(page.withHidden selector).view.hides place) = true ↔
      (!page.view.hides place) = true ∧ place ∉ matched := by
    intro place
    rw [page.hides_withHidden selects, List.contains_eq_mem]
    cases page.view.hides place <;> simp
  unfold View.isVisible
  rw [document, List.all_eq_true, List.all_eq_true]
  constructor
  · intro visible
    refine ⟨fun place member => ((keeps place).mp (visible place member)).1, fun place member among => ?_⟩
    -- what is matched is an element, so it is one of those that are asked
    have element := Selector.isElement_of_select? (page.select?_of_select selects) among
    have asked : place ∈ node :: (page.source.document.ancestors node).filter page.source.document.isElement := by
      rcases List.mem_cons.mp member with rfl | around
      · exact List.mem_cons_self
      · exact List.mem_cons_of_mem _ (List.mem_filter.mpr ⟨around, element⟩)
    exact ((keeps place).mp (visible place asked)).2 among
  · rintro ⟨visible, clear⟩ place member
    refine (keeps place).mpr ⟨visible place member, clear place ?_⟩
    rcases List.mem_cons.mp member with rfl | around
    · exact List.mem_cons_self
    · exact List.mem_cons_of_mem _ (List.mem_filter.mp around).1

/-- To hide what a selector matches hides exactly that and what lies inside it. So of any selector, which matches what it
did before, some element is visible if and only if one was that is clear of what has been hidden. -/
theorem hiding_hides_exactly_subtrees :
    (∀ node, (page.withHidden selector).view.isVisible node = true ↔
      page.view.isVisible node = true ∧ page.source.document.IsClear matched node) ∧
    ∀ target reached, page.select target = .ok reached → (page.withHidden selector).select target = .ok reached ∧
      ∃ answer, ((page.withHidden selector).dispatch (.visible target)).answer = .ok (.bool answer) ∧
        (answer = true ↔
          ∃ node ∈ reached, page.view.isVisible node = true ∧ page.source.document.IsClear matched node) := by
  refine ⟨page.isVisible_withHidden selects, fun target reached reaches => ?_⟩
  have again : (page.withHidden selector).select target = .ok reached := (page.select_withHidden selector target).trans reaches
  refine ⟨again, reached.any (page.withHidden selector).view.isVisible, ?_, ?_⟩
  · show ((page.withHidden selector).select target).map _ = _
    rw [again]
    rfl
  · rw [List.any_eq_true]
    exact exists_congr fun node => and_congr_right fun _ => page.isVisible_withHidden selects node

omit selects

/-- A page with two cards. The first one had been given another display before, and in the second one a text is hidden. -/
def cards : Page where
  source := .ofText "<div class='a'><p>x</p></div><div class='b'><p hidden>y</p><p>z</p></div>"
  changes := [(4, { style := [("display", "block"), ("visibility", "visible")] })]

/-- Behind the hiding of the first card no text in it is visible, but a text is. -/
theorem first_card_hidden : cards.select ".a" = .ok [4] ∧ cards.select ".a p" = .ok [5] ∧ cards.select "p" = .ok [5, 8, 10] ∧
    cards.view.isVisible 5 = true ∧
    ((cards.withHidden ".a").dispatch (.visible ".a p")).answer = .ok (.bool false) ∧
    ((cards.withHidden ".a").dispatch (.visible "p")).answer = .ok (.bool true) := by
  have card : Selector.select? cards.source.document ".a" = some [4] := by decide +kernel
  have inCard : Selector.select? cards.source.document ".a p" = some [5] := by decide +kernel
  have texts : Selector.select? cards.source.document "p" = some [5, 8, 10] := by decide +kernel
  have selects : ∀ {selector nodes}, Selector.select? cards.source.document selector = some nodes →
      cards.select selector = .ok nodes := fun found => by simp only [select, found]
  have inside : 4 ∈ cards.source.document.ancestors 5 := by decide +kernel
  have clear : cards.view.isVisible 10 = true ∧ cards.source.document.IsClear [4] 10 := by
    unfold Document.IsClear
    decide +kernel
  have hidden := (hiding_hides_exactly_subtrees cards (selects card)).2
  obtain ⟨_, answer, answered, visible⟩ := hidden ".a p" [5] (selects inCard)
  obtain ⟨_, other, otherAnswered, otherVisible⟩ := hidden "p" [5, 8, 10] (selects texts)
  have isFalse : answer = false := by
    rw [← Bool.not_eq_true, visible]
    rintro ⟨node, member, _, isClear⟩
    rw [List.mem_singleton.mp member] at isClear
    exact isClear 4 (List.mem_cons_of_mem _ inside) List.mem_cons_self
  have isTrue : other = true := otherVisible.mpr ⟨10, by simp, clear⟩
  subst isFalse isTrue
  exact ⟨selects card, selects inCard, selects texts, by decide +kernel, answered, otherAnswered⟩

end Page

end Harvest
