import Harvest.Proofs.Page.Freshness

/-!
Contract: what is read of the elements of a document on which has been written.

Typing writes the values of fields; changing elements writes attributes and styles. A call writes on the elements
that its selector matches, under the names that it gives, and the last of the calls that write in one place is what is
read there. Where none has written, the document is read: a text area has its text for a value, and any other field
the value that its attribute has by now.
-/

namespace Harvest

open Markup

namespace PageCall

/-- A call that writes on elements. -/
def Writes : PageCall → Prop
  | .type _ _ => True
  | .changeElement _ _ _ => True
  | _ => False

/-- Whether a call writes on an element: its selector matches the element. -/
def writesOn (document : Document) (node : Nat) : PageCall → Bool
  | .type selector _ => ((Selector.select? document selector).getD []).contains node
  | .changeElement selector _ _ => ((Selector.select? document selector).getD []).contains node
  | _ => false

def typed? : PageCall → Option String
  | .type _ text => some text
  | _ => none

/-- What a call makes of an attribute: it gives it a value, or takes it away. -/
def given? (name : String) : PageCall → Option (Option String)
  | .changeElement _ _ attributes => (attributes.reverse.lookup name).map ElementChange.attributeValue
  | _ => none

/-- What a call makes of a style, whose name it may give in any letter case. -/
def styled? (name : String) : PageCall → Option String
  | .changeElement _ style _ =>
    ((style.map fun field => (Text.toLower field.1, field.2)).reverse.lookup name).map ElementChange.styleValue
  | _ => none

variable {α : Type}

/-- The last that calls say of an element. -/
def lastSaid? (tells : PageCall → Option α) (document : Document) (node : Nat) (calls : List PageCall) : Option α :=
  ((calls.filter (writesOn document node)).filterMap tells).getLast?

theorem lastSaid?_cons (tells : PageCall → Option α) (document : Document) (node : Nat) (call : PageCall)
    (calls : List PageCall) : lastSaid? tells document node (call :: calls) =
      (lastSaid? tells document node calls).or (if call.writesOn document node then tells call else none) := by
  unfold lastSaid?
  cases on : call.writesOn document node with
  | false => rw [List.filter_cons_of_neg (by rw [on]; exact Bool.false_ne_true), if_neg Bool.false_ne_true, Option.or_none]
  | true =>
    rw [List.filter_cons_of_pos on, if_pos rfl, List.filterMap_cons]
    cases tells call with
    | none => rw [Option.or_none]
    | some value => rw [List.getLast?_cons, Option.or_some]

end PageCall

/-! ### One call -/

theorem lookup_map_snd {α β : Type} (value : α → β) (entries : List (String × α)) (name : String) :
    (entries.map fun entry => (entry.1, value entry.2)).lookup name = (entries.lookup name).map value := by
  induction entries with
  | nil => rfl
  | cons entry entries inductionHypothesis =>
    rw [List.map_cons, List.lookup_cons, List.lookup_cons, inductionHypothesis]
    cases name == entry.1 <;> rfl

namespace ElementChange

/-- Calls say what is held of a change: what a call says takes the place of what was held before. -/
structure HeldAsSaid {α : Type} (held : ElementChange → Option α) (tells : PageCall → Option α) : Prop where
  typing : ∀ selector text former, held (withValue text former) = (tells (.type selector text)).or (held former)
  changing : ∀ selector style attributes former,
    held ((former.withStyle style).withAttributes attributes) =
      (tells (.changeElement selector style attributes)).or (held former)

theorem value_asSaid : HeldAsSaid value PageCall.typed? where
  typing := fun _ _ _ => rfl
  changing := fun _ _ _ _ => rfl

theorem attribute_asSaid (name : String) : HeldAsSaid (fun change => change.attributes.lookup name) (PageCall.given? name) where
  typing := fun _ _ _ => rfl
  changing := by
    intro selector style attributes former
    show List.lookup name ((attributes.map _).reverse ++ former.attributes) = _
    rw [List.lookup_append, ← List.map_reverse, lookup_map_snd]
    rfl

theorem style_asSaid (name : String) : HeldAsSaid (fun change => change.style.lookup name) (PageCall.styled? name) where
  typing := fun _ _ _ => rfl
  changing := by
    intro selector style attributes former
    have names : (style.map fun field => (Text.toLower field.1, styleValue field.2)).reverse =
        (style.map fun field => (Text.toLower field.1, field.2)).reverse.map fun entry => (entry.1, styleValue entry.2) := by
      rw [← List.map_reverse, ← List.map_reverse, List.map_map]
      rfl
    show List.lookup name ((style.map _).reverse ++ former.style) = _
    rw [List.lookup_append, names, lookup_map_snd]
    rfl

end ElementChange

/-- What is written on several elements is held of each of them, and of no other. -/
theorem Changes.held_of_updateAll {α : Type} {held : ElementChange → Option α} {change : ElementChange → ElementChange}
    {said : Option α} (writes : ∀ former, held (change former) = said.or (held former)) (nodes : List Nat)
    (changes : Changes) (node : Nat) : held ((changes.updateAll nodes change).of node) =
      (if nodes.contains node then said else none).or (held (changes.of node)) := by
  induction nodes generalizing changes with
  | nil => rfl
  | cons first nodes inductionHypothesis =>
    rw [updateAll, List.foldl_cons, List.contains_cons]
    refine (inductionHypothesis (changes.update first change)).trans ?_
    rw [of_update]
    by_cases same : node = first
    · rw [if_pos same, writes, beq_iff_eq.mpr same, Bool.true_or, if_pos rfl, same]
      cases said <;> cases nodes.contains first <;> rfl
    · rw [if_neg same, beq_false_of_ne same, Bool.false_or]

namespace Page

/-- A change writes on the elements that are selected. All else of the page it leaves as it is, but it is noted. -/
theorem page_of_change (page : Page) (kind selector : String) (change : ElementChange → ElementChange) :
    (page.change kind selector change).page = { page.note kind selector with
      changes := page.changes.updateAll ((Selector.select? page.source.document selector).getD []) change } := by
  have selects : (page.note kind selector).select selector = page.select selector := rfl
  simp only [Page.change, selects]
  unfold select
  cases Selector.select? page.source.document selector <;> rfl

/-- Two pages are the same but for what has been written on elements, and what has been noted. -/
def SameBeneath (page written : Page) : Prop :=
  written = { page with changes := written.changes, interactions := written.interactions }

theorem SameBeneath.source {page written : Page} (same : page.SameBeneath written) : written.source = page.source := by
  rw [same]

theorem SameBeneath.trans {page middle written : Page} (first : page.SameBeneath middle)
    (second : middle.SameBeneath written) : page.SameBeneath written := by
  unfold SameBeneath at *
  rw [second, first]

theorem sameBeneath_after_write (page : Page) {call : PageCall} (writes : call.Writes) :
    page.SameBeneath (page.after (.call call)) := by
  match call with
  | .type selector text =>
    rw [show page.after (.call (.type selector text)) = _ from page.page_of_change "type" selector _]
    rfl
  | .changeElement selector style attributes =>
    rw [show page.after (.call (.changeElement selector style attributes)) = _ from
      page.page_of_change "changeElement" selector _]
    rfl

section

variable {α : Type} {held : ElementChange → Option α} {tells : PageCall → Option α}
  (asSaid : ElementChange.HeldAsSaid held tells)

include asSaid

/-- What a call that writes on an element says of it is held of it. -/
theorem held_after_write (page : Page) {call : PageCall} (writes : call.Writes) (node : Nat) :
    held ((page.after (.call call)).changes.of node) =
      (if call.writesOn page.source.document node then tells call else none).or (held (page.changes.of node)) := by
  match call with
  | .type selector text =>
    rw [show page.after (.call (.type selector text)) = _ from page.page_of_change "type" selector _]
    exact Changes.held_of_updateAll (asSaid.typing selector text) _ _ node
  | .changeElement selector style attributes =>
    rw [show page.after (.call (.changeElement selector style attributes)) = _ from
      page.page_of_change "changeElement" selector _]
    exact Changes.held_of_updateAll (asSaid.changing selector style attributes) _ _ node

end

/-! ### All calls -/

variable {calls : List PageCall} (writes : ∀ call ∈ calls, call.Writes)

include writes

theorem sameBeneath_afterAll_writes (page : Page) : page.SameBeneath (page.afterAll (calls.map .call)) := by
  induction calls generalizing page with
  | nil => rfl
  | cons call calls inductionHypothesis =>
    exact (page.sameBeneath_after_write (writes call List.mem_cons_self)).trans
      (inductionHypothesis (fun other member => writes other (List.mem_cons_of_mem _ member)) _)

/-- What is held of an element behind writing calls is the last that one of them has said of it. -/
theorem held_afterAll_writes {α : Type} {held : ElementChange → Option α} {tells : PageCall → Option α}
    (asSaid : ElementChange.HeldAsSaid held tells) (page : Page) (node : Nat) :
    held ((page.afterAll (calls.map .call)).changes.of node) =
      (PageCall.lastSaid? tells page.source.document node calls).or (held (page.changes.of node)) := by
  induction calls generalizing page with
  | nil => rfl
  | cons call calls inductionHypothesis =>
    have here := writes call List.mem_cons_self
    have later := inductionHypothesis (fun other member => writes other (List.mem_cons_of_mem _ member))
      (page.after (.call call))
    rw [(page.sameBeneath_after_write here).source, held_after_write asSaid page here] at later
    rw [PageCall.lastSaid?_cons, Option.or_assoc]
    exact later

/-- Behind any writing calls, the value of a field is the last text that was typed into it, or else the text of a text
area or the value that the attribute of another field has by now. Each attribute is what was last made of it, or else the
document's own, and so is each style, or else that of the attribute. Nothing else of the page has changed, but that the
calls are noted. -/
theorem last_write_wins (page : Page) (unwritten : page.changes = []) :
    let document := page.source.document
    let written := page.afterAll (calls.map .call)
    (∀ node, written.view.value? node =
      match PageCall.lastSaid? PageCall.typed? document node calls with
      | some text => some text
      | none =>
        if document.name? node = some "textarea" then some (document.textInside node)
        else written.view.attribute? node "value") ∧
    (∀ node name, written.view.attribute? node name =
      match PageCall.lastSaid? (PageCall.given? name) document node calls with
      | some value => value
      | none => document.attribute? node name) ∧
    (∀ node name, (written.view.styleOf node).lookup name =
      match PageCall.lastSaid? (PageCall.styled? name) document node calls with
      | some value => some value
      | none => (View.readStyle ((written.view.attribute? node "style").getD "")).lookup name) ∧
    written = { page with changes := written.changes, interactions := written.interactions } := by
  intro document written
  have same : page.SameBeneath written := sameBeneath_afterAll_writes writes page
  have shown : written.view.document = document := congrArg PageSource.document same.source
  have said : ∀ {α : Type} {held : ElementChange → Option α} {tells : PageCall → Option α},
      ElementChange.HeldAsSaid held tells → held {} = none → ∀ node,
        held (written.view.changes.of node) = PageCall.lastSaid? tells document node calls := by
    intro α held tells asSaid nothing node
    have last := held_afterAll_writes writes asSaid page node
    rw [unwritten, show held (Changes.of [] node) = none from nothing, Option.or_none] at last
    exact last
  refine ⟨fun node => ?_, fun node name => ?_, fun node name => ?_, same⟩
  · rewrite [View.value?, shown, said ElementChange.value_asSaid rfl node]
    rfl
  · rewrite [View.attribute?, shown, said (ElementChange.attribute_asSaid name) rfl node]
    rfl
  · rw [View.styleOf, List.lookup_append, said (ElementChange.style_asSaid name) rfl node]
    cases PageCall.lastSaid? (PageCall.styled? name) document node calls <;> rfl

omit writes

def formPage : Page where
  source := .ofText "<input id='a' value='v'><textarea>t</textarea>"

/-- The field is written on and written over, the text area gets a value that it has no use for, and a call whose selector
is none writes nothing. -/
def filledIn : List PageCall := [
  .type "input" "x",
  .changeElement "input, textarea" [("Color", .string "Red")] [("id", .null), ("value", .string "w")],
  .type "textarea, [" "lost",
  .type "input:eq(0)" "y",
  .changeElement "#a" [("color", .string "blue")] [("id", .string "b")]]

theorem read_filledIn : formPage.changes = [] ∧ (∀ call ∈ filledIn, call.Writes) ∧
    (formPage.afterAll (filledIn.map .call)).view.value? 4 = some "y" ∧
    (formPage.afterAll (filledIn.map .call)).view.value? 5 = some "t" ∧
    (formPage.afterAll (filledIn.map .call)).view.attribute? 4 "id" = some "b" ∧
    (formPage.afterAll (filledIn.map .call)).view.attribute? 5 "value" = some "w" := by
  have writes : ∀ call ∈ filledIn, call.Writes := by simp [filledIn, PageCall.Writes]
  obtain ⟨values, attributes, _⟩ := last_write_wins writes formPage rfl
  refine ⟨rfl, writes, (values 4).trans ?_, (values 5).trans ?_, (attributes 4 "id").trans ?_,
    (attributes 5 "value").trans ?_⟩ <;> decide +kernel

end Page

end Harvest
