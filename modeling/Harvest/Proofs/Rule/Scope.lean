import Harvest.Proofs.Text.Trim
import Harvest.Rule.Scope

/-!
Contract: what nested scopes are joined to.

The parts of a stack are joined with one blank between them, each trimmed, so the joined text is trimmed too. A scope that is
pushed goes behind all that counts of the stack. `lead` is what then stands in front of it. What has been joined can take
the place of its parts, so a stack can be replaced by one frame with its selector.
-/

namespace Harvest

open Text

/-! ### Joined parts -/

def visibleParts (parts : List String) : List String :=
  (parts.map trim).filter (· != "")

theorem trimmed_of_mem_visibleParts {parts : List String} {part : String} (member : part ∈ visibleParts parts) :
    Trimmed part.toList := by
  obtain ⟨mapped, nonempty⟩ := List.mem_filter.mp member
  obtain ⟨whole, _, rfl⟩ := List.mem_map.mp mapped
  rw [toList_trim]
  refine (trimmed_or_nil whole.toList).resolve_right fun none => ?_
  rw [trim, none] at nonempty
  exact absurd nonempty (by decide)

theorem trimmed_intercalate {parts : List String} (some_parts : parts ≠ [])
    (each : ∀ part ∈ parts, Trimmed part.toList) : Trimmed (" ".intercalate parts).toList := by
  induction parts with
  | nil => exact absurd rfl some_parts
  | cons first parts inductionHypothesis =>
    have here := each first List.mem_cons_self
    by_cases alone : parts = []
    · rw [alone, String.intercalate_singleton]
      exact here
    · have later := inductionHypothesis alone fun part member => each part (List.mem_cons_of_mem _ member)
      rw [String.intercalate_cons_of_ne_nil alone, String.toList_append, String.toList_append]
      exact here.append later _

theorem joinSelectors_eq (parts : List String) : joinSelectors parts = " ".intercalate (visibleParts parts) :=
  rfl

/-- A joined text is empty if none of its parts is visible. -/
theorem joinSelectors_eq_empty_iff {parts : List String} : joinSelectors parts = "" ↔ visibleParts parts = [] := by
  rw [joinSelectors_eq]
  constructor
  · intro empty
    refine Classical.byContradiction fun some_parts => ?_
    have trimmed := trimmed_intercalate some_parts fun part => trimmed_of_mem_visibleParts
    rw [empty] at trimmed
    exact trimmed.ne_nil rfl
  · intro none
    rw [none, String.intercalate_nil]

/-- A joined text is empty or trimmed. -/
theorem trimmed_joinSelectors {parts : List String} (nonempty : joinSelectors parts ≠ "") :
    Trimmed (joinSelectors parts).toList :=
  trimmed_intercalate (fun none => nonempty (joinSelectors_eq_empty_iff.mpr none)) fun _ => trimmed_of_mem_visibleParts

/-- What stands in front of a part that is joined behind others. -/
def lead (parts : List String) : List Char :=
  if joinSelectors parts = "" then [] else (joinSelectors parts).toList ++ [' ']

/-- A part that is not blank is joined behind the others. -/
theorem toList_joinSelectors_concat (parts : List String) {last : String} (visible : trimChars last.toList ≠ []) :
    (joinSelectors (parts ++ [last])).toList = lead parts ++ trimChars last.toList := by
  have some_last : (trim last != "") = true := by
    rw [bne_iff_ne]
    intro none
    rw [← toList_trim, none] at visible
    exact visible rfl
  have shape : joinSelectors (parts ++ [last]) = " ".intercalate (visibleParts parts ++ [trim last]) := by
    unfold joinSelectors visibleParts
    rw [List.map_append, List.filter_append, List.map_singleton]
    simp only [List.filter_cons, some_last, if_true, List.filter_nil]
  rw [shape]
  unfold lead
  by_cases none : visibleParts parts = []
  · rw [if_pos (joinSelectors_eq_empty_iff.mpr none), none, List.nil_append, List.nil_append,
      String.intercalate_singleton, toList_trim]
  · rw [if_neg (mt joinSelectors_eq_empty_iff.mp none), String.intercalate_append_of_ne_nil none (List.cons_ne_nil _ _),
      String.intercalate_singleton, String.toList_append, String.toList_append, toList_trim, joinSelectors_eq]
    rfl

/-! ### Pushed frames -/

namespace ScopeStack

/-- What counts of a stack behind a frame that is pushed on it, the outermost first. -/
def outerParts (frame : ScopeFrame) (stack : ScopeStack) : List String :=
  match frame.parentScope with
  | some parent => [parent]
  | none => stack.parts.reverse

/-- The scope of a frame that is pushed stands behind what counts of the stack. -/
theorem toList_selector_push (frame : ScopeFrame) (stack : ScopeStack) (visible : trimChars frame.scope.toList ≠ []) :
    (selector (frame :: stack)).toList = lead (outerParts frame stack) ++ trimChars frame.scope.toList := by
  have whole : (parts (frame :: stack)).reverse = outerParts frame stack ++ [frame.scope] := by
    unfold outerParts
    rw [parts]
    cases frame.parentScope with
    | none => exact List.reverse_cons
    | some parent => rfl
  unfold selector
  rw [whole, toList_joinSelectors_concat _ visible]

theorem some_selector_push (frame : ScopeFrame) (stack : ScopeStack) (visible : isBlankText frame.scope = false) :
    (selector (frame :: stack)).toList ≠ [] := by
  have seen := trimChars_ne_nil_of_visible visible
  rw [toList_selector_push frame stack seen]
  exact fun empty => seen (List.append_eq_nil_iff.mp empty).2

/-- Without a parent scope, the scope of a frame stands behind the selector of the stack. -/
theorem toList_selector_nested {scope : String} {stack : ScopeStack} (visible : trimChars scope.toList ≠ [])
    (enclosed : stack.selector ≠ "") :
    (selector (⟨scope, none⟩ :: stack)).toList = stack.selector.toList ++ ' ' :: trimChars scope.toList := by
  rw [toList_selector_push ⟨scope, none⟩ stack visible]
  unfold lead
  rw [if_neg (show joinSelectors (outerParts ⟨scope, none⟩ stack) ≠ "" from enclosed), List.append_assoc]
  rfl

end ScopeStack

/-! ### Stacks made one frame -/

/-- What has been joined, joined again in front of further parts, is as if all parts had been joined at once. -/
theorem joinSelectors_joined (front back : List String) :
    joinSelectors (joinSelectors front :: back) = joinSelectors (front ++ back) := by
  have all : visibleParts (front ++ back) = visibleParts front ++ visibleParts back := by
    unfold visibleParts
    rw [List.map_append, List.filter_append]
  by_cases none : visibleParts front = []
  · rw [joinSelectors_eq (front ++ back), all, none, List.nil_append, joinSelectors_eq_empty_iff.mpr none]
    rfl
  · have nonempty := mt joinSelectors_eq_empty_iff.mp none
    have same : trim (joinSelectors front) = joinSelectors front := by
      rw [← String.toList_inj, toList_trim, (trimmed_joinSelectors nonempty).trimChars_eq]
    have first : visibleParts (joinSelectors front :: back) = joinSelectors front :: visibleParts back := by
      unfold visibleParts
      rw [List.map_cons, same]
      exact List.filter_cons_of_pos (bne_iff_ne.mpr nonempty)
    rw [joinSelectors_eq (front ++ back), all, joinSelectors_eq (_ :: back), first]
    by_cases alone : visibleParts back = []
    · rw [alone, List.append_nil, String.intercalate_singleton, joinSelectors_eq]
    · rw [String.intercalate_append_of_ne_nil none alone, String.intercalate_cons_of_ne_nil alone, joinSelectors_eq front]

theorem joinSelectors_blank {blank : String} (isBlank : isBlankText blank = true) (parts : List String) :
    joinSelectors (blank :: parts) = joinSelectors parts := by
  have none : trim blank = "" := by
    rw [← String.toList_inj, toList_trim, (isBlankText_iff blank).mp isBlank, String.toList_empty]
  unfold joinSelectors
  rw [List.map_cons, none, List.filter_cons_of_neg (by decide)]

namespace ScopeStack

/-- What counts of frames that are pushed on a stack: some texts that the stack has no part in, or some texts behind all
that counts of it. -/
theorem parts_pushed (frames : ScopeStack) :
    ∃ texts, (∀ stack, parts (frames ++ stack) = texts) ∨ ∀ stack, parts (frames ++ stack) = texts ++ parts stack := by
  induction frames with
  | nil => exact ⟨[], .inr fun stack => rfl⟩
  | cons frame frames inductionHypothesis =>
    cases given : frame.parentScope with
    | some parent =>
      refine ⟨[frame.scope, parent], .inl fun stack => ?_⟩
      rw [List.cons_append, parts, given]
    | none =>
      have next : ∀ stack, parts (frame :: frames ++ stack) = frame.scope :: parts (frames ++ stack) := by
        intro stack
        rw [List.cons_append, parts, given]
      obtain ⟨texts, cut | open_⟩ := inductionHypothesis
      · exact ⟨frame.scope :: texts, .inl fun stack => by rw [next, cut]⟩
      · exact ⟨frame.scope :: texts, .inr fun stack => by rw [next, open_, List.cons_append]⟩

theorem joinSelectors_rootedAt (selector : String) (behind : List String) :
    joinSelectors ((parts (rootedAt selector)).reverse ++ behind) = joinSelectors (selector :: behind) := by
  unfold rootedAt
  split
  · rename_i blank
    exact (joinSelectors_blank blank behind).symm
  · rfl

/-- Whatever is pushed on it, a stack that is replaced by one frame with its selector resolves to the same selector. And an
action that is nested in another resolves to the scopes of both behind the selector that the outer one gets. -/
theorem flattening_is_invisible :
    (∀ frames stack : ScopeStack,
      selector (frames ++ rootedAt stack.selector) = selector (frames ++ stack)) ∧
    ∀ outer inner : ActionHead, outer.parentScope = none → inner.parentScope = none → ∀ base : String,
      inner.selector (outer.selector base) = joinSelectors [base, outer.scope.getD "", inner.scope.getD ""] := by
  constructor
  · intro frames stack
    unfold selector
    obtain ⟨texts, cut | open_⟩ := parts_pushed frames
    · rw [cut, cut]
    · rw [open_, open_, List.reverse_append, List.reverse_append, joinSelectors_rootedAt]
      exact joinSelectors_joined _ _
  · intro outer inner outerOpen innerOpen base
    unfold ActionHead.selector
    rw [outerOpen, innerOpen, Option.getD_none, Option.getD_none]
    exact joinSelectors_joined [base, outer.scope.getD ""] [inner.scope.getD ""]

/-- A link inside a padded card, under a base with blanks around it. -/
theorem flattened_link : ({ scope := some "a:eq(1)" } : ActionHead).selector
      (({ scope := some " .card " } : ActionHead).selector " ul ") = "ul .card a:eq(1)" := by
  rw [flattening_is_invisible.2 { scope := some " .card " } { scope := some "a:eq(1)" } rfl rfl]
  decide

end ScopeStack

end Harvest
