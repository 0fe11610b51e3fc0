import Harvest.Proofs.Markup.Inside
import Harvest.Proofs.Selector.Pieces

/-!
Contract: what selectors select that are put together.

`reach?` follows all pieces of a selector. Behind a filter at most one element is left, so what is reached is in
document order, without repetition, and `select?` gives just that. A filter behind a selector keeps one of
the elements that it selects, and what stands behind that filter searches inside that element.
-/

namespace Harvest.Selector

open Markup

/-! ### Without repetition -/

theorem foldl_distinct {nodes seen : List Nat} (unrepeated : nodes.Nodup) (fresh : ∀ node ∈ nodes, node ∉ seen) :
    nodes.foldl (fun seen node => if seen.contains node then seen else node :: seen) seen = nodes.reverse ++ seen := by
  induction nodes generalizing seen with
  | nil => rfl
  | cons node nodes inductionHypothesis =>
    obtain ⟨first, others⟩ := List.nodup_cons.mp unrepeated
    have new : seen.contains node = false := by
      rw [List.contains_eq_mem, decide_eq_false_iff_not]
      exact fresh node List.mem_cons_self
    rw [List.foldl_cons, new]
    simp only [Bool.false_eq_true, if_false]
    rw [inductionHypothesis others]
    · simp
    · intro later member repeated
      rcases List.mem_cons.mp repeated with rfl | old
      · exact first member
      · exact fresh later (List.mem_cons_of_mem _ member) old

theorem distinct_of_nodup {nodes : List Nat} (unrepeated : nodes.Nodup) : distinct nodes = nodes := by
  unfold distinct
  rw [foldl_distinct unrepeated fun node _ => List.not_mem_nil, List.append_nil, List.reverse_reverse]

theorem distinct_subset (nodes : List Nat) : distinct nodes ⊆ nodes := by
  have among : ∀ seen : List Nat, ∀ node ∈ nodes.foldl
      (fun seen node => if seen.contains node then seen else node :: seen) seen, node ∈ nodes ∨ node ∈ seen := by
    induction nodes with
    | nil => exact fun seen node member => .inr member
    | cons first nodes inductionHypothesis =>
      intro seen node member
      rw [List.foldl_cons] at member
      rcases inductionHypothesis _ node member with later | before
      · exact .inl (List.mem_cons_of_mem _ later)
      · split at before
        · exact .inr before
        · rcases List.mem_cons.mp before with rfl | old
          · exact .inl List.mem_cons_self
          · exact .inr old
  intro node member
  exact (among [] node (List.mem_reverse.mp member)).resolve_right List.not_mem_nil

/-! ### Following pieces -/

/-- The elements that pieces lead to, the first of them from the whole document. -/
def reach? (document : Document) : List Piece → Option (List Nat)
  | [] => some []
  | first :: rest =>
    (read? (Text.trimChars first.text)).bind fun selector =>
      follow? document rest (keepAt first.position (selector.matched document))

theorem select?_eq (document : Document) (text : String) :
    select? document text = (reach? document (pieces text.toList)).map distinct := by
  unfold select? reach?
  cases pieces text.toList with
  | nil => rfl
  | cons first rest => exact Option.map_bind.symm

theorem follow?_append (document : Document) (front back : List Piece) (reached : List Nat) :
    follow? document (front ++ back) reached = (follow? document front reached).bind (follow? document back) := by
  induction front generalizing reached with
  | nil => rfl
  | cons piece front inductionHypothesis =>
    simp only [List.cons_append, follow?, Option.bind_assoc]
    congr 1
    funext next
    exact inductionHypothesis _

theorem reach?_append {front : List Piece} (some_front : front ≠ []) (document : Document) (back : List Piece) :
    reach? document (front ++ back) = (reach? document front).bind (follow? document back) := by
  cases front with
  | nil => exact absurd rfl some_front
  | cons first front =>
    simp only [List.cons_append, reach?, follow?_append, Option.bind_assoc]

theorem length_keepAt_le (index : Nat) (reached : List Nat) : (keepAt (some index) reached).length ≤ 1 := by
  unfold keepAt
  cases reached[index]? <;> simp

theorem keepAt_subset (position : Option Nat) (reached : List Nat) : keepAt position reached ⊆ reached := by
  intro node member
  cases position with
  | none => exact member
  | some index =>
    unfold keepAt at member
    rw [Option.mem_toList] at member
    exact List.mem_of_getElem? member

/-! ### One step -/

theorem narrow?_of_blank {piece : List Char} (blank : Text.trimChars piece = []) (document : Document)
    (reached : List Nat) : narrow? document reached piece = some reached := by
  unfold narrow?
  rw [blank]

/-- Blanks behind a piece change nothing. -/
theorem narrow?_append {piece : List Char} (some_piece : piece ≠ []) {blanks : List Char}
    (blank : ∀ character ∈ blanks, Text.isBlank character = true) (document : Document) (reached : List Nat) :
    narrow? document reached (piece ++ blanks) = narrow? document reached piece := by
  obtain ⟨first, rest, rfl⟩ := List.exists_cons_of_ne_nil some_piece
  unfold narrow?
  rw [Text.trimChars_append blank]
  rfl

/-- A piece behind a blank searches inside the elements reached. -/
theorem narrow?_inside {scope : List Char} (trimmed : Text.Trimmed scope) (notChild : scope.head? ≠ some '>')
    {selector : Selector} (read : read? scope = some selector) (document : Document) (reached : List Nat) :
    narrow? document reached (' ' :: scope) = some (reached.flatMap (selector.matchedInside document)) := by
  have inner : Text.trimChars (' ' :: scope) = scope := by
    have between : Text.trimChars ([' '] ++ scope ++ []) = scope := trimmed.trimChars_between (List.forall_mem_singleton.mpr rfl) (List.forall_mem_nil _)
    rwa [List.append_nil] at between
  unfold narrow?
  rw [inner]
  split
  · exact absurd rfl trimmed.ne_nil
  · exact absurd rfl notChild
  · rw [read]
    rfl

theorem ordered_matchedInside (selector : Selector) (document : Document) (node : Nat) :
    (selector.matchedInside document node).Pairwise (· < ·) :=
  Document.ordered_filter (Document.ordered_filter (document.ordered_descendants node) _) _

theorem ordered_of_single {reached : List Nat} (single : reached.length ≤ 1) : reached.Pairwise (· < ·) := by
  match reached, single with
  | [], _ => exact .nil
  | [node], _ => exact List.pairwise_singleton _ node

/-- From at most one element, elements are reached in document order. -/
theorem ordered_narrow? {document : Document} {reached next : List Nat} {piece : List Char} (single : reached.length ≤ 1)
    (narrowed : narrow? document reached piece = some next) : next.Pairwise (· < ·) := by
  have flat : ∀ search : Nat → List Nat, (∀ node, (search node).Pairwise (· < ·)) →
      (reached.flatMap search).Pairwise (· < ·) := by
    intro search each
    match reached, single with
    | [], _ => exact .nil
    | [node], _ =>
      rw [List.flatMap_singleton]
      exact each node
  unfold narrow? at narrowed
  split at narrowed
  · cases narrowed
    exact ordered_of_single single
  · obtain ⟨selector, _, rfl⟩ := Option.map_eq_some_iff.mp narrowed
    exact flat _ fun node => Document.ordered_filter (document.ordered_childElements node) _
  · obtain ⟨selector, _, rfl⟩ := Option.map_eq_some_iff.mp narrowed
    split
    · exact flat _ fun node => ordered_matchedInside selector document node
    · exact Document.ordered_filter (ordered_of_single single) _

/-- A step leads to elements reached or to elements inside them. -/
theorem mem_narrow? {document : Document} {reached next : List Nat} {piece : List Char}
    (narrowed : narrow? document reached piece = some next) {node : Nat} (member : node ∈ next) :
    node ∈ reached ∨ ∃ source ∈ reached, document.isInside node source = true := by
  unfold narrow? at narrowed
  split at narrowed
  · cases narrowed
    exact .inl member
  · obtain ⟨selector, _, rfl⟩ := Option.map_eq_some_iff.mp narrowed
    obtain ⟨source, reachedSource, child⟩ := List.mem_flatMap.mp member
    have lies := Document.mem_children.mp (List.mem_filter.mp (List.mem_filter.mp child).1).1
    exact .inr ⟨source, reachedSource, Document.isInside_of_parent lies⟩
  · obtain ⟨selector, _, rfl⟩ := Option.map_eq_some_iff.mp narrowed
    split at member
    · obtain ⟨source, reachedSource, found⟩ := List.mem_flatMap.mp member
      have inside := (List.mem_filter.mp (List.mem_filter.mp found).1).1
      exact .inr ⟨source, reachedSource, Document.mem_descendants.mp inside⟩
    · exact .inl (List.mem_filter.mp member).1

/-- A step from elements leads to elements. -/
theorem isElement_of_narrow? {document : Document} {reached next : List Nat} {piece : List Char}
    (narrowed : narrow? document reached piece = some next) (elements : ∀ node ∈ reached, document.isElement node = true)
    {node : Nat} (member : node ∈ next) : document.isElement node = true := by
  unfold narrow? at narrowed
  split at narrowed
  · cases narrowed
    exact elements node member
  · obtain ⟨selector, _, rfl⟩ := Option.map_eq_some_iff.mp narrowed
    obtain ⟨source, _, child⟩ := List.mem_flatMap.mp member
    exact (List.mem_filter.mp (List.mem_filter.mp child).1).2
  · obtain ⟨selector, _, rfl⟩ := Option.map_eq_some_iff.mp narrowed
    split at member
    · obtain ⟨source, _, found⟩ := List.mem_flatMap.mp member
      exact (List.mem_filter.mp (List.mem_filter.mp found).1).2
    · exact elements node (List.mem_filter.mp member).1

/-! ### All steps -/

theorem isElement_of_follow? {document : Document} {steps : List Piece} {reached next : List Nat}
    (followed : follow? document steps reached = some next) (elements : ∀ node ∈ reached, document.isElement node = true)
    {node : Nat} (member : node ∈ next) : document.isElement node = true := by
  induction steps generalizing reached with
  | nil =>
    cases followed
    exact elements node member
  | cons piece steps inductionHypothesis =>
    obtain ⟨middle, narrowed, later⟩ := Option.bind_eq_some_iff.mp followed
    exact inductionHypothesis later fun other kept =>
      isElement_of_narrow? narrowed elements (keepAt_subset piece.position middle kept)

/-- What a selector matches are elements. -/
theorem isElement_of_select? {document : Document} {text : String} {nodes : List Nat}
    (selects : select? document text = some nodes) {node : Nat} (member : node ∈ nodes) :
    document.isElement node = true := by
  rw [select?_eq] at selects
  obtain ⟨reached, reaches, rfl⟩ := Option.map_eq_some_iff.mp selects
  have among : node ∈ reached := distinct_subset reached member
  unfold reach? at reaches
  split at reaches
  · cases reaches
    exact absurd among List.not_mem_nil
  · obtain ⟨selector, _, followed⟩ := Option.bind_eq_some_iff.mp reaches
    refine isElement_of_follow? followed (fun other kept => ?_) among
    exact Document.mem_elements.mp (List.mem_filter.mp (keepAt_subset _ _ kept)).1

theorem length_follow?_le {document : Document} {front : List Piece} (positioned : ∀ piece ∈ front, piece.position.isSome)
    {reached next : List Nat} (single : reached.length ≤ 1) (followed : follow? document front reached = some next) :
    next.length ≤ 1 := by
  induction front generalizing reached with
  | nil =>
    cases followed
    exact single
  | cons piece front inductionHypothesis =>
    obtain ⟨middle, _, later⟩ := Option.bind_eq_some_iff.mp followed
    obtain ⟨index, position⟩ := Option.isSome_iff_exists.mp (positioned piece List.mem_cons_self)
    rw [position] at later
    exact inductionHypothesis (fun other member => positioned other (List.mem_cons_of_mem _ member))
      (length_keepAt_le index middle) later

/-- Behind a filter at most one element is left. -/
theorem length_reach?_le {document : Document} {front : List Piece} (some_front : front ≠ [])
    (positioned : ∀ piece ∈ front, piece.position.isSome) {reached : List Nat}
    (reaches : reach? document front = some reached) : reached.length ≤ 1 := by
  cases front with
  | nil => exact absurd rfl some_front
  | cons first front =>
    obtain ⟨selector, _, followed⟩ := Option.bind_eq_some_iff.mp reaches
    obtain ⟨index, position⟩ := Option.isSome_iff_exists.mp (positioned first List.mem_cons_self)
    rw [position] at followed
    exact length_follow?_le (fun other member => positioned other (List.mem_cons_of_mem _ member))
      (length_keepAt_le index _) followed

theorem ordered_keepAt {reached : List Nat} (ordered : reached.Pairwise (· < ·)) (position : Option Nat) :
    (keepAt position reached).Pairwise (· < ·) := by
  cases position with
  | none => exact ordered
  | some index => exact ordered_of_single (length_keepAt_le index reached)

/-- What is reached is in document order. -/
theorem ordered_reach? {document : Document} {text : List Char} (some_text : text ≠ []) {reached : List Nat}
    (reaches : reach? document (pieces text) = some reached) : reached.Pairwise (· < ·) := by
  obtain ⟨front, last, positioned, cases_⟩ := pieces_append some_text (List.cons_ne_nil ' ' [])
  obtain ⟨position, shape⟩ : ∃ position, pieces text = front ++ [⟨last, position⟩] := by
    rcases cases_ with ⟨same, _⟩ | ⟨position, same, _⟩
    · exact ⟨none, same⟩
    · exact ⟨some position, same⟩
  rw [shape] at reaches
  cases front with
  | nil =>
    obtain ⟨selector, _, followed⟩ := Option.bind_eq_some_iff.mp reaches
    cases followed
    exact ordered_keepAt (Document.ordered_filter document.ordered_elements _) position
  | cons first front =>
    rw [reach?_append (List.cons_ne_nil first front)] at reaches
    obtain ⟨before, reachesBefore, followed⟩ := Option.bind_eq_some_iff.mp reaches
    obtain ⟨next, narrowed, kept⟩ := Option.bind_eq_some_iff.mp followed
    cases kept
    have single := length_reach?_le (List.cons_ne_nil first front) positioned reachesBefore
    exact ordered_keepAt (ordered_narrow? single narrowed) position

theorem select?_of_reach? {document : Document} {text : String} (some_text : text.toList ≠ []) :
    select? document text = reach? document (pieces text.toList) := by
  rw [select?_eq]
  cases reaches : reach? document (pieces text.toList) with
  | none => rfl
  | some reached => rw [Option.map_some, distinct_of_nodup ((ordered_reach? some_text reaches).imp Nat.ne_of_lt)]

theorem select?_unfiltered {document : Document} {text : String} (trimmed : Text.Trimmed text.toList)
    (unfiltered : nextFilter? text.toList = none) {selector : Selector} (read : read? text.toList = some selector) :
    select? document text = some (selector.matched document) := by
  rw [select?_of_reach? trimmed.ne_nil, pieces_of_none unfiltered, reach?, trimmed.trimChars_eq, read]
  rfl

/-- A filter behind a text keeps one of the elements reached, and what stands behind it goes on from there. -/
theorem reach?_filter {text : List Char} (some_text : text ≠ []) {blanks : List Char}
    (blank : ∀ character ∈ blanks, Text.isBlank character = true) {index : Nat} (bound : index ≤ Decimal.maxIndex)
    (document : Document) (more : List Char) :
    reach? document (pieces (text ++ (blanks ++ (filterText index ++ more)))) =
      (reach? document (pieces text)).bind fun reached =>
        follow? document (if more.isEmpty then [] else pieces more) (keepAt (some index) reached) := by
  have continued : blanks ++ (filterText index ++ more) ≠ [] := by
    intro empty
    exact List.cons_ne_nil _ _ (List.append_eq_nil_iff.mp (List.append_eq_nil_iff.mp empty).2).1
  have behind := pieces_of_some (nextFilter?_filterText blank bound more)
  obtain ⟨front, last, positioned, cases_⟩ := pieces_append some_text continued
  rcases cases_ with ⟨same, some_last, unfiltered, joined⟩ | ⟨position, same, joined⟩
  · have apart : Apart (blanks ++ (filterText index ++ more)) := by
      unfold filterText
      rw [List.append_assoc]
      exact apart_filter blank _
    have filtered : nextFilter? (last ++ (blanks ++ (filterText index ++ more))) = some (last ++ blanks, index, more) := by
      rw [nextFilter?_append_of_none apart unfiltered, nextFilter?_filterText blank bound]
      rfl
    rw [joined, same, pieces_of_some filtered]
    cases front with
    | nil =>
      simp only [List.nil_append, reach?, Text.trimChars_append blank]
      rw [Option.bind_assoc]
      rfl
    | cons first front =>
      rw [reach?_append (List.cons_ne_nil first front), reach?_append (List.cons_ne_nil first front), Option.bind_assoc]
      congr 1
      funext reached
      simp only [follow?, narrow?_append some_last blank]
      rw [Option.bind_assoc]
      rfl
  · rw [joined, same, behind, ← List.singleton_append, ← List.append_assoc, reach?_append (by simp)]
    congr 1
    funext reached
    simp only [follow?, narrow?_of_blank (Text.trimChars_of_blank blank)]
    rfl

/-- A row of a selection: what is inside one of the elements that a text selects. -/
theorem select?_row {document : Document} {text : String} (some_text : text.toList ≠ []) {nodes : List Nat}
    (selects : select? document text = some nodes) {blanks : List Char}
    (blank : ∀ character ∈ blanks, Text.isBlank character = true) {index : Nat} (bound : index ≤ Decimal.maxIndex)
    {scope : List Char} (trimmed : Text.Trimmed scope) (notChild : scope.head? ≠ some '>')
    (unfiltered : nextFilter? scope = none) {selector : Selector} (read : read? scope = some selector) :
    select? document (String.ofList (text.toList ++ (blanks ++ (filterText index ++ ' ' :: scope)))) =
      some (nodes[index]?.toList.flatMap (selector.matchedInside document)) := by
  have reaches : reach? document (pieces text.toList) = some nodes := by rw [← select?_of_reach? some_text, selects]
  have alone : pieces (' ' :: scope) = [⟨' ' :: scope, none⟩] := by
    refine pieces_of_none ?_
    rw [nextFilter?_cons_of_none (filterHere?_blank (by decide) scope), unfiltered]
    rfl
  have nonempty : text.toList ++ (blanks ++ (filterText index ++ ' ' :: scope)) ≠ [] := by
    intro empty
    exact some_text (List.append_eq_nil_iff.mp empty).1
  rw [select?_of_reach? (by rwa [String.toList_ofList]), String.toList_ofList, reach?_filter some_text blank bound,
    reaches, Option.bind_some, List.isEmpty_cons, if_neg Bool.false_ne_true, alone]
  simp only [follow?, narrow?_inside trimmed notChild read]
  rfl

end Harvest.Selector
