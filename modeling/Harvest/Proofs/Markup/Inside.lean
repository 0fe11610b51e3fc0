import Harvest.Markup.Document

/-!
Contract: what lies inside what.

A node lies inside its parent and inside all that its parent lies inside. Lying inside is
transitive, and the nodes inside a node come behind it.
-/

namespace Harvest.Markup.Document

variable {document : Document} {node parent inner middle outer : Nat}

theorem ancestors_of_parent (lies : document.parent? node = some parent) :
    document.ancestors node = parent :: document.ancestors parent := by
  rw [ancestors]
  split
  · rename_i none
    rw [lies] at none
    cases none
  · rename_i found
    rw [lies] at found
    cases found
    rfl

theorem ancestors_of_none (lies : document.parent? node = none) : document.ancestors node = [] := by
  rw [ancestors]
  split
  · rfl
  · rename_i found
    rw [lies] at found
    cases found

theorem isInside_iff :
    document.isInside inner outer = true ↔
      ∃ parent, document.parent? inner = some parent ∧ (parent = outer ∨ document.isInside parent outer = true) := by
  unfold isInside
  constructor
  · intro inside
    cases lies : document.parent? inner with
    | none =>
      rw [ancestors_of_none lies] at inside
      exact nomatch inside
    | some parent =>
      rw [ancestors_of_parent lies, List.contains_cons, Bool.or_eq_true, beq_iff_eq] at inside
      exact ⟨parent, rfl, inside.imp_left Eq.symm⟩
  · rintro ⟨parent, lies, inside⟩
    rw [ancestors_of_parent lies, List.contains_cons, Bool.or_eq_true, beq_iff_eq]
    exact inside.imp_left Eq.symm

theorem isInside_of_parent (lies : document.parent? node = some parent) : document.isInside node parent = true :=
  isInside_iff.mpr ⟨parent, lies, .inl rfl⟩

theorem isInside_trans (first : document.isInside inner middle = true) (second : document.isInside middle outer = true) :
    document.isInside inner outer = true := by
  induction inner using Nat.strongRecOn with
  | ind inner inductionHypothesis =>
    obtain ⟨parent, lies, rfl | deeper⟩ := isInside_iff.mp first
    · exact isInside_iff.mpr ⟨parent, lies, .inr second⟩
    · exact isInside_iff.mpr ⟨parent, lies, .inr (inductionHypothesis parent (parent?_lt lies) deeper)⟩

/-- Nodes with one parent lie inside the same nodes. -/
theorem isInside_of_sameParent (same : document.parent? inner = document.parent? middle)
    (inside : document.isInside middle outer = true) : document.isInside inner outer = true := by
  obtain ⟨parent, lies, reaches⟩ := isInside_iff.mp inside
  exact isInside_iff.mpr ⟨parent, same.trans lies, reaches⟩

theorem lt_size_of_parent (lies : document.parent? node = some parent) : node < document.size := by
  simp only [parent?, Option.bind_eq_some_iff] at lies
  obtain ⟨_, here, _⟩ := lies
  exact (Array.getElem?_eq_some_iff.mp here).1

theorem mem_descendants : inner ∈ document.descendants outer ↔ document.isInside inner outer = true := by
  unfold descendants places
  rw [List.mem_filter, List.mem_range]
  constructor
  · exact And.right
  · intro inside
    obtain ⟨_, lies, _⟩ := isInside_iff.mp inside
    exact ⟨lt_size_of_parent lies, inside⟩

theorem mem_elements : node ∈ document.elements ↔ document.isElement node = true := by
  unfold elements places
  rw [List.mem_filter, List.mem_range]
  refine ⟨And.right, fun element => ⟨?_, element⟩⟩
  unfold isElement element? content? at element
  by_cases inside : node < document.nodes.size
  · exact inside
  · rw [Array.getElem?_eq_none (Nat.le_of_not_lt inside)] at element
    exact nomatch element

theorem mem_children : node ∈ document.children parent ↔ document.parent? node = some parent := by
  unfold children places
  rw [List.mem_filter, List.mem_range, beq_iff_eq]
  exact ⟨And.right, fun lies => ⟨lt_size_of_parent lies, lies⟩⟩

/-! ### Document order -/

theorem ordered_filter {nodes : List Nat} (ordered : nodes.Pairwise (· < ·)) (test : Nat → Bool) :
    (nodes.filter test).Pairwise (· < ·) :=
  ordered.sublist List.filter_sublist

theorem ordered_places (document : Document) : document.places.Pairwise (· < ·) :=
  List.pairwise_lt_range

theorem ordered_elements (document : Document) : document.elements.Pairwise (· < ·) :=
  ordered_filter document.ordered_places _

theorem ordered_descendants (document : Document) (node : Nat) : (document.descendants node).Pairwise (· < ·) :=
  ordered_filter document.ordered_places _

theorem ordered_childElements (document : Document) (node : Nat) : (document.childElements node).Pairwise (· < ·) :=
  ordered_filter (ordered_filter document.ordered_places _) _

end Harvest.Markup.Document
