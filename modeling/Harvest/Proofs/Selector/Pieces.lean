import Harvest.Proofs.Selector.Leftmost

/-!
Contract: the pieces of selectors that are put together.

A text can be cut at its positional filters before or behind it gets a continuation, unless a
filter reaches across the joint. `Apart` says that none does. Then `pieces_append` gives the pieces
of the whole: those of the text, with the continuation behind the last of them.
-/

namespace Harvest.Selector

/-! ### Filters with a continuation -/

/-- A closed position reads the same in front of more text. -/
theorem readPosition?_append {text : List Char} (closed : ')' ∈ text) (more : List Char) :
    readPosition? (text ++ more) = (readPosition? text).map fun (position, rest) => (position, rest ++ more) := by
  obtain ⟨digits, rest, rfl, inside⟩ := List.eq_append_cons_of_mem closed
  rw [List.append_assoc, List.cons_append, readPosition?_closed inside, readPosition?_closed inside, Option.map_map]
  rfl

theorem dropFront?_append {front text : List Char} (fits : front.length ≤ text.length) (more : List Char) :
    Text.dropFront? front (text ++ more) = (Text.dropFront? front text).map (· ++ more) := by
  induction front generalizing text with
  | nil => rfl
  | cons expected front inductionHypothesis =>
    cases text with
    | nil => exact absurd fits (by simp)
    | cons actual text =>
      simp only [List.length_cons, Nat.add_le_add_iff_right] at fits
      by_cases same : expected = actual
      · simp [Text.dropFront?, same, inductionHypothesis fits]
      · simp [Text.dropFront?, same]

/-- A filter is the same in front of more text if the text has room for all of it. -/
theorem filterHere?_append {front : List Char} (room : filterMark.length ≤ front.length) (rest more : List Char) :
    filterHere? (front ++ ')' :: rest ++ more) =
      (filterHere? (front ++ ')' :: rest)).map fun (position, rest) => (position, rest ++ more) := by
  unfold filterHere?
  rw [dropFront?_append (by simp; omega)]
  cases marked : Text.dropFront? filterMark (front ++ ')' :: rest) with
  | none => rfl
  | some inner =>
    have whole := Text.dropFront?_eq_some marked
    have closed : ')' ∈ inner := by
      have : inner = (front.drop filterMark.length) ++ ')' :: rest := by
        rw [← List.drop_append_of_le_length room, whole, List.drop_left]
      rw [this]
      simp
    exact readPosition?_append closed more

/-! ### The leftmost filter -/

/-- The leftmost filter stays where it is when the text is continued. -/
theorem nextFilter?_append {text before rest : List Char} {position : Nat}
    (found : nextFilter? text = some (before, position, rest)) (more : List Char) :
    nextFilter? (text ++ more) = some (before, position, rest ++ more) := by
  induction text generalizing before with
  | nil => exact nomatch found
  | cons character text inductionHypothesis =>
    obtain ⟨digits, whole⟩ := eq_of_nextFilter? found
    have room : filterMark.length ≤ (before ++ filterMark ++ digits).length := by
      simp
      omega
    have same := filterHere?_append room rest more
    rw [← whole, List.cons_append] at same
    rw [List.cons_append]
    cases here : filterHere? (character :: text) with
    | some filter =>
      rw [nextFilter?_cons_of_some here] at found
      obtain ⟨rfl, rfl, rfl⟩ := found
      rw [here] at same
      exact nextFilter?_cons_of_some same
    | none =>
      rw [nextFilter?_cons_of_none here, Option.map_eq_some_iff] at found
      obtain ⟨⟨front, behind⟩, later, equal⟩ := found
      simp only [Prod.mk.injEq] at equal
      obtain ⟨rfl, rfl⟩ := equal
      rw [here] at same
      rw [nextFilter?_cons_of_none same, inductionHypothesis later]
      rfl

/-- A continuation that no filter reaches into across the joint. -/
def Apart (more : List Char) : Prop :=
  ∀ front, front ≠ [] → filterHere? front = none → filterHere? (front ++ more) = none

/-- A text without filters has those of its continuation. -/
theorem nextFilter?_append_of_none {text more : List Char} (apart : Apart more) (unfiltered : nextFilter? text = none) :
    nextFilter? (text ++ more) = (nextFilter? more).map fun (before, found) => (text ++ before, found) := by
  induction text with
  | nil => simp
  | cons character text inductionHypothesis =>
    cases here : filterHere? (character :: text) with
    | some filter =>
      rw [nextFilter?_cons_of_some here] at unfiltered
      exact nomatch unfiltered
    | none =>
      rw [nextFilter?_cons_of_none here, Option.map_eq_none_iff] at unfiltered
      have still : filterHere? (character :: (text ++ more)) = none := apart (character :: text) (by simp) here
      rw [List.cons_append, nextFilter?_cons_of_none still, inductionHypothesis unfiltered, Option.map_map]
      rfl

/-- A continuation is apart if it does not go on with the mark of a filter and spoils each position that is open in
front of it. -/
theorem apart_of_spoils {first : Char} {others : List Char} (outside : first ∉ filterMark.tail)
    (spoils : ∀ digits, ')' ∉ digits → readPosition? (digits ++ first :: others) = none) : Apart (first :: others) := by
  intro front some_front unfiltered
  unfold filterHere? at unfiltered ⊢
  cases marked : Text.dropFront? filterMark (front ++ first :: others) with
  | none => rfl
  | some inner =>
    have whole := Text.dropFront?_eq_some marked
    by_cases room : filterMark.length ≤ front.length
    · rw [dropFront?_append room, Option.map_eq_some_iff] at marked
      obtain ⟨digits, marked, rfl⟩ := marked
      rw [marked] at unfiltered
      by_cases closed : ')' ∈ digits
      · exact (readPosition?_append closed _).trans (by rw [show readPosition? digits = none from unfiltered]; rfl)
      · exact spoils digits closed
    · -- the mark reaches into the continuation, so the first character of it is one of the mark
      have joint : (filterMark ++ inner)[front.length]? = some first := by
        rw [← whole]
        simp
      rw [List.getElem?_append_left (by omega)] at joint
      have behind : front.length - 1 + 1 = front.length := Nat.succ_pred_eq_of_pos (List.length_pos_iff.mpr some_front)
      rw [← behind, ← List.getElem?_tail] at joint
      exact absurd (List.mem_of_getElem? joint) outside

/-! ### Continuations that are apart -/

/-- A character that a position, or the bracket behind it, may be written with. -/
def isInPosition (character : Char) : Bool :=
  Text.isBlank character || Decimal.isDigit character || character == '+' || character == ')'

/-- A position is spoilt by any character that does not belong into one. -/
theorem readPosition?_spoilt {front : List Char} {stranger : Char} (unclosed : ')' ∉ front)
    (strange : isInPosition stranger = false) (others : List Char) :
    readPosition? (front ++ stranger :: others) = none := by
  simp only [isInPosition, Bool.or_eq_false_iff, beq_eq_false_iff_ne] at strange
  obtain ⟨⟨⟨visible, notDigit⟩, notPlus⟩, notClose⟩ := strange
  have stillOpen : ∀ middle, ')' ∉ middle → ')' ∉ front ++ stranger :: middle := by
    intro middle inside member
    rcases List.mem_append.mp member with before | behind
    · exact unclosed before
    · rcases List.mem_cons.mp behind with same | later
      · exact notClose same.symm
      · exact inside later
  by_cases closed : ')' ∈ others
  · obtain ⟨middle, rest, rfl, inside⟩ := List.eq_append_cons_of_mem closed
    rw [← List.cons_append, ← List.append_assoc, readPosition?_closed (stillOpen middle inside)]
    cases read : Decimal.readIndex? (Text.trimChars (front ++ stranger :: middle)) with
    | none => rfl
    | some index =>
      have member : stranger ∈ Text.trimChars (front ++ stranger :: middle) := Text.mem_trimChars (by simp) visible
      rcases Decimal.mem_of_readIndex? read member with digit | plus
      · rw [notDigit] at digit
        exact nomatch digit
      · exact absurd plus notPlus
  · exact readPosition?_open (stillOpen others closed)

/-- A further filter is apart, also behind blanks. -/
theorem apart_filter {blanks : List Char} (blank : ∀ character ∈ blanks, Text.isBlank character = true)
    (more : List Char) : Apart (blanks ++ (filterMark ++ more)) := by
  have spoils : ∀ digits, ')' ∉ digits → readPosition? (digits ++ (blanks ++ (filterMark ++ more))) = none := by
    intro digits unclosed
    rw [← List.append_assoc]
    refine readPosition?_spoilt ?_ (show isInPosition ':' = false by decide) _
    intro member
    rcases List.mem_append.mp member with inside | behind
    · exact unclosed inside
    · exact absurd (blank ')' behind) (by decide)
  cases blanks with
  | nil => exact apart_of_spoils (show ':' ∉ filterMark.tail by decide) spoils
  | cons first blanks =>
    refine apart_of_spoils ?_ spoils
    intro mark
    have blankFirst := blank first List.mem_cons_self
    rw [show filterMark.tail = ['e', 'q', '('] from rfl] at mark
    simp only [List.mem_cons, List.not_mem_nil, or_false] at mark
    rcases mark with rfl | rfl | rfl <;> exact absurd blankFirst (by decide)

/-- What stands behind a blank is apart unless a position could go on with it. -/
theorem apart_blank {first : Char} (strange : isInPosition first = false) (others : List Char) :
    Apart (' ' :: first :: others) := by
  refine apart_of_spoils (by decide) fun digits unclosed => ?_
  have moved : digits ++ ' ' :: first :: others = (digits ++ [' ']) ++ first :: others := by simp
  rw [moved]
  exact readPosition?_spoilt (by simpa using unclosed) strange others

/-! ### Filters that are written down -/

def filterText (index : Nat) : List Char :=
  filterMark ++ (Decimal.digitsOf index ++ [')'])

theorem trimmed_digitsOf (index : Nat) : Text.Trimmed (Decimal.digitsOf index) :=
  .of_visible Nat.toDigits_ne_nil fun _ member => Decimal.isBlank_of_isDigit (Decimal.isDigit_of_mem_digitsOf member)

/-- A filter whose brackets hold what reads as an index. -/
theorem filterHere?_inside {inside : List Char} (closed : ')' ∉ inside) {index : Nat}
    (reads : Decimal.readIndex? (Text.trimChars inside) = some index) (more : List Char) :
    filterHere? (filterMark ++ (inside ++ ')' :: more)) = some (index, more) :=
  filterHere?_eq_some_iff.mpr ⟨inside, rfl, closed, reads⟩

theorem filterHere?_filterText {index : Nat} (bound : index ≤ Decimal.maxIndex) (more : List Char) :
    filterHere? (filterText index ++ more) = some (index, more) := by
  have closed : ')' ∉ Decimal.digitsOf index := by
    intro member
    exact absurd (Decimal.isDigit_of_mem_digitsOf member) (by decide)
  have reads : Decimal.readIndex? (Text.trimChars (Decimal.digitsOf index)) = some index := by
    rw [(trimmed_digitsOf index).trimChars_eq, Decimal.readIndex?_digitsOf bound]
  have written : filterText index ++ more = filterMark ++ (Decimal.digitsOf index ++ ')' :: more) := by
    simp [filterText]
  rw [written, filterHere?_inside closed reads]

/-- No filter begins with a blank. -/
theorem filterHere?_blank {first : Char} (blank : Text.isBlank first = true) (text : List Char) :
    filterHere? (first :: text) = none := by
  refine filterHere?_other ?_ text
  rintro rfl
  exact absurd blank (by decide)

/-- The leftmost filter behind blanks. -/
theorem nextFilter?_filterText {blanks : List Char} (blank : ∀ character ∈ blanks, Text.isBlank character = true)
    {index : Nat} (bound : index ≤ Decimal.maxIndex) (more : List Char) :
    nextFilter? (blanks ++ (filterText index ++ more)) = some (blanks, index, more) := by
  induction blanks with
  | nil => exact nextFilter?_cons_of_some (filterHere?_filterText bound more)
  | cons first blanks inductionHypothesis =>
    rw [List.cons_append, nextFilter?_cons_of_none (filterHere?_blank (blank first List.mem_cons_self) _),
      inductionHypothesis fun character member => blank character (List.mem_cons_of_mem _ member)]
    rfl

/-! ### Pieces -/

/-- The pieces of a text, and those of the text with a continuation: the continuation goes on with the last piece, or it
stands behind a filter at the very end. All pieces but the last have a position. -/
theorem pieces_append {text : List Char} (some_text : text ≠ []) {more : List Char} (some_more : more ≠ []) :
    ∃ front last, (∀ piece ∈ front, piece.position.isSome) ∧
      ((pieces text = front ++ [⟨last, none⟩] ∧ last ≠ [] ∧ nextFilter? last = none ∧
          pieces (text ++ more) = front ++ pieces (last ++ more)) ∨
        ∃ position, pieces text = front ++ [⟨last, some position⟩] ∧
          pieces (text ++ more) = front ++ ⟨last, some position⟩ :: pieces more) := by
  induction text using pieces_induction with
  | whole text found =>
    exact ⟨[], text, List.forall_mem_nil _, .inl ⟨pieces_of_none found, some_text, found, rfl⟩⟩
  | cut text before position rest found inductionHypothesis =>
    have continued := pieces_of_some (nextFilter?_append found more)
    have whole := pieces_of_some found
    cases rest with
    | nil =>
      refine ⟨[], before, List.forall_mem_nil _, .inr ⟨position, whole, ?_⟩⟩
      rw [continued, List.nil_append, List.isEmpty_eq_false_iff.mpr some_more]
      rfl
    | cons first others =>
      obtain ⟨front, last, positioned, cases_⟩ := inductionHypothesis (List.cons_ne_nil first others)
      refine ⟨⟨before, some position⟩ :: front, last, ?_, ?_⟩
      · intro piece member
        rcases List.mem_cons.mp member with rfl | later
        · rfl
        · exact positioned piece later
      · rcases cases_ with ⟨same, nonempty, unfiltered, joined⟩ | ⟨place, same, joined⟩
        · refine .inl ⟨?_, nonempty, unfiltered, ?_⟩
          · rw [whole, same]
            rfl
          · rw [continued, joined]
            rfl
        · refine .inr ⟨place, ?_, ?_⟩
          · rw [whole, same]
            rfl
          · rw [continued, joined]
            rfl

end Harvest.Selector
