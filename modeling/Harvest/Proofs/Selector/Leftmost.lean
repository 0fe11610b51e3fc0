import Harvest.Proofs.Decimal.Count
import Harvest.Proofs.Text.Occurrence
import Harvest.Proofs.Text.Trim
import Harvest.Selector.Positional

/-!
Contract: the leftmost positional filter of a text.

`nextFilter?` tries every place of a text in turn, from the left. To look from mark to mark, and to give up where no
bracket follows, comes to the same (`findFilter?_octets`): no filter begins between two marks or inside of one, and none
goes without a bracket behind its mark. The marks are ASCII, so no cut goes through a character.
-/

namespace Harvest.Selector

/-! ### Filters at the places of a text -/

/-- A positional filter behind its opening: the position, and what follows the filter. -/
def readPosition? (text : List Char) : Option (Nat × List Char) :=
  match text.dropWhile (· != ')') with
  | [] => none
  | _ :: rest =>
    (Decimal.readIndex? (Text.trimChars (text.takeWhile (· != ')')))).map fun position => (position, rest)

/-- The leftmost positional filter of a text: what stands before it, the position, and what follows. -/
def nextFilter? : List Char → Option (List Char × Nat × List Char)
  | [] => none
  | character :: text =>
    match (Text.dropFront? filterMark (character :: text)).bind readPosition? with
    | some (position, rest) => some ([], position, rest)
    | none => (nextFilter? text).map fun (before, found) => (character :: before, found)

def filterHere? (text : List Char) : Option (Nat × List Char) :=
  (Text.dropFront? filterMark text).bind readPosition?

theorem nextFilter?_cons_of_some {character : Char} {text rest : List Char} {position : Nat}
    (here : filterHere? (character :: text) = some (position, rest)) :
    nextFilter? (character :: text) = some ([], position, rest) := by
  unfold nextFilter?
  rw [show (Text.dropFront? filterMark (character :: text)).bind readPosition? = _ from here]

theorem nextFilter?_cons_of_none {character : Char} {text : List Char} (here : filterHere? (character :: text) = none) :
    nextFilter? (character :: text) = (nextFilter? text).map fun (before, found) => (character :: before, found) := by
  rw [nextFilter?]
  rw [show (Text.dropFront? filterMark (character :: text)).bind readPosition? = _ from here]

theorem all_open {text : List Char} (unclosed : ')' ∉ text) : ∀ character ∈ text, (character != ')') = true := by
  intro character member
  rw [bne_iff_ne]
  rintro rfl
  exact unclosed member

theorem readPosition?_closed {digits : List Char} (inside : ')' ∉ digits) (rest : List Char) :
    readPosition? (digits ++ ')' :: rest) =
      (Decimal.readIndex? (Text.trimChars digits)).map fun position => (position, rest) := by
  unfold readPosition?
  rw [List.dropWhile_append_of_pos (all_open inside), List.takeWhile_append_of_pos (all_open inside)]
  simp

theorem readPosition?_open {text : List Char} (unclosed : ')' ∉ text) : readPosition? text = none := by
  have all : text.dropWhile (· != ')') = [] := by
    rw [← List.append_nil text, List.dropWhile_append_of_pos (all_open unclosed)]
    rfl
  unfold readPosition?
  rw [all]

/-- A filter begins with its mark. -/
theorem filterHere?_unmarked {text : List Char} (unmarked : Text.dropFront? filterMark text = none) :
    filterHere? text = none := by
  rw [filterHere?, unmarked]
  rfl

theorem filterHere?_other {first : Char} (other : first ≠ ':') (text : List Char) : filterHere? (first :: text) = none :=
  filterHere?_unmarked (if_neg fun same => other same.symm)

/-- Behind its mark a filter is read up to its bracket. -/
theorem filterHere?_mark (inner : List Char) : filterHere? (filterMark ++ inner) = readPosition? inner := by
  rw [filterHere?, Text.dropFront?_append, Option.bind_some]

/-- A text begins with a filter if it begins with a mark, behind which an index is written up to the first bracket. -/
theorem filterHere?_eq_some_iff {text rest : List Char} {position : Nat} :
    filterHere? text = some (position, rest) ↔
      ∃ inside, text = filterMark ++ (inside ++ ')' :: rest) ∧ ')' ∉ inside ∧
        Decimal.readIndex? (Text.trimChars inside) = some position := by
  constructor
  · intro here
    obtain ⟨inner, marked, read⟩ := Option.bind_eq_some_iff.mp here
    by_cases closed : ')' ∈ inner
    · obtain ⟨inside, behind, rfl, unclosed⟩ := List.eq_append_cons_of_mem closed
      rw [readPosition?_closed unclosed, Option.map_eq_some_iff] at read
      obtain ⟨index, reads, same⟩ := read
      cases same
      exact ⟨inside, Text.dropFront?_eq_some marked, unclosed, reads⟩
    · rw [readPosition?_open closed] at read
      exact nomatch read
  · rintro ⟨inside, rfl, unclosed, reads⟩
    rw [filterHere?_mark, readPosition?_closed unclosed, reads]
    rfl

/-- The leftmost filter begins where there is one, and in front of it there is none. -/
theorem filterHere?_of_nextFilter? {text before rest : List Char} {position : Nat}
    (found : nextFilter? text = some (before, position, rest)) :
    ∃ back, text = before ++ back ∧ filterHere? back = some (position, rest) ∧
      ∀ front other, text = front ++ other → front.length < before.length → filterHere? other = none := by
  induction text generalizing before with
  | nil => exact nomatch found
  | cons character text inductionHypothesis =>
    cases here : filterHere? (character :: text) with
    | some filter =>
      rw [nextFilter?_cons_of_some here] at found
      obtain ⟨rfl, rfl, rfl⟩ := found
      exact ⟨character :: text, rfl, here, fun _ _ _ shorter => absurd shorter (Nat.not_lt_zero _)⟩
    | none =>
      rw [nextFilter?_cons_of_none here, Option.map_eq_some_iff] at found
      obtain ⟨⟨further, behind⟩, later, same⟩ := found
      cases same
      obtain ⟨back, rfl, begins, leftmost⟩ := inductionHypothesis later
      refine ⟨back, rfl, begins, fun front other split shorter => ?_⟩
      cases front with
      | nil => rwa [show other = character :: _ from split.symm]
      | cons first front =>
        exact leftmost front other (List.cons.inj split).2 (Nat.lt_of_succ_lt_succ shorter)

theorem nextFilter?_eq_none_iff {text : List Char} :
    nextFilter? text = none ↔ ∀ front back, text = front ++ back → filterHere? back = none := by
  induction text with
  | nil =>
    refine iff_of_true rfl fun front back split => ?_
    rw [(List.append_eq_nil_iff.mp split.symm).2]
    rfl
  | cons character text inductionHypothesis =>
    constructor
    · intro none_found front back split
      cases here : filterHere? (character :: text) with
      | some filter =>
        rw [nextFilter?_cons_of_some here] at none_found
        exact nomatch none_found
      | none =>
        rw [nextFilter?_cons_of_none here, Option.map_eq_none_iff] at none_found
        cases front with
        | nil => rwa [show back = character :: text from split.symm]
        | cons first front => exact inductionHypothesis.mp none_found front back (List.cons.inj split).2
    · intro nowhere
      have here : filterHere? (character :: text) = none := nowhere [] _ rfl
      rw [nextFilter?_cons_of_none here, Option.map_eq_none_iff]
      exact inductionHypothesis.mpr fun front back split => nowhere (character :: front) back (congrArg _ split)

/-- The text that the leftmost filter is in. -/
theorem eq_of_nextFilter? {text before rest : List Char} {position : Nat}
    (found : nextFilter? text = some (before, position, rest)) :
    ∃ digits, text = before ++ filterMark ++ digits ++ ')' :: rest := by
  obtain ⟨back, rfl, begins, _⟩ := filterHere?_of_nextFilter? found
  obtain ⟨inside, rfl, _, _⟩ := filterHere?_eq_some_iff.mp begins
  exact ⟨inside, by simp⟩

/-! ### From mark to mark -/

theorem nextFilter?_of_unmarked {text : List Char} (unmarked : Text.findFirst? filterMark text = none) :
    nextFilter? text = none := by
  induction text with
  | nil => rfl
  | cons character text inductionHypothesis =>
    rw [Text.findFirst?] at unmarked
    split at unmarked
    next => cases unmarked
    next here =>
      rw [Option.map_eq_none_iff] at unmarked
      rw [nextFilter?_cons_of_none (filterHere?_unmarked here), inductionHypothesis unmarked]
      rfl

/-- No filter begins in front of the leftmost mark. -/
theorem nextFilter?_of_marked {text before inner : List Char}
    (marked : Text.findFirst? filterMark text = some (before, inner)) :
    nextFilter? text = (nextFilter? (filterMark ++ inner)).map fun (front, found) => (before ++ front, found) := by
  induction text generalizing before with
  | nil => exact nomatch marked
  | cons character text inductionHypothesis =>
    rw [Text.findFirst?] at marked
    split at marked
    next after here =>
      cases marked
      rw [← Text.dropFront?_eq_some here]
      simp
    next here =>
      obtain ⟨⟨front, back⟩, later, same⟩ := Option.map_eq_some_iff.mp marked
      cases same
      rw [nextFilter?_cons_of_none (filterHere?_unmarked here), inductionHypothesis later, Option.map_map]
      rfl

/-- Behind a mark that opens a filter stands what follows that filter. -/
theorem nextFilter?_mark {inner : List Char} {position : Nat} {rest : List Char}
    (read : readPosition? inner = some (position, rest)) : nextFilter? (filterMark ++ inner) = some ([], position, rest) :=
  nextFilter?_cons_of_some ((filterHere?_mark inner).trans read)

/-- Inside of a mark no filter begins. -/
theorem nextFilter?_passed {inner : List Char} (unread : readPosition? inner = none) :
    nextFilter? (filterMark ++ inner) = (nextFilter? inner).map fun (front, found) => (filterMark ++ front, found) := by
  have here : filterHere? (filterMark ++ inner) = none := (filterHere?_mark inner).trans unread
  have skips : filterMark ++ inner = ':' :: 'e' :: 'q' :: '(' :: inner := rfl
  rw [skips] at here ⊢
  rw [nextFilter?_cons_of_none here, nextFilter?_cons_of_none (filterHere?_other (by decide) _),
    nextFilter?_cons_of_none (filterHere?_other (by decide) _), nextFilter?_cons_of_none (filterHere?_other (by decide) _),
    Option.map_map, Option.map_map, Option.map_map]
  rfl

/-- Without a bracket there is no filter. -/
theorem nextFilter?_open {text : List Char} (unclosed : ')' ∉ text) : nextFilter? text = none := by
  cases found : nextFilter? text with
  | none => rfl
  | some filter =>
    obtain ⟨digits, rfl⟩ := eq_of_nextFilter? found
    simp at unclosed

/-! ### One look -/

section

variable {front ahead before inner inside rest : List Char}

/-- There is no filter where no bracket closes the mark. -/
theorem readFilter?_open (unclosed : ')' ∉ inner) :
    readFilter? (front ++ (filterMark ++ inner)) (Text.octets front) = some .nowhere := by
  unfold readFilter? Text.findOffset?
  rw [← List.append_assoc, ← Text.octets_append]
  dsimp only
  rw [Text.behind?_octets, Option.bind_eq_bind, Option.bind_some, Text.findFirst?_of_not_mem unclosed]
  rfl

/-- What stands between a mark and its bracket decides whether there is a filter. -/
theorem readFilter?_closed (unclosed : ')' ∉ inside) :
    readFilter? (front ++ (filterMark ++ (inside ++ ')' :: rest))) (Text.octets front) =
      some (match Decimal.readIndex? (Text.trimChars inside) with
        | some position =>
          .found ⟨Text.octets front, Text.octets (front ++ filterMark ++ inside ++ [')']), position⟩
        | none => .passed (Text.octets (front ++ filterMark))) := by
  have closes : Text.findFirst? [')'] (inside ++ ')' :: rest) = some (inside, rest) :=
    Text.findFirst?_append unclosed rest
  have bracket : Text.octets [')'] = 1 := by decide
  unfold readFilter? Text.findOffset?
  rw [← List.append_assoc, ← Text.octets_append]
  dsimp only
  rw [Text.behind?_octets, Option.bind_eq_bind, Option.bind_some, closes, Option.map_some]
  dsimp only
  rw [← Text.octets_append, Text.between?_octets, Option.bind_some, Text.octets_append _ [')'], bracket]
  cases Decimal.readIndex? (Text.trimChars inside) <;> rfl

theorem look?_unmarked (unmarked : Text.findFirst? filterMark ahead = none) :
    look? (front ++ ahead) (Text.octets front) = some .nowhere := by
  unfold look? Text.findOffset?
  rw [Text.behind?_octets, Option.bind_eq_bind, Option.bind_some, unmarked]
  rfl

theorem look?_marked (marked : Text.findFirst? filterMark ahead = some (before, inner)) :
    look? (front ++ ahead) (Text.octets front) =
      readFilter? (front ++ before ++ (filterMark ++ inner)) (Text.octets (front ++ before)) := by
  have whole : front ++ ahead = front ++ before ++ (filterMark ++ inner) := by
    rw [Text.findFirst?_eq_some marked]
    simp
  unfold look? Text.findOffset?
  rw [Text.behind?_octets, Option.bind_eq_bind, Option.bind_some, marked, Option.map_some, whole, Text.octets_append]

end

/-! ### The whole scan -/

section

variable {text : List Char} {offset : Nat}

theorem findFilter?_of_nowhere (looked : look? text offset = some .nowhere) : findFilter? text offset = some none := by
  rw [findFilter?]
  split <;> simp_all

theorem findFilter?_of_found {filter : FilterSpan} (looked : look? text offset = some (.found filter)) :
    findFilter? text offset = some (some filter) := by
  rw [findFilter?]
  split <;> simp_all

theorem findFilter?_of_passed {further : Nat} (looked : look? text offset = some (.passed further)) :
    findFilter? text offset = findFilter? text further := by
  rw [findFilter?]
  split <;> simp_all

end

/-- The offsets of a filter in a text that is cut at it, behind a front. -/
def spanBehind (front ahead : List Char) : List Char × Nat × List Char → FilterSpan
  | (before, position, rest) =>
    ⟨Text.octets (front ++ before), Text.octets (front ++ ahead) - Text.octets rest, position⟩

/-- The offsets stay the same when more of the text counts as its front. -/
theorem spanBehind_append (front between ahead before rest : List Char) (position : Nat) :
    spanBehind front (between ++ ahead) (between ++ before, position, rest) =
      spanBehind (front ++ between) ahead (before, position, rest) := by
  simp only [spanBehind, List.append_assoc]

theorem spanBehind_closed (front inside rest : List Char) (position : Nat) :
    spanBehind front (filterMark ++ (inside ++ ')' :: rest)) ([], position, rest) =
      ⟨Text.octets front, Text.octets (front ++ filterMark ++ inside ++ [')']), position⟩ := by
  have whole : front ++ (filterMark ++ (inside ++ ')' :: rest)) = front ++ filterMark ++ inside ++ [')'] ++ rest := by simp
  rw [spanBehind, whole, Text.octets_append _ rest, Nat.add_sub_cancel, List.append_nil]

/-- To look from mark to mark comes to the leftmost filter, and no cut on the way goes through a character. -/
theorem findFilter?_octets (front ahead : List Char) :
    findFilter? (front ++ ahead) (Text.octets front) = some ((nextFilter? ahead).map (spanBehind front ahead)) := by
  induction size : ahead.length using Nat.strongRecOn generalizing front ahead with
  | ind size inductionHypothesis =>
    cases marked : Text.findFirst? filterMark ahead with
    | none => rw [findFilter?_of_nowhere (look?_unmarked marked), nextFilter?_of_unmarked marked, Option.map_none]
    | some found =>
      obtain ⟨before, inner⟩ := found
      have looked : look? (front ++ ahead) (Text.octets front) =
          readFilter? (front ++ before ++ (filterMark ++ inner)) (Text.octets (front ++ before)) := look?_marked marked
      have shape : ahead = before ++ (filterMark ++ inner) := by
        rw [Text.findFirst?_eq_some marked, List.append_assoc]
      rw [nextFilter?_of_marked marked, Option.map_map]
      by_cases closed : ')' ∈ inner
      · obtain ⟨inside, rest, rfl, unclosed⟩ := List.eq_append_cons_of_mem closed
        have read := readPosition?_closed unclosed rest
        rw [readFilter?_closed unclosed] at looked
        cases reads : Decimal.readIndex? (Text.trimChars inside) with
        | some position =>
          rw [reads] at looked read
          have here := spanBehind_append front before (filterMark ++ (inside ++ ')' :: rest)) [] rest position
          rw [spanBehind_closed, ← shape] at here
          rw [findFilter?_of_found looked, nextFilter?_mark read, Option.map_some, Function.comp_apply, here]
        | none =>
          -- the mark is passed, and what is ahead of it is a shorter text behind a longer front
          rw [reads] at looked read
          have further := inductionHypothesis _ (by rw [← size, shape]; simp [filterMark]; omega) (front ++ before ++ filterMark)
            (inside ++ ')' :: rest) rfl
          have whole : front ++ ahead = front ++ before ++ filterMark ++ (inside ++ ')' :: rest) := by
            rw [shape]
            simp
          rw [← whole] at further
          rw [findFilter?_of_passed looked, further, nextFilter?_passed read, Option.map_map]
          congr 2
          funext ⟨later, position, behind⟩
          rw [Function.comp_apply, Function.comp_apply, shape, spanBehind_append, spanBehind_append]
      · have unclosed : ')' ∉ filterMark ++ inner := by
          intro member
          rcases List.mem_append.mp member with mark | behind
          · exact absurd mark (by decide)
          · exact closed behind
        rw [readFilter?_open closed] at looked
        rw [findFilter?_of_nowhere looked, nextFilter?_open unclosed]
        rfl

/-- The leftmost filter takes what lies between the two offsets. -/
theorem exists_taken {text before rest : List Char} {position : Nat}
    (found : nextFilter? text = some (before, position, rest)) :
    ∃ taken, text = before ++ (taken ++ rest) ∧
      (spanBehind [] text (before, position, rest)).stop = Text.octets (before ++ taken) := by
  obtain ⟨digits, shape⟩ := eq_of_nextFilter? found
  refine ⟨filterMark ++ digits ++ [')'], by simp [shape], ?_⟩
  have whole : text = before ++ (filterMark ++ digits ++ [')']) ++ rest := by simp [shape]
  show Text.octets text - Text.octets rest = Text.octets (before ++ (filterMark ++ digits ++ [')']))
  rw [whole, Text.octets_append _ rest, Nat.add_sub_cancel]

/-- A text is cut at its leftmost filter. -/
theorem cut?_eq (text : List Char) : cut? text = nextFilter? text := by
  have scanned : findFilter? text 0 = some ((nextFilter? text).map (spanBehind [] text)) := findFilter?_octets [] text
  unfold cut?
  rw [scanned]
  cases found : nextFilter? text with
  | none => rfl
  | some filter =>
    obtain ⟨before, position, rest⟩ := filter
    obtain ⟨taken, shape, stop⟩ := exists_taken found
    have front : Text.upTo? (Text.octets before) text = some before := by rw [shape, Text.upTo?_octets]
    have back : Text.behind? (Text.octets (before ++ taken)) text = some rest := by
      rw [shape, ← List.append_assoc, Text.behind?_octets]
    show ((Text.upTo? (Text.octets before) text).bind fun before =>
      (Text.behind? (spanBehind [] text (before, position, rest)).stop text).bind fun rest =>
        some (before, position, rest)) = _
    rw [front, Option.bind_some, stop, back, Option.bind_some]

/-- To show something of all texts by their filters: there is none, or a further text stands behind the leftmost one. -/
theorem pieces_induction {motive : List Char → Prop} (whole : ∀ text, nextFilter? text = none → motive text)
    (cut : ∀ text before position rest, nextFilter? text = some (before, position, rest) → motive rest → motive text)
    (text : List Char) : motive text := by
  induction text using pieces.induct with
  | case1 text uncut => exact whole text ((cut?_eq text).symm.trans uncut)
  | case2 text before position rest found _ inductionHypothesis =>
    exact cut text before position rest ((cut?_eq text).symm.trans found) inductionHypothesis

theorem pieces_of_none {text : List Char} (unfiltered : nextFilter? text = none) : pieces text = [⟨text, none⟩] := by
  have uncut : cut? text = none := (cut?_eq text).trans unfiltered
  rw [pieces]
  split
  · rfl
  · rename_i found
    rw [uncut] at found
    cases found

theorem pieces_of_some {text before rest : List Char} {position : Nat}
    (filtered : nextFilter? text = some (before, position, rest)) :
    pieces text = ⟨before, some position⟩ :: (if rest.isEmpty then [] else pieces rest) := by
  have cut : cut? text = some (before, position, rest) := (cut?_eq text).trans filtered
  rw [pieces]
  split
  · rename_i found
    rw [cut] at found
    cases found
  · rename_i found
    rw [cut] at found
    cases found
    rfl

/-! ### Filters by their offsets -/

/-- What is written between the brackets of a filter: an index, with white space around it. -/
def SpellsPosition (inside : List Char) (position : Nat) : Prop :=
  ∃ front digits back, inside = front ++ digits ++ back ∧ (∀ character ∈ front, Text.isBlank character = true) ∧
    (∀ character ∈ back, Text.isBlank character = true) ∧ Decimal.readIndex? digits = some position

theorem spellsPosition_iff {inside : List Char} {position : Nat} :
    SpellsPosition inside position ↔ Decimal.readIndex? (Text.trimChars inside) = some position := by
  constructor
  · rintro ⟨front, digits, back, rfl, blankFront, blankBack, reads⟩
    have some_digits : digits ≠ [] := by
      rintro rfl
      exact nomatch reads
    have visible : ∀ character ∈ digits, Text.isBlank character = false := by
      intro character member
      rcases Decimal.mem_of_readIndex? reads member with digit | rfl
      · exact Decimal.isBlank_of_isDigit digit
      · decide
    rw [(Text.Trimmed.of_visible some_digits visible).trimChars_between blankFront blankBack, reads]
  · intro reads
    have visible : ¬ ∀ character ∈ inside, Text.isBlank character = true := by
      intro blank
      rw [Text.trimChars_of_blank blank] at reads
      exact nomatch reads
    obtain ⟨front, back, shape, _, blankFront, blankBack⟩ := Text.exists_trimmed visible
    exact ⟨front, Text.trimChars inside, back, shape, blankFront, blankBack, reads⟩

/-- A filter stands in a text: its mark is there at its start, up to the first bracket behind the mark its position is
written, and it stops behind that bracket. -/
def FilterSpan.StandsIn (filter : FilterSpan) (text : List Char) : Prop :=
  ∃ before inside rest, text = before ++ (filterMark ++ (inside ++ ')' :: rest)) ∧ ')' ∉ inside ∧
    SpellsPosition inside filter.position ∧ filter.start = Text.octets before ∧
    filter.stop = Text.octets (before ++ filterMark ++ inside ++ [')'])

section

variable {text : List Char} {filter other : FilterSpan}

theorem FilterSpan.standsIn_iff : filter.StandsIn text ↔ ∃ before back rest, text = before ++ back ∧
    filterHere? back = some (filter.position, rest) ∧ filter.start = Text.octets before ∧
      filter.stop + Text.octets rest = Text.octets text := by
  constructor
  · rintro ⟨before, inside, rest, shape, unclosed, spells, start, stop⟩
    have begins : filterHere? (filterMark ++ (inside ++ ')' :: rest)) = some (filter.position, rest) :=
      filterHere?_eq_some_iff.mpr ⟨inside, rfl, unclosed, spellsPosition_iff.mp spells⟩
    refine ⟨before, _, rest, shape, begins, start, ?_⟩
    rw [stop, ← Text.octets_append, shape]
    simp
  · rintro ⟨before, back, rest, shape, begins, start, stop⟩
    obtain ⟨inside, rfl, unclosed, reads⟩ := filterHere?_eq_some_iff.mp begins
    have whole : text = before ++ filterMark ++ inside ++ [')'] ++ rest := by simp [shape]
    rw [whole, Text.octets_append _ rest] at stop
    exact ⟨before, inside, rest, shape, unclosed, spellsPosition_iff.mpr reads, start, Nat.add_right_cancel stop⟩

/-- At most one filter starts at an offset. -/
theorem FilterSpan.StandsIn.unique (stands : filter.StandsIn text) (standsToo : other.StandsIn text)
    (same : filter.start = other.start) : filter = other := by
  obtain ⟨before, back, rest, shape, begins, start, stop⟩ := standsIn_iff.mp stands
  obtain ⟨before', back', rest', shape', begins', start', stop'⟩ := standsIn_iff.mp standsToo
  have cut : Text.cutAt? filter.start text = some (before, back) := by rw [start, shape, Text.cutAt?_octets]
  have cutToo : Text.cutAt? filter.start text = some (before', back') := by rw [same, start', shape', Text.cutAt?_octets]
  rw [cut] at cutToo
  cases cutToo
  rw [begins] at begins'
  obtain ⟨position, behind⟩ := Prod.mk.inj (Option.some.inj begins')
  have stops : filter.stop = other.stop := by
    rw [← behind] at stop'
    omega
  exact FilterSpan.ext same stops position

/-- A filter takes six octets at least: those of its mark, a digit and its bracket. -/
theorem octets_of_filterHere? {rest : List Char} {position : Nat} (begins : filterHere? text = some (position, rest)) :
    Text.octets rest + 6 ≤ Text.octets text := by
  obtain ⟨inside, rfl, _, reads⟩ := filterHere?_eq_some_iff.mp begins
  have mark : Text.octets filterMark = 4 := by decide
  have bracket : ')'.utf8Size = 1 := by decide
  have written : 0 < Text.octets inside := by
    cases inside with
    | nil => exact nomatch reads
    | cons first inside => exact Nat.add_pos_left first.utf8Size_pos _
  simp only [Text.octets_append, Text.octets, mark, bracket]
  omega

theorem octets_of_nextFilter? {before rest : List Char} {position : Nat}
    (found : nextFilter? text = some (before, position, rest)) : Text.octets rest + 6 ≤ Text.octets text := by
  obtain ⟨back, rfl, begins, _⟩ := filterHere?_of_nextFilter? found
  exact Nat.le_trans (octets_of_filterHere? begins) (by simp)

theorem nextFilter?_eq_none_iff_standsIn : nextFilter? text = none ↔ ∀ filter : FilterSpan, ¬ filter.StandsIn text := by
  rw [nextFilter?_eq_none_iff]
  constructor
  · intro nowhere filter stands
    obtain ⟨before, back, rest, shape, begins, _, _⟩ := FilterSpan.standsIn_iff.mp stands
    rw [nowhere before back shape] at begins
    exact nomatch begins
  · intro nowhere front back shape
    cases begins : filterHere? back with
    | none => rfl
    | some found =>
      obtain ⟨position, rest⟩ := found
      have shorter : Text.octets rest ≤ Text.octets text := by
        have := octets_of_filterHere? begins
        rw [shape, Text.octets_append]
        omega
      exact absurd (FilterSpan.standsIn_iff.mpr ⟨front, back, rest, shape, begins, rfl, Nat.sub_add_cancel shorter⟩)
        (nowhere ⟨Text.octets front, Text.octets text - Text.octets rest, position⟩)

/-- The leftmost filter stands in the text, and none starts in front of it. -/
theorem spanBehind_standsIn {before rest : List Char} {position : Nat}
    (found : nextFilter? text = some (before, position, rest)) :
    (spanBehind [] text (before, position, rest)).StandsIn text ∧
      ∀ other : FilterSpan, other.StandsIn text → Text.octets before ≤ other.start := by
  have shorter := octets_of_nextFilter? found
  obtain ⟨back, shape, begins, leftmost⟩ := filterHere?_of_nextFilter? found
  refine ⟨FilterSpan.standsIn_iff.mpr ⟨before, back, rest, shape, begins, rfl, Nat.sub_add_cancel ?_⟩, ?_⟩
  · show Text.octets rest ≤ Text.octets text
    omega
  · intro other stands
    obtain ⟨front, behind, _, shapeToo, beginsToo, start, _⟩ := FilterSpan.standsIn_iff.mp stands
    have within : before.length ≤ front.length := by
      refine Nat.le_of_not_lt fun shorter => ?_
      rw [leftmost front behind shapeToo shorter] at beginsToo
      exact nomatch beginsToo
    -- both are fronts of the text, so the longer one begins with the other
    obtain ⟨between, rfl⟩ : before <+: front :=
      List.prefix_of_prefix_length_le ⟨back, shape.symm⟩ ⟨behind, shapeToo.symm⟩ within
    rw [start, Text.octets_append]
    exact Nat.le_add_right _ _

/-- To look from mark to mark finds the filter that stands leftmost. -/
theorem findFilter?_eq_some_iff : findFilter? text 0 = some (some filter) ↔
    filter.StandsIn text ∧ ∀ other : FilterSpan, other.StandsIn text → filter.start ≤ other.start := by
  have scanned : findFilter? text 0 = some ((nextFilter? text).map (spanBehind [] text)) := findFilter?_octets [] text
  rw [scanned, Option.some.injEq, Option.map_eq_some_iff]
  constructor
  · rintro ⟨⟨before, position, rest⟩, found, rfl⟩
    exact spanBehind_standsIn found
  · rintro ⟨stands, leftmost⟩
    cases found : nextFilter? text with
    | none => exact absurd stands (nextFilter?_eq_none_iff_standsIn.mp found filter)
    | some parts =>
      obtain ⟨before, position, rest⟩ := parts
      obtain ⟨standsToo, least⟩ := spanBehind_standsIn found
      have same : filter.start = Text.octets before :=
        Nat.le_antisymm (leftmost _ standsToo) (least filter stands)
      exact ⟨_, rfl, standsToo.unique stands same.symm⟩

/-- Each filter that a text is cut at takes six octets of it. -/
theorem length_pieces_le (text : List Char) : 6 * (pieces text).length ≤ Text.octets text + 6 := by
  induction text using pieces_induction with
  | whole text found =>
    rw [pieces_of_none found]
    simp
  | cut text before position rest found inductionHypothesis =>
    have shorter := octets_of_nextFilter? found
    rw [pieces_of_some found, List.length_cons]
    split
    · simp
    · omega

end

/-- The octets of a front of a text end on a boundary of characters. -/
theorem isValid_octets {text : String} {front back : List Char} (split : text.toList = front ++ back) :
    String.Pos.Raw.IsValid text ⟨Text.octets front⟩ := by
  refine String.Pos.Raw.isValid_iff_exists_append.mpr ⟨.ofList front, .ofList back, ?_, ?_⟩
  · rw [← String.ofList_append, ← split, String.ofList_toList]
  · exact congrArg String.Pos.Raw.mk (Text.octets_eq front)

/-- The scan of a selector ends at its leftmost positional filter, or finds none where none stands, and never cuts the
text inside of a character. What the selector goes on with behind a filter is shorter, so there are no more pieces than
there is room for filters. -/
theorem leftmost_filter_is_found (text : String) : ∃ found, findFilter? text.toList 0 = some found ∧
    (∀ filter, found = some filter ↔
      filter.StandsIn text.toList ∧ ∀ other : FilterSpan, other.StandsIn text.toList → filter.start ≤ other.start) ∧
    (found = none ↔ ∀ filter : FilterSpan, ¬ filter.StandsIn text.toList) ∧
    (∀ filter, found = some filter →
      String.Pos.Raw.IsValid text ⟨filter.start⟩ ∧ String.Pos.Raw.IsValid text ⟨filter.stop⟩ ∧
        ∃ before rest, Text.upTo? filter.start text.toList = some before ∧
          Text.behind? filter.stop text.toList = some rest ∧ Text.octets rest < text.utf8ByteSize ∧
          pieces text.toList = ⟨before, some filter.position⟩ :: if rest.isEmpty then [] else pieces rest) ∧
    (found = none → pieces text.toList = [⟨text.toList, none⟩]) ∧
    6 * (pieces text.toList).length ≤ text.utf8ByteSize + 6 := by
  have scanned : findFilter? text.toList 0 = some ((nextFilter? text.toList).map (spanBehind [] text.toList)) :=
    findFilter?_octets [] text.toList
  have size : Text.octets text.toList = text.utf8ByteSize := by rw [Text.octets_eq, String.ofList_toList]
  refine ⟨_, scanned, fun filter => ?_, ?_, fun filter found => ?_, fun unfound => ?_, ?_⟩
  · rw [← findFilter?_eq_some_iff, scanned, Option.some.injEq]
  · rw [Option.map_eq_none_iff, nextFilter?_eq_none_iff_standsIn]
  · obtain ⟨⟨before, position, rest⟩, next, rfl⟩ := Option.map_eq_some_iff.mp found
    obtain ⟨taken, shape, stop⟩ := exists_taken next
    have shapeToo : text.toList = before ++ taken ++ rest := by rw [shape, List.append_assoc]
    refine ⟨isValid_octets shape, ?_, before, rest, ?_, ?_, ?_, pieces_of_some next⟩
    · rw [stop]
      exact isValid_octets shapeToo
    · show Text.upTo? (Text.octets before) text.toList = some before
      rw [shape, Text.upTo?_octets]
    · rw [stop, shapeToo, Text.behind?_octets]
    · have shorter := octets_of_nextFilter? next
      omega
  · exact pieces_of_none (Option.map_eq_none_iff.mp unfound)
  · rw [← size]
    exact length_pieces_le text.toList

/-- A filter inside of a mark that opens none is found, behind a character of two octets. -/
example : findFilter? "é:eq(:eq(1)".toList 0 = some (some ⟨6, 12, 1⟩) := by decide +kernel

end Harvest.Selector
