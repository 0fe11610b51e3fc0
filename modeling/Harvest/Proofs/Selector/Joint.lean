import Harvest.Proofs.Markup.Inside
import Harvest.Proofs.Selector.Fuel

/-!
Contract: what two selectors read as that are joined with a blank.

A text is closed if neither a bracket nor a comment nor an escape at its end takes in a blank behind it. Behind a closed text and
a blank, a selector goes on with the last alternative of the text: its own first alternative becomes a descendant
of that one (`graft`), and its other alternatives stand beside it. `read?_joint` says so.
-/

namespace Harvest.Selector

open Markup

/-! ### Grafting -/

def graft (outer : Complex) : Complex → Complex
  | .compound tests => .related outer .descendant tests
  | .related left combinator tests => .related (graft outer left) combinator tests

/-- Compounds that are read behind a grafted selector are grafted with it. -/
theorem readRelated?_graft {fuel : Nat} {outer left read_ : Complex} {text rest : List Char}
    (read : readRelated? fuel left text = some (read_, rest)) :
    readRelated? fuel (graft outer left) text = some (graft outer read_, rest) := by
  induction fuel generalizing left text with
  | zero =>
    rw [readers_zero.2.2.1] at read
    exact nomatch read
  | succ fuel inductionHypothesis =>
    rcases readRelated?_cases read with ⟨ends, rfl, rfl⟩ | ⟨combinator, behind, found, further⟩
    · exact readRelated?_none ends fuel _
    · obtain ⟨⟨tests, between⟩, compound, later⟩ := Option.bind_eq_some_iff.mp further
      rw [readRelated?_some found]
      unfold followedBy
      rw [compound]
      have grafted := inductionHypothesis later
      exact grafted

/-! ### Behind a gap -/

theorem skipComments_nil : skipComments [] = [] :=
  skipComments_other fun _ same => nomatch same

theorem skipGap_nil : skipGap [] = [] :=
  skipGap_of_nil skipComments_nil

theorem skipGap_bracket : skipGap [')'] = [')'] :=
  skipGap_cons (by decide) (by decide) []

theorem skipComments_idem (text : List Char) : skipComments (skipComments text) = skipComments text := by
  induction text using skipComments.induct with
  | case1 rest _ inductionHypothesis =>
    rw [skipComments_open]
    exact inductionHypothesis
  | case2 text other =>
    have plain := skipComments_other fun rest => other rest
    rw [plain, plain]

theorem skipGap_idem (text : List Char) : skipGap (skipGap text) = skipGap text := by
  induction text using gap_induction with
  | ends text next => rw [skipGap_of_nil next, skipGap_nil]
  | visible text first rest next space =>
    have again := skipComments_idem text
    rw [next] at again
    rw [skipGap_of_visible next space, skipGap_of_visible again space]
  | spaced text first rest next space inductionHypothesis =>
    rw [skipGap_of_space next space]
    exact inductionHypothesis

theorem readCompound?_nil (fuel : Nat) : readCompound? fuel [] = none := by
  have stops : ∀ first rest, skipComments [] = first :: rest → first ∉ ['#', '.', '[', ':'] :=
    fun first rest same => nomatch skipComments_nil.symm.trans same
  match fuel with
  | 0 => rw [readCompound?]
  | 1 =>
    rw [readCompound?, skipGap_nil]
    rfl
  | fuel + 2 =>
    rw [readCompound?_succ]
    simp only [skipGap_nil, compoundReader, followedBy, show readType? [] = some ([], []) from rfl, Option.bind_some,
      readTests?_stop stops]
    rfl

/-- A compound begins, behind its gap, with a character that one may begin with. -/
theorem startsCompound_of_readCompound? {fuel : Nat} {text rest : List Char} {tests : List Simple}
    (read : readCompound? fuel text = some (tests, rest)) :
    ∃ first others, skipGap text = first :: others ∧ startsCompound first = true := by
  have again : readCompound? fuel (skipGap text) = some (tests, rest) := by
    cases fuel with
    | zero => rwa [readers_zero.2.1] at read ⊢
    | succ fuel =>
      rw [readCompound?_succ] at read ⊢
      simp only [skipGap_idem]
      exact read
  cases skipped : skipGap text with
  | nil =>
    rw [skipped, readCompound?_nil] at again
    exact nomatch again
  | cons first others =>
    refine ⟨first, others, rfl, ?_⟩
    cases starts : startsCompound first with
    | true => rfl
    | false =>
      rw [skipped, readCompound?_eq_none starts] at again
      exact nomatch again

theorem readCompound?_skipGap (fuel : Nat) (text : List Char) : readCompound? fuel (skipGap text) = readCompound? fuel text := by
  cases fuel with
  | zero => rw [readers_zero.2.1]
  | succ fuel =>
    rw [readCompound?_succ]
    simp only [skipGap_idem]

theorem combinatorAt?_descendant {first : Char} (starts : startsCompound first = true) (others : List Char) :
    combinatorAt? true (first :: others) = some (.descendant, first :: others) := by
  unfold combinatorAt?
  split
  case h_7 => rfl
  case h_4 same => exact nomatch same
  all_goals
    rename_i same
    obtain ⟨rfl, _⟩ := List.cons.inj same
    exact absurd starts (by decide)

/-! ### Closed texts -/

/-- A text is what a closed text leaves of a blank and a bracket behind it: the blank is still there, and nothing visible
stands in front of the bracket. -/
structure AtBlank (left : List Char) : Prop where
  blank : 1 < (skipComments left).length
  unseen : skipGap left = [')']

/-- A text is closed, and reads as alternatives, if it reads so both by itself and in front of a blank and a bracket, which
it leaves. -/
def ClosedAs (text : List Char) (options : List Complex) : Prop :=
  read? text = some ⟨options⟩ ∧
    ∃ left, readOptions? (2 * text.length + 8) (text ++ [' ', ')']) = some (options, left) ∧ AtBlank left

/-- Compounds leave no more than there was, as seen behind comments. -/
theorem length_readRelated?_le {fuel : Nat} {left read_ : Complex} {text rest : List Char}
    (read : readRelated? fuel left text = some (read_, rest)) :
    (skipComments rest).length ≤ (skipComments text).length := by
  induction fuel generalizing left text with
  | zero =>
    rw [readers_zero.2.2.1] at read
    exact nomatch read
  | succ fuel inductionHypothesis =>
    rcases readRelated?_cases read with ⟨_, _, rfl⟩ | ⟨combinator, behind, found, further⟩
    · exact Nat.le_refl _
    · obtain ⟨⟨tests, between⟩, compound, later⟩ := Option.bind_eq_some_iff.mp further
      calc (skipComments rest).length
          ≤ (skipComments between).length := inductionHypothesis later
        _ ≤ (skipGap behind).length := (steady_all (Nat.le_refl fuel)).compound.shrinks compound
        _ ≤ behind.length := length_skipGap_le behind
        _ ≤ (skipGap text).length := length_readCombinator?_le found
        _ ≤ (skipComments text).length := length_skipGap_le_skipComments text

/-- What alternatives are read from: a compound, those related to it, and further alternatives behind a comma. -/
theorem readOptions?_cases {fuel : Nat} {options : List Complex} {text rest : List Char}
    (read : readOptions? (fuel + 1) text = some (options, rest)) :
    ∃ tests between option behind, readCompound? fuel text = some (tests, between) ∧
      readRelated? fuel (.compound tests) between = some (option, behind) ∧
      nextOption (readOptions? fuel) option behind = some (options, rest) ∧
      (rest = behind ∧ options = [option] ∨
        ∃ further more, skipGap behind = ',' :: further ∧ readOptions? fuel further = some (more, rest) ∧
          options = option :: more) := by
  rw [readOptions?_succ] at read
  obtain ⟨⟨tests, between⟩, compound, later⟩ := Option.bind_eq_some_iff.mp read
  obtain ⟨⟨option, behind⟩, related, next⟩ := Option.bind_eq_some_iff.mp later
  refine ⟨tests, between, option, behind, compound, related, next, ?_⟩
  by_cases comma : (skipGap behind).head? = some ','
  · obtain ⟨further, shape⟩ := List.head?_eq_some_iff.mp comma
    rw [nextOption_comma shape] at next
    obtain ⟨⟨more, last⟩, read_, done⟩ := Option.bind_eq_some_iff.mp next
    cases done
    exact .inr ⟨further, more, shape, read_, rfl⟩
  · rw [nextOption_end comma] at next
    cases next
    exact .inl ⟨rfl, rfl⟩

/-- Alternatives leave less than there was, as seen behind comments. -/
theorem length_readOptions?_le {fuel : Nat} {options : List Complex} {text rest : List Char}
    (read : readOptions? fuel text = some (options, rest)) : (skipComments rest).length ≤ (skipGap text).length := by
  induction fuel generalizing options text with
  | zero =>
    rw [readers_zero.2.2.2] at read
    exact nomatch read
  | succ fuel inductionHypothesis =>
    obtain ⟨tests, between, option, behind, compound, related, _, cases_⟩ := readOptions?_cases read
    have before : (skipComments behind).length ≤ (skipGap text).length :=
      Nat.le_trans (length_readRelated?_le related) ((steady_all (Nat.le_refl fuel)).compound.shrinks compound)
    rcases cases_ with ⟨rfl, _⟩ | ⟨further, more, shape, later, _⟩
    · exact before
    · have shorter := length_skipGap_le_skipComments behind
      rw [shape, List.length_cons] at shorter
      have := inductionHypothesis later
      have := length_skipGap_le further
      omega

/-! ### The joint -/

/-- How a text is read as alternatives, step by step, with any fuel that is enough. -/
structure ReadsAs (enough : Nat) (text : List Char) (first : Complex) (others : List Complex) (rest : List Char) : Prop where
  steps : ∃ tests between behind, ∀ more, enough ≤ more →
    readCompound? more text = some (tests, between) ∧
      readRelated? more (.compound tests) between = some (first, behind) ∧
      ∀ option, nextOption (readOptions? more) option behind = some (option :: others, rest)

theorem nextOption_others {options : List Char → Option (List Complex × List Char)} {option : Complex}
    {text rest : List Char} {all : List Complex} (read : nextOption options option text = some (all, rest)) :
    ∃ others, all = option :: others ∧ ∀ other, nextOption options other text = some (other :: others, rest) := by
  by_cases comma : (skipGap text).head? = some ','
  · obtain ⟨behind, shape⟩ := List.head?_eq_some_iff.mp comma
    rw [nextOption_comma shape] at read
    obtain ⟨⟨others, last⟩, further, done⟩ := Option.bind_eq_some_iff.mp read
    cases done
    refine ⟨others, rfl, fun other => ?_⟩
    rw [nextOption_comma shape]
    unfold followedBy
    rw [further]
    rfl
  · rw [nextOption_end comma] at read
    cases read
    exact ⟨[], rfl, nextOption_end comma⟩

theorem readsAs_of_read {fuel : Nat} {text rest : List Char} {options : List Complex}
    (read : readOptions? fuel text = some (options, rest)) :
    ∃ first others, options = first :: others ∧ ReadsAs (2 * text.length + 2) text first others rest := by
  cases fuel with
  | zero =>
    rw [readers_zero.2.2.2] at read
    exact nomatch read
  | succ fuel =>
    obtain ⟨tests, between, first, behind, compound, related, next, _⟩ := readOptions?_cases read
    obtain ⟨others, shape, _⟩ := nextOption_others next
    have enough := enough_all fuel
    have shorter := (enough.compound (Nat.le_refl _)).shrinks (Nat.le_refl _) compound
    have less := (enough.related (Nat.le_refl _) _).shrinks shorter related
    refine ⟨first, others, shape, ⟨tests, between, behind, fun more covers => ⟨?_, ?_, fun option => ?_⟩⟩⟩
    · exact (enough.compound covers).repeats (Nat.le_refl _) compound
    · exact (enough.related (by omega) _).repeats shorter related
    · have repeated : Repeats text.length (nextOption (readOptions? fuel) first) (nextOption (readOptions? more) first) :=
        repeats_nextOption (fun size bound => enough.options (by omega)) first
      have again := repeated.repeats (Nat.le_trans less shorter) next
      obtain ⟨same, shapeAgain, each⟩ := nextOption_others again
      rw [shape] at shapeAgain
      cases shapeAgain
      exact each option

section

variable {enough : Nat} {text rest : List Char} {first : Complex} {others : List Complex}
  (reads : ReadsAs enough text first others rest)

include reads

/-- Behind the compounds of a closed text, a selector goes on as a descendant of them. -/
theorem readRelated?_joint {fuel : Nat} {left last : Complex} {front remains : List Char}
    (read : readRelated? fuel left (front ++ [' ', ')']) = some (last, remains)) (closed : AtBlank remains) :
    ∃ behind, ∀ more, enough + fuel ≤ more →
      readRelated? more left (front ++ ' ' :: text) = some (graft last first, behind) ∧
        ∀ option, nextOption (readOptions? more) option behind = some (option :: others, rest) := by
  obtain ⟨tests, between, behind, steps⟩ := reads.steps
  refine ⟨behind, fun more covers => ⟨?_, (steps more (by omega)).2.2⟩⟩
  induction fuel generalizing left front more with
  | zero =>
    rw [readers_zero.2.2.1] at read
    exact nomatch read
  | succ fuel inductionHypothesis =>
    obtain ⟨more, rfl⟩ := Nat.exists_eq_succ_of_ne_zero (n := more) (by omega)
    rcases skipGap_cases front with ⟨next, inner, _, _, same⟩ | goes | open_
    · have leaves : [')'].length < (skipGap (front ++ ' ' :: [')'])).length := by
        rw [same]
        simp
      rcases readCombinator?_append leaves with ⟨combinator, further, found⟩ | none_
      · rw [readRelated?_some (found [')'])] at read
        obtain ⟨⟨compound, left_⟩, here, later⟩ := Option.bind_eq_some_iff.mp read
        have seen := Nat.lt_of_lt_of_le closed.blank (length_readRelated?_le later)
        obtain ⟨behindCompound, shape, again⟩ := (steady_all (show fuel ≤ more by omega)).compound.settled here seen
        simp only [shape] at later
        rw [readRelated?_some (found text)]
        unfold followedBy
        rw [again text]
        exact inductionHypothesis later more (by omega)
      · rw [readRelated?_none (none_ [')'])] at read
        cases read
        have unseen := closed.unseen
        rw [same] at unseen
        exact absurd (congrArg List.length unseen) (by simp)
    · have ends : readCombinator? (front ++ [' ', ')']) = none := by
        rw [readCombinator?_eq, (goes [')']).1, (goes [')']).2, skipGap_bracket]
        rfl
      rw [readRelated?_none ends] at read
      cases read
      obtain ⟨compound, related, _⟩ := steps more (by omega)
      obtain ⟨begin_, behind_, shape, starts⟩ := startsCompound_of_readCompound? compound
      have found : readCombinator? (front ++ ' ' :: text) = some (.descendant, skipGap text) := by
        rw [readCombinator?_eq, (goes text).1, (goes text).2, shape]
        exact combinatorAt?_descendant starts behind_
      rw [readRelated?_some found]
      unfold followedBy
      rw [readCompound?_skipGap, compound]
      exact readRelated?_graft related
    · have nothing : skipGap (front ++ [' ', ')']) = [] := by
        rw [open_, show afterComment [')'] = [] from rfl, skipGap_nil]
      have ends : readCombinator? (front ++ [' ', ')']) = none := by
        rw [readCombinator?_eq, nothing]
        rfl
      rw [readRelated?_none ends] at read
      cases read
      exact absurd (nothing.symm.trans closed.unseen) (List.cons_ne_nil _ _).symm

/-- Behind the alternatives of a closed text, a selector goes on with the last of them. -/
theorem readOptions?_joint {fuel : Nat} {options : List Complex} {front remains : List Char}
    (read : readOptions? fuel (front ++ [' ', ')']) = some (options, remains)) (closed : AtBlank remains) :
    ∃ before last, options = before ++ [last] ∧ ∀ more, enough + fuel ≤ more →
      readOptions? more (front ++ ' ' :: text) = some (before ++ graft last first :: others, rest) := by
  induction fuel generalizing options front with
  | zero =>
    rw [readers_zero.2.2.2] at read
    exact nomatch read
  | succ fuel inductionHypothesis =>
    obtain ⟨tests, between, option, behind, compound, related, next, cases_⟩ := readOptions?_cases read
    have seenBehind : 1 < (skipComments behind).length := by
      rcases cases_ with ⟨rfl, _⟩ | ⟨further, more, shape, later, _⟩
      · exact closed.blank
      · have shorter := length_skipGap_le_skipComments behind
        rw [shape, List.length_cons] at shorter
        have := Nat.lt_of_lt_of_le closed.blank (length_readOptions?_le later)
        have := length_skipGap_le further
        omega
    have seen := Nat.lt_of_lt_of_le seenBehind (length_readRelated?_le related)
    obtain ⟨inner, rfl, _⟩ := (steady_all (Nat.le_refl fuel)).compound.settled compound seen
    have compounds : ∀ more, fuel ≤ more → readCompound? more (front ++ ' ' :: text) = some (tests, inner ++ ' ' :: text) := by
      intro more less
      obtain ⟨same, shape, again⟩ := (steady_all less).compound.settled compound seen
      rw [again text, List.append_cancel_right shape]
    rcases cases_ with ⟨rfl, rfl⟩ | ⟨further, options, shape, later, rfl⟩
    · obtain ⟨last, goes⟩ := readRelated?_joint reads related closed
      refine ⟨[], option, rfl, fun more covers => ?_⟩
      obtain ⟨more, rfl⟩ := Nat.exists_eq_succ_of_ne_zero (n := more) (by omega)
      obtain ⟨relatedAgain, nextAgain⟩ := goes more (by omega)
      rw [readOptions?_succ]
      unfold followedBy
      simp only [compounds more (by omega), Option.bind_some, relatedAgain]
      exact nextAgain _
    · have leaves : 1 < (skipGap behind).length := by
        have := Nat.lt_of_lt_of_le closed.blank (length_readOptions?_le later)
        have := length_skipGap_le further
        rw [shape, List.length_cons]
        omega
      obtain ⟨left, rfl, _⟩ := ((steady_all (Nat.le_refl fuel)).related _).settled related leaves
      obtain ⟨comma, front_, _, _, skipped⟩ := skipGap_append (show [')'].length < _ from leaves)
      obtain ⟨rfl, rfl⟩ := List.cons.inj ((skipped [')']).symm.trans shape)
      obtain ⟨before, last, rfl, goes⟩ := inductionHypothesis later
      refine ⟨option :: before, last, rfl, fun more covers => ?_⟩
      obtain ⟨more, rfl⟩ := Nat.exists_eq_succ_of_ne_zero (n := more) (by omega)
      obtain ⟨same, shapeAgain, again⟩ := ((steady_all (show fuel ≤ more by omega)).related _).settled related leaves
      rw [readOptions?_succ]
      unfold followedBy
      simp only [compounds more (by omega), Option.bind_some, again text, ← List.append_cancel_right shapeAgain]
      rw [nextOption_comma (show skipGap (left ++ ' ' :: text) = ',' :: (front_ ++ ' ' :: text) from skipped text)]
      unfold followedBy
      rw [goes more (by omega)]
      rfl

end

/-- A closed text and a selector behind a blank read as the alternatives of both, the last of the one and the first of the
other made one. -/
theorem read?_joint {text more : List Char} {options : List Complex} (closed : ClosedAs text options)
    {selector : Selector} (read : read? more = some selector) :
    ∃ before last first others, options = before ++ [last] ∧ selector.options = first :: others ∧
      read? (text ++ ' ' :: more) = some ⟨before ++ graft last first :: others⟩ := by
  obtain ⟨_, left, readClosed, atBlank⟩ := closed
  unfold read? at read
  split at read
  case h_2 => exact nomatch read
  case h_1 readMore rest here =>
    split at read
    case isFalse => exact nomatch read
    case isTrue ends =>
      cases read
      obtain ⟨first, others, rfl, reads⟩ := readsAs_of_read here
      obtain ⟨before, last, rfl, joint⟩ := readOptions?_joint reads readClosed atBlank
      refine ⟨before, last, first, others, rfl, rfl, ?_⟩
      have whole := ((enough_all _).options (Nat.le_succ (2 * (text ++ ' ' :: more).length + 3))).repeats (Nat.le_refl _)
        (joint _ (Nat.le_refl _))
      unfold read?
      rw [whole]
      exact if_pos ends

/-! ### What a graft holds of -/

theorem parent?_of_mem_siblings {document : Document} {node sibling : Nat} (member : sibling ∈ siblings document node) :
    document.parent? sibling = document.parent? node := by
  unfold siblings at member
  cases lies : document.parent? node with
  | none =>
    rw [lies] at member
    rw [List.mem_singleton.mp member, lies]
  | some parent =>
    rw [lies] at member
    exact Document.mem_children.mp (List.mem_filter.mp member).1

/-- An element lies inside what its sources by a combinator lie inside. -/
theorem isInside_of_mem_sources {document : Document} {combinator : Combinator} {node source outer : Nat}
    (member : source ∈ combinator.sources document node) (inside : document.isInside source outer = true) :
    document.isInside node outer = true := by
  have above : source ∈ document.ancestors node → document.isInside node outer = true :=
    fun ancestor => Document.isInside_trans (List.contains_iff_mem.mpr ancestor) inside
  have beside : source ∈ earlierSiblings document node → document.isInside node outer = true := by
    intro earlier
    have sibling := List.takeWhile_subset _ (List.mem_reverse.mp earlier)
    exact Document.isInside_of_sameParent (parent?_of_mem_siblings sibling).symm inside
  cases combinator with
  | descendant => exact above (List.mem_filter.mp member).1
  | child => exact above (List.mem_of_mem_take (List.mem_filter.mp member).1)
  | nextSibling => exact beside (List.mem_of_mem_take member)
  | laterSibling => exact beside member

/-- What a grafted selector holds of lies inside an element that the outer one holds of. -/
theorem holds_graft {document : Document} {scope : Option Nat} {outer inner : Complex} {node : Nat}
    (holds : (graft outer inner).holds document scope node = true) :
    ∃ above, document.isInside node above = true ∧ outer.holds document scope above = true := by
  match inner with
  | .compound tests =>
    rw [graft, Complex.holds, Bool.and_eq_true] at holds
    obtain ⟨above, member, met⟩ := List.any_eq_true.mp holds.2
    exact ⟨above, List.contains_iff_mem.mpr (List.mem_filter.mp member).1, met⟩
  | .related left combinator tests =>
    rw [graft, Complex.holds, Bool.and_eq_true] at holds
    obtain ⟨source, member, met⟩ := List.any_eq_true.mp holds.2
    obtain ⟨above, inside, meets⟩ := holds_graft met
    exact ⟨above, isInside_of_mem_sources member inside, meets⟩

theorem anyOption_iff {document : Document} {scope : Option Nat} {node : Nat} {options : List Complex} :
    anyOption document scope node options = true ↔ ∃ option ∈ options, option.holds document scope node = true := by
  induction options with
  | nil => simp [anyOption]
  | cons option options inductionHypothesis =>
    rw [anyOption, Bool.or_eq_true, inductionHypothesis]
    simp

end Harvest.Selector
