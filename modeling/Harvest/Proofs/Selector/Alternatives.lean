import Harvest.Proofs.Selector.Compounds

/-!
Contract: alternatives are read steadily.

The readers of tests, compounds, related compounds and alternatives call each other with less fuel. What they have read in
front of the blank they read again whatever follows it, with no less fuel (`steady_all`).
-/

namespace Harvest.Selector

open Markup

/-! ### The readers as sequences -/

/-- Without fuel nothing is read. -/
theorem readers_zero :
    readTests? 0 = (fun _ => none) ∧ readCompound? 0 = (fun _ => none) ∧ (∀ left, readRelated? 0 left = fun _ => none) ∧
      readOptions? 0 = fun _ => none := by
  refine ⟨funext fun text => ?_, funext fun text => ?_, fun left => funext fun text => ?_, funext fun text => ?_⟩
  · rw [readTests?]
  · rw [readCompound?]
  · rw [readRelated?]
  · rw [readOptions?]

/-- Tests end where none begins, or begin with one and go on with its reader. -/
theorem readTests?_cases {fuel : Nat} {text left : List Char} {tests : List Simple}
    (read : readTests? (fuel + 1) text = some (tests, left)) :
    ((∀ first rest, skipComments text = first :: rest → first ∉ ['#', '.', '[', ':']) ∧ tests = [] ∧ left = text) ∨
      ∃ first rest reader, skipComments text = first :: rest ∧
        testReader? (readTests? fuel) (readOptions? fuel) first = some reader ∧ reader rest = some (tests, left) := by
  by_cases begins : ∃ first rest reader, skipComments text = first :: rest ∧
      testReader? (readTests? fuel) (readOptions? fuel) first = some reader
  · obtain ⟨first, rest, reader, next, begins⟩ := begins
    exact .inr ⟨first, rest, reader, next, begins, (readTests?_of_reader next begins).symm.trans read⟩
  · have stops : ∀ first rest, skipComments text = first :: rest → first ∉ ['#', '.', '[', ':'] := fun first rest next =>
      testReader?_eq_none (Option.eq_none_iff_forall_ne_some.mpr fun reader is => begins ⟨first, rest, reader, next, is⟩)
    rw [readTests?_stop stops] at read
    cases read
    exact .inl ⟨stops, rfl, rfl⟩

def compoundOf (front tests : List Simple) (text : List Char) : Option (List Simple × List Char) :=
  if front.isEmpty && tests.isEmpty then none else some (front ++ tests, text)

/-- A compound at the front of a text, given how tests are read. -/
def compoundReader (tests : List Char → Option (List Simple × List Char)) : List Char → Option (List Simple × List Char) :=
  followedBy readType? fun front => followedBy tests (compoundOf front)

theorem readCompound?_succ (fuel : Nat) :
    readCompound? (fuel + 1) = fun text => compoundReader (readTests? fuel) (skipGap text) := by
  funext text
  rw [readCompound?]
  rfl

theorem readRelated?_none {text : List Char} (none_ : readCombinator? text = none) (fuel : Nat) (left : Complex) :
    readRelated? (fuel + 1) left text = some (left, text) := by
  rw [readRelated?, none_]

theorem readRelated?_some {text rest : List Char} {combinator : Combinator}
    (found : readCombinator? text = some (combinator, rest)) (fuel : Nat) (left : Complex) :
    readRelated? (fuel + 1) left text =
      followedBy (readCompound? fuel) (fun tests => readRelated? fuel (.related left combinator tests)) rest := by
  rw [readRelated?, found]
  rfl

/-- Related compounds end where there is no combinator, or go on with the compound behind one. -/
theorem readRelated?_cases {fuel : Nat} {left value : Complex} {text rest : List Char}
    (read : readRelated? (fuel + 1) left text = some (value, rest)) :
    (readCombinator? text = none ∧ value = left ∧ rest = text) ∨
      ∃ combinator behind, readCombinator? text = some (combinator, behind) ∧
        followedBy (readCompound? fuel) (fun tests => readRelated? fuel (.related left combinator tests)) behind =
          some (value, rest) := by
  cases found : readCombinator? text with
  | none =>
    rw [readRelated?_none found] at read
    cases read
    exact .inl ⟨rfl, rfl, rfl⟩
  | some combined =>
    obtain ⟨combinator, behind⟩ := combined
    rw [readRelated?_some found] at read
    exact .inr ⟨combinator, behind, rfl, read⟩

/-- What stands behind an alternative: nothing more, or a comma and further alternatives. -/
def nextOption (options : List Char → Option (List Complex × List Char)) (option : Complex) (text : List Char) :
    Option (List Complex × List Char) :=
  match skipGap text with
  | ',' :: rest => followedBy options (fun options rest => some (option :: options, rest)) rest
  | _ => some ([option], text)

theorem readOptions?_succ (fuel : Nat) :
    readOptions? (fuel + 1) =
      followedBy (readCompound? fuel) fun tests =>
        followedBy (readRelated? fuel (.compound tests)) (nextOption (readOptions? fuel)) := by
  funext text
  rw [readOptions?]
  rfl

theorem nextOption_comma {options : List Char → Option (List Complex × List Char)} {text rest : List Char}
    (comma : skipGap text = ',' :: rest) (option : Complex) :
    nextOption options option text = followedBy options (fun options rest => some (option :: options, rest)) rest := by
  unfold nextOption
  rw [comma]
  rfl

theorem nextOption_end {options : List Char → Option (List Complex × List Char)} {text : List Char}
    (ends : (skipGap text).head? ≠ some ',') (option : Complex) : nextOption options option text = some ([option], text) := by
  unfold nextOption
  split
  · rename_i rest comma
    rw [comma] at ends
    exact absurd rfl ends
  · rfl

/-! ### Steadiness -/

theorem steady_compoundOf (front tests : List Simple) :
    Steady skipComments skipComments (compoundOf front tests) (compoundOf front tests) := by
  unfold compoundOf
  split
  · exact Steady.fail _ _ _
  · exact Steady.done skipComments _

theorem steady_nextOption {options optionsAgain : List Char → Option (List Complex × List Char)}
    (steady : Steady skipGap skipGap options optionsAgain) (option : Complex) :
    Steady skipGap skipGap (nextOption options option) (nextOption optionsAgain option) := by
  have further : Steady id skipGap (followedBy options fun options rest => some (option :: options, rest))
      (followedBy optionsAgain fun options rest => some (option :: options, rest)) :=
    (steady.followedBy fun _ => Steady.done skipGap _).weaken length_skipGap_le fun _ => Nat.le_refl _
  have shrinks : ∀ {text left : List Char} {value : List Complex}, nextOption options option text = some (value, left) →
      (skipGap left).length ≤ (skipGap text).length := by
    intro text left value read
    by_cases comma : (skipGap text).head? = some ','
    · obtain ⟨rest, shape⟩ := List.head?_eq_some_iff.mp comma
      rw [nextOption_comma shape] at read
      rw [shape]
      exact Nat.le_succ_of_le (further.shrinks read)
    · rw [nextOption_end comma] at read
      cases read
      exact Nat.le_refl _
  refine ⟨shrinks, ?_⟩
  intro front following left value read leaves
  obtain ⟨first, inner, _, _, same⟩ := skipGap_append (Nat.lt_of_lt_of_le leaves (shrinks read))
  by_cases comma : first = ','
  · subst comma
    rw [nextOption_comma (same following)] at read
    obtain ⟨rest, shape, again⟩ := further.settled read leaves
    exact ⟨rest, shape, fun other => (nextOption_comma (same other) option).trans (again other)⟩
  · have ends : ∀ other, (skipGap (front ++ ' ' :: other)).head? ≠ some ',' := by
      intro other
      rw [same other]
      exact fun head => comma (Option.some.inj head)
    rw [nextOption_end (ends following)] at read
    cases read
    exact ⟨front, rfl, fun other => nextOption_end (ends other) option⟩

/-- All readers are steady with some fuel, and read again with more. -/
structure SteadyAll (fuel more : Nat) : Prop where
  tests : Steady skipComments skipComments (readTests? fuel) (readTests? more)
  compound : Steady skipGap skipComments (readCompound? fuel) (readCompound? more)
  related : ∀ left, Steady skipGap skipGap (readRelated? fuel left) (readRelated? more left)
  options : Steady skipGap skipGap (readOptions? fuel) (readOptions? more)

namespace SteadyAll

variable {fuel more : Nat}

theorem tests_succ (steady : SteadyAll fuel more) :
    Steady skipComments skipComments (readTests? (fuel + 1)) (readTests? (more + 1)) := by
  have tests := steady.tests.weaken length_skipComments_le fun _ => Nat.le_refl _
  have options := steady.options.weaken length_skipGap_le fun _ => Nat.le_refl _
  have shrinks : ∀ {text left : List Char} {value : List Simple}, readTests? (fuel + 1) text = some (value, left) →
      (skipComments left).length ≤ (skipComments text).length := by
    intro text left value read
    rcases readTests?_cases read with ⟨_, _, rfl⟩ | ⟨first, rest, reader, next, begins, later⟩
    · exact Nat.le_refl _
    · obtain ⟨_, _, steadyReader⟩ := steady_testReader? tests options begins
      rw [next]
      exact Nat.le_succ_of_le (steadyReader.shrinks later)
  refine ⟨shrinks, ?_⟩
  intro front following left value read leaves
  obtain ⟨rest, _, same⟩ := settled_skipComments (Nat.lt_of_lt_of_le leaves (shrinks read))
  have stays : (∀ other first rest, skipComments (front ++ ' ' :: other) = first :: rest → first ∉ ['#', '.', '[', ':']) →
      ∃ rest, left = rest ++ ' ' :: following ∧
        ∀ other, readTests? (more + 1) (front ++ ' ' :: other) = some (value, rest ++ ' ' :: other) := by
    intro stops
    rw [readTests?_stop (stops following)] at read
    cases read
    exact ⟨front, rfl, fun other => readTests?_stop (stops other) more⟩
  cases rest with
  | nil =>
    refine stays fun other first rest next member => ?_
    cases (same other).symm.trans next
    exact absurd member (by decide)
  | cons first rest =>
    cases begins : testReader? (readTests? fuel) (readOptions? fuel) first with
    | none =>
      refine stays fun other second behind next => ?_
      cases (same other).symm.trans next
      exact testReader?_eq_none begins
    | some reader =>
      obtain ⟨again, beginsAgain, steadyReader⟩ := steady_testReader? tests options begins
      rw [readTests?_of_reader (same following) begins] at read
      obtain ⟨last, shape, readsAgain⟩ := steadyReader.settled read leaves
      exact ⟨last, shape, fun other => (readTests?_of_reader (same other) beginsAgain).trans (readsAgain other)⟩

theorem compound_succ (steady : SteadyAll fuel more) :
    Steady skipGap skipComments (readCompound? (fuel + 1)) (readCompound? (more + 1)) := by
  have tests := steady.tests.weaken length_skipComments_le fun _ => Nat.le_refl _
  have compound : Steady id skipComments (compoundReader (readTests? fuel)) (compoundReader (readTests? more)) :=
    steady_readType?.followedBy fun front => tests.followedBy (steady_compoundOf front)
  rw [readCompound?_succ, readCompound?_succ]
  exact compound.skip settled_skipGap fun _ => Nat.le_refl _

theorem related_succ (steady : SteadyAll fuel more) (left : Complex) :
    Steady skipGap skipGap (readRelated? (fuel + 1) left) (readRelated? (more + 1) left) := by
  have further : ∀ combinator, Steady id skipGap
      (followedBy (readCompound? fuel) fun tests => readRelated? fuel (.related left combinator tests))
      (followedBy (readCompound? more) fun tests => readRelated? more (.related left combinator tests)) := by
    intro combinator
    have compound := steady.compound.weaken length_skipGap_le fun _ => Nat.le_refl _
    exact compound.followedBy fun tests =>
      (steady.related _).weaken length_skipGap_le_skipComments fun _ => Nat.le_refl _
  have shrinks : ∀ {text rest : List Char} {value : Complex}, readRelated? (fuel + 1) left text = some (value, rest) →
      (skipGap rest).length ≤ (skipGap text).length := by
    intro text rest value read
    rcases readRelated?_cases read with ⟨_, _, rfl⟩ | ⟨combinator, behind, found, later⟩
    · exact Nat.le_refl _
    · exact Nat.le_trans ((further combinator).shrinks later) (length_readCombinator?_le found)
  refine ⟨shrinks, ?_⟩
  intro front following rest value read leaves
  rcases readCombinator?_append (Nat.lt_of_lt_of_le leaves (shrinks read)) with ⟨combinator, behind, found⟩ | none_
  · rw [readRelated?_some (found following)] at read
    obtain ⟨last, shape, again⟩ := (further combinator).settled read leaves
    exact ⟨last, shape, fun other => (readRelated?_some (found other) more left).trans (again other)⟩
  · rw [readRelated?_none (none_ following)] at read
    cases read
    exact ⟨front, rfl, fun other => readRelated?_none (none_ other) more left⟩

theorem options_succ (steady : SteadyAll fuel more) :
    Steady skipGap skipGap (readOptions? (fuel + 1)) (readOptions? (more + 1)) := by
  rw [readOptions?_succ, readOptions?_succ]
  exact steady.compound.followedBy fun tests =>
    ((steady.related _).weaken length_skipGap_le_skipComments fun _ => Nat.le_refl _).followedBy
      (steady_nextOption steady.options)

end SteadyAll

theorem steady_all {fuel more : Nat} (less : fuel ≤ more) : SteadyAll fuel more := by
  induction fuel generalizing more with
  | zero =>
    obtain ⟨tests, compound, related, options⟩ := readers_zero
    refine ⟨?_, ?_, fun left => ?_, ?_⟩
    · exact tests ▸ Steady.fail _ _ _
    · exact compound ▸ Steady.fail _ _ _
    · exact related left ▸ Steady.fail _ _ _
    · exact options ▸ Steady.fail _ _ _
  | succ fuel inductionHypothesis =>
    cases more with
    | zero => exact absurd less (by omega)
    | succ more =>
      have steady := inductionHypothesis (Nat.le_of_succ_le_succ less)
      exact ⟨steady.tests_succ, steady.compound_succ, steady.related_succ, steady.options_succ⟩

end Harvest.Selector
