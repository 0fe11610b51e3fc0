import Harvest.Proofs.Selector.Alternatives

/-!
Contract: alternatives are read with any fuel that is enough.

A reader spends fuel when it calls another, and between two calls with one length of the rest there are at most two steps. What
is read of a text at all is therefore read with any fuel that covers its length twice (`enough_all`).
-/

namespace Harvest.Selector

open Markup

/-! ### Reading again -/

/-- A reader that leaves no more than there was, and a reader that reads the same again of texts up to a size. -/
structure Repeats {α : Type} (size : Nat) (reader again : List Char → Option (α × List Char)) : Prop where
  shrinks : ∀ {text left : List Char} {value : α}, text.length ≤ size → reader text = some (value, left) →
    left.length ≤ text.length
  repeats : ∀ {text left : List Char} {value : α}, text.length ≤ size → reader text = some (value, left) →
    again text = some (value, left)

namespace Repeats

variable {α β : Type} {size : Nat}

theorem same {reader : List Char → Option (α × List Char)}
    (shrinks : ∀ {text left : List Char} {value : α}, reader text = some (value, left) → left.length ≤ text.length) :
    Repeats size reader reader :=
  ⟨fun _ read => shrinks read, fun _ read => read⟩

theorem done (value : α) : Repeats size (fun text => some (value, text)) fun text => some (value, text) := by
  refine same fun read => ?_
  cases read
  exact Nat.le_refl _

theorem fail (again : List Char → Option (α × List Char)) : Repeats size (fun _ => none) again :=
  ⟨(fun _ read => nomatch read), (fun _ read => nomatch read)⟩

theorem smaller {reader again : List Char → Option (α × List Char)} (repeated : Repeats size reader again) {less : Nat}
    (bound : less ≤ size) : Repeats less reader again :=
  ⟨fun fits read => repeated.shrinks (Nat.le_trans fits bound) read,
    fun fits read => repeated.repeats (Nat.le_trans fits bound) read⟩

theorem followedBy {first again : List Char → Option (α × List Char)} {next nextAgain : α → List Char → Option (β × List Char)}
    (head : Repeats size first again) (tail : ∀ value, Repeats size (next value) (nextAgain value)) :
    Repeats size (Selector.followedBy first next) (Selector.followedBy again nextAgain) where
  shrinks := by
    intro text left value fits read
    obtain ⟨⟨between, rest⟩, here, later⟩ := Option.bind_eq_some_iff.mp read
    have shorter := head.shrinks fits here
    exact Nat.le_trans ((tail between).shrinks (Nat.le_trans shorter fits) later) shorter
  repeats := by
    intro text left value fits read
    obtain ⟨⟨between, rest⟩, here, later⟩ := Option.bind_eq_some_iff.mp read
    have shorter := head.shrinks fits here
    unfold Selector.followedBy
    rw [head.repeats fits here]
    exact (tail between).repeats (Nat.le_trans shorter fits) later

theorem close {next again : List Char → Option (α × List Char)} (tail : Repeats size next again) (bracket : Char) :
    Repeats size (fun text => (readClose? bracket text).bind next) fun text => (readClose? bracket text).bind again where
  shrinks := by
    intro text left value fits read
    obtain ⟨rest, closes, later⟩ := Option.bind_eq_some_iff.mp read
    have shorter := Nat.le_trans (length_readClose?_le closes) (length_skipGap_le text)
    exact Nat.le_trans (tail.shrinks (Nat.le_trans shorter fits) later) shorter
  repeats := by
    intro text left value fits read
    obtain ⟨rest, closes, later⟩ := Option.bind_eq_some_iff.mp read
    have shorter := Nat.le_trans (length_readClose?_le closes) (length_skipGap_le text)
    simp only [closes, Option.bind_some]
    exact tail.repeats (Nat.le_trans shorter fits) later

end Repeats

section

variable {size : Nat} {tests testsAgain : List Char → Option (List Simple × List Char)}
  {options optionsAgain : List Char → Option (List Complex × List Char)}
  (repeatedTests : Repeats size tests testsAgain) (repeatedOptions : ∀ less < size, Repeats less options optionsAgain)

include repeatedTests

theorem repeats_testsBehind (found : List Simple) :
    Repeats size (testsBehind tests found) (testsBehind testsAgain found) :=
  repeatedTests.followedBy fun _ => Repeats.done _

include repeatedOptions

theorem repeats_readFunction? {less : Nat} (bound : less < size) (name : List Char) :
    Repeats less (readFunction? tests options name) (readFunction? testsAgain optionsAgain name) := by
  have closed : ∀ found, Repeats less (fun text => (readClose? ')' text).bind (testsBehind tests found))
      fun text => (readClose? ')' text).bind (testsBehind testsAgain found) :=
    fun found => ((repeats_testsBehind repeatedTests found).smaller (Nat.le_of_lt bound)).close ')'
  unfold readFunction?
  by_cases negated : name = "not".toList
  · simp only [negated, if_true]
    exact (repeatedOptions less bound).followedBy fun _ => closed _
  · simp only [negated, if_false]
    cases countedTest? name with
    | none => exact Repeats.fail _
    | some counted => exact (Repeats.same length_readOrdinal?_le).followedBy fun _ => closed _

theorem repeats_readPseudo? (name : List Char) :
    Repeats size (readPseudo? tests options name) (readPseudo? testsAgain optionsAgain name) := by
  have function := fun less (bound : less < size) =>
    repeats_readFunction? repeatedTests repeatedOptions bound name
  refine ⟨?_, ?_⟩
  · intro text left value fits read
    by_cases bracket : ∃ rest, text = '(' :: rest
    · obtain ⟨rest, rfl⟩ := bracket
      exact Nat.le_succ_of_le ((function rest.length fits).shrinks (Nat.le_refl _) read)
    · rw [readPseudo?_name fun rest same => bracket ⟨rest, same⟩] at read
      cases known : namedTests? name with
      | none =>
        rw [known] at read
        cases read
      | some named =>
        rw [known] at read
        exact (repeats_testsBehind repeatedTests named).shrinks fits read
  · intro text left value fits read
    by_cases bracket : ∃ rest, text = '(' :: rest
    · obtain ⟨rest, rfl⟩ := bracket
      exact (function rest.length fits).repeats (Nat.le_refl _) read
    · rw [readPseudo?_name fun rest same => bracket ⟨rest, same⟩] at read ⊢
      cases known : namedTests? name with
      | none =>
        rw [known] at read
        cases read
      | some named =>
        rw [known] at read
        exact (repeats_testsBehind repeatedTests named).repeats fits read

/-- A test is read by the same reader again. -/
theorem repeats_testReader? {first : Char} {reader : List Char → Option (List Simple × List Char)}
    (begins : testReader? tests options first = some reader) :
    ∃ again, testReader? testsAgain optionsAgain first = some again ∧ Repeats size reader again := by
  have named : ∀ make : String → Simple,
      Repeats size (followedBy readName? fun name => testsBehind tests [make name])
        (followedBy readName? fun name => testsBehind testsAgain [make name]) :=
    fun make => (Repeats.same steady_readName?.shrinks).followedBy fun name => repeats_testsBehind repeatedTests _
  rcases testReader?_cases begins with ⟨rfl, rfl⟩ | ⟨rfl, rfl⟩ | ⟨rfl, rfl⟩ | ⟨rfl, rfl⟩
  · exact ⟨_, rfl, named .identity⟩
  · exact ⟨_, rfl, named .className⟩
  · exact ⟨_, rfl, (Repeats.same steady_readAttribute?.shrinks).followedBy fun test => repeats_testsBehind repeatedTests _⟩
  · exact ⟨_, rfl, (Repeats.same steady_readName?.shrinks).followedBy fun name =>
      repeats_readPseudo? repeatedTests repeatedOptions _⟩

end

theorem repeats_nextOption {size : Nat} {options optionsAgain : List Char → Option (List Complex × List Char)}
    (repeated : ∀ less < size, Repeats less options optionsAgain) (option : Complex) :
    Repeats size (nextOption options option) (nextOption optionsAgain option) := by
  have further : ∀ less < size, Repeats less (followedBy options fun options rest => some (option :: options, rest))
      (followedBy optionsAgain fun options rest => some (option :: options, rest)) :=
    fun less bound => (repeated less bound).followedBy fun _ => Repeats.done _
  have shorter : ∀ {text rest : List Char}, skipGap text = ',' :: rest → rest.length < text.length := by
    intro text rest shape
    have bound := length_skipGap_le text
    rw [shape, List.length_cons] at bound
    exact bound
  refine ⟨?_, ?_⟩
  · intro text left value fits read
    by_cases comma : (skipGap text).head? = some ','
    · obtain ⟨rest, shape⟩ := List.head?_eq_some_iff.mp comma
      rw [nextOption_comma shape] at read
      have less := shorter shape
      exact Nat.le_trans ((further rest.length (Nat.lt_of_lt_of_le less fits)).shrinks (Nat.le_refl _) read)
        (Nat.le_of_lt less)
    · rw [nextOption_end comma] at read
      cases read
      exact Nat.le_refl _
  · intro text left value fits read
    by_cases comma : (skipGap text).head? = some ','
    · obtain ⟨rest, shape⟩ := List.head?_eq_some_iff.mp comma
      rw [nextOption_comma shape] at read ⊢
      exact (further rest.length (Nat.lt_of_lt_of_le (shorter shape) fits)).repeats (Nat.le_refl _) read
    · rw [nextOption_end comma] at read ⊢
      exact read

/-! ### What a combinator takes -/

theorem startsWithGap_of_nil {text : List Char} (next : skipComments text = []) : startsWithGap text = false := by
  unfold startsWithGap
  rw [gap, next]

theorem length_skipGap_lt {text : List Char} (spaced : startsWithGap text = true) :
    (skipGap text).length < text.length := by
  have shorter := length_skipComments_le text
  cases next : skipComments text with
  | nil =>
    rw [startsWithGap_of_nil next] at spaced
    exact nomatch spaced
  | cons first rest =>
    rw [startsWithGap_eq next] at spaced
    rw [skipGap_of_space next spaced]
    rw [next, List.length_cons] at shorter
    exact Nat.lt_of_le_of_lt (length_skipGap_le rest) shorter

theorem length_combinatorAt?_lt {text left : List Char} {combinator : Combinator}
    (read : combinatorAt? false text = some (combinator, left)) : left.length < text.length := by
  unfold combinatorAt? at read
  split at read
  case h_4 => exact nomatch read
  case h_5 => exact nomatch read
  case h_6 => exact nomatch read
  case h_7 => exact nomatch read
  all_goals
    cases read
    exact Nat.lt_succ_self _

/-- A combinator takes something of the text. -/
theorem length_readCombinator?_lt {text left : List Char} {combinator : Combinator}
    (read : readCombinator? text = some (combinator, left)) : left.length < text.length := by
  rw [readCombinator?_eq] at read
  cases spaced : startsWithGap text with
  | true => exact Nat.lt_of_le_of_lt (length_combinatorAt?_le read) (length_skipGap_lt spaced)
  | false =>
    rw [spaced] at read
    exact Nat.lt_of_lt_of_le (length_combinatorAt?_lt read) (length_skipGap_le text)

/-! ### Enough fuel -/

/-- All readers leave no more than there was, and read the same with any fuel that is enough. -/
structure EnoughAll (fuel : Nat) : Prop where
  tests : ∀ {size more : Nat}, 2 * size + 1 ≤ more → Repeats size (readTests? fuel) (readTests? more)
  compound : ∀ {size more : Nat}, 2 * size + 2 ≤ more → Repeats size (readCompound? fuel) (readCompound? more)
  related : ∀ {size more : Nat}, 2 * size + 1 ≤ more →
    ∀ left, Repeats size (readRelated? fuel left) (readRelated? more left)
  options : ∀ {size more : Nat}, 2 * size + 3 ≤ more → Repeats size (readOptions? fuel) (readOptions? more)

namespace EnoughAll

variable {fuel size more : Nat} (enough : EnoughAll fuel)

include enough

theorem tests_succ (covers : 2 * size ≤ more) : Repeats size (readTests? (fuel + 1)) (readTests? (more + 1)) := by
  have reader : ∀ {text rest : List Char} {first : Char} {here : List Char → Option (List Simple × List Char)},
      text.length ≤ size → skipComments text = first :: rest →
      testReader? (readTests? fuel) (readOptions? fuel) first = some here →
      rest.length < text.length ∧ ∃ again,
        testReader? (readTests? more) (readOptions? more) first = some again ∧ Repeats rest.length here again := by
    intro text rest first here fits next begins
    have shorter := length_skipComments_le text
    rw [next, List.length_cons] at shorter
    exact ⟨shorter, repeats_testReader? (enough.tests (by omega)) (fun less bound => enough.options (by omega)) begins⟩
  refine ⟨?_, ?_⟩
  · intro text left value fits read
    rcases readTests?_cases read with ⟨_, _, rfl⟩ | ⟨first, rest, here, next, begins, later⟩
    · exact Nat.le_refl _
    · obtain ⟨shorter, again, _, repeated⟩ := reader fits next begins
      exact Nat.le_trans (repeated.shrinks (Nat.le_refl _) later) (Nat.le_of_lt shorter)
  · intro text left value fits read
    rcases readTests?_cases read with ⟨stops, rfl, rfl⟩ | ⟨first, rest, here, next, begins, later⟩
    · exact readTests?_stop stops more
    · obtain ⟨shorter, again, beginsAgain, repeated⟩ := reader fits next begins
      rw [readTests?_of_reader next beginsAgain]
      exact repeated.repeats (Nat.le_refl _) later

theorem compound_succ (covers : 2 * size + 1 ≤ more) :
    Repeats size (readCompound? (fuel + 1)) (readCompound? (more + 1)) := by
  have compound : Repeats size (compoundReader (readTests? fuel)) (compoundReader (readTests? more)) := by
    refine (Repeats.same steady_readType?.shrinks).followedBy fun front => (enough.tests covers).followedBy fun tests => ?_
    unfold compoundOf
    split
    · exact Repeats.fail _
    · exact Repeats.done _
  rw [readCompound?_succ, readCompound?_succ]
  exact ⟨fun fits read => Nat.le_trans (compound.shrinks (Nat.le_trans (length_skipGap_le _) fits) read) (length_skipGap_le _),
    fun fits read => compound.repeats (Nat.le_trans (length_skipGap_le _) fits) read⟩

theorem related_succ (covers : 2 * size ≤ more) (left : Complex) :
    Repeats size (readRelated? (fuel + 1) left) (readRelated? (more + 1) left) := by
  have further : ∀ less < size, ∀ combinator, Repeats less
      (followedBy (readCompound? fuel) fun tests => readRelated? fuel (.related left combinator tests))
      (followedBy (readCompound? more) fun tests => readRelated? more (.related left combinator tests)) :=
    fun less bound combinator =>
      (enough.compound (by omega)).followedBy fun tests => enough.related (by omega) (.related left combinator tests)
  refine ⟨?_, ?_⟩
  · intro text rest value fits read
    rcases readRelated?_cases read with ⟨_, _, rfl⟩ | ⟨combinator, behind, found, later⟩
    · exact Nat.le_refl _
    · have shorter := length_readCombinator?_lt found
      have repeated := further behind.length (Nat.lt_of_lt_of_le shorter fits) combinator
      exact Nat.le_trans (repeated.shrinks (Nat.le_refl _) later) (Nat.le_of_lt shorter)
  · intro text rest value fits read
    rcases readRelated?_cases read with ⟨ends, rfl, rfl⟩ | ⟨combinator, behind, found, later⟩
    · exact readRelated?_none ends more _
    · have shorter := length_readCombinator?_lt found
      rw [readRelated?_some found]
      exact (further behind.length (Nat.lt_of_lt_of_le shorter fits) combinator).repeats (Nat.le_refl _) later

theorem options_succ (covers : 2 * size + 2 ≤ more) :
    Repeats size (readOptions? (fuel + 1)) (readOptions? (more + 1)) := by
  rw [readOptions?_succ, readOptions?_succ]
  exact (enough.compound covers).followedBy fun tests => (enough.related (by omega) (.compound tests)).followedBy
    (repeats_nextOption fun less bound => enough.options (by omega))

end EnoughAll

theorem enough_all (fuel : Nat) : EnoughAll fuel := by
  induction fuel with
  | zero =>
    obtain ⟨tests, compound, related, options⟩ := readers_zero
    refine ⟨fun _ => ?_, fun _ => ?_, fun _ left => ?_, fun _ => ?_⟩
    · exact tests ▸ Repeats.fail _
    · exact compound ▸ Repeats.fail _
    · exact related left ▸ Repeats.fail _
    · exact options ▸ Repeats.fail _
  | succ fuel enough =>
    refine ⟨fun {size more} covers => ?_, fun {size more} covers => ?_, fun {size more} covers => ?_,
      fun {size more} covers => ?_⟩
    all_goals
      obtain ⟨more, rfl⟩ := Nat.exists_eq_succ_of_ne_zero (n := more) (by omega)
    · exact enough.tests_succ (by omega)
    · exact enough.compound_succ (by omega)
    · exact enough.related_succ (by omega)
    · exact enough.options_succ (by omega)

end Harvest.Selector
