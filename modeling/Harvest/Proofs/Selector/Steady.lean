import Harvest.Selector.Reader

/-!
Contract: what readers of selectors make of a text in front of a blank.

A reader is steady if what it has read does not depend on what follows a blank that it leaves
unread. Quotation marks, brackets, comments and escapes that are still open at the blank take it
in, so a reader that leaves the blank has closed them all. This module has the notion and how it
composes, and it for comments and white space.
-/

namespace Harvest.Selector

open Markup

/-! ### Steady readers -/

/-- A change of a text that is the same whatever follows a blank that it leaves. -/
def SettledSkip (skip : List Char → List Char) : Prop :=
  ∀ {front following : List Char}, following.length < (skip (front ++ ' ' :: following)).length →
    ∃ rest, rest.length ≤ front.length ∧ ∀ other, skip (front ++ ' ' :: other) = rest ++ ' ' :: other

/-- A reader that leaves no more than there was, and a reader that reads the same again whatever follows a blank that the
first one leaves. Texts are measured as they look `before` and `after` reading, where a reader looks ahead over white
space or comments that it does not take. -/
structure Steady {α : Type} (before after : List Char → List Char) (reader again : List Char → Option (α × List Char)) :
    Prop where
  shrinks : ∀ {text left : List Char} {value : α}, reader text = some (value, left) →
    (after left).length ≤ (before text).length
  settled : ∀ {front following left : List Char} {value : α}, reader (front ++ ' ' :: following) = some (value, left) →
    following.length < (after left).length →
    ∃ rest, left = rest ++ ' ' :: following ∧ ∀ other, again (front ++ ' ' :: other) = some (value, rest ++ ' ' :: other)

/-- A reader behind another, which it gets the value of. -/
def followedBy {α β : Type} (first : List Char → Option (α × List Char)) (next : α → List Char → Option (β × List Char)) :
    List Char → Option (β × List Char) :=
  fun text => (first text).bind fun read => next read.1 read.2

namespace Steady

variable {α β : Type} {before middle after : List Char → List Char}

theorem done (view : List Char → List Char) (value : α) :
    Steady view view (fun text => some (value, text)) (fun text => some (value, text)) where
  shrinks := by
    intro text left value read
    cases read
    exact Nat.le_refl _
  settled := by
    intro front following left value read _
    cases read
    exact ⟨front, rfl, fun other => rfl⟩

theorem followedBy {first again : List Char → Option (α × List Char)} {next nextAgain : α → List Char → Option (β × List Char)}
    (head : Steady before middle first again) (tail : ∀ value, Steady middle after (next value) (nextAgain value)) :
    Steady before after (Selector.followedBy first next) (Selector.followedBy again nextAgain) where
  shrinks := by
    intro text left value read
    obtain ⟨⟨between, rest⟩, here, later⟩ := Option.bind_eq_some_iff.mp read
    exact Nat.le_trans ((tail between).shrinks later) (head.shrinks here)
  settled := by
    intro front following left value read leaves
    obtain ⟨⟨between, rest⟩, here, later⟩ := Option.bind_eq_some_iff.mp read
    obtain ⟨inner, rfl, same⟩ := head.settled here (Nat.lt_of_lt_of_le leaves ((tail between).shrinks later))
    obtain ⟨last, shape, ending⟩ := (tail between).settled later leaves
    refine ⟨last, shape, fun other => ?_⟩
    unfold Selector.followedBy
    rw [same other]
    exact ending other

/-- A reader stays steady if more was there before and less is seen after. -/
theorem weaken {reader again : List Char → Option (α × List Char)} (steady : Steady before after reader again)
    {sooner later : List Char → List Char} (more : ∀ text, (before text).length ≤ (sooner text).length)
    (less : ∀ text, (later text).length ≤ (after text).length) : Steady sooner later reader again where
  shrinks := fun read => Nat.le_trans (less _) (Nat.le_trans (steady.shrinks read) (more _))
  settled := fun read leaves => steady.settled read (Nat.lt_of_lt_of_le leaves (less _))

/-- A reader behind something that is skipped. -/
theorem skip {reader again : List Char → Option (α × List Char)} (steady : Steady before after reader again)
    {skip : List Char → List Char} (settled : SettledSkip skip) (less : ∀ text, (before text).length ≤ text.length) :
    Steady skip after (fun text => reader (skip text)) (fun text => again (skip text)) where
  shrinks := fun read => Nat.le_trans (steady.shrinks read) (less _)
  settled := by
    intro front following left value read leaves
    obtain ⟨rest, _, same⟩ :=
      @settled front following (Nat.lt_of_lt_of_le leaves (Nat.le_trans (steady.shrinks read) (less _)))
    simp only [same following] at read
    obtain ⟨inner, shape, again_⟩ := steady.settled read leaves
    refine ⟨inner, shape, fun other => ?_⟩
    simp only [same other]
    exact again_ other

end Steady

/-! ### Comments -/

theorem afterComment_cons {first : Char} {text : List Char} (open_ : ¬ (first = '*' ∧ text.head? = some '/')) :
    afterComment (first :: text) = afterComment text := by
  rw [afterComment.eq_3]
  rintro rest rfl rfl
  exact open_ ⟨rfl, rfl⟩

/-- A comment is closed in front of a blank, or it takes the blank in. -/
theorem afterComment_append (front : List Char) :
    (∃ rest, rest.length ≤ front.length ∧ ∀ other, afterComment (front ++ ' ' :: other) = rest ++ ' ' :: other) ∨
      ∀ other, afterComment (front ++ ' ' :: other) = afterComment other := by
  induction front with
  | nil => exact .inr fun other => afterComment_cons (by simp)
  | cons first front inductionHypothesis =>
    by_cases closes : first = '*' ∧ front.head? = some '/'
    · obtain ⟨rfl, heads⟩ := closes
      cases front with
      | nil => exact nomatch heads
      | cons second front =>
        simp only [List.head?_cons, Option.some.injEq] at heads
        subst heads
        exact .inl ⟨front, by simp only [List.length_cons]; omega, fun other => rfl⟩
    · have still : ∀ other, afterComment (first :: front ++ ' ' :: other) = afterComment (front ++ ' ' :: other) := by
        intro other
        refine afterComment_cons fun both => ?_
        cases front with
        | nil => exact absurd both.2 (by simp)
        | cons second front => exact closes both
      rcases inductionHypothesis with ⟨rest, shorter, same⟩ | open_
      · exact .inl ⟨rest, by rw [List.length_cons]; omega, fun other => (still other).trans (same other)⟩
      · exact .inr fun other => (still other).trans (open_ other)

theorem skipComments_open (text : List Char) : skipComments ('/' :: '*' :: text) = skipComments (afterComment text) := by
  rw [skipComments]

theorem skipComments_other {text : List Char} (other : ∀ rest, text ≠ '/' :: '*' :: rest) : skipComments text = text := by
  rw [skipComments.eq_def]
  split
  · rename_i rest
    exact absurd rfl (other rest)
  · rfl

theorem length_skipComments_le (text : List Char) : (skipComments text).length ≤ text.length := by
  induction text using skipComments.induct with
  | case1 rest _ inductionHypothesis =>
    have shorter := length_afterComment_le rest
    rw [skipComments_open]
    simp only [List.length_cons]
    omega
  | case2 text other => exact Nat.le_of_eq (congrArg List.length (skipComments_other fun rest => other rest))

theorem skipComments_append (front : List Char) :
    (∃ rest, rest.length ≤ front.length ∧ ∀ other, skipComments (front ++ ' ' :: other) = rest ++ ' ' :: other) ∨
      ∀ other, skipComments (front ++ ' ' :: other) = skipComments (afterComment other) := by
  induction size : front.length using Nat.strongRecOn generalizing front with
  | ind bound inductionHypothesis =>
    by_cases comment : ∃ rest, front = '/' :: '*' :: rest
    · obtain ⟨inner, rfl⟩ := comment
      simp only [List.cons_append, skipComments_open]
      simp only [List.length_cons] at size
      rcases afterComment_append inner with ⟨behind, shorter, same⟩ | open_
      · simp only [same]
        rcases inductionHypothesis behind.length (by omega) behind rfl with ⟨rest, less, settled⟩ | open_
        · exact .inl ⟨rest, by omega, settled⟩
        · exact .inr open_
      · exact .inr fun other => by rw [open_]
    · have still : ∀ other rest, front ++ ' ' :: other ≠ '/' :: '*' :: rest := by
        intro other rest same
        match front with
        | [] => exact absurd (List.cons.inj same).1 (by decide)
        | [_] => exact absurd (List.cons.inj (List.cons.inj same).2).1 (by decide)
        | first :: second :: inner =>
          simp only [List.cons_append, List.cons.injEq] at same
          exact comment ⟨inner, by rw [same.1, same.2.1]⟩
      exact .inl ⟨front, by omega, fun other => skipComments_other (still other)⟩

theorem settled_skipComments : SettledSkip skipComments := by
  intro front following leaves
  rcases skipComments_append front with settled | open_
  · exact settled
  · rw [open_] at leaves
    have := length_skipComments_le (afterComment following)
    have := length_afterComment_le following
    omega

/-! ### White space -/

theorem gap_eq {fuel other : Nat} {text : List Char} (enough : text.length < fuel) (too : text.length < other) :
    gap fuel text = gap other text := by
  induction fuel generalizing other text with
  | zero => exact absurd enough (by omega)
  | succ fuel inductionHypothesis =>
    cases other with
    | zero => exact absurd too (by omega)
    | succ other =>
      rw [gap, gap]
      have shorter := length_skipComments_le text
      split
      · rename_i first rest same
        rw [same, List.length_cons] at shorter
        rw [inductionHypothesis (show rest.length < fuel by omega) (show rest.length < other by omega)]
      · rfl

/-- To show something of all texts by the gap in front: the text ends behind its comments, or there is something
visible, or white space and a further text. -/
theorem gap_induction {motive : List Char → Prop} (ends : ∀ text, skipComments text = [] → motive text)
    (visible : ∀ text first rest, skipComments text = first :: rest → isSpace first = false → motive text)
    (spaced : ∀ text first rest, skipComments text = first :: rest → isSpace first = true → motive rest → motive text)
    (text : List Char) : motive text := by
  induction size : text.length using Nat.strongRecOn generalizing text with
  | ind bound inductionHypothesis =>
    have shorter := length_skipComments_le text
    cases next : skipComments text with
    | nil => exact ends text next
    | cons first rest =>
      rw [next, List.length_cons] at shorter
      cases space : isSpace first with
      | false => exact visible text first rest next space
      | true => exact spaced text first rest next space (inductionHypothesis rest.length (by omega) rest rfl)

/-- White space is skipped, and what is to be skipped behind it. -/
theorem skipGap_of_space {text rest : List Char} {first : Char} (next : skipComments text = first :: rest)
    (space : isSpace first = true) : skipGap text = skipGap rest := by
  have shorter := length_skipComments_le text
  rw [next, List.length_cons] at shorter
  unfold skipGap
  rw [gap, next]
  simp only [space, if_true]
  rw [gap_eq (show rest.length < text.length by omega) (Nat.lt_succ_self rest.length)]

theorem skipGap_of_visible {text rest : List Char} {first : Char} (next : skipComments text = first :: rest)
    (visible : isSpace first = false) : skipGap text = first :: rest := by
  unfold skipGap
  rw [gap, next]
  simp [visible]

theorem skipGap_of_nil {text : List Char} (next : skipComments text = []) : skipGap text = [] := by
  unfold skipGap
  rw [gap, next]

theorem skipGap_congr {text other : List Char} (same : skipComments text = skipComments other) : skipGap text = skipGap other := by
  cases next : skipComments other with
  | nil => rw [skipGap_of_nil next, skipGap_of_nil (same.trans next)]
  | cons first rest =>
    cases space : isSpace first with
    | true => rw [skipGap_of_space next space, skipGap_of_space (same.trans next) space]
    | false => rw [skipGap_of_visible next space, skipGap_of_visible (same.trans next) space]

theorem startsWithGap_eq {text rest : List Char} {first : Char} (next : skipComments text = first :: rest) :
    startsWithGap text = isSpace first := by
  unfold startsWithGap
  rw [gap, next]
  cases space : isSpace first <;> simp [space]

theorem length_skipGap_le_skipComments (text : List Char) : (skipGap text).length ≤ (skipComments text).length := by
  induction text using gap_induction with
  | ends text next => exact Nat.le_of_eq (congrArg List.length ((skipGap_of_nil next).trans next.symm))
  | visible text first rest next space =>
    exact Nat.le_of_eq (congrArg List.length ((skipGap_of_visible next space).trans next.symm))
  | spaced text first rest next space inductionHypothesis =>
    have shorter := length_skipComments_le rest
    rw [skipGap_of_space next space, next, List.length_cons]
    omega

theorem length_skipGap_le (text : List Char) : (skipGap text).length ≤ text.length :=
  Nat.le_trans (length_skipGap_le_skipComments text) (length_skipComments_le text)

/-- A gap ends in front of a blank with something visible, or it goes on behind the blank, or a comment in it takes the
blank in. -/
theorem skipGap_cases (front : List Char) :
    (∃ first inner, isSpace first = false ∧ inner.length < front.length ∧
        ∀ other, skipGap (front ++ ' ' :: other) = first :: inner ++ ' ' :: other) ∨
      (∀ other, skipGap (front ++ ' ' :: other) = skipGap other ∧ startsWithGap (front ++ ' ' :: other) = true) ∨
      ∀ other, skipGap (front ++ ' ' :: other) = skipGap (afterComment other) := by
  induction size : front.length using Nat.strongRecOn generalizing front with
  | ind bound inductionHypothesis =>
    rcases skipComments_append front with ⟨behind, shorter, same⟩ | open_
    · cases behind with
      | nil =>
        exact .inr (.inl fun other => ⟨skipGap_of_space (same other) (by decide), startsWithGap_eq (same other)⟩)
      | cons first behind =>
        rw [List.length_cons] at shorter
        cases space : isSpace first with
        | false =>
          exact .inl ⟨first, behind, space, by omega, fun other => skipGap_of_visible (same other) space⟩
        | true =>
          have spaced : ∀ other, skipGap (front ++ ' ' :: other) = skipGap (behind ++ ' ' :: other) :=
            fun other => skipGap_of_space (same other) space
          rcases inductionHypothesis behind.length (by omega) behind rfl with ⟨next, inner, visible, less, settled⟩ |
            goes | open_
          · exact .inl ⟨next, inner, visible, by omega, fun other => (spaced other).trans (settled other)⟩
          · exact .inr (.inl fun other => ⟨(spaced other).trans (goes other).1, (startsWithGap_eq (same other)).trans space⟩)
          · exact .inr (.inr fun other => (spaced other).trans (open_ other))
    · refine .inr (.inr fun other => ?_)
      exact skipGap_congr (open_ other)

/-- A gap that ends in front of the blank ends with something visible. -/
theorem skipGap_append {front following : List Char}
    (leaves : following.length < (skipGap (front ++ ' ' :: following)).length) :
    ∃ first inner, isSpace first = false ∧ inner.length < front.length ∧
      ∀ other, skipGap (front ++ ' ' :: other) = first :: inner ++ ' ' :: other := by
  rcases skipGap_cases front with settled | goes | open_
  · exact settled
  · rw [(goes following).1] at leaves
    exact absurd (length_skipGap_le following) (by omega)
  · rw [open_] at leaves
    have := length_skipGap_le (afterComment following)
    have := length_afterComment_le following
    omega

theorem settled_skipGap : SettledSkip skipGap := by
  intro front following leaves
  obtain ⟨first, inner, _, shorter, same⟩ := skipGap_append leaves
  exact ⟨first :: inner, shorter, same⟩

/-! ### The front of a compound -/

theorem skipComments_cons {first : Char} (other : first ≠ '/') (text : List Char) :
    skipComments (first :: text) = first :: text :=
  skipComments_other fun _ same => other (List.cons.inj same).1

theorem skipGap_cons {first : Char} (other : first ≠ '/') (visible : isSpace first = false) (text : List Char) :
    skipGap (first :: text) = first :: text :=
  skipGap_of_visible (skipComments_cons other text) visible

/-- A character that a compound, or a gap in front of it, may begin with. -/
def startsCompound (first : Char) : Bool :=
  isSpace first || isNameStart first || "*|-\\#.[:/".toList.contains first

theorem ne_of_startsCompound {first mark : Char} (other : startsCompound first = false)
    (starts : startsCompound mark = true) : first ≠ mark := by
  rintro rfl
  rw [other] at starts
  exact nomatch starts

theorem startsWithEscape_cons {first : Char} (other : first ≠ '\\') (text : List Char) :
    startsWithEscape (first :: text) = false := by
  unfold startsWithEscape
  split
  · rename_i same
    exact absurd (List.cons.inj same).1 other
  · rename_i same
    exact absurd (List.cons.inj same).1 other
  · rfl

theorem startsName_cons {first : Char} (notHyphen : first ≠ '-') (notEscape : first ≠ '\\')
    (notStart : isNameStart first = false) (text : List Char) : startsName (first :: text) = false := by
  unfold startsName
  split
  · rename_i same
    exact absurd (List.cons.inj same).1 notHyphen
  · rename_i same
    obtain ⟨rfl, rfl⟩ := List.cons.inj same
    rw [notStart, startsWithEscape_cons notEscape]
    rfl
  · rfl

/-- No test begins with another character. -/
theorem readTests?_stop {text : List Char} (stops : ∀ first rest, skipComments text = first :: rest → first ∉ ['#', '.', '[', ':'])
    (fuel : Nat) : readTests? (fuel + 1) text = some ([], text) := by
  rw [readTests?]
  split
  case h_5 => rfl
  all_goals
    rename_i mark
    exact absurd (by decide) (stops _ _ mark)

theorem readType?_none {first : Char} (other : startsCompound first = false) (text : List Char) :
    readType? (first :: text) = some ([], first :: text) := by
  have notStart : isNameStart first = false := by
    simp only [startsCompound, Bool.or_eq_false_iff] at other
    exact other.1.2
  have noName : readName? (first :: text) = none := by
    unfold readName?
    rw [startsName_cons (ne_of_startsCompound other (by decide)) (ne_of_startsCompound other (by decide)) notStart]
    rfl
  unfold readType?
  split
  case h_6 => rw [noName]
  all_goals
    rename_i same
    exact absurd (List.cons.inj same).1 (ne_of_startsCompound other (by decide))

theorem readCompound?_eq_none {first : Char} (other : startsCompound first = false) (fuel : Nat) (text : List Char) :
    readCompound? fuel (first :: text) = none := by
  have visible : isSpace first = false := by
    simp only [startsCompound, Bool.or_eq_false_iff] at other
    exact other.1.1
  have notSlash : first ≠ '/' := ne_of_startsCompound other (by decide)
  have stops : ∀ next rest, skipComments (first :: text) = next :: rest → next ∉ ['#', '.', '[', ':'] := by
    intro next rest same member
    rw [skipComments_cons notSlash] at same
    rw [← (List.cons.inj same).1] at member
    simp only [List.mem_cons, List.not_mem_nil, or_false] at member
    rcases member with same | same | same | same <;> exact ne_of_startsCompound other (by decide) same
  match fuel with
  | 0 => rw [readCompound?]
  | 1 =>
    rw [readCompound?, skipGap_cons notSlash visible, readType?_none other]
    rfl
  | fuel + 2 =>
    rw [readCompound?, skipGap_cons notSlash visible, readType?_none other]
    simp only [Option.bind_eq_bind, Option.bind_some, readTests?_stop stops]
    rfl

/-- A selector begins with the front of a compound. -/
theorem startsCompound_of_read? {first : Char} {text : List Char} {selector : Selector}
    (read : read? (first :: text) = some selector) : startsCompound first = true := by
  cases starts : startsCompound first with
  | true => rfl
  | false =>
    unfold read? at read
    rw [readOptions?, readCompound?_eq_none starts] at read
    exact nomatch read

end Harvest.Selector
