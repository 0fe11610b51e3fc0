import Harvest.Proofs.Selector.Names

/-!
Contract: compounds and what they are made of are read steadily.

Each reader composes steady ones. Where a reader looks behind a gap to decide that nothing of its own follows, it is steady
as seen behind that gap: a bracket or a comma that has been read there stands in front of the blank.
-/

namespace Harvest.Selector

open Markup

/-! ### Brackets -/

theorem length_readClose?_le {bracket : Char} {text rest : List Char} (closes : readClose? bracket text = some rest) :
    rest.length ≤ (skipGap text).length := by
  unfold readClose? at closes
  split at closes
  · cases closes
    exact Nat.zero_le _
  · rename_i shape
    rw [shape]
    split at closes
    · cases closes
      exact Nat.le_succ _
    · cases closes

theorem readClose?_of_skipGap {bracket first : Char} {text rest : List Char} (next : skipGap text = first :: rest) :
    readClose? bracket text = if first = bracket then some rest else none := by
  unfold readClose?
  rw [next]

/-- A reader behind a closing bracket. -/
theorem Steady.close {α : Type} {after : List Char → List Char} {next again : List Char → Option (α × List Char)}
    (tail : Steady id after next again) (bracket : Char) :
    Steady skipGap after (fun text => (readClose? bracket text).bind next)
      (fun text => (readClose? bracket text).bind again) where
  shrinks := by
    intro text left value read
    obtain ⟨rest, closes, later⟩ := Option.bind_eq_some_iff.mp read
    exact Nat.le_trans (tail.shrinks later) (length_readClose?_le closes)
  settled := by
    intro front following left value read leaves
    obtain ⟨rest, closes, later⟩ := Option.bind_eq_some_iff.mp read
    have long := Nat.lt_of_lt_of_le leaves (Nat.le_trans (tail.shrinks later) (length_readClose?_le closes))
    obtain ⟨first, inner, _, _, same⟩ := skipGap_append long
    rw [readClose?_of_skipGap (same following)] at closes
    split at closes
    case isFalse => exact nomatch closes
    case isTrue is_bracket =>
      cases closes
      obtain ⟨last, shape, ending⟩ := tail.settled later leaves
      refine ⟨last, shape, fun other => ?_⟩
      simp only [readClose?_of_skipGap (same other), if_pos is_bracket]
      exact ending other

/-! ### Attributes -/

def readAttributeValue? (name : String) : List Char → Option (Simple × List Char) :=
  followedBy (fun text => readOperator? (skipGap text)) fun test =>
    followedBy (fun text => readValue? (skipGap text)) fun value =>
      followedBy (fun text => readLetterCase? (skipGap text)) fun letterCase text =>
        (readClose? ']' text).bind fun rest => some (.attributeValue name test value letterCase, rest)

theorem steady_readAttributeValue? (name : String) :
    Steady skipGap id (readAttributeValue? name) (readAttributeValue? name) := by
  have less : ∀ text : List Char, (id text).length ≤ text.length := fun text => Nat.le_refl _
  have seen : ∀ text : List Char, (skipGap text).length ≤ (id text).length := length_skipGap_le
  have same : ∀ text : List Char, (skipGap text).length ≤ (skipGap text).length := fun text => Nat.le_refl _
  refine ((steady_readOperator?.skip settled_skipGap less).weaken same seen).followedBy fun test => ?_
  refine ((steady_readValue?.skip settled_skipGap less).weaken same seen).followedBy fun value => ?_
  refine ((steady_readLetterCase?.skip settled_skipGap less).weaken same seen).followedBy fun letterCase => ?_
  exact (Steady.done id _).close ']'

def readAttributeRest? (name : String) (text : List Char) : Option (Simple × List Char) :=
  match readClose? ']' text with
  | some rest => some (.hasAttribute name, rest)
  | none => readAttributeValue? name text

theorem steady_readAttributeRest? (name : String) :
    Steady skipGap id (readAttributeRest? name) (readAttributeRest? name) where
  shrinks := by
    intro text left value read
    unfold readAttributeRest? at read
    split at read
    · rename_i closes
      cases read
      exact length_readClose?_le closes
    · exact (steady_readAttributeValue? name).shrinks read
  settled := by
    intro front following left value read leaves
    unfold readAttributeRest? at read
    split at read
    · rename_i closes
      cases read
      obtain ⟨first, inner, _, _, same⟩ := skipGap_append (Nat.lt_of_lt_of_le leaves (length_readClose?_le closes))
      rw [readClose?_of_skipGap (same following)] at closes
      split at closes
      case isFalse => exact nomatch closes
      case isTrue is_bracket =>
        cases closes
        refine ⟨inner, rfl, fun other => ?_⟩
        unfold readAttributeRest?
        rw [readClose?_of_skipGap (same other), if_pos is_bracket]
        rfl
    · rename_i open_
      have steady := steady_readAttributeValue? name
      obtain ⟨first, inner, _, _, same⟩ := skipGap_append (Nat.lt_of_lt_of_le leaves (steady.shrinks read))
      have still : ∀ other, readClose? ']' (front ++ ' ' :: other) = none := by
        intro other
        rw [readClose?_of_skipGap (same following)] at open_
        rw [readClose?_of_skipGap (same other)]
        split at open_
        · exact nomatch open_
        · rename_i other_
          rw [if_neg other_]
      obtain ⟨rest, shape, again⟩ := steady.settled read leaves
      refine ⟨rest, shape, fun other => ?_⟩
      unfold readAttributeRest?
      rw [still other]
      exact again other

theorem readAttribute?_eq :
    readAttribute? = followedBy (fun text => readAttributeName? (skipGap text)) readAttributeRest? := by
  rfl

theorem steady_readAttribute? : Steady id id readAttribute? readAttribute? := by
  have less : ∀ text : List Char, (id text).length ≤ text.length := fun text => Nat.le_refl _
  rw [readAttribute?_eq]
  exact ((steady_readAttributeName?.skip settled_skipGap less).weaken length_skipGap_le length_skipGap_le).followedBy
    steady_readAttributeRest?

/-! ### Ordinals -/

theorem takeWhile_append_blank (test : Char → Bool) (stops : test ' ' = false) (front other : List Char) :
    (front ++ ' ' :: other).takeWhile test = front.takeWhile test := by
  induction front with
  | nil => simp [stops]
  | cons first front inductionHypothesis =>
    rw [List.cons_append, List.takeWhile_cons, List.takeWhile_cons, inductionHypothesis]

theorem dropWhile_append_blank (test : Char → Bool) (stops : test ' ' = false) (front other : List Char) :
    (front ++ ' ' :: other).dropWhile test = front.dropWhile test ++ ' ' :: other := by
  induction front with
  | nil => simp [stops]
  | cons first front inductionHypothesis =>
    rw [List.cons_append, List.dropWhile_cons, List.dropWhile_cons, inductionHypothesis]
    split <;> rfl

theorem length_dropWhile_le (test : Char → Bool) (text : List Char) : (text.dropWhile test).length ≤ text.length :=
  (List.dropWhile_suffix test).length_le

theorem readSign_other {first : Char} (notPlus : first ≠ '+') (notMinus : first ≠ '-') (text : List Char) :
    readSign (first :: text) = (false, false, first :: text) := by
  rw [readSign.eq_3]
  · exact fun rest same => notPlus (List.cons.inj same).1
  · exact fun rest same => notMinus (List.cons.inj same).1

/-- A sign in front of a blank. -/
theorem readSign_append (front : List Char) : ∃ isSigned negative rest, rest.length ≤ front.length ∧
    (isSigned = false → rest = front) ∧
    ∀ other, readSign (front ++ ' ' :: other) = (isSigned, negative, rest ++ ' ' :: other) := by
  cases front with
  | nil => exact ⟨false, false, [], Nat.le_refl _, fun _ => rfl, fun other => rfl⟩
  | cons first front =>
    by_cases plus : first = '+'
    · subst plus
      exact ⟨true, false, front, Nat.le_succ _, (fun unsigned => nomatch unsigned), fun other => rfl⟩
    · by_cases minus : first = '-'
      · subst minus
        exact ⟨true, true, front, Nat.le_succ _, (fun unsigned => nomatch unsigned), fun other => rfl⟩
      · exact ⟨false, false, first :: front, Nat.le_refl _, fun _ => rfl, fun other => readSign_other plus minus _⟩

theorem length_readSign_le (text : List Char) : (readSign text).2.2.length ≤ text.length := by
  unfold readSign
  split
  · exact Nat.le_succ _
  · exact Nat.le_succ _
  · exact Nat.le_refl _

def readPlace? (negative : Bool) (text : List Char) : Option (Int × List Char) :=
  if (text.takeWhile isDigit).isEmpty then none else some (signed negative (text.takeWhile isDigit), text.dropWhile isDigit)

theorem steady_readPlace? (negative : Bool) : Steady id id (readPlace? negative) (readPlace? negative) where
  shrinks := by
    intro text left value read
    unfold readPlace? at read
    split at read
    · exact nomatch read
    · cases read
      exact length_dropWhile_le _ text
  settled := by
    intro front following left value read _
    have digits := takeWhile_append_blank isDigit (by decide) front
    have behind := dropWhile_append_blank isDigit (by decide) front
    unfold readPlace? at read ⊢
    simp only [digits, behind] at read ⊢
    split at read
    · exact nomatch read
    · rename_i some_digits
      cases read
      exact ⟨front.dropWhile isDigit, rfl, fun other => if_neg some_digits⟩

theorem readFirst?_unsigned {text rest : List Char} {negative : Bool}
    (unsigned : readSign (skipGap text) = (false, negative, rest)) : readFirst? text = some (0, text) := by
  unfold readFirst?
  rw [unsigned]

theorem readFirst?_signed {text rest : List Char} {negative : Bool}
    (isSigned : readSign (skipGap text) = (true, negative, rest)) :
    readFirst? text = readPlace? negative (skipGap rest) := by
  unfold readFirst?
  rw [isSigned]
  rfl

/-- A first place is absent, or read behind its sign. -/
theorem readFirst?_cases {text left : List Char} {value : Int} (read : readFirst? text = some (value, left)) :
    left = text ∨ ∃ negative rest, rest.length ≤ (skipGap text).length ∧
      readPlace? negative (skipGap rest) = some (value, left) := by
  cases sign : readSign (skipGap text) with
  | mk isSigned behind =>
    obtain ⟨negative, rest⟩ := behind
    cases isSigned with
    | false =>
      rw [readFirst?_unsigned sign] at read
      cases read
      exact .inl rfl
    | true =>
      rw [readFirst?_signed sign] at read
      have shorter := length_readSign_le (skipGap text)
      rw [sign] at shorter
      exact .inr ⟨negative, rest, shorter, read⟩

/-- The first place of an ordinal is read steadily as seen behind the gap in which it may be absent. -/
theorem steady_readFirst? : Steady id skipGap readFirst? readFirst? := by
  have placed : ∀ negative, Steady skipGap id (fun text => readPlace? negative (skipGap text))
      (fun text => readPlace? negative (skipGap text)) :=
    fun negative => (steady_readPlace? negative).skip settled_skipGap fun _ => Nat.le_refl _
  have shrinks : ∀ {text left : List Char} {value : Int}, readFirst? text = some (value, left) →
      (skipGap left).length ≤ (skipGap text).length := by
    intro text left value read
    rcases readFirst?_cases read with rfl | ⟨negative, rest, shorter, place⟩
    · exact Nat.le_refl _
    · calc (skipGap left).length
          ≤ left.length := length_skipGap_le left
        _ ≤ (skipGap rest).length := (placed negative).shrinks place
        _ ≤ rest.length := length_skipGap_le rest
        _ ≤ (skipGap text).length := shorter
  refine ⟨fun read => Nat.le_trans (shrinks read) (length_skipGap_le _), ?_⟩
  intro front following left value read leaves
  obtain ⟨first, inner, _, _, same⟩ := skipGap_append (Nat.lt_of_lt_of_le leaves (shrinks read))
  obtain ⟨isSigned, negative, rest, _, _, sign⟩ := readSign_append (first :: inner)
  have sign : ∀ other, readSign (skipGap (front ++ ' ' :: other)) = (isSigned, negative, rest ++ ' ' :: other) :=
    fun other => by rw [same other, sign other]
  cases isSigned with
  | false =>
    rw [readFirst?_unsigned (sign following)] at read
    cases read
    exact ⟨front, rfl, fun other => readFirst?_unsigned (sign other)⟩
  | true =>
    rw [readFirst?_signed (sign following)] at read
    obtain ⟨last, shape, again⟩ := (placed negative).settled read (Nat.lt_of_lt_of_le leaves (length_skipGap_le left))
    exact ⟨last, shape, fun other => (readFirst?_signed (sign other)).trans (again other)⟩

theorem steady_withFirst (negative : Bool) (digits : List Char) :
    Steady id skipGap (readOrdinal?.withFirst negative digits) (readOrdinal?.withFirst negative digits) := by
  have composed : readOrdinal?.withFirst negative digits = followedBy readFirst? fun first text =>
      some (⟨if digits.isEmpty then signed negative ['1'] else signed negative digits, first⟩, text) := by
    funext text
    unfold readOrdinal?.withFirst followedBy
    cases readFirst? text <;> rfl
  rw [composed]
  exact steady_readFirst?.followedBy fun first => Steady.done skipGap _

def readStep? (negative : Bool) (digits : List Char) : List Char → Option (Ordinal × List Char)
  | 'n' :: behind => readOrdinal?.withFirst negative digits behind
  | 'N' :: behind => readOrdinal?.withFirst negative digits behind
  | behind => if digits.isEmpty then none else some (⟨0, signed negative digits⟩, behind)

theorem readStepped?_eq {text rest : List Char} {isSigned negative : Bool}
    (sign : readSign text = (isSigned, negative, rest)) :
    readOrdinal?.readStepped? text = readStep? negative (rest.takeWhile isDigit) (rest.dropWhile isDigit) := by
  unfold readOrdinal?.readStepped?
  rw [sign]
  rfl

theorem readStep?_other {first : Char} (notLower : first ≠ 'n') (notUpper : first ≠ 'N') (negative : Bool)
    (digits text : List Char) :
    readStep? negative digits (first :: text) =
      if digits.isEmpty then none else some (⟨0, signed negative digits⟩, first :: text) := by
  rw [readStep?.eq_3]
  · exact fun rest same => notLower (List.cons.inj same).1
  · exact fun rest same => notUpper (List.cons.inj same).1

theorem steady_readStep? (negative : Bool) (digits : List Char) :
    Steady id skipGap (readStep? negative digits) (readStep? negative digits) where
  shrinks := by
    intro text left value read
    unfold readStep? at read
    split at read
    · exact Nat.le_succ_of_le ((steady_withFirst negative digits).shrinks read)
    · exact Nat.le_succ_of_le ((steady_withFirst negative digits).shrinks read)
    · split at read
      · exact nomatch read
      · cases read
        exact length_skipGap_le _
  settled := by
    intro front following left value read leaves
    cases front with
    | nil =>
      have ends : ∀ other, readStep? negative digits (' ' :: other) = _ := readStep?_other (by decide) (by decide) negative digits
      rw [List.nil_append, ends] at read
      split at read
      · exact nomatch read
      · rename_i some_digits
        cases read
        exact ⟨[], rfl, fun other => (ends other).trans (if_neg some_digits)⟩
    | cons first front =>
      by_cases lower : first = 'n'
      · subst lower
        exact (steady_withFirst negative digits).settled read leaves
      · by_cases upper : first = 'N'
        · subst upper
          exact (steady_withFirst negative digits).settled read leaves
        · rw [List.cons_append, readStep?_other lower upper] at read
          split at read
          · exact nomatch read
          · rename_i some_digits
            cases read
            exact ⟨first :: front, rfl, fun other => (readStep?_other lower upper _ _ _).trans (if_neg some_digits)⟩

theorem steady_readStepped? : Steady id skipGap readOrdinal?.readStepped? readOrdinal?.readStepped? where
  shrinks := by
    intro text left value read
    cases sign : readSign text with
    | mk isSigned behind =>
      obtain ⟨negative, rest⟩ := behind
      rw [readStepped?_eq sign] at read
      have shorter := length_readSign_le text
      rw [sign] at shorter
      exact Nat.le_trans ((steady_readStep? _ _).shrinks read) (Nat.le_trans (length_dropWhile_le _ rest) shorter)
  settled := by
    intro front following left value read leaves
    obtain ⟨isSigned, negative, rest, _, _, sign⟩ := readSign_append front
    have stepped : ∀ other, readOrdinal?.readStepped? (front ++ ' ' :: other) =
        readStep? negative (rest.takeWhile isDigit) (rest.dropWhile isDigit ++ ' ' :: other) := by
      intro other
      rw [readStepped?_eq (sign other), takeWhile_append_blank _ (by decide), dropWhile_append_blank _ (by decide)]
    simp only [stepped] at read ⊢
    exact (steady_readStep? _ _).settled read leaves

def readOrdinalHere? (text : List Char) : Option (Ordinal × List Char) :=
  match readName? text with
  | some (name, rest) =>
    if lowerText name.toList = "even".toList then some (⟨2, 0⟩, rest)
    else if lowerText name.toList = "odd".toList then some (⟨2, 1⟩, rest)
    else readOrdinal?.readStepped? text
  | none => readOrdinal?.readStepped? text

theorem readOrdinal?_eq : readOrdinal? = fun text => readOrdinalHere? (skipGap text) := by
  rfl

/-- A name that does not begin with an escape begins with its first character. -/
theorem readName?_head {first : Char} (unescaped : first ≠ '\\') {text rest : List Char} {name : String}
    (named : readName? (first :: text) = some (name, rest)) : ∃ others, name.toList = first :: others := by
  cases starts : startsName (first :: text) with
  | false =>
    rw [readName?_of_not_starts starts] at named
    exact nomatch named
  | true =>
    have plain : isNameChar first = true := by
      by_cases hyphen : first = '-'
      · subst hyphen
        decide
      · rw [startsName_of_ne hyphen, startsWithEscape_cons unescaped, Bool.or_false] at starts
        simp only [isNameStart, Bool.or_eq_true] at starts
        simp only [isNameChar, Bool.or_eq_true]
        rcases starts with (letter | line) | wide
        · exact .inl (.inl (.inl (.inl letter)))
        · exact .inl (.inl (.inr line))
        · exact .inr wide
    rw [readName?_of_starts starts, nameChars_plain plain] at named
    cases named
    exact ⟨_, String.toList_ofList⟩

def isStepStart (first : Char) : Bool :=
  isDigit first || first == '+' || first == '-' || first == 'n' || first == 'N'

theorem isStepStart_of_readStepped? {first : Char} {text left : List Char} {ordinal : Ordinal}
    (read : readOrdinal?.readStepped? (first :: text) = some (ordinal, left)) : isStepStart first = true := by
  cases starts : isStepStart first with
  | true => rfl
  | false =>
    simp only [isStepStart, Bool.or_eq_false_iff, beq_eq_false_iff_ne] at starts
    obtain ⟨⟨⟨⟨notDigit, notPlus⟩, notMinus⟩, notLower⟩, notUpper⟩ := starts
    rw [readStepped?_eq (readSign_other notPlus notMinus text), List.takeWhile_cons_of_neg (by simp [notDigit]),
      List.dropWhile_cons_of_neg (by simp [notDigit]), readStep?_other notLower notUpper] at read
    exact nomatch read

/-- No keyword begins like a step. -/
theorem lowerChar_of_isStepStart {first : Char} (step : isStepStart first = true) :
    first ≠ '\\' ∧ lowerChar first ≠ 'e' ∧ lowerChar first ≠ 'o' := by
  simp only [isStepStart, Bool.or_eq_true, beq_iff_eq] at step
  rcases step with (((digit | rfl) | rfl) | rfl) | rfl
  · have small : ¬ ('A' ≤ first) := by
      intro large
      simp only [isDigit, Bool.and_eq_true, decide_eq_true_eq] at digit
      exact absurd (Char.le_trans large digit.2) (by decide)
    unfold lowerChar
    rw [if_neg fun both => small both.1]
    refine ⟨?_, ?_, ?_⟩ <;>
    · rintro rfl
      exact absurd digit (by decide)
  all_goals decide

theorem readOrdinalHere?_step {first : Char} (step : isStepStart first = true) (text : List Char) :
    readOrdinalHere? (first :: text) = readOrdinal?.readStepped? (first :: text) := by
  obtain ⟨unescaped, notEven, notOdd⟩ := lowerChar_of_isStepStart step
  unfold readOrdinalHere?
  split
  · rename_i name rest named
    obtain ⟨others, shape⟩ := readName?_head unescaped named
    have isNeither : lowerText name.toList ≠ "even".toList ∧ lowerText name.toList ≠ "odd".toList := by
      rw [shape]
      exact ⟨fun same => notEven (List.cons.inj same).1, fun same => notOdd (List.cons.inj same).1⟩
    rw [if_neg isNeither.1, if_neg isNeither.2]
  · rfl

theorem steady_readOrdinalHere? : Steady id skipGap readOrdinalHere? readOrdinalHere? where
  shrinks := by
    intro text left value read
    unfold readOrdinalHere? at read
    split at read
    · rename_i name rest named
      have shorter := Nat.le_trans (length_skipGap_le rest) (steady_readName?.shrinks named)
      split at read
      · cases read
        exact shorter
      · split at read
        · cases read
          exact shorter
        · exact steady_readStepped?.shrinks read
    · exact steady_readStepped?.shrinks read
  settled := by
    intro front following left value read leaves
    cases front with
    | nil =>
      have noName : readName? (' ' :: following) = none := readName?_of_not_starts rfl
      rw [List.nil_append, readOrdinalHere?, noName] at read
      exact absurd (isStepStart_of_readStepped? read) (by decide)
    | cons first front =>
      cases step : isStepStart first with
      | true =>
        have stepped : ∀ other, readOrdinalHere? (first :: front ++ ' ' :: other) =
            readOrdinal?.readStepped? (first :: front ++ ' ' :: other) := fun other => readOrdinalHere?_step step _
        simp only [stepped] at read ⊢
        exact steady_readStepped?.settled read leaves
      | false =>
        have noStep : ∀ text, readOrdinal?.readStepped? (first :: text) ≠ some (value, left) := by
          intro text stepped
          rw [isStepStart_of_readStepped? stepped] at step
          exact nomatch step
        unfold readOrdinalHere? at read ⊢
        split at read
        · rename_i name rest named
          have ends : left = rest := by
            split at read
            · exact (Prod.mk.inj (Option.some.inj read)).2.symm
            · split at read
              · exact (Prod.mk.inj (Option.some.inj read)).2.symm
              · exact absurd read (noStep _)
          subst ends
          obtain ⟨inner, rfl, again⟩ := steady_readName?.settled named (Nat.lt_of_lt_of_le leaves (length_skipGap_le left))
          refine ⟨inner, rfl, fun other => ?_⟩
          rw [again other]
          simp only
          split at read
          · rename_i even
            rw [if_pos even, (Prod.mk.inj (Option.some.inj read)).1]
          · rename_i notEven
            split at read
            · rename_i odd
              rw [if_neg notEven, if_pos odd, (Prod.mk.inj (Option.some.inj read)).1]
            · exact absurd read (noStep _)
        · exact absurd read (noStep _)

theorem steady_readOrdinal? : Steady id skipGap readOrdinal? readOrdinal? := by
  rw [readOrdinal?_eq]
  exact (steady_readOrdinalHere?.skip settled_skipGap fun _ => Nat.le_refl _).weaken length_skipGap_le fun _ => Nat.le_refl _

/-! ### What an ordinal leaves -/

theorem length_readFirst?_le {text left : List Char} {value : Int} (read : readFirst? text = some (value, left)) :
    left.length ≤ text.length := by
  rcases readFirst?_cases read with rfl | ⟨negative, rest, shorter, place⟩
  · exact Nat.le_refl _
  · calc left.length
        ≤ (skipGap rest).length := (steady_readPlace? negative).shrinks place
      _ ≤ rest.length := length_skipGap_le rest
      _ ≤ (skipGap text).length := shorter
      _ ≤ text.length := length_skipGap_le text

theorem length_withFirst_le {negative : Bool} {digits text left : List Char} {ordinal : Ordinal}
    (read : readOrdinal?.withFirst negative digits text = some (ordinal, left)) : left.length ≤ text.length := by
  obtain ⟨⟨first, rest⟩, found, same⟩ := Option.map_eq_some_iff.mp read
  cases same
  exact length_readFirst?_le found

theorem length_readStepped?_le {text left : List Char} {ordinal : Ordinal}
    (read : readOrdinal?.readStepped? text = some (ordinal, left)) : left.length ≤ text.length := by
  cases sign : readSign text with
  | mk isSigned behind =>
    obtain ⟨negative, rest⟩ := behind
    have shorter := length_readSign_le text
    rw [sign] at shorter
    have digits := length_dropWhile_le isDigit rest
    rw [readStepped?_eq sign] at read
    unfold readStep? at read
    split at read
    · rename_i shape
      have := length_withFirst_le read
      rw [shape, List.length_cons] at digits
      exact Nat.le_trans this (Nat.le_trans (Nat.le_succ _) (Nat.le_trans digits shorter))
    · rename_i shape
      have := length_withFirst_le read
      rw [shape, List.length_cons] at digits
      exact Nat.le_trans this (Nat.le_trans (Nat.le_succ _) (Nat.le_trans digits shorter))
    · split at read
      · exact nomatch read
      · cases read
        exact Nat.le_trans digits shorter

theorem length_readOrdinal?_le {text left : List Char} {ordinal : Ordinal}
    (read : readOrdinal? text = some (ordinal, left)) : left.length ≤ text.length := by
  rw [readOrdinal?_eq] at read
  refine Nat.le_trans ?_ (length_skipGap_le text)
  simp only [readOrdinalHere?] at read
  split at read
  · rename_i name rest named
    have shorter := steady_readName?.shrinks named
    split at read
    · cases read
      exact shorter
    · split at read
      · cases read
        exact shorter
      · exact length_readStepped?_le read
  · exact length_readStepped?_le read

/-! ### Types -/

theorem head?_append_ne {front : List Char} {mark : Char} (visible : ' ' ≠ mark) (other : front.head? ≠ some mark)
    (following : List Char) : (front ++ ' ' :: following).head? ≠ some mark := by
  cases front with
  | nil => exact fun head => visible (Option.some.inj head)
  | cons first front => exact other

def readBehindBar? (starred : List Simple) (named : String → List Simple) (text : List Char) :
    Option (List Simple × List Char) :=
  match text with
  | '*' :: rest => some (starred, rest)
  | _ => followedBy readName? (fun name rest => some (named name, rest)) text

theorem readBehindBar?_name {text : List Char} (notStar : ∀ rest, text ≠ '*' :: rest) (starred : List Simple)
    (named : String → List Simple) :
    readBehindBar? starred named text = followedBy readName? (fun name rest => some (named name, rest)) text := by
  unfold readBehindBar?
  split
  · exact absurd rfl (notStar _)
  · rfl

theorem steady_readBehindBar? (starred : List Simple) (named : String → List Simple) :
    Steady id id (readBehindBar? starred named) (readBehindBar? starred named) := by
  have steady : Steady id id (followedBy readName? fun name rest => some (named name, rest))
      (followedBy readName? fun name rest => some (named name, rest)) :=
    steady_readName?.followedBy fun name => Steady.done id _
  refine ⟨?_, ?_⟩
  · intro text left value read
    unfold readBehindBar? at read
    split at read
    · cases read
      exact Nat.le_succ _
    · exact steady.shrinks read
  · intro front following left value read leaves
    by_cases star : ∃ inner, front = '*' :: inner
    · obtain ⟨inner, rfl⟩ := star
      cases read
      exact ⟨inner, rfl, fun other => rfl⟩
    · have notStar : ∀ other rest, front ++ ' ' :: other ≠ '*' :: rest := by
        intro other rest same
        obtain ⟨inner, shape, _⟩ := eq_cons_of_append (by decide) same
        exact star ⟨inner, shape⟩
      have behind : ∀ other, readBehindBar? starred named (front ++ ' ' :: other) = _ :=
        fun other => readBehindBar?_name (notStar other) starred named
      simp only [behind] at read ⊢
      exact steady.settled read leaves

def readNamedType? (text : List Char) : Option (List Simple × List Char) :=
  match readName? text with
  | some (_, '|' :: '=' :: _) => none
  | some (_, '|' :: _) => none
  | some (name, rest) => some ([.name name], rest)
  | none => some ([], text)

theorem readNamedType?_name {text rest : List Char} {name : String} (read : readName? text = some (name, rest)) :
    readNamedType? text = if rest.head? = some '|' then none else some ([.name name], rest) := by
  unfold readNamedType?
  rw [read]
  split
  · rename_i same
    cases same
    rfl
  · rename_i same
    cases same
    rfl
  · rename_i notBar same
    cases same
    rw [if_neg]
    intro bar
    obtain ⟨others, rfl⟩ := List.head?_eq_some_iff.mp bar
    exact notBar _ rfl
  · rename_i none_
    exact nomatch none_

theorem readNamedType?_none {text : List Char} (none_ : readName? text = none) : readNamedType? text = some ([], text) := by
  unfold readNamedType?
  rw [none_]

theorem steady_readNamedType? : Steady id id readNamedType? readNamedType? where
  shrinks := by
    intro text left value read
    cases named : readName? text with
    | none =>
      rw [readNamedType?_none named] at read
      cases read
      exact Nat.le_refl _
    | some found =>
      obtain ⟨name, rest⟩ := found
      rw [readNamedType?_name named] at read
      split at read
      · exact nomatch read
      · cases read
        exact steady_readName?.shrinks named
  settled := by
    intro front following left value read leaves
    cases named : readName? (front ++ ' ' :: following) with
    | none =>
      rw [readNamedType?_none named] at read
      cases read
      exact ⟨front, rfl, fun other => readNamedType?_none (readName?_append_eq_none named other)⟩
    | some found =>
      obtain ⟨name, rest⟩ := found
      rw [readNamedType?_name named] at read
      split at read
      · exact nomatch read
      · rename_i notBar
        cases read
        obtain ⟨inner, rfl, again⟩ := steady_readName?.settled named leaves
        have still : inner.head? ≠ some '|' := by
          intro bar
          obtain ⟨rest, rfl⟩ := List.head?_eq_some_iff.mp bar
          exact notBar rfl
        exact ⟨inner, rfl, fun other =>
          (readNamedType?_name (again other)).trans (if_neg (head?_append_ne (by decide) still other))⟩

theorem readType?_bar (text : List Char) :
    readType? ('|' :: text) = readBehindBar? [.never] (fun _ => [.never]) text := by
  by_cases star : ∃ rest, text = '*' :: rest
  · obtain ⟨rest, rfl⟩ := star
    rfl
  · have notStar : ∀ rest, text ≠ '*' :: rest := fun rest same => star ⟨rest, same⟩
    rw [readBehindBar?_name notStar, readType?.eq_4 _ notStar]
    unfold followedBy
    cases readName? text <;> rfl

theorem readType?_starBar (text : List Char) :
    readType? ('*' :: '|' :: text) = readBehindBar? [.any] (fun name => [.name name]) text := by
  by_cases star : ∃ rest, text = '*' :: rest
  · obtain ⟨rest, rfl⟩ := star
    rfl
  · have notStar : ∀ rest, text ≠ '*' :: rest := fun rest same => star ⟨rest, same⟩
    rw [readBehindBar?_name notStar, readType?.eq_2 _ notStar]
    unfold followedBy
    cases readName? text <;> rfl

theorem readType?_star {text : List Char} (notBar : text.head? ≠ some '|') :
    readType? ('*' :: text) = some ([.any], text) := by
  have other : ∀ rest, text ≠ '|' :: rest := by
    rintro rest rfl
    exact notBar rfl
  exact readType?.eq_5 text (fun rest => other _) other

theorem readType?_name {text : List Char} (notStar : text.head? ≠ some '*') (notBar : text.head? ≠ some '|') :
    readType? text = readNamedType? text := by
  unfold readType?
  split
  case h_6 => rfl
  all_goals exact absurd rfl (by assumption)

theorem steady_readType? : Steady id id readType? readType? := by
  have behindBar := steady_readBehindBar? [.never] fun _ => [.never]
  have behindStarBar := steady_readBehindBar? [.any] fun name => [.name name]
  refine ⟨?_, ?_⟩
  · intro text left value read
    by_cases bar : ∃ rest, text = '|' :: rest
    · obtain ⟨rest, rfl⟩ := bar
      rw [readType?_bar] at read
      exact Nat.le_succ_of_le (behindBar.shrinks read)
    · by_cases star : ∃ rest, text = '*' :: rest
      · obtain ⟨rest, rfl⟩ := star
        by_cases starBar : rest.head? = some '|'
        · obtain ⟨rest, rfl⟩ := List.head?_eq_some_iff.mp starBar
          rw [readType?_starBar] at read
          exact Nat.le_succ_of_le (Nat.le_succ_of_le (behindStarBar.shrinks read))
        · rw [readType?_star starBar] at read
          cases read
          exact Nat.le_succ _
      · rw [readType?_name (fun head => star (List.head?_eq_some_iff.mp head))
          (fun head => bar (List.head?_eq_some_iff.mp head))] at read
        exact steady_readNamedType?.shrinks read
  · intro front following left value read leaves
    have named : front.head? ≠ some '*' → front.head? ≠ some '|' →
        ∀ other, readType? (front ++ ' ' :: other) = readNamedType? (front ++ ' ' :: other) :=
      fun notStar notBar other =>
        readType?_name (head?_append_ne (by decide) notStar other) (head?_append_ne (by decide) notBar other)
    by_cases bar : front.head? = some '|'
    · obtain ⟨inner, rfl⟩ := List.head?_eq_some_iff.mp bar
      simp only [List.cons_append, readType?_bar] at read ⊢
      exact behindBar.settled read leaves
    · by_cases star : front.head? = some '*'
      · obtain ⟨inner, rfl⟩ := List.head?_eq_some_iff.mp star
        by_cases starBar : inner.head? = some '|'
        · obtain ⟨inner, rfl⟩ := List.head?_eq_some_iff.mp starBar
          simp only [List.cons_append, readType?_starBar] at read ⊢
          exact behindStarBar.settled read leaves
        · have any : ∀ other, readType? ('*' :: inner ++ ' ' :: other) = some ([.any], inner ++ ' ' :: other) :=
            fun other => readType?_star (head?_append_ne (by decide) starBar other)
          rw [any] at read
          cases read
          exact ⟨inner, rfl, any⟩
      · simp only [named star bar] at read ⊢
        exact steady_readNamedType?.settled read leaves

/-! ### Combinators -/

/-- The combinator that a gap ends with, and the text behind it, given whether there was white space in the gap. -/
def combinatorAt? (spaced : Bool) : List Char → Option (Combinator × List Char)
  | '>' :: rest => some (.child, rest)
  | '+' :: rest => some (.nextSibling, rest)
  | '~' :: rest => some (.laterSibling, rest)
  | [] => none
  | ',' :: _ => none
  | ')' :: _ => none
  | rest => if spaced then some (.descendant, rest) else none

theorem readCombinator?_eq (text : List Char) :
    readCombinator? text = combinatorAt? (startsWithGap text) (skipGap text) := by
  rfl

theorem length_combinatorAt?_le {spaced : Bool} {text left : List Char} {combinator : Combinator}
    (read : combinatorAt? spaced text = some (combinator, left)) : left.length ≤ text.length := by
  unfold combinatorAt? at read
  split at read
  case h_7 =>
    split at read
    · cases read
      exact Nat.le_refl _
    · exact nomatch read
  case h_4 => exact nomatch read
  case h_5 => exact nomatch read
  case h_6 => exact nomatch read
  all_goals
    cases read
    exact Nat.le_succ _

/-- A gap that ends in front of the blank has the same combinator whatever follows. -/
theorem combinatorAt?_append (spaced : Bool) (first : Char) (inner : List Char) :
    (∃ combinator rest, ∀ other,
      combinatorAt? spaced (first :: inner ++ ' ' :: other) = some (combinator, rest ++ ' ' :: other)) ∨
    ∀ other, combinatorAt? spaced (first :: inner ++ ' ' :: other) = none := by
  by_cases child : first = '>'
  · subst child
    exact .inl ⟨.child, inner, fun other => rfl⟩
  by_cases next : first = '+'
  · subst next
    exact .inl ⟨.nextSibling, inner, fun other => rfl⟩
  by_cases later : first = '~'
  · subst later
    exact .inl ⟨.laterSibling, inner, fun other => rfl⟩
  by_cases comma : first = ','
  · subst comma
    exact .inr fun other => rfl
  by_cases bracket : first = ')'
  · subst bracket
    exact .inr fun other => rfl
  have plain : ∀ other, combinatorAt? spaced (first :: inner ++ ' ' :: other) =
      if spaced then some (.descendant, first :: inner ++ ' ' :: other) else none := by
    intro other
    unfold combinatorAt?
    split
    case h_7 => rfl
    case h_4 same => exact nomatch same
    all_goals
      rename_i same
      exact absurd (List.cons.inj same).1 (by assumption)
  cases spaced with
  | true => exact .inl ⟨.descendant, first :: inner, plain⟩
  | false => exact .inr plain

theorem startsWithGap_append {front following : List Char}
    (leaves : following.length < (skipGap (front ++ ' ' :: following)).length) (other : List Char) :
    startsWithGap (front ++ ' ' :: other) = startsWithGap (front ++ ' ' :: following) := by
  obtain ⟨rest, _, same⟩ := settled_skipComments (Nat.lt_of_lt_of_le leaves (length_skipGap_le_skipComments _))
  cases rest with
  | nil => rw [startsWithGap_eq (same other), startsWithGap_eq (same following)]
  | cons first rest => rw [startsWithGap_eq (same other), startsWithGap_eq (same following)]

/-- A combinator in front of the blank, or none there. -/
theorem readCombinator?_append {front following : List Char}
    (leaves : following.length < (skipGap (front ++ ' ' :: following)).length) :
    (∃ combinator rest, ∀ other, readCombinator? (front ++ ' ' :: other) = some (combinator, rest ++ ' ' :: other)) ∨
      ∀ other, readCombinator? (front ++ ' ' :: other) = none := by
  obtain ⟨first, inner, _, _, same⟩ := skipGap_append leaves
  have placed : ∀ other, readCombinator? (front ++ ' ' :: other) =
      combinatorAt? (startsWithGap (front ++ ' ' :: following)) (first :: inner ++ ' ' :: other) := by
    intro other
    rw [readCombinator?_eq, startsWithGap_append leaves other, same other]
  simp only [placed]
  exact combinatorAt?_append _ first inner

theorem length_readCombinator?_le {text left : List Char} {combinator : Combinator}
    (read : readCombinator? text = some (combinator, left)) : left.length ≤ (skipGap text).length := by
  rw [readCombinator?_eq] at read
  exact length_combinatorAt?_le read

/-! ### Tests -/

section

variable (tests : List Char → Option (List Simple × List Char)) (options : List Char → Option (List Complex × List Char))

def testsBehind (found : List Simple) : List Char → Option (List Simple × List Char) :=
  followedBy tests fun more text => some (found ++ more, text)

/-- A test with something in brackets, behind the opening bracket. -/
def readFunction? (name text : List Char) : Option (List Simple × List Char) :=
  if name = "not".toList then
    followedBy options (fun options text => (readClose? ')' text).bind (testsBehind tests [.none options])) text
  else
    match countedTest? name with
    | none => none
    | some (ofType, fromEnd) =>
      followedBy readOrdinal?
        (fun ordinal text => (readClose? ')' text).bind (testsBehind tests [.nth ordinal ofType fromEnd])) text

def readPseudo? (name text : List Char) : Option (List Simple × List Char) :=
  match text with
  | '(' :: rest => readFunction? tests options name rest
  | _ =>
    match namedTests? name with
    | none => none
    | some named => testsBehind tests named text

/-- How a test is read behind its first character, if the character begins one. -/
def testReader? (first : Char) : Option (List Char → Option (List Simple × List Char)) :=
  if first = '#' then some (followedBy readName? fun name => testsBehind tests [.identity name])
  else if first = '.' then some (followedBy readName? fun name => testsBehind tests [.className name])
  else if first = '[' then some (followedBy readAttribute? fun test => testsBehind tests [test])
  else if first = ':' then some (followedBy readName? fun name => readPseudo? tests options (lowerText name.toList))
  else none

end

theorem readPseudo?_name {tests : List Char → Option (List Simple × List Char)}
    {options : List Char → Option (List Complex × List Char)} {text : List Char} (notBracket : ∀ rest, text ≠ '(' :: rest)
    (name : List Char) :
    readPseudo? tests options name text =
      match namedTests? name with
      | none => none
      | some named => testsBehind tests named text := by
  unfold readPseudo?
  split
  · exact absurd rfl (notBracket _)
  · rfl

theorem readPseudo?_eq (fuel : Nat) (name text : List Char) :
    (match text with
      | '(' :: rest =>
        if name = "not".toList then do
          let (options, rest) ← readOptions? fuel rest
          let rest ← readClose? ')' rest
          let (tests, rest) ← readTests? fuel rest
          return (.none options :: tests, rest)
        else do
          let (ofType, fromEnd) ← countedTest? name
          let (ordinal, rest) ← readOrdinal? rest
          let rest ← readClose? ')' rest
          let (tests, rest) ← readTests? fuel rest
          return (.nth ordinal ofType fromEnd :: tests, rest)
      | _ => do
        let named ← namedTests? name
        let (tests, rest) ← readTests? fuel text
        return (named ++ tests, rest)) = readPseudo? (readTests? fuel) (readOptions? fuel) name text := by
  split
  · show _ = readFunction? _ _ name _
    unfold readFunction?
    split
    · rfl
    · cases countedTest? name <;> rfl
  · rename_i notBracket
    rw [readPseudo?_name fun rest same => notBracket rest same]
    cases namedTests? name <;> rfl

/-- The reader of a test is that of its first character: of an identity, a class name, an attribute, or what stands
behind a colon. -/
theorem testReader?_cases {tests : List Char → Option (List Simple × List Char)}
    {options : List Char → Option (List Complex × List Char)} {first : Char}
    {reader : List Char → Option (List Simple × List Char)} (begins : testReader? tests options first = some reader) :
    (first = '#' ∧ reader = followedBy readName? fun name => testsBehind tests [.identity name]) ∨
      (first = '.' ∧ reader = followedBy readName? fun name => testsBehind tests [.className name]) ∨
      (first = '[' ∧ reader = followedBy readAttribute? fun test => testsBehind tests [test]) ∨
      (first = ':' ∧ reader = followedBy readName? fun name => readPseudo? tests options (lowerText name.toList)) := by
  unfold testReader? at begins
  split at begins
  case isTrue identity => exact .inl ⟨identity, (Option.some.inj begins).symm⟩
  split at begins
  case isTrue className => exact .inr (.inl ⟨className, (Option.some.inj begins).symm⟩)
  split at begins
  case isTrue bracketed => exact .inr (.inr (.inl ⟨bracketed, (Option.some.inj begins).symm⟩))
  split at begins
  case isTrue colon => exact .inr (.inr (.inr ⟨colon, (Option.some.inj begins).symm⟩))
  case isFalse => exact nomatch begins

theorem readTests?_of_reader {fuel : Nat} {text rest : List Char} {first : Char}
    {reader : List Char → Option (List Simple × List Char)} (next : skipComments text = first :: rest)
    (begins : testReader? (readTests? fuel) (readOptions? fuel) first = some reader) :
    readTests? (fuel + 1) text = reader rest := by
  rw [readTests?, next]
  rcases testReader?_cases begins with ⟨rfl, rfl⟩ | ⟨rfl, rfl⟩ | ⟨rfl, rfl⟩ | ⟨rfl, rfl⟩
  · rfl
  · rfl
  · rfl
  · show Option.bind (readName? rest) _ = Option.bind (readName? rest) _
    congr 1
    funext read
    obtain ⟨name, behind⟩ := read
    exact readPseudo?_eq fuel (lowerText name.toList) behind

theorem testReader?_eq_none {tests : List Char → Option (List Simple × List Char)}
    {options : List Char → Option (List Complex × List Char)} {first : Char}
    (none_ : testReader? tests options first = none) : first ∉ ['#', '.', '[', ':'] := by
  unfold testReader? at none_
  intro member
  simp only [List.mem_cons, List.not_mem_nil, or_false] at member
  rcases member with rfl | rfl | rfl | rfl <;> exact nomatch none_

section

variable {tests testsAgain : List Char → Option (List Simple × List Char)}
  {options optionsAgain : List Char → Option (List Complex × List Char)}
  (steadyTests : Steady id skipComments tests testsAgain) (steadyOptions : Steady id skipGap options optionsAgain)

theorem Steady.fail {α : Type} (before after : List Char → List Char) (again : List Char → Option (α × List Char)) :
    Steady before after (fun _ => none) again :=
  ⟨(fun read => nomatch read), (fun read => nomatch read)⟩

include steadyTests

theorem steady_testsBehind (found : List Simple) :
    Steady id skipComments (testsBehind tests found) (testsBehind testsAgain found) :=
  steadyTests.followedBy fun _ => Steady.done skipComments _

include steadyOptions

theorem steady_readFunction? (name : List Char) :
    Steady id skipComments (readFunction? tests options name) (readFunction? testsAgain optionsAgain name) := by
  unfold readFunction?
  by_cases negated : name = "not".toList
  · simp only [negated, if_true]
    exact steadyOptions.followedBy fun _ => (steady_testsBehind steadyTests _).close ')'
  · simp only [negated, if_false]
    cases countedTest? name with
    | none => exact Steady.fail _ _ _
    | some counted => exact steady_readOrdinal?.followedBy fun _ => (steady_testsBehind steadyTests _).close ')'

theorem steady_readPseudo? (name : List Char) :
    Steady id skipComments (readPseudo? tests options name) (readPseudo? testsAgain optionsAgain name) := by
  have function := steady_readFunction? steadyTests steadyOptions name
  have named : Steady id skipComments
      (fun text => match namedTests? name with
        | none => none
        | some named => testsBehind tests named text)
      (fun text => match namedTests? name with
        | none => none
        | some named => testsBehind testsAgain named text) := by
    cases namedTests? name with
    | none => exact Steady.fail _ _ _
    | some named => exact steady_testsBehind steadyTests named
  refine ⟨?_, ?_⟩
  · intro text left value read
    by_cases bracket : ∃ rest, text = '(' :: rest
    · obtain ⟨rest, rfl⟩ := bracket
      exact Nat.le_succ_of_le (function.shrinks read)
    · rw [readPseudo?_name fun rest same => bracket ⟨rest, same⟩] at read
      exact named.shrinks read
  · intro front following left value read leaves
    by_cases bracket : ∃ inner, front = '(' :: inner
    · obtain ⟨inner, rfl⟩ := bracket
      exact function.settled read leaves
    · have notBracket : ∀ other rest, front ++ ' ' :: other ≠ '(' :: rest := by
        intro other rest same
        obtain ⟨inner, shape, _⟩ := eq_cons_of_append (by decide) same
        exact bracket ⟨inner, shape⟩
      rw [readPseudo?_name (notBracket following)] at read
      obtain ⟨rest, shape, again⟩ := named.settled read leaves
      exact ⟨rest, shape, fun other => (readPseudo?_name (notBracket other) name).trans (again other)⟩

/-- A test is read by the same reader, which is steady, again. -/
theorem steady_testReader? {first : Char} {reader : List Char → Option (List Simple × List Char)}
    (begins : testReader? tests options first = some reader) :
    ∃ again, testReader? testsAgain optionsAgain first = some again ∧ Steady id skipComments reader again := by
  have named : ∀ make : String → Simple,
      Steady id skipComments (followedBy readName? fun name => testsBehind tests [make name])
        (followedBy readName? fun name => testsBehind testsAgain [make name]) :=
    fun make => steady_readName?.followedBy fun name => steady_testsBehind steadyTests _
  rcases testReader?_cases begins with ⟨rfl, rfl⟩ | ⟨rfl, rfl⟩ | ⟨rfl, rfl⟩ | ⟨rfl, rfl⟩
  · exact ⟨_, rfl, named .identity⟩
  · exact ⟨_, rfl, named .className⟩
  · exact ⟨_, rfl, steady_readAttribute?.followedBy fun test => steady_testsBehind steadyTests _⟩
  · exact ⟨_, rfl, steady_readName?.followedBy fun name => steady_readPseudo? steadyTests steadyOptions _⟩

end

end Harvest.Selector
