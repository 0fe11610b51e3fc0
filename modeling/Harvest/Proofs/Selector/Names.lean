import Harvest.Proofs.Selector.Steady

/-!
Contract: names and texts in quotation marks are read steadily.

An escape may take the blank in, as the character that it stands for or as the end of its digits. A reader that leaves the
blank has only met escapes that end in front of it.
-/

namespace Harvest.Selector

open Markup

/-! ### Escapes -/

theorem takeWhile_take_append (test : Char → Bool) (stops : test ' ' = false) (count : Nat) (front other : List Char) :
    ((front ++ ' ' :: other).take count).takeWhile test = (front.take count).takeWhile test := by
  induction count generalizing front with
  | zero => rfl
  | succ count inductionHypothesis =>
    cases front with
    | nil => simp [stops]
    | cons first front =>
      rw [List.cons_append, List.take_succ_cons, List.take_succ_cons, List.takeWhile_cons, List.takeWhile_cons,
        inductionHypothesis]

theorem length_skipSpace_le (text : List Char) : (skipSpace text).length ≤ text.length := by
  unfold skipSpace
  split
  · simp only [List.length_cons]
    omega
  · split <;> simp
  · exact Nat.le_refl _

theorem skipSpace_cons {first : Char} {text : List Char} (single : ¬ (first = '\r' ∧ text.head? = some '\n')) :
    skipSpace (first :: text) = if isSpace first then text else first :: text := by
  rw [skipSpace.eq_2]
  rintro rest rfl rfl
  exact single ⟨rfl, rfl⟩

theorem settled_skipSpace : SettledSkip skipSpace := by
  intro front following leaves
  cases front with
  | nil => exact absurd leaves (Nat.lt_irrefl _)
  | cons first front =>
    by_cases breaks : first = '\r' ∧ front.head? = some '\n'
    · obtain ⟨rfl, heads⟩ := breaks
      obtain ⟨front, rfl⟩ := List.head?_eq_some_iff.mp heads
      exact ⟨front, by simp only [List.length_cons]; omega, fun other => rfl⟩
    · have single : ∀ other, ¬ (first = '\r' ∧ (front ++ ' ' :: other).head? = some '\n') := by
        intro other both
        cases front with
        | nil => exact absurd both.2 (by simp)
        | cons second front => exact breaks both
      cases space : isSpace first with
      | true =>
        refine ⟨front, by simp, fun other => ?_⟩
        rw [List.cons_append, skipSpace_cons (single other), space]
        rfl
      | false =>
        refine ⟨first :: front, Nat.le_refl _, fun other => ?_⟩
        rw [List.cons_append, skipSpace_cons (single other), space]
        rfl

theorem length_readEscape_le (text : List Char) : (readEscape text).2.length ≤ text.length := by
  unfold readEscape
  simp only
  split
  · split <;> simp
  · exact Nat.le_trans (length_skipSpace_le _) (by simp)

/-- An escape that leaves the blank ends in front of it. -/
theorem settled_readEscape {front following : List Char}
    (leaves : following.length < (readEscape (front ++ ' ' :: following)).2.length) :
    ∃ character rest, rest.length ≤ front.length ∧
      ∀ other, readEscape (front ++ ' ' :: other) = (character, rest ++ ' ' :: other) := by
  have digits := takeWhile_take_append (fun character => (digitIn? 16 character).isSome) (by decide) 6 front
  have within := (List.takeWhile_prefix (fun character => (digitIn? 16 character).isSome) (l := front.take 6)).length_le
  rw [List.length_take] at within
  generalize (front.take 6).takeWhile (fun character => (digitIn? 16 character).isSome) = taken at digits within
  have behind : ∀ other, (front ++ ' ' :: other).drop taken.length = front.drop taken.length ++ ' ' :: other :=
    fun other => List.drop_append_of_le_length (by omega)
  unfold readEscape at leaves ⊢
  simp only [digits, behind] at leaves ⊢
  cases none : taken.isEmpty with
  | true =>
    simp only [none, if_true] at leaves ⊢
    cases front with
    | nil => exact absurd leaves (Nat.lt_irrefl _)
    | cons first front => exact ⟨notNull first, front, by simp, fun other => rfl⟩
  | false =>
    simp only [none, Bool.false_eq_true, if_false] at leaves ⊢
    obtain ⟨rest, shorter, same⟩ := settled_skipSpace leaves
    rw [List.length_drop] at shorter
    exact ⟨_, rest, by omega, fun other => by rw [same other]⟩

/-! ### Names -/

theorem startsWithEscape_append (front following other : List Char) :
    startsWithEscape (front ++ ' ' :: other) = startsWithEscape (front ++ ' ' :: following) := by
  cases front with
  | nil => rfl
  | cons first front =>
    by_cases escape : first = '\\'
    · subst escape
      cases front <;> rfl
    · exact (startsWithEscape_cons escape _).trans (startsWithEscape_cons escape _).symm

theorem startsName_of_ne {first : Char} (notHyphen : first ≠ '-') (text : List Char) :
    startsName (first :: text) = (isNameStart first || startsWithEscape (first :: text)) := by
  unfold startsName
  split
  · rename_i same
    exact absurd (List.cons.inj same).1 notHyphen
  · rename_i same
    cases same
    rfl
  · rename_i same
    exact nomatch same

/-- Whether a name begins is seen in front of the blank. -/
theorem startsName_append (front following other : List Char) :
    startsName (front ++ ' ' :: other) = startsName (front ++ ' ' :: following) := by
  cases front with
  | nil => rfl
  | cons first front =>
    by_cases hyphen : first = '-'
    · subst hyphen
      cases front with
      | nil => rfl
      | cons second front =>
        show (second == '-' || isNameStart second || startsWithEscape (second :: front ++ ' ' :: other)) = _
        rw [startsWithEscape_append (second :: front) following other]
        rfl
    · rw [List.cons_append, List.cons_append, startsName_of_ne hyphen, startsName_of_ne hyphen, ← List.cons_append,
        ← List.cons_append, startsWithEscape_append (first :: front) following other]

theorem nameChars_plain {first : Char} (plain : isNameChar first = true) (fuel : Nat) (text : List Char) :
    nameChars (fuel + 1) (first :: text) = (first :: (nameChars fuel text).1, (nameChars fuel text).2) := by
  simp [nameChars, plain]

theorem nameChars_escape {first : Char} {text : List Char} (special : isNameChar first = false)
    (escape : startsWithEscape (first :: text) = true) (fuel : Nat) :
    nameChars (fuel + 1) (first :: text) =
      ((readEscape text).1 :: (nameChars fuel (readEscape text).2).1, (nameChars fuel (readEscape text).2).2) := by
  simp [nameChars, special, escape]

theorem nameChars_end {first : Char} {text : List Char} (special : isNameChar first = false)
    (unescaped : startsWithEscape (first :: text) = false) (fuel : Nat) :
    nameChars (fuel + 1) (first :: text) = ([], first :: text) := by
  simp [nameChars, special, unescaped]

theorem length_nameChars_le (fuel : Nat) (text : List Char) : (nameChars fuel text).2.length ≤ text.length := by
  induction fuel generalizing text with
  | zero =>
    exact Nat.le_of_eq (by rw [nameChars.eq_1])
  | succ fuel inductionHypothesis =>
    cases text with
    | nil =>
      exact Nat.le_of_eq (by rw [nameChars.eq_2])
    | cons first text =>
      cases plain : isNameChar first with
      | true =>
        rw [nameChars_plain plain]
        exact Nat.le_succ_of_le (inductionHypothesis text)
      | false =>
        cases escape : startsWithEscape (first :: text) with
        | true =>
          rw [nameChars_escape plain escape]
          exact Nat.le_succ_of_le (Nat.le_trans (inductionHypothesis _) (length_readEscape_le text))
        | false =>
          exact Nat.le_of_eq (by rw [nameChars_end plain escape])

theorem exists_less {bound fuel : Nat} (enough : bound < fuel) : ∃ less, fuel = less + 1 ∧ bound ≤ less :=
  ⟨fuel - 1, by omega, by omega⟩

/-- The characters of a name that ends in front of the blank, with more fuel than there are characters in front of
it. -/
theorem settled_nameChars {fuel : Nat} {front following : List Char} (enough : front.length < fuel)
    (leaves : following.length < (nameChars fuel (front ++ ' ' :: following)).2.length) :
    ∃ name rest, ∀ other more, front.length < more →
      nameChars more (front ++ ' ' :: other) = (name, rest ++ ' ' :: other) := by
  induction fuel generalizing front with
  | zero => exact absurd enough (by omega)
  | succ fuel inductionHypothesis =>
    cases front with
    | nil =>
      refine ⟨[], [], fun other more bound => ?_⟩
      obtain ⟨less, rfl, _⟩ := exists_less bound
      exact nameChars_end (by decide) rfl less
    | cons first front =>
      rw [List.length_cons] at enough
      cases plain : isNameChar first with
      | true =>
        rw [List.cons_append, nameChars_plain plain] at leaves
        obtain ⟨name, rest, again⟩ := inductionHypothesis (by omega) leaves
        refine ⟨first :: name, rest, fun other more bound => ?_⟩
        obtain ⟨less, rfl, within⟩ := exists_less bound
        rw [List.cons_append, nameChars_plain plain, again other less within]
      | false =>
        have same := startsWithEscape_append (first :: front) following
        cases escape : startsWithEscape (first :: front ++ ' ' :: following) with
        | true =>
          rw [List.cons_append] at escape leaves
          rw [nameChars_escape plain escape] at leaves
          obtain ⟨character, behind, shorter, escaped⟩ :=
            settled_readEscape (Nat.lt_of_lt_of_le leaves (length_nameChars_le _ _))
          rw [escaped following] at leaves
          obtain ⟨name, rest, again⟩ := inductionHypothesis (by omega) leaves
          refine ⟨character :: name, rest, fun other more bound => ?_⟩
          obtain ⟨less, rfl, within⟩ := exists_less bound
          rw [List.length_cons] at within
          have still : startsWithEscape (first :: (front ++ ' ' :: other)) = true := (same other).trans escape
          rw [List.cons_append, nameChars_escape plain still, escaped other, again other less (by omega)]
        | false =>
          refine ⟨[], first :: front, fun other more bound => ?_⟩
          obtain ⟨less, rfl, _⟩ := exists_less bound
          exact nameChars_end plain ((same other).trans escape) less

theorem readName?_of_starts {text : List Char} (starts : startsName text = true) :
    readName? text =
      some (String.ofList (nameChars (text.length + 1) text).1, (nameChars (text.length + 1) text).2) := by
  unfold readName?
  rw [if_pos starts]

theorem readName?_of_not_starts {text : List Char} (starts : startsName text = false) : readName? text = none := by
  unfold readName?
  rw [starts]
  rfl

theorem steady_readName? : Steady id id readName? readName? where
  shrinks := by
    intro text left value read
    cases starts : startsName text with
    | false =>
      rw [readName?_of_not_starts starts] at read
      exact nomatch read
    | true =>
      rw [readName?_of_starts starts] at read
      cases read
      exact length_nameChars_le _ text
  settled := by
    intro front following left value read leaves
    cases starts : startsName (front ++ ' ' :: following) with
    | false =>
      rw [readName?_of_not_starts starts] at read
      exact nomatch read
    | true =>
      rw [readName?_of_starts starts] at read
      have enough : ∀ other, front.length < (front ++ ' ' :: other).length + 1 := by
        intro other
        rw [List.length_append]
        omega
      cases read
      obtain ⟨name, rest, again⟩ := settled_nameChars (enough following) leaves
      refine ⟨rest, congrArg Prod.snd (again following _ (enough following)), fun other => ?_⟩
      rw [readName?_of_starts ((startsName_append front following other).trans starts), again other _ (enough other),
        again following _ (enough following)]

/-- Where no name begins in front of one text behind a blank, none does in front of another. -/
theorem readName?_append_eq_none {front following : List Char} (noName : readName? (front ++ ' ' :: following) = none)
    (other : List Char) : readName? (front ++ ' ' :: other) = none := by
  cases starts : startsName (front ++ ' ' :: following) with
  | false => exact readName?_of_not_starts ((startsName_append front following other).trans starts)
  | true =>
    rw [readName?_of_starts starts] at noName
    exact nomatch noName

/-! ### Texts in quotation marks -/

theorem quotedChars_escape {mark : Char} {text : List Char} (some_text : text ≠ []) (unbroken : text.head? ≠ some '\n')
    (fuel : Nat) :
    quotedChars mark (fuel + 1) ('\\' :: text) =
      (quotedChars mark fuel (readEscape text).2).map fun (others, behind) => ((readEscape text).1 :: others, behind) := by
  rw [quotedChars.eq_5]
  · rintro rest rfl
    exact unbroken rfl
  · exact some_text

theorem quotedChars_plain {mark first : Char} (unescaped : first ≠ '\\') (text : List Char) (fuel : Nat) :
    quotedChars mark (fuel + 1) (first :: text) =
      if first = mark then some ([], text)
      else if first = '\n' ∨ first = '\r' ∨ first.toNat = 12 then none
      else (quotedChars mark fuel text).map fun (others, behind) => (first :: others, behind) := by
  rw [quotedChars.eq_6]
  · exact fun _ same => absurd same unescaped
  · exact fun same => absurd same unescaped
  · exact fun same => absurd same unescaped

theorem length_quotedChars_le {mark : Char} {fuel : Nat} {text left chars : List Char}
    (read : quotedChars mark fuel text = some (chars, left)) : left.length ≤ text.length := by
  induction fuel generalizing text chars with
  | zero => exact nomatch read
  | succ fuel inductionHypothesis =>
    cases text with
    | nil =>
      cases read
      exact Nat.le_refl _
    | cons first text =>
      by_cases escape : first = '\\'
      · subst escape
        by_cases ends : text = []
        · subst ends
          cases read
          exact Nat.zero_le _
        · by_cases breaks : text.head? = some '\n'
          · obtain ⟨rest, rfl⟩ := List.head?_eq_some_iff.mp breaks
            have := @inductionHypothesis rest _ read
            simp only [List.length_cons]
            omega
          · rw [quotedChars_escape ends breaks] at read
            obtain ⟨⟨others, behind⟩, later, same⟩ := Option.map_eq_some_iff.mp read
            cases same
            exact Nat.le_succ_of_le (Nat.le_trans (inductionHypothesis later) (length_readEscape_le text))
      · rw [quotedChars_plain escape] at read
        split at read
        · cases read
          exact Nat.le_succ _
        · split at read
          · exact nomatch read
          · obtain ⟨⟨others, behind⟩, later, same⟩ := Option.map_eq_some_iff.mp read
            cases same
            exact Nat.le_succ_of_le (inductionHypothesis later)

/-- A text in quotation marks that ends in front of the blank. -/
theorem settled_quotedChars {mark : Char} (notBlank : ' ' ≠ mark) {fuel : Nat} {front following left chars : List Char}
    (enough : front.length < fuel) (read : quotedChars mark fuel (front ++ ' ' :: following) = some (chars, left))
    (leaves : following.length < left.length) :
    ∃ rest, left = rest ++ ' ' :: following ∧ ∀ other more, front.length < more →
      quotedChars mark more (front ++ ' ' :: other) = some (chars, rest ++ ' ' :: other) := by
  induction fuel generalizing front chars with
  | zero => exact absurd enough (by omega)
  | succ fuel inductionHypothesis =>
    cases front with
    | nil =>
      rw [List.nil_append, quotedChars_plain (by decide), if_neg notBlank, if_neg (by decide)] at read
      obtain ⟨⟨others, behind⟩, later, same⟩ := Option.map_eq_some_iff.mp read
      cases same
      exact absurd (length_quotedChars_le later) (by omega)
    | cons first front =>
      rw [List.length_cons] at enough
      rw [List.cons_append] at read
      by_cases escape : first = '\\'
      · subst escape
        by_cases breaks : front.head? = some '\n'
        · obtain ⟨front, rfl⟩ := List.head?_eq_some_iff.mp breaks
          rw [List.length_cons] at enough
          obtain ⟨rest, shape, again⟩ := @inductionHypothesis front chars (by omega) read
          refine ⟨rest, shape, fun other more bound => ?_⟩
          obtain ⟨less, rfl, within⟩ := exists_less bound
          simp only [List.length_cons] at within
          exact again other less (by omega)
        · have unbroken : ∀ other, (front ++ ' ' :: other).head? ≠ some '\n' := by
            intro other
            cases front with
            | nil => exact fun same => absurd (Option.some.inj same) (by decide)
            | cons second front => exact breaks
          have some_text : ∀ other, front ++ ' ' :: other ≠ [] := by simp
          rw [quotedChars_escape (some_text following) (unbroken following)] at read
          obtain ⟨⟨others, behind⟩, later, same⟩ := Option.map_eq_some_iff.mp read
          cases same
          obtain ⟨character, inner, shorter, escaped⟩ :=
            settled_readEscape (Nat.lt_of_lt_of_le leaves (length_quotedChars_le later))
          rw [escaped following] at later
          obtain ⟨rest, shape, again⟩ := inductionHypothesis (by omega) later
          refine ⟨rest, shape, fun other more bound => ?_⟩
          obtain ⟨less, rfl, within⟩ := exists_less bound
          rw [List.length_cons] at within
          rw [List.cons_append, quotedChars_escape (some_text other) (unbroken other), escaped other,
            again other less (by omega), escaped following]
          rfl
      · rw [quotedChars_plain escape] at read
        by_cases closes : first = mark
        · rw [if_pos closes] at read
          cases read
          refine ⟨front, rfl, fun other more bound => ?_⟩
          obtain ⟨less, rfl, _⟩ := exists_less bound
          rw [List.cons_append, quotedChars_plain escape, if_pos closes]
        · by_cases breaks : first = '\n' ∨ first = '\r' ∨ first.toNat = 12
          · rw [if_neg closes, if_pos breaks] at read
            exact nomatch read
          · rw [if_neg closes, if_neg breaks] at read
            obtain ⟨⟨others, behind⟩, later, same⟩ := Option.map_eq_some_iff.mp read
            cases same
            obtain ⟨rest, shape, again⟩ := inductionHypothesis (by omega) later
            refine ⟨rest, shape, fun other more bound => ?_⟩
            obtain ⟨less, rfl, within⟩ := exists_less bound
            rw [List.length_cons] at within
            rw [List.cons_append, quotedChars_plain escape, if_neg closes, if_neg breaks, again other less (by omega)]
            rfl

/-- The text behind a quotation mark, up to the mark that closes it. -/
theorem steady_quoted (mark : Char) (notBlank : ' ' ≠ mark) :
    Steady id id (fun text => (quotedChars mark (text.length + 1) text).map fun (value, rest) => (String.ofList value, rest))
      (fun text => (quotedChars mark (text.length + 1) text).map fun (value, rest) => (String.ofList value, rest)) where
  shrinks := by
    intro text left value read
    obtain ⟨⟨chars, rest⟩, quoted, same⟩ := Option.map_eq_some_iff.mp read
    cases same
    exact length_quotedChars_le quoted
  settled := by
    intro front following left value read leaves
    have enough : ∀ other, front.length < (front ++ ' ' :: other).length + 1 := by
      intro other
      rw [List.length_append]
      omega
    obtain ⟨⟨chars, rest⟩, quoted, same⟩ := Option.map_eq_some_iff.mp read
    cases same
    obtain ⟨rest, shape, again⟩ := settled_quotedChars notBlank (enough following) quoted leaves
    exact ⟨rest, shape, fun other => by rw [again other _ (enough other)]; rfl⟩

/-! ### Values and operators -/

/-- What begins a text in front of a blank stands in front of it. -/
theorem eq_cons_of_append {front following rest : List Char} {first : Char} (visible : first ≠ ' ')
    (same : front ++ ' ' :: following = first :: rest) :
    ∃ inner, front = first :: inner ∧ rest = inner ++ ' ' :: following := by
  cases front with
  | nil => exact absurd (List.cons.inj same).1.symm visible
  | cons other inner =>
    obtain ⟨rfl, rfl⟩ := List.cons.inj same
    exact ⟨inner, rfl, rfl⟩

theorem readValue?_name {text : List Char} (notDouble : ∀ rest, text ≠ '"' :: rest) (notSingle : ∀ rest, text ≠ '\'' :: rest) :
    readValue? text = readName? text := by
  unfold readValue?
  split
  · exact absurd rfl (notDouble _)
  · exact absurd rfl (notSingle _)
  · rfl

theorem steady_readValue? : Steady id id readValue? readValue? where
  shrinks := by
    intro text left value read
    unfold readValue? at read
    split at read
    · exact Nat.le_succ_of_le ((steady_quoted _ (by decide)).shrinks read)
    · exact Nat.le_succ_of_le ((steady_quoted _ (by decide)).shrinks read)
    · exact steady_readName?.shrinks read
  settled := by
    intro front following left value read leaves
    by_cases double : ∃ inner, front = '"' :: inner
    · obtain ⟨inner, rfl⟩ := double
      exact (steady_quoted '"' (by decide)).settled read leaves
    · by_cases single : ∃ inner, front = '\'' :: inner
      · obtain ⟨inner, rfl⟩ := single
        exact (steady_quoted '\'' (by decide)).settled read leaves
      · have named : ∀ other, readValue? (front ++ ' ' :: other) = readName? (front ++ ' ' :: other) := by
          refine fun other => readValue?_name (fun rest same => ?_) (fun rest same => ?_)
          · obtain ⟨inner, shape, _⟩ := eq_cons_of_append (by decide) same
            exact double ⟨inner, shape⟩
          · obtain ⟨inner, shape, _⟩ := eq_cons_of_append (by decide) same
            exact single ⟨inner, shape⟩
        simp only [named] at read ⊢
        exact steady_readName?.settled read leaves

theorem steady_readOperator? : Steady id id readOperator? readOperator? where
  shrinks := by
    intro text left value read
    unfold readOperator? at read
    split at read
    case h_7 => exact nomatch read
    all_goals
      cases read
      simp only [id, List.length_cons]
      omega
  settled := by
    intro front following left value read leaves
    unfold readOperator? at read
    split at read
    case h_7 => exact nomatch read
    case h_1 same =>
      obtain ⟨inner, rfl, rfl⟩ := eq_cons_of_append (by decide) same
      cases read
      exact ⟨inner, rfl, fun other => rfl⟩
    all_goals
      rename_i same
      obtain ⟨inner, rfl, behind⟩ := eq_cons_of_append (by decide) same
      obtain ⟨inner, rfl, rfl⟩ := eq_cons_of_append (show '=' ≠ ' ' by decide) behind.symm
      cases read
      exact ⟨inner, rfl, fun other => rfl⟩

theorem steady_readAttributeName? : Steady id id readAttributeName? readAttributeName? where
  shrinks := by
    intro text left value read
    unfold readAttributeName? at read
    split at read
    · exact Nat.le_succ_of_le (steady_readName?.shrinks read)
    · exact Nat.le_succ_of_le (Nat.le_succ_of_le (steady_readName?.shrinks read))
    · exact steady_readName?.shrinks read
  settled := by
    intro front following left value read leaves
    unfold readAttributeName? at read
    split at read
    case h_1 same =>
      obtain ⟨inner, rfl, rfl⟩ := eq_cons_of_append (by decide) same
      exact steady_readName?.settled read leaves
    case h_2 same =>
      obtain ⟨inner, rfl, behind⟩ := eq_cons_of_append (by decide) same
      obtain ⟨inner, rfl, rfl⟩ := eq_cons_of_append (show '|' ≠ ' ' by decide) behind.symm
      exact steady_readName?.settled read leaves
    case h_3 notBar notStar =>
      have named : ∀ other, readAttributeName? (front ++ ' ' :: other) = readName? (front ++ ' ' :: other) := by
        intro other
        unfold readAttributeName?
        split
        · rename_i same
          obtain ⟨inner, rfl, rfl⟩ := eq_cons_of_append (by decide) same
          exact (notBar _ rfl).elim
        · rename_i same
          obtain ⟨inner, rfl, behind⟩ := eq_cons_of_append (by decide) same
          obtain ⟨inner, rfl, rfl⟩ := eq_cons_of_append (show '|' ≠ ' ' by decide) behind.symm
          exact (notStar _ rfl).elim
        · rfl
      simp only [named]
      exact steady_readName?.settled read leaves

theorem steady_readLetterCase? : Steady id id readLetterCase? readLetterCase? where
  shrinks := by
    intro text left value read
    unfold readLetterCase? at read
    split at read
    · cases read
      exact Nat.le_refl _
    · rename_i name rest named
      have shorter := steady_readName?.shrinks named
      split at read
      · cases read
        exact shorter
      · cases read
        exact shorter
      · exact nomatch read
  settled := by
    intro front following left value read leaves
    unfold readLetterCase? at read
    split at read
    · rename_i noName
      cases read
      refine ⟨front, rfl, fun other => ?_⟩
      unfold readLetterCase?
      rw [readName?_append_eq_none noName other]
    · rename_i name rest named
      split at read
      case h_3 => exact nomatch read
      all_goals
        rename_i letter
        cases read
        obtain ⟨inner, rfl, again⟩ := steady_readName?.settled named leaves
        refine ⟨inner, rfl, fun other => ?_⟩
        unfold readLetterCase?
        rw [again other]
        simp only [letter]

end Harvest.Selector
