import Mathlib
import Harvest.Proofs.Pattern.Bounds
import Harvest.Transform.Matching

/-!
Contract: templates expand as page scripts expand them.

Page scripts take a template apart into references, from its beginning: each step finds the reference that the
remainder of the template begins with, the shortest being its first character, and what the reference is replaced
by (GetSubstitution). `substitute` is that algorithm, over what a match hands over: the matched text, the text it
stands in and where, what the groups captured, and what the named ones did if there are any. Expansion agrees with
it on every template, so what a match is replaced by is what a page script would put there.
-/

namespace Harvest.Pattern

/-- What a match hands over to a template. A group that took no part in the match captured nothing. -/
structure Occasion where
  matched : List Char
  text : List Char
  position : Nat
  captures : List (Option (List Char))
  namedCaptures : Option (List (String × Option (List Char)))

namespace Occasion

/-- A reference by a number, with what replaces it: what the group of that number captured, or the reference itself
when there is no such group. -/
def numbered (occasion : Occasion) (digits : List Char) : List Char × List Char :=
  let index := Decimal.valueOfDigits digits
  if 1 ≤ index ∧ index ≤ occasion.captures.length then
    ('$' :: digits, (occasion.captures[index - 1]?.join).getD [])
  else ('$' :: digits, '$' :: digits)

/-- The reference that a dollar sign in front of digits begins: two of them count, but only the first when both
together exceed the number of groups. -/
def byNumber (occasion : Occasion) (digits : List Char) : List Char × List Char :=
  if 2 ≤ digits.length then
    if Decimal.valueOfDigits (digits.take 2) > occasion.captures.length then occasion.numbered (digits.take 1)
    else occasion.numbered (digits.take 2)
  else occasion.numbered (digits.take 1)

/-- The reference that a dollar sign and an opening angle bracket begin, where `rest` is behind the bracket: up to the
first closing one, if any group is named. -/
def byName (occasion : Occasion) (rest : List Char) : List Char × List Char :=
  match occasion.namedCaptures with
  | none => (['$', '<'], ['$', '<'])
  | some names =>
    if '>' ∈ rest then
      let name := rest.takeWhile fun character => character ≠ '>'
      ('$' :: '<' :: name ++ ['>'], ((names.lookup (String.ofList name)).join).getD [])
    else (['$', '<'], ['$', '<'])

/-- The reference that the remainder of a template begins with, and what replaces it. -/
def reference (occasion : Occasion) : List Char → List Char × List Char
  | '$' :: mark :: rest =>
    if mark = '$' then (['$', mark], ['$'])
    else if mark.toNat = 0x60 then (['$', mark], occasion.text.take occasion.position)
    else if mark = '&' then (['$', mark], occasion.matched)
    else if mark = '\'' then
      (['$', mark],
        occasion.text.drop (min (occasion.position + occasion.matched.length) occasion.text.length))
    else if Decimal.isDigit mark then occasion.byNumber ((mark :: rest).takeWhile Decimal.isDigit)
    else if mark = '<' then occasion.byName rest
    else (['$'], ['$'])
  | first :: _ => ([first], [first])
  | [] => ([], [])

/-- A template with each of its references replaced, one after the other. -/
def substitute (occasion : Occasion) : List Char → List Char
  | [] => []
  | first :: rest =>
    let found := occasion.reference (first :: rest)
    found.2 ++ occasion.substitute (rest.drop (found.1.length - 1))
termination_by template => template.length
decreasing_by
  simp only [List.length_drop, List.length_cons]
  omega

/-- The same, sorted into what each reference stands for. -/
def substitution (occasion : Occasion) : Substitution where
  before := occasion.text.take occasion.position
  found := occasion.matched
  behind := occasion.text.drop (min (occasion.position + occasion.matched.length) occasion.text.length)
  groups := occasion.captures
  named := occasion.namedCaptures

end Occasion

/-! ### Expansion, character by character -/

namespace Substitution

variable (given : Substitution)

theorem expandFrom_skip (skip : Nat) (template : List Char) :
    given.expandFrom skip template = given.expandFrom 0 (template.drop skip) := by
  induction skip generalizing template with
  | zero => rfl
  | succ skip inductionHypothesis =>
    cases template with
    | nil => rfl
    | cons character template =>
      rw [expandFrom, List.drop_succ_cons]
      exact inductionHypothesis template

variable {given}

theorem expand_literal {character : Char} (literal : character ≠ '$') (template : List Char) :
    given.expand (character :: template) = character :: given.expand template := by
  rw [expand, expandFrom, if_neg literal]
  rfl

theorem expand_reference {template text : List Char} {used : Nat}
    (stands : given.reference? template = some (text, used)) :
    given.expand ('$' :: template) = text ++ given.expand (template.drop used) := by
  rw [expand, expandFrom, if_pos rfl, stands]
  exact congrArg (text ++ ·) (given.expandFrom_skip used template)

theorem expand_dollar {template : List Char} (itself : given.reference? template = none) :
    given.expand ('$' :: template) = '$' :: given.expand template := by
  rw [expand, expandFrom, if_pos rfl, itself]
  rfl

theorem cutName?_eq (rest : List Char) : cutName? rest =
    if '>' ∈ rest then
      some (rest.takeWhile fun character => character ≠ '>', (rest.dropWhile fun character => character ≠ '>').tail)
    else none := by
  induction rest with
  | nil => rfl
  | cons character rest inductionHypothesis =>
    rw [cutName?]
    by_cases closes : character = '>'
    · simp [closes]
    · rw [if_neg closes, inductionHypothesis]
      by_cases later : '>' ∈ rest
      · simp [closes, later]
      · simp [Ne.symm closes, later]

theorem namedGroup_eq (names : List (String × Option (List Char))) (name : List Char) :
    namedGroup names name = ((names.lookup (String.ofList name)).join).getD [] := by
  unfold namedGroup
  cases names.lookup (String.ofList name) <;> rfl

theorem ne_dollar_of_isDigit {mark : Char} (digit : Decimal.isDigit mark = true) : mark ≠ '$' := by
  rintro rfl
  contradiction

/-- What a digit behind a dollar sign stands for, when another digit follows and when none does. -/
theorem reference?_of_isDigit {mark : Char} (digit : Decimal.isDigit mark = true) (rest : List Char) :
    given.reference? (mark :: rest) =
      match rest with
      | [] => (given.group? (Decimal.digitValue mark)).map fun text => (text, 1)
      | next :: _ =>
        if Decimal.isDigit next then
          match given.group? (10 * Decimal.digitValue mark + Decimal.digitValue next) with
          | some text => some (text, 2)
          | none => (given.group? (Decimal.digitValue mark)).map fun text => (text, 1)
        else (given.group? (Decimal.digitValue mark)).map fun text => (text, 1) := by
  have dollar : mark ≠ '$' := ne_dollar_of_isDigit digit
  have ampersand : mark ≠ '&' := by rintro rfl; contradiction
  have apostrophe : mark ≠ '\'' := by rintro rfl; contradiction
  have bracket : mark ≠ '<' := by rintro rfl; contradiction
  have quote : mark.toNat ≠ 0x60 := by
    intro same
    rw [show mark = Char.ofNat 0x60 by rw [← same, Char.ofNat_toNat]] at digit
    contradiction
  calc given.reference? (mark :: rest)
      = _ := if_neg dollar
    _ = _ := if_neg ampersand
    _ = _ := if_neg quote
    _ = _ := if_neg apostrophe
    _ = _ := if_neg bracket
    _ = _ := if_pos digit

/-- Where nothing but the first digit counts, it stands for its group, or for itself. -/
theorem expand_one {mark : Char} (digit : Decimal.isDigit mark = true) {rest : List Char}
    (one : given.reference? (mark :: rest) =
      (given.group? (Decimal.digitValue mark)).map fun text => (text, 1)) :
    given.expand ('$' :: mark :: rest) =
      (given.group? (Decimal.digitValue mark)).getD ['$', mark] ++ given.expand rest := by
  cases group : given.group? (Decimal.digitValue mark) with
  | some text =>
    rw [group] at one
    exact expand_reference one
  | none =>
    rw [group] at one
    rw [expand_dollar one, expand_literal (ne_dollar_of_isDigit digit)]
    rfl

end Substitution

namespace Occasion

variable (occasion : Occasion)

theorem group?_eq (index : Nat) : occasion.substitution.group? index =
    if 1 ≤ index ∧ index ≤ occasion.captures.length then some ((occasion.captures[index - 1]?.join).getD [])
    else none := by
  unfold Substitution.group? substitution
  dsimp only
  by_cases zero : index = 0
  · rw [if_pos zero, if_neg (by omega)]
  · rw [if_neg zero]
    by_cases inside : index ≤ occasion.captures.length
    · rw [if_pos (by omega), List.getElem?_eq_getElem (by omega)]
      rfl
    · rw [if_neg (by omega), List.getElem?_eq_none (by omega)]
      rfl

theorem numbered_eq (digits : List Char) : occasion.numbered digits =
    ('$' :: digits, (occasion.substitution.group? (Decimal.valueOfDigits digits)).getD ('$' :: digits)) := by
  rw [group?_eq]
  unfold numbered
  dsimp only
  split <;> rfl

/-- Expansion takes a step: it puts what replaces a reference in front of what the remainder behind it expands to. -/
def Steps (found : List Char × List Char) (template : List Char) : Prop :=
  occasion.substitution.expand template = found.2 ++ occasion.substitution.expand (template.drop found.1.length)

theorem valueOfDigits_one (first : Char) : Decimal.valueOfDigits [first] = Decimal.digitValue first := by
  show 10 * 0 + Decimal.digitValue first = _
  omega

theorem valueOfDigits_two (first second : Char) :
    Decimal.valueOfDigits [first, second] = 10 * Decimal.digitValue first + Decimal.digitValue second := by
  show 10 * (10 * 0 + Decimal.digitValue first) + Decimal.digitValue second = _
  omega

variable {occasion}

theorem steps_one {mark : Char} (digit : Decimal.isDigit mark = true) {rest : List Char}
    (one : occasion.substitution.reference? (mark :: rest) =
      (occasion.substitution.group? (Decimal.digitValue mark)).map fun text => (text, 1)) :
    occasion.Steps (occasion.numbered [mark]) ('$' :: mark :: rest) := by
  unfold Steps
  rw [numbered_eq, valueOfDigits_one]
  exact Substitution.expand_one digit one

theorem steps_two {mark next : Char} (digit : Decimal.isDigit mark = true) (also : Decimal.isDigit next = true)
    (few : Decimal.valueOfDigits [mark, next] ≤ occasion.captures.length) (tail : List Char) :
    occasion.Steps (occasion.numbered [mark, next]) ('$' :: mark :: next :: tail) := by
  have read := @Substitution.reference?_of_isDigit occasion.substitution mark digit (next :: tail)
  dsimp only at read
  rw [if_pos also, ← valueOfDigits_two] at read
  unfold Steps
  rw [numbered_eq]
  cases group : occasion.substitution.group? (Decimal.valueOfDigits [mark, next]) with
  | some text =>
    rw [group] at read
    exact Substitution.expand_reference read
  | none =>
    -- Both digits are zero, since no other number in range lacks a group; so the first alone has none either.
    have zero : Decimal.valueOfDigits [mark, next] = 0 := by
      rw [group?_eq] at group
      split at group
      next => contradiction
      next beyond => omega
    have first : Decimal.digitValue mark = 0 := by
      rw [valueOfDigits_two] at zero
      omega
    rw [group, first] at read
    rw [Substitution.expand_dollar read, Substitution.expand_literal (Substitution.ne_dollar_of_isDigit digit),
      Substitution.expand_literal (Substitution.ne_dollar_of_isDigit also)]
    rfl

theorem steps_byNumber {mark : Char} (digit : Decimal.isDigit mark = true) (rest : List Char) :
    occasion.Steps (occasion.byNumber ((mark :: rest).takeWhile Decimal.isDigit)) ('$' :: mark :: rest) := by
  have read := @Substitution.reference?_of_isDigit occasion.substitution mark digit rest
  rw [List.takeWhile_cons_of_pos digit]
  cases rest with
  | nil => exact steps_one digit read
  | cons next tail =>
    dsimp only at read
    by_cases also : Decimal.isDigit next = true
    · rw [if_pos also] at read
      rw [List.takeWhile_cons_of_pos also]
      unfold byNumber
      rw [if_pos (by simp)]
      show occasion.Steps (if Decimal.valueOfDigits [mark, next] > occasion.captures.length then _ else _) _
      split
      next many =>
        have missing : occasion.substitution.group? (10 * Decimal.digitValue mark + Decimal.digitValue next) = none := by
          rw [← valueOfDigits_two, group?_eq, if_neg (by omega)]
        rw [missing] at read
        exact steps_one digit read
      next few => exact steps_two digit also (by omega) tail
    · rw [if_neg also] at read
      rw [List.takeWhile_cons_of_neg also]
      exact steps_one digit read

theorem steps_byName (rest : List Char) : occasion.Steps (occasion.byName rest) ('$' :: '<' :: rest) := by
  have read : occasion.substitution.reference? ('<' :: rest) =
      match occasion.namedCaptures with
      | none => none
      | some names => (Substitution.cutName? rest).map fun found =>
          (Substitution.namedGroup names found.1, found.1.length + 2) := rfl
  have itself (stands : occasion.substitution.reference? ('<' :: rest) = none) :
      occasion.Steps (['$', '<'], ['$', '<']) ('$' :: '<' :: rest) := by
    unfold Steps
    rw [Substitution.expand_dollar stands, Substitution.expand_literal (by decide)]
    rfl
  unfold byName
  cases named : occasion.namedCaptures with
  | none =>
    rw [named] at read
    exact itself read
  | some names =>
    rw [named] at read
    dsimp only at read ⊢
    rw [Substitution.cutName?_eq] at read
    split
    next closes =>
      rw [if_pos closes] at read
      unfold Steps
      rw [Substitution.expand_reference read, Substitution.namedGroup_eq]
      simp only [List.length_append, List.length_cons, List.length_nil, List.drop_succ_cons]
    next missing =>
      rw [if_neg missing] at read
      exact itself read

theorem steps_mark (mark : Char) (rest : List Char) :
    occasion.Steps (occasion.reference ('$' :: mark :: rest)) ('$' :: mark :: rest) := by
  by_cases dollar : mark = '$'
  · subst dollar
    exact Substitution.expand_reference rfl
  by_cases quote : mark.toNat = 0x60
  · have same : mark = Char.ofNat 0x60 := by rw [← quote, Char.ofNat_toNat]
    subst same
    exact Substitution.expand_reference rfl
  by_cases ampersand : mark = '&'
  · subst ampersand
    exact Substitution.expand_reference rfl
  by_cases apostrophe : mark = '\''
  · subst apostrophe
    exact Substitution.expand_reference rfl
  rw [reference, if_neg dollar, if_neg quote, if_neg ampersand, if_neg apostrophe]
  by_cases digit : Decimal.isDigit mark = true
  · rw [if_pos digit]
    exact steps_byNumber digit rest
  rw [if_neg digit]
  by_cases bracket : mark = '<'
  · subst bracket
    exact steps_byName rest
  rw [if_neg bracket]
  have itself : occasion.substitution.reference? (mark :: rest) = none := by
    rw [Substitution.reference?, if_neg dollar, if_neg ampersand, if_neg quote, if_neg apostrophe, if_neg bracket,
      if_neg digit]
  exact Substitution.expand_dollar itself

theorem reference_of_ne {first : Char} (literal : first ≠ '$') (rest : List Char) :
    occasion.reference (first :: rest) = ([first], [first]) := by
  unfold reference
  split
  next same => exact absurd (List.cons.inj same).1 literal
  next same => rw [(List.cons.inj same).1]
  next same => exact nomatch same

/-- Expansion takes the steps of the algorithm. -/
theorem steps_reference (first : Char) (rest : List Char) :
    occasion.Steps (occasion.reference (first :: rest)) (first :: rest) := by
  by_cases dollar : first = '$'
  · subst dollar
    cases rest with
    | nil => exact Substitution.expand_dollar rfl
    | cons mark rest => exact steps_mark mark rest
  · rw [reference_of_ne dollar]
    exact Substitution.expand_literal dollar rest

/-- A reference is no less than one character. -/
theorem length_reference_pos (first : Char) (rest : List Char) :
    0 < (occasion.reference (first :: rest)).1.length := by
  unfold reference byNumber byName numbered
  grind

/-- Expansion is substitution. -/
theorem expand_eq_substitute (template : List Char) :
    occasion.substitution.expand template = occasion.substitute template := by
  fun_induction occasion.substitute template with
  | case1 => rfl
  | case2 first rest found inductionHypothesis =>
    have step : occasion.Steps found (first :: rest) := steps_reference first rest
    obtain ⟨size, length⟩ : ∃ size, found.1.length = size + 1 :=
      Nat.exists_eq_add_one.mpr (length_reference_pos first rest)
    unfold Steps at step
    rw [step, ← inductionHypothesis, length]
    rfl

end Occasion

/-- What a match of a pattern in a text hands over. -/
def occasionOf (pattern : Pattern) (text : List Char) (found : Match) : Occasion where
  matched := between text found.start found.stop
  text := text
  position := found.start
  captures := (List.range pattern.groupCount).map fun index => found.group? text (index + 1)
  namedCaptures :=
    if pattern.names = [] then none else some (pattern.names.map fun entry => (entry.1, found.group? text entry.2))

/-- A match that stands in the text leaves behind it what is behind its position and its length. -/
theorem substitution_occasionOf {text : List Char} {found : Match} (within : found.Within text) (pattern : Pattern) :
    (pattern.occasionOf text found).substitution = pattern.substitutionOf text found := by
  have order := within.start_le_stop
  have inside := within.stop_le_length
  have length : (between text found.start found.stop).length = found.stop - found.start := by
    unfold between
    rw [List.length_take, List.length_drop]
    omega
  have behind : min (found.start + (between text found.start found.stop).length) text.length = found.stop := by
    rw [length]
    omega
  unfold Occasion.substitution occasionOf substitutionOf
  simp only [behind, List.isEmpty_iff]

/-! ### Templates that stand for a text -/

/-- A text with each dollar sign doubled. -/
def doubled (text : List Char) : List Char :=
  text.flatMap fun character => if character = '$' then ['$', '$'] else [character]

theorem Substitution.expand_doubled (given : Substitution) (text : List Char) : given.expand (doubled text) = text := by
  unfold doubled
  induction text with
  | nil => rfl
  | cons character text inductionHypothesis =>
    rw [List.flatMap_cons]
    split
    next dollar =>
      rw [dollar]
      exact (expand_reference rfl).trans (congrArg ('$' :: ·) inductionHypothesis)
    next literal =>
      rw [List.singleton_append, expand_literal literal, inductionHypothesis]

/-! ### Replacing matches -/

theorem replaceMatches_congr {expand other : Match → List Char} {text : List Char} {found : List Match}
    (same : ∀ one ∈ found, expand one = other one) (place : Nat) :
    replaceMatches expand text place found = replaceMatches other text place found := by
  induction found generalizing place with
  | nil => rfl
  | cons first found inductionHypothesis =>
    have later := inductionHypothesis fun one member => same one (List.mem_cons_of_mem _ member)
    rw [replaceMatches, replaceMatches, same first List.mem_cons_self, later]

theorem replace_congr {pattern : Pattern} {expand other : Match → List Char} {text : List Char}
    (same : ∀ found ∈ pattern.matchesIn text, expand found = other found) :
    pattern.replace expand text = pattern.replace other text := by
  apply replaceMatches_congr
  intro found member
  split at member
  next => exact same found member
  next => exact same found (List.mem_of_mem_take member)

end Harvest.Pattern

namespace Harvest.Transform

open Harvest.Pattern

theorem ofJson_of_pattern {step : Step} {name : String} {pattern : Pattern} (described : step.pattern name = .ok pattern) :
    ∃ value, Pattern.ofJson value = .ok pattern := by
  unfold Step.pattern at described
  split at described
  next => exact nomatch described
  next value _ =>
    split at described
    next read =>
      cases described
      exact ⟨value, read⟩
    next => exact nomatch described

/-- The matches of a pattern are replaced by what page scripts make of the template, whatever the template, the text and
the groups are; and a text whose dollar signs are doubled is a template for that text. -/
theorem replaced_by_substitution {step : Step} {pattern : Pattern} (described : step.pattern "re" = .ok pattern)
    (storage : Storage) (value : Json) :
    replace step storage value = .ok (.string (String.ofList (pattern.replace
      (fun found => (pattern.occasionOf value.asText.toList found).substitute ((step.text? "to").getD "").toList)
      value.asText.toList))) ∧
    (∀ occasion template, Substitution.expand (Occasion.substitution occasion) template = occasion.substitute template) ∧
    ∀ occasion text, Occasion.substitute occasion (doubled text) = text := by
  obtain ⟨description, read⟩ := ofJson_of_pattern described
  refine ⟨?_, fun occasion template => occasion.expand_eq_substitute template, fun occasion text => ?_⟩
  · unfold replace
    rw [described]
    refine congrArg (fun text => Except.ok (Json.string (String.ofList text))) (replace_congr fun found member => ?_)
    rw [← substitution_occasionOf (within_of_mem_matchesIn read member), Occasion.expand_eq_substitute]
  · rw [← Occasion.expand_eq_substitute]
    exact Substitution.expand_doubled _ text

/-- A step whose template refers by one digit and by two, beyond the groups, to none, and to what is no reference. -/
def manyReferences : Step :=
  ⟨"replace", [("re", .array [.string "(a)|(b)", .string "g"]), ("to", .string "[$1$2$3$12$01$00$<n>$&$$$]")]⟩

theorem references_substituted : ∃ pattern, manyReferences.pattern "re" = .ok pattern ∧
    replace manyReferences {} (.string "xab") = .ok (.string (String.ofList (pattern.replace
      (fun found => (pattern.occasionOf "xab".toList found).substitute "[$1$2$3$12$01$00$<n>$&$$$]".toList)
      "xab".toList))) ∧
    replace manyReferences {} (.string "xab") = .ok (.string "x[a$3a2a$00$<n>a$$][b$32$00$<n>b$$]") := by
  have isPattern : (manyReferences.pattern "re").isOk = true := by cbv
  cases described : manyReferences.pattern "re" with
  | error fault =>
    rw [described] at isPattern
    contradiction
  | ok pattern => exact ⟨pattern, rfl, (replaced_by_substitution described {} (.string "xab")).1, by cbv⟩

end Harvest.Transform
