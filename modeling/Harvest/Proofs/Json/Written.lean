import Harvest.Json.Printer
import Harvest.Json.Reader
import Harvest.Proofs.Decimal.Count
import Harvest.Proofs.Json.Fields

/-!
Contract: reading gives back what was written.

The text of a value is read to its end and no further, whatever follows it, if the numbers in the value are integers and
what follows does not go on with a number. The reader must allow for the nesting of the value, and if it does not the text
is refused.
-/

namespace Harvest

namespace Decimal

theorem digitsOf_cons {number : Nat} (positive : 0 < number) :
    ∃ first others, digitsOf number = first :: others ∧ first ≠ '0' := by
  induction number using Nat.strongRecOn with
  | ind number inductionHypothesis =>
    by_cases small : number < 10
    · have nonzero : ∀ digit < 10, 0 < digit → Nat.digitChar digit ≠ '0' := by decide
      exact ⟨number.digitChar, [], Nat.toDigits_of_lt_base small, nonzero number small positive⟩
    · obtain ⟨first, others, shape, nonzero⟩ := inductionHypothesis (number / 10) (by omega) (by omega)
      refine ⟨first, others ++ [(number % 10).digitChar], ?_, nonzero⟩
      rw [digitsOf, Nat.toDigits_of_base_le (by decide) (by omega)]
      exact congrArg (· ++ _) shape

end Decimal

namespace Json

/-! ### Nesting, and values without a fraction -/

mutual

/-- How deep arrays and mappings are nested in a value. -/
def nesting : Json → Nat
  | .array items => nestingItems items + 1
  | .object fields => nestingFields fields + 1
  | _ => 0

/-- How deep arrays and mappings are nested in the items. -/
def nestingItems : List Json → Nat
  | [] => 0
  | item :: items => max item.nesting (nestingItems items)

/-- How deep arrays and mappings are nested in the values of the fields. -/
def nestingFields : List (String × Json) → Nat
  | [] => 0
  | (_, value) :: fields => max value.nesting (nestingFields fields)

end

mutual

/-- Whether all numbers in a value are integers that a 64-bit word holds. -/
def isIntegral : Json → Bool
  | .int value => isMachineInt value
  | .real _ => false
  | .array items => areIntegral items
  | .object fields => haveIntegral fields
  | _ => true

def areIntegral : List Json → Bool
  | [] => true
  | item :: items => item.isIntegral && areIntegral items

/-- Whether all numbers in the values of the fields are integers. -/
def haveIntegral : List (String × Json) → Bool
  | [] => true
  | (_, value) :: fields => value.isIntegral && haveIntegral fields

end

/-! ### Quoted texts -/

theorem readQuoted?_letter {letter character : Char} (notUnit : letter ≠ 'u')
    (stands : unescape? letter = some character) (rest : List Char) :
    readQuoted? ('\\' :: letter :: rest) = (readQuoted? rest).map fun found => (character :: found.1, found.2) := by
  rw [readQuoted?]
  · rw [stands]
    cases readQuoted? rest <;> rfl
  · rintro _ _ _ _ _ rfl
    exact absurd rfl notUnit

theorem hexValue?_hexDigit : ∀ digit < 16, hexValue? (hexDigit digit) = some digit := by
  decide

theorem readQuoted?_unit {code : Nat} (control : code < 0x20) (rest : List Char) :
    readQuoted? ('\\' :: 'u' :: '0' :: '0' :: hexDigit (code / 16) :: hexDigit (code % 16) :: rest) =
      (readQuoted? rest).map fun found => (Char.ofNat code :: found.1, found.2) := by
  have zero : hexValue? '0' = some 0 := by decide
  have sum : ((0 * 16 + 0) * 16 + code / 16) * 16 + code % 16 = code := by omega
  have unit : hexUnit? '0' '0' (hexDigit (code / 16)) (hexDigit (code % 16)) = some code := by
    unfold hexUnit?
    rw [zero, hexValue?_hexDigit _ (by omega), hexValue?_hexDigit _ (by omega)]
    exact congrArg some sum
  rw [readQuoted?, unit]
  show (if 0xD800 ≤ code ∧ code < 0xDC00 then _ else _) = _
  rw [if_neg (by omega), if_neg (by omega)]
  cases readQuoted? rest <;> rfl

theorem readQuoted?_itself {character : Char} (unclosed : character ≠ '"') (escapes : character ≠ '\\')
    (printed : ¬ character.toNat < 0x20) (rest : List Char) :
    readQuoted? (character :: rest) = (readQuoted? rest).map fun found => (character :: found.1, found.2) := by
  rw [readQuoted?]
  · rw [if_neg (by simp [printed, escapes])]
    cases readQuoted? rest <;> rfl
  · exact unclosed
  · rintro _ _ _ _ _ rfl
    exact absurd rfl escapes
  · rintro _ _ rfl
    exact absurd rfl escapes

/-- A character is read back from what it is inside of quotation marks, be it one character, two or six. -/
theorem readQuoted?_escapeChar (character : Char) (rest : List Char) :
    readQuoted? (escapeChar character ++ rest) =
      (readQuoted? rest).map fun found => (character :: found.1, found.2) := by
  have spelled : Char.ofNat character.toNat = character := Char.ofNat_toNat character
  unfold escapeChar
  by_cases mark : character = '"'
  · subst mark
    exact readQuoted?_letter (by decide) rfl rest
  by_cases backslash : character = '\\'
  · subst backslash
    exact readQuoted?_letter (by decide) rfl rest
  rw [if_neg mark, if_neg backslash]
  by_cases control : character.toNat < 0x20
  · rw [if_pos control]
    by_cases lineFeed : character = '\n'
    · subst lineFeed
      exact readQuoted?_letter (by decide) rfl rest
    by_cases carriageReturn : character = '\r'
    · subst carriageReturn
      exact readQuoted?_letter (by decide) rfl rest
    by_cases tabulator : character = '\t'
    · subst tabulator
      exact readQuoted?_letter (by decide) rfl rest
    rw [if_neg lineFeed, if_neg carriageReturn, if_neg tabulator]
    by_cases backspace : character.toNat = 8
    · rw [if_pos backspace]
      rw [backspace] at spelled
      have stands : unescape? 'b' = some character := congrArg some spelled
      exact readQuoted?_letter (by decide) stands rest
    by_cases formFeed : character.toNat = 12
    · rw [if_neg backspace, if_pos formFeed]
      rw [formFeed] at spelled
      have stands : unescape? 'f' = some character := congrArg some spelled
      exact readQuoted?_letter (by decide) stands rest
    rw [if_neg backspace, if_neg formFeed]
    have unit := readQuoted?_unit control rest
    rw [spelled] at unit
    exact unit
  · rw [if_neg control]
    exact readQuoted?_itself mark backslash control rest

theorem readQuoted?_quote (text : String) (rest : List Char) :
    readQuoted? (escape text.toList ++ '"' :: rest) = some (text.toList, rest) := by
  unfold escape
  induction text.toList with
  | nil => rw [List.flatMap_nil, List.nil_append, readQuoted?]
  | cons character characters inductionHypothesis =>
    rw [List.flatMap_cons, List.append_assoc, readQuoted?_escapeChar, inductionHypothesis]
    rfl

/-! ### Numbers -/

/-- A text does not go on with a number. -/
def EndsNumber (text : List Char) : Prop :=
  ∀ first others, text = first :: others → ¬ Decimal.isDigit first ∧ first ∉ ['.', 'e', 'E']

theorem takeWhile_digitsOf (magnitude : Nat) {rest : List Char} (ends : EndsNumber rest) :
    (Decimal.digitsOf magnitude ++ rest).takeWhile Decimal.isDigit = Decimal.digitsOf magnitude ∧
      (Decimal.digitsOf magnitude ++ rest).dropWhile Decimal.isDigit = rest := by
  have digits : ∀ character ∈ Decimal.digitsOf magnitude, Decimal.isDigit character = true :=
    fun character member => Decimal.isDigit_of_mem_digitsOf member
  rw [List.takeWhile_append_of_pos digits, List.dropWhile_append_of_pos digits]
  cases rest with
  | nil => simp
  | cons first others =>
    have stops := (ends first others rfl).1
    rw [List.takeWhile_cons_of_neg stops, List.dropWhile_cons_of_neg stops, List.append_nil]
    exact ⟨rfl, rfl⟩

theorem isWhole_digitsOf (magnitude : Nat) : isWhole (Decimal.digitsOf magnitude) = true := by
  rcases Nat.eq_zero_or_pos magnitude with rfl | positive
  · rfl
  · obtain ⟨first, others, shape, nonzero⟩ := Decimal.digitsOf_cons positive
    rw [shape]
    unfold isWhole
    split
    next empty => exact nomatch empty
    next => rfl
    next same =>
      cases same
      exact bne_iff_ne.mpr nonzero

/-- Digits are read as the integer that they were written for. -/
theorem readNumber?_digitsOf {negative : Bool} {magnitude : Nat} {rest : List Char} (ends : EndsNumber rest)
    (machine : isMachineInt (if negative then -(magnitude : Int) else magnitude) = true)
    (notMinusZero : ¬ (negative = true ∧ magnitude = 0)) :
    readNumber? negative (Decimal.digitsOf magnitude ++ rest) =
      some (.int (if negative then -(magnitude : Int) else magnitude), rest) := by
  have noFraction : readFraction? rest = some ([], rest) := by
    unfold readFraction?
    split
    next others => exact absurd (ends _ _ rfl).2 (by simp)
    next => rfl
  have noPower : readPower? rest = some (none, rest) := by
    unfold readPower?
    split
    next => rfl
    next first others =>
      have stops := (ends first others rfl).2
      rw [if_neg (by simp at stops; tauto)]
  have integer : ofWhole? negative (Decimal.digitsOf magnitude) =
      some (.int (if negative then -(magnitude : Int) else magnitude)) := by
    unfold ofWhole?
    rw [Decimal.valueOfDigits_digitsOf]
    dsimp only
    rw [if_pos]
    rw [machine, Bool.true_and, Bool.not_eq_true', Bool.and_eq_false_iff]
    rw [not_and_or] at notMinusZero
    exact notMinusZero.imp (fun positive => Bool.eq_false_iff.mpr positive) beq_eq_false_iff_ne.mpr
  obtain ⟨digits, behind⟩ := takeWhile_digitsOf magnitude ends
  unfold readNumber?
  simp only [digits, behind, isWhole_digitsOf, noFraction, noPower, integer, bind, Option.bind]
  rfl

/-! ### Values -/

/-- A value is read back from its text, whatever follows, if the reader allows for its nesting, and refused otherwise. -/
def ReadsBack (value : Json) : Prop :=
  ∀ fuel depth rest, value.write.length ≤ fuel → EndsNumber rest →
    readValue? fuel depth (value.write ++ rest) = if value.nesting ≤ depth then some (value, rest) else none

theorem skipSpace_cons {first : Char} (visible : isSpace first = false) (others : List Char) :
    skipSpace (first :: others) = first :: others := by
  unfold skipSpace
  rw [List.dropWhile_cons_of_neg (by rw [visible]; exact Bool.false_ne_true)]

theorem endsNumber_cons {first : Char} (other : ¬ Decimal.isDigit first ∧ first ∉ ['.', 'e', 'E']) (others : List Char) :
    EndsNumber (first :: others) := by
  rintro _ _ ⟨⟩
  exact other

theorem endsNumber_writeItems (items : List Json) (rest : List Char) : EndsNumber (writeItems items ++ rest) := by
  cases items <;> exact endsNumber_cons (by decide) _

theorem endsNumber_writeFields (fields : Fields) (rest : List Char) : EndsNumber (writeFields fields ++ rest) := by
  cases fields <;> exact endsNumber_cons (by decide) _

theorem ne_of_isDigit {first mark : Char} (digit : Decimal.isDigit first = true) (other : Decimal.isDigit mark = false) :
    first ≠ mark := by
  rintro rfl
  rw [digit] at other
  contradiction

theorem isSpace_of_isDigit {first : Char} (digit : Decimal.isDigit first = true) : isSpace first = false := by
  simp only [isSpace, Bool.or_eq_false_iff, beq_eq_false_iff_ne]
  exact ⟨⟨⟨ne_of_isDigit digit (by decide), ne_of_isDigit digit (by decide)⟩, ne_of_isDigit digit (by decide)⟩,
    ne_of_isDigit digit (by decide)⟩

theorem readValue?_digit {first : Char} (digit : Decimal.isDigit first = true) (fuel depth : Nat) (others : List Char) :
    readValue? (fuel + 1) depth (first :: others) = readNumber? false (first :: others) := by
  rw [readValue?, skipSpace_cons (isSpace_of_isDigit digit)]
  split
  case h_8 => rfl
  all_goals
    next same =>
      cases same
      exact absurd digit (by decide)

theorem readValue?_writeInt {value : Int} (machine : isMachineInt value = true) (fuel depth : Nat) {rest : List Char}
    (ends : EndsNumber rest) : readValue? (fuel + 1) depth (writeInt value ++ rest) = some (.int value, rest) := by
  unfold writeInt
  split
  case isTrue negative =>
    have magnitude : (if true = true then -(value.natAbs : Int) else value.natAbs) = value := by
      rw [if_pos rfl]
      omega
    have read : readNumber? true (Decimal.digitsOf value.natAbs ++ rest) = some (.int value, rest) := by
      rw [readNumber?_digitsOf ends (by rw [magnitude]; exact machine) (by omega), magnitude]
    exact read
  case isFalse positive =>
    have magnitude : (if false = true then -(value.natAbs : Int) else value.natAbs) = value := by
      rw [if_neg Bool.false_ne_true]
      omega
    obtain ⟨first, others, shape, digit⟩ := Decimal.exists_digitsOf value.natAbs
    have read : readNumber? false (Decimal.digitsOf value.natAbs ++ rest) = _ :=
      readNumber?_digitsOf ends (by rw [magnitude]; exact machine) (by simp)
    rw [magnitude, shape] at read
    rw [shape, List.cons_append, readValue?_digit digit]
    exact read

/-- The text of a value begins with a character that is no white space, and that closes nothing. -/
theorem write_cons {value : Json} (integral : value.isIntegral = true) :
    ∃ first others, value.write = first :: others ∧ isSpace first = false ∧ first ≠ ']' := by
  match value with
  | .null => exact ⟨_, _, rfl, by decide, by decide⟩
  | .bool true => exact ⟨_, _, rfl, by decide, by decide⟩
  | .bool false => exact ⟨_, _, rfl, by decide, by decide⟩
  | .real _ => exact nomatch integral
  | .string text => exact ⟨_, _, by rw [write, quote, List.cons_append], by decide, by decide⟩
  | .array [] => exact ⟨_, _, rfl, by decide, by decide⟩
  | .array (item :: items) => exact ⟨_, _, by rw [write, List.cons_append], by decide, by decide⟩
  | .object [] => exact ⟨_, _, rfl, by decide, by decide⟩
  | .object ((name, value) :: fields) =>
    exact ⟨_, _, by rw [write, List.cons_append, List.cons_append], by decide, by decide⟩
  | .int value =>
    rw [write, writeInt]
    split
    · exact ⟨_, _, rfl, by decide, by decide⟩
    · obtain ⟨first, others, shape, digit⟩ := Decimal.exists_digitsOf value.natAbs
      exact ⟨first, others, shape, isSpace_of_isDigit digit, ne_of_isDigit digit (by decide)⟩

theorem readItems?_write {item : Json} {items : List Json} (reads : ∀ one ∈ item :: items, one.ReadsBack)
    {fuel depth : Nat} {rest : List Char} (long : (item.write ++ writeItems items).length ≤ fuel) :
    readItems? fuel depth (item.write ++ (writeItems items ++ rest)) =
      if nestingItems (item :: items) ≤ depth then some (item :: items, rest) else none := by
  induction items generalizing item fuel with
  | nil =>
    simp only [writeItems, List.length_append, List.length_cons, List.length_nil] at long
    obtain ⟨fuel, rfl⟩ : ∃ less, fuel = less + 1 := ⟨fuel - 1, by omega⟩
    have read := reads item List.mem_cons_self fuel depth (writeItems [] ++ rest) (by omega) (endsNumber_writeItems [] rest)
    rw [readItems?, read, nestingItems, nestingItems, Nat.max_zero]
    by_cases allowed : item.nesting ≤ depth
    · rw [if_pos allowed, if_pos allowed]
      rfl
    · rw [if_neg allowed, if_neg allowed]
      rfl
  | cons next items inductionHypothesis =>
    simp only [writeItems, List.cons_append, List.length_append, List.length_cons] at long
    obtain ⟨fuel, rfl⟩ : ∃ less, fuel = less + 1 := ⟨fuel - 1, by omega⟩
    have read := reads item List.mem_cons_self fuel depth (writeItems (next :: items) ++ rest) (by omega)
      (endsNumber_writeItems (next :: items) rest)
    have shorter : (next.write ++ writeItems items).length ≤ fuel := by
      rw [List.length_append]
      omega
    have later := inductionHypothesis (fun one member => reads one (List.mem_cons_of_mem _ member)) shorter
    have comma : skipSpace (writeItems (next :: items) ++ rest) = ',' :: (next.write ++ (writeItems items ++ rest)) := by
      rw [writeItems, List.cons_append, List.cons_append, List.append_assoc]
      exact skipSpace_cons (by decide) _
    rw [readItems?, read, nestingItems]
    by_cases allowed : item.nesting ≤ depth
    · rw [if_pos allowed]
      simp only [bind, Option.bind, comma, later]
      by_cases also : nestingItems (next :: items) ≤ depth
      · rw [if_pos also, if_pos (Nat.max_le.mpr ⟨allowed, also⟩)]
        rfl
      · rw [if_neg also, if_neg fun both => also (Nat.max_le.mp both).2]
    · rw [if_neg allowed, if_neg fun both => allowed (Nat.max_le.mp both).1]
      rfl

theorem readFields?_write {name : String} {value : Json} {fields : Fields}
    (reads : ∀ one ∈ (name, value) :: fields, one.2.ReadsBack) {fuel depth : Nat} {rest : List Char}
    (long : (quote name ++ ':' :: value.write ++ writeFields fields).length ≤ fuel) :
    readFields? fuel depth (quote name ++ ':' :: (value.write ++ (writeFields fields ++ rest))) =
      if nestingFields ((name, value) :: fields) ≤ depth then some ((name, value) :: fields, rest) else none := by
  have opening : ∀ (name : String) (text : List Char),
      skipSpace (quote name ++ text) = '"' :: (escape name.toList ++ '"' :: text) := by
    intro name text
    rw [quote, List.cons_append, List.cons_append, List.append_assoc]
    exact skipSpace_cons (by decide) _
  have colon : ∀ text, skipSpace (':' :: text) = ':' :: text := skipSpace_cons (by decide)
  induction fields generalizing name value fuel with
  | nil =>
    simp only [writeFields, List.length_append, List.length_cons, List.length_nil] at long
    obtain ⟨fuel, rfl⟩ : ∃ less, fuel = less + 1 := ⟨fuel - 1, by omega⟩
    have read := reads _ List.mem_cons_self fuel depth (writeFields [] ++ rest) (by dsimp only; omega)
      (endsNumber_writeFields [] rest)
    rw [readFields?, opening]
    simp only [readQuoted?_quote, bind, Option.bind, colon, String.ofList_toList, nestingFields, Nat.max_zero] at read ⊢
    rw [read]
    by_cases allowed : value.nesting ≤ depth
    · rw [if_pos allowed, if_pos allowed]
      rfl
    · rw [if_neg allowed, if_neg allowed]
  | cons next fields inductionHypothesis =>
    obtain ⟨key, inner⟩ := next
    simp only [writeFields, List.cons_append, List.append_assoc, List.length_append, List.length_cons] at long
    obtain ⟨fuel, rfl⟩ : ∃ less, fuel = less + 1 := ⟨fuel - 1, by omega⟩
    have read := reads _ List.mem_cons_self fuel depth (writeFields ((key, inner) :: fields) ++ rest)
      (by dsimp only; omega) (endsNumber_writeFields ((key, inner) :: fields) rest)
    have shorter : (quote key ++ ':' :: inner.write ++ writeFields fields).length ≤ fuel := by
      simp only [List.cons_append, List.append_assoc, List.length_append, List.length_cons]
      omega
    have later := inductionHypothesis (fun one member => reads one (List.mem_cons_of_mem _ member)) shorter
    have comma : skipSpace (writeFields ((key, inner) :: fields) ++ rest) =
        ',' :: (quote key ++ ':' :: (inner.write ++ (writeFields fields ++ rest))) := by
      rw [writeFields]
      simp only [List.cons_append, List.append_assoc]
      exact skipSpace_cons (by decide) _
    rw [readFields?, opening, nestingFields]
    simp only [readQuoted?_quote, bind, Option.bind, colon, String.ofList_toList] at read ⊢
    rw [read]
    by_cases allowed : value.nesting ≤ depth
    · rw [if_pos allowed]
      simp only [comma, later]
      by_cases also : nestingFields ((key, inner) :: fields) ≤ depth
      · rw [if_pos also, if_pos (Nat.max_le.mpr ⟨allowed, also⟩)]
        rfl
      · rw [if_neg also, if_neg fun both => also (Nat.max_le.mp both).2]
    · rw [if_neg allowed, if_neg fun both => allowed (Nat.max_le.mp both).1]

theorem readsBack_array {item : Json} {items : List Json} (integral : (Json.array (item :: items)).isIntegral = true)
    (reads : ∀ one ∈ item :: items, one.ReadsBack) : (Json.array (item :: items)).ReadsBack := by
  intro fuel depth rest long ends
  rw [isIntegral, areIntegral, Bool.and_eq_true] at integral
  obtain ⟨first, others, shape, visible, unclosed⟩ := write_cons integral.1
  rw [write, List.cons_append, List.length_cons] at long
  obtain ⟨fuel, rfl⟩ : ∃ less, fuel = less + 1 := ⟨fuel - 1, by omega⟩
  rw [write, List.cons_append, List.cons_append, List.append_assoc, readValue?, skipSpace_cons (by decide), nesting]
  cases depth with
  | zero => exact (if_neg (Nat.not_succ_le_zero _)).symm
  | succ depth =>
    have inside : readItems? fuel depth (item.write ++ (writeItems items ++ rest)) = _ := readItems?_write reads (by omega)
    have start : skipSpace (item.write ++ (writeItems items ++ rest)) = item.write ++ (writeItems items ++ rest) := by
      rw [shape, List.cons_append]
      exact skipSpace_cons visible _
    simp only [Nat.add_le_add_iff_right, start]
    split
    next behind closed =>
      rw [shape, List.cons_append] at closed
      exact absurd (List.cons.inj closed).1 unclosed
    next =>
      rw [inside]
      by_cases allowed : nestingItems (item :: items) ≤ depth
      · rw [if_pos allowed, if_pos allowed]
        rfl
      · rw [if_neg allowed, if_neg allowed]
        rfl

/-- The closing brace ends a mapping, so nothing is asked of what follows it. -/
theorem readValue?_writeObject {name : String} {value : Json} {fields : Fields}
    (reads : ∀ one ∈ (name, value) :: fields, one.2.ReadsBack) {fuel : Nat} (depth : Nat) (rest : List Char)
    (long : (Json.object ((name, value) :: fields)).write.length ≤ fuel) :
    readValue? fuel depth ((Json.object ((name, value) :: fields)).write ++ rest) =
      if (Json.object ((name, value) :: fields)).nesting ≤ depth then some (.object ((name, value) :: fields), rest)
      else none := by
  rw [write, List.cons_append, List.cons_append, List.length_cons] at long
  obtain ⟨fuel, rfl⟩ : ∃ less, fuel = less + 1 := ⟨fuel - 1, by omega⟩
  have shape : (Json.object ((name, value) :: fields)).write ++ rest =
      '\x7b' :: (quote name ++ ':' :: (value.write ++ (writeFields fields ++ rest))) := by
    rw [write]
    simp only [List.cons_append, List.append_assoc]
  rw [shape, readValue?, skipSpace_cons (by decide), nesting]
  cases depth with
  | zero => exact (if_neg (Nat.not_succ_le_zero _)).symm
  | succ depth =>
    have inside : readFields? fuel depth (quote name ++ ':' :: (value.write ++ (writeFields fields ++ rest))) = _ :=
      readFields?_write reads (by simpa using long)
    have start : skipSpace (quote name ++ ':' :: (value.write ++ (writeFields fields ++ rest))) =
        quote name ++ ':' :: (value.write ++ (writeFields fields ++ rest)) := by
      rw [quote, List.cons_append, List.cons_append]
      exact skipSpace_cons (by decide) _
    simp only [Nat.add_le_add_iff_right, start]
    split
    next behind closed =>
      rw [quote, List.cons_append, List.cons_append] at closed
      exact absurd (List.cons.inj closed).1 (by decide)
    next =>
      rw [inside]
      by_cases allowed : nestingFields ((name, value) :: fields) ≤ depth
      · rw [if_pos allowed, if_pos allowed]
        rfl
      · rw [if_neg allowed, if_neg allowed]
        rfl

theorem isIntegral_of_mem_items {items : List Json} (integral : areIntegral items = true) :
    ∀ item ∈ items, item.isIntegral = true := by
  induction items with
  | nil => exact fun _ member => nomatch member
  | cons first items inductionHypothesis =>
    rw [areIntegral, Bool.and_eq_true] at integral
    rintro item (_ | ⟨_, later⟩)
    · exact integral.1
    · exact inductionHypothesis integral.2 item later

theorem isIntegral_of_mem_fields {fields : Fields} (integral : haveIntegral fields = true) :
    ∀ field ∈ fields, field.2.isIntegral = true := by
  induction fields with
  | nil => exact fun _ member => nomatch member
  | cons first fields inductionHypothesis =>
    rw [haveIntegral, Bool.and_eq_true] at integral
    rintro field (_ | ⟨_, later⟩)
    · exact integral.1
    · exact inductionHypothesis integral.2 field later

theorem readsBack_int {value : Int} (machine : isMachineInt value = true) : (Json.int value).ReadsBack := by
  intro fuel depth rest long ends
  have integral : (Json.int value).isIntegral = true := machine
  obtain ⟨first, others, shape, -⟩ := write_cons integral
  rw [shape, List.length_cons] at long
  obtain ⟨fuel, rfl⟩ : ∃ less, fuel = less + 1 := ⟨fuel - 1, by omega⟩
  rw [if_pos (show (Json.int value).nesting ≤ depth from Nat.zero_le depth), write]
  exact readValue?_writeInt machine fuel depth ends

theorem readsBack_string (text : String) : (Json.string text).ReadsBack := by
  intro fuel depth rest long ends
  rw [write, quote, List.cons_append, List.length_cons] at long
  obtain ⟨fuel, rfl⟩ : ∃ less, fuel = less + 1 := ⟨fuel - 1, by omega⟩
  rw [if_pos (show (Json.string text).nesting ≤ depth from Nat.zero_le depth), write, quote, List.cons_append,
    List.cons_append, List.append_assoc, readValue?, skipSpace_cons (by decide)]
  have read := readQuoted?_quote text rest
  simp only [List.cons_append, List.nil_append, read, Option.map_some, String.ofList_toList]

/-- Every value without a fraction in it reads back. -/
theorem readsBack_write (value : Json) (integral : value.isIntegral = true) : value.ReadsBack := by
  induction value using induction with
  | step value inside =>
    match value with
    | .array (item :: items) =>
      have integrals := isIntegral_of_mem_items integral
      exact readsBack_array integral fun one member => inside one member (integrals one member)
    | .object ((name, value) :: fields) =>
      have integrals := isIntegral_of_mem_fields integral
      have reads : ∀ one ∈ (name, value) :: fields, one.2.ReadsBack :=
        fun one member => inside one.2 (List.mem_map_of_mem member) (integrals one member)
      exact fun fuel depth rest long _ => readValue?_writeObject reads depth rest long
    | .real _ => exact nomatch integral
    | .int value => exact readsBack_int integral
    | .string text => exact readsBack_string text
    | .null | .bool true | .bool false =>
      rintro (_ | fuel) depth rest long ends
      · exact absurd long (by decide)
      · exact (if_pos (Nat.zero_le depth)).symm
    | .array [] | .object [] =>
      rintro (_ | fuel) (_ | depth) rest long ends
      · exact absurd long (by decide)
      · exact absurd long (by decide)
      · rfl
      · exact (if_pos (Nat.succ_le_succ (Nat.zero_le depth))).symm

theorem readsBack_of_mem_fields {fields : Fields} (integral : (Json.object fields).isIntegral = true) :
    ∀ field ∈ fields, field.2.ReadsBack :=
  fun field member => readsBack_write field.2 (isIntegral_of_mem_fields integral field member)

/-! ### Whole texts -/

/-- The one value that a text spells, nested at most so deep; `read?` allows `maxDepth`. -/
def readWithin? (depth : Nat) (text : String) : Option Json := do
  let (value, rest) ← readValue? (text.toList.length + 1) depth text.toList
  if (skipSpace rest).isEmpty then some value else none

theorem readWithin?_compact {value : Json} (integral : value.isIntegral = true) (depth : Nat) :
    readWithin? depth value.compact = if value.nesting ≤ depth then some value else none := by
  have read := readsBack_write value integral (value.write.length + 1) depth [] (Nat.le_succ _)
    (fun _ _ empty => nomatch empty)
  rw [List.append_nil] at read
  rw [readWithin?, compact, String.toList_ofList, read]
  by_cases allowed : value.nesting ≤ depth
  · rw [if_pos allowed, if_pos allowed]
    rfl
  · rw [if_neg allowed, if_neg allowed]
    rfl

end Json

end Harvest
