import Harvest.Proofs.Decimal.Rounding
import Harvest.Proofs.Json.Written
import Harvest.Proofs.Text.Trim
import Harvest.Transform.Chain

/-!
Contract: what a cast to an integer gives.

A value denotes a number if it is one, spells one or is a truth value. Its cast is null exactly if it denotes none. The cast
of an integer, of a binary64 number, of a truth value and of a text that spells an integer is the integer before the
fraction, as long as a 64-bit word with a sign holds it; the same is true of other texts unless reading them as a binary64
number changes that integer. What no such word holds does not become null, but the end of the range that is nearer to it,
and NaN becomes zero.
-/

namespace Harvest

namespace Json

/-- The finite number that a value denotes, exactly. -/
def number? : Json → Option ℚ
  | .int value => some value
  | .real value => value.value?
  | .string text => (Decimal.spell? (Text.trimChars text.toList)).bind Decimal.Spelled.value?
  | .bool value => some (if value then 1 else 0)
  | _ => none

end Json

namespace Decimal

theorem readInt?_eq_none_of_mem {text : List Char} {character : Char} (member : character ∈ text)
    (other : isDigit character = false) (unsigned : character ∉ ['-', '+']) : readInt? text = none := by
  have kept : character ∈ (takeSign text).2 := by
    unfold takeSign
    split
    · exact (List.mem_cons.mp member).resolve_left fun same => unsigned (by simp [same])
    · exact (List.mem_cons.mp member).resolve_left fun same => unsigned (by simp [same])
    · exact member
  have broken : (takeSign text).2.all isDigit = false :=
    List.all_eq_false.mpr ⟨character, kept, by rw [other]; exact Bool.false_ne_true⟩
  unfold readInt?
  simp only [broken, Bool.not_false, Bool.or_true, if_true]

theorem takeSign_digitsOf (magnitude : Nat) : takeSign (digitsOf magnitude) = (false, digitsOf magnitude) := by
  obtain ⟨first, others, shape, digit⟩ := exists_digitsOf magnitude
  rw [shape]
  unfold takeSign
  split
  next same =>
    rw [(List.cons.inj same).1] at digit
    exact absurd digit (by decide)
  next same =>
    rw [(List.cons.inj same).1] at digit
    exact absurd digit (by decide)
  next => rfl

theorem readInt?_writeInt (value : Int) : readInt? (Json.writeInt value) = some value := by
  unfold Json.writeInt
  by_cases negative : value < 0
  · rw [if_pos negative]
    simp only [readInt?, takeSign, isEmpty_digitsOf, all_isDigit_digitsOf, valueOfDigits_digitsOf, Bool.not_true,
      Bool.or_false, Bool.false_eq_true, if_true, if_false]
    exact congrArg some (by omega)
  · rw [if_neg negative]
    simp only [readInt?, takeSign_digitsOf, isEmpty_digitsOf, all_isDigit_digitsOf, valueOfDigits_digitsOf, Bool.not_true,
      Bool.or_false, Bool.false_eq_true, if_false]
    exact congrArg some (by omega)

/-- A binary64 number is not written as an integer is. -/
theorem exists_mem_writeReal (number : Binary64) : ∃ character ∈ Json.writeReal number, character ∈ ['.', 'e', 'n'] := by
  cases number with
  | nan => exact ⟨'n', by decide, by decide⟩
  | infinite negative => exact ⟨'n', List.mem_cons_self, by decide⟩
  | finite negative mantissa exponent =>
    have spelt : ∀ digits : List Char, (∃ character ∈ digits, character ∈ ['.', 'e', 'n']) →
        ∃ character ∈ (if negative then '-' :: digits else digits), character ∈ ['.', 'e', 'n'] := by
      rintro digits ⟨character, member, mark⟩
      refine ⟨character, ?_, mark⟩
      split
      · exact List.mem_cons_of_mem _ member
      · exact member
    show ∃ character ∈ Spelling.write Json.numberSpelling negative mantissa exponent, _
    unfold Spelling.write
    extract_lets decimal magnitude digits
    refine spelt digits ?_
    have forms : digits = withPoint decimal.positional ∨ digits = decimal.scientific := ite_eq_or_eq _ _ _
    rcases forms with pointed | scientific
    · refine ⟨'.', ?_, by decide⟩
      rw [pointed, withPoint]
      split
      case isTrue already => exact List.contains_iff_mem.mp already
      case isFalse => exact List.mem_append_right _ List.mem_cons_self
    · refine ⟨'e', ?_, by decide⟩
      rw [scientific]
      exact List.mem_append_right _ List.mem_cons_self

end Decimal

namespace Text

theorem trimChars_of_visible {text : List Char} (visible : ∀ character ∈ text, isBlank character = false) :
    trimChars text = text := by
  by_cases empty : text = []
  · rw [empty]
    rfl
  · exact (Trimmed.of_visible empty visible).trimChars_eq

theorem trimChars_writeInt (value : Int) : trimChars (Json.writeInt value) = Json.writeInt value := by
  refine trimChars_of_visible fun character member => ?_
  unfold Json.writeInt at member
  have digits : character ∈ Decimal.digitsOf value.natAbs → isBlank character = false :=
    fun digit => Decimal.isBlank_of_isDigit (Decimal.isDigit_of_mem_digitsOf digit)
  split at member
  · rcases List.mem_cons.mp member with rfl | digit
    · decide
    · exact digits digit
  · exact digits member

end Text

namespace Transform

/-- The integers that a 64-bit word with a sign holds. -/
def InRange (value : Int) : Prop :=
  minInteger ≤ value ∧ value ≤ maxInteger

/-- An answer is null or the integer before the fraction of the number that a value denotes. -/
def IsTruncation (value answer : Json) : Prop :=
  answer = .null ∨ ∃ number, value.number? = some number ∧ InRange (wholePart number) ∧ answer = .int (wholePart number)

/-- A value is read as the binary64 number nearest to what it spells: it is a text, and no integer. -/
def IsRounded (value : Json) : Prop :=
  ∃ text, value = .string text ∧ Decimal.readInt? (Text.trimChars text.toList) = none

theorem readInteger?_eq_none {text : List Char} (unread : Decimal.readInt? text = none) : readInteger? text = none := by
  rw [readInteger?, unread]
  rfl

theorem readInteger?_eq_some {text : List Char} {value : Int} (read : Decimal.readInt? text = some value)
    (range : InRange value) : readInteger? text = some value := by
  rw [readInteger?, read, Option.filter_some]
  exact if_pos (by simp only [range.1, range.2, decide_true, Bool.and_true])

/-- A value whose text holds a visible character that no integer has is not read as one. -/
theorem readInteger?_eq_none_of_mem {text : List Char} {character : Char} (member : character ∈ text)
    (visible : Text.isBlank character = false) (other : Decimal.isDigit character = false)
    (unsigned : character ∉ ['-', '+']) : readInteger? (Text.trimChars text) = none :=
  readInteger?_eq_none (Decimal.readInt?_eq_none_of_mem (Text.mem_trimChars member visible) other unsigned)

theorem toInteger?_of_unread {value : Json} (unread : readInteger? (Text.trimChars value.asText.toList) = none) :
    toInteger? value = value.asNumber.map (Binary64.truncateWithin minInteger maxInteger) := by
  rw [toInteger?, unread, Option.none_or]

theorem truncateWithin_of_inRange {number : Binary64} {whole : Int} (truncated : number.truncate? = some whole)
    (range : InRange whole) : number.truncateWithin minInteger maxInteger = whole := by
  cases number with
  | nan => exact nomatch truncated
  | infinite negative => exact nomatch truncated
  | finite negative mantissa exponent =>
    rw [Binary64.truncateWithin, truncated, Option.getD_some, min_eq_right range.2, max_eq_right range.1]

theorem toInteger?_of_rounded {value : Json} (rounded : IsRounded value) :
    toInteger? value = value.asNumber.map (Binary64.truncateWithin minInteger maxInteger) := by
  obtain ⟨text, rfl, unread⟩ := rounded
  exact toInteger?_of_unread (readInteger?_eq_none unread)

theorem toInteger?_real (number : Binary64) :
    toInteger? (.real number) = some (number.truncateWithin minInteger maxInteger) := by
  have unread : readInteger? (Text.trimChars (Json.writeReal number)) = none := by
    obtain ⟨character, member, mark⟩ := Decimal.exists_mem_writeReal number
    simp only [List.mem_cons, List.not_mem_nil, or_false] at mark
    rcases mark with rfl | rfl | rfl
    · exact readInteger?_eq_none_of_mem member (by decide) (by decide) (by decide)
    · exact readInteger?_eq_none_of_mem member (by decide) (by decide) (by decide)
    · exact readInteger?_eq_none_of_mem member (by decide) (by decide) (by decide)
  have text : (Json.real number).asText.toList = Json.writeReal number := String.toList_ofList
  rw [← text] at unread
  rw [toInteger?_of_unread unread]
  rfl

/-- Unless reading rounds, the cast of a value is the integer before its fraction. -/
theorem toInteger?_of_exact {value : Json} {number : ℚ} (denoted : value.number? = some number)
    (range : InRange (wholePart number)) (unrounded : ¬ IsRounded value) : toInteger? value = some (wholePart number) := by
  match value with
  | .null => exact nomatch denoted
  | .array _ => exact nomatch denoted
  | .object _ => exact nomatch denoted
  | .bool truth =>
    have whole : wholePart number = if truth then 1 else 0 := by
      rw [← Option.some.inj denoted]
      cases truth
      · exact wholePart_intCast 0
      · exact wholePart_intCast 1
    rw [whole]
    cases truth <;> decide +kernel
  | .int value =>
    have whole : wholePart number = value := by
      rw [← Option.some.inj denoted, wholePart_intCast]
    have text : (Json.int value).asText.toList = Json.writeInt value := String.toList_ofList
    rw [whole] at range ⊢
    rw [toInteger?, text, Text.trimChars_writeInt, readInteger?_eq_some (Decimal.readInt?_writeInt value) range]
    rfl
  | .real value =>
    have truncated : value.truncate? = some (wholePart number) := by
      rw [Binary64.truncate?_eq]
      exact congrArg (Option.map wholePart) denoted
    rw [toInteger?_real, truncateWithin_of_inRange truncated range]
  | .string text =>
    cases read : Decimal.readInt? (Text.trimChars text.toList) with
    | none => exact absurd ⟨text, rfl, read⟩ unrounded
    | some value =>
      obtain ⟨spelled, spells, same⟩ := Decimal.spell?_of_readInt? read
      have whole : wholePart number = value := by
        rw [Json.number?, spells, Option.bind_some, same] at denoted
        rw [← Option.some.inj denoted, wholePart_intCast]
      rw [whole] at range ⊢
      rw [toInteger?, Json.asText, readInteger?_eq_some read range]
      rfl

/-- The cast of a value is null exactly if it denotes no number. -/
theorem toInteger?_eq_none_iff {value : Json} : toInteger? value = none ↔ value.asNumber = none := by
  constructor
  · intro absent
    rw [toInteger?, Option.or_eq_none_iff, Option.map_eq_none_iff] at absent
    exact absent.2
  · intro absent
    have unread : readInteger? (Text.trimChars value.asText.toList) = none := by
      match value with
      | .null => rfl
      | .bool _ => exact nomatch absent
      | .int _ => exact nomatch absent
      | .real _ => exact nomatch absent
      | .array items =>
        have text : (Json.array items).asText.toList = (Json.array items).write := String.toList_ofList
        have member : '[' ∈ (Json.array items).asText.toList := by
          rw [text]
          cases items <;> exact List.mem_cons_self
        exact readInteger?_eq_none_of_mem member (by decide) (by decide) (by decide)
      | .object fields =>
        have text : (Json.object fields).asText.toList = (Json.object fields).write := String.toList_ofList
        have member : '\x7b' ∈ (Json.object fields).asText.toList := by
          rw [text]
          cases fields <;> exact List.mem_cons_self
        exact readInteger?_eq_none_of_mem member (by decide) (by decide) (by decide)
      | .string text =>
        cases read : Decimal.readInt? (Text.trimChars text.toList) with
        | none => exact readInteger?_eq_none read
        | some value =>
          obtain ⟨spelled, spells, -⟩ := Decimal.spell?_of_readInt? read
          rw [Json.asNumber, Decimal.readReal?_eq, spells] at absent
          exact nomatch absent
    rw [toInteger?_of_unread unread, absent]
    rfl

/-- A value has no number, or it has a finite one whose integer before the fraction is in range and is not changed by
rounding the number. -/
def CastsExactly (value : Json) : Prop :=
  value.asNumber = none ∨ ∃ number, value.number? = some number ∧ InRange (wholePart number) ∧
    (IsRounded value → ∀ rounded, value.asNumber = some rounded →
      rounded.truncateWithin minInteger maxInteger = wholePart number)

theorem isTruncation_cast_iff (value : Json) :
    IsTruncation value (DataType.integer.cast value) ↔ CastsExactly value := by
  have answer : ∀ whole, DataType.integer.cast value = .int whole ↔ toInteger? value = some whole := by
    intro whole
    unfold DataType.cast
    cases toInteger? value <;> simp [Json.optional]
  have nothing : DataType.integer.cast value = .null ↔ value.asNumber = none := by
    rw [← toInteger?_eq_none_iff]
    unfold DataType.cast
    cases toInteger? value <;> simp [Json.optional]
  unfold IsTruncation CastsExactly
  rw [nothing]
  refine or_congr_right' fun denotes => exists_congr fun number => and_congr_right fun denoted =>
    and_congr_right fun range => ?_
  obtain ⟨real, read⟩ := Option.ne_none_iff_exists'.mp denotes
  rw [answer]
  by_cases rounded : IsRounded value
  · rw [toInteger?_of_rounded rounded, read]
    simp [rounded]
  · rw [toInteger?_of_exact denoted range rounded]
    simp [rounded]

/-- Reading a text of fewer digits than a mantissa has, and without a positive exponent, changes no integer. -/
theorem castsExactly_of_short {text : String} {negative : Bool} {digits places : Nat}
    (spells : Decimal.spell? (Text.trimChars text.toList) = some (.decimal negative digits (-(places : Int))))
    (short : digits < 2 ^ 53) : CastsExactly (.string text) := by
  have small : digits / 10 ^ places ≤ digits := Nat.div_le_self _ _
  have range : InRange (wholePart (signed negative (digits * 10 ^ (-(places : Int))))) := by
    rw [wholePart_signed, Decimal.wholePart_short]
    generalize digits / 10 ^ places = whole at small ⊢
    unfold InRange minInteger maxInteger
    split <;> omega
  refine .inr ⟨_, by rw [Json.number?, spells]; rfl, range, fun _ rounded read => ?_⟩
  rw [Json.asNumber, Decimal.readReal?_eq, spells] at read
  rw [← Option.some.inj read]
  exact truncateWithin_of_inRange (Decimal.truncate?_nearest short negative places) range

example : CastsExactly (.string " -12.99 ") := by
  have spells : Decimal.spell? (Text.trimChars " -12.99 ".toList) = some (.decimal true 1299 (-(2 : Nat))) := by
    decide
  exact castsExactly_of_short spells (by decide)

/-! ### Casts of what is stored -/

def Step.castingToInteger (step : Step) (names : List String) : Step :=
  (step.withOption "fields" (Json.texts names)).withOption "dataType" (.string "int")

theorem mapM_castField (storage : Storage) (names : List String) :
    (names.map Json.string).mapM (castField storage "int") =
      .ok (names.map fun name => DataType.integer.cast (storage.get name)) := by
  induction names with
  | nil => rfl
  | cons name names inductionHypothesis =>
    rw [List.map_cons, List.mapM_cons, inductionHypothesis]
    rfl

theorem apply_castingToInteger (step : Step) (storage : Storage) (value : Json) (names : List String) :
    (Transform.builtIn .combine).apply (step.castingToInteger names) storage value =
      .ok (.array (names.map fun name => DataType.integer.cast (storage.get name)), storage) := by
  have fields : (step.castingToInteger names).option? "fields" = some (.array (names.map .string)) := by
    unfold Step.castingToInteger Step.withOption Step.option?
    rw [Fields.find?_insert_other (by decide), Fields.find?_insert_same]
    rfl
  have dataType : (step.castingToInteger names).text? "dataType" = some "int" := by
    unfold Step.castingToInteger Step.withOption Step.text? Step.option?
    rw [Fields.find?_insert_same]
    rfl
  have ruled : combine (step.castingToInteger names) storage value =
      .ok (.array (names.map fun name => DataType.integer.cast (storage.get name))) := by
    rw [combine, fields, dataType]
    show ((names.map Json.string).mapM (castField storage "int")).map Json.array = _
    rw [mapM_castField]
    rfl
  unfold apply BuiltIn.rule
  simp only [ruled]

/-- Every list of names gets an answer for each name. The answer is null or the integer before the fraction of the number
that is stored exactly if there is no number, or one in range that reading does not round to another integer; and no text of
few digits is rounded to another integer. -/
theorem combine_truncates_iff (step : Step) (storage : Storage) (value : Json) (names : List String) :
    (∃ answers, (Transform.builtIn .combine).apply (step.castingToInteger names) storage value =
        .ok (.array answers, storage) ∧
      List.Forall₂ (fun name answer => IsTruncation (storage.get name) answer ↔ CastsExactly (storage.get name))
        names answers) ∧
    ∀ (text : String) (negative : Bool) (digits places : Nat),
      Decimal.spell? (Text.trimChars text.toList) = some (.decimal negative digits (-(places : Int))) →
      digits < 2 ^ 53 → CastsExactly (.string text) := by
  refine ⟨⟨_, apply_castingToInteger step storage value names, ?_⟩, fun _ _ _ _ => castsExactly_of_short⟩
  rw [List.forall₂_map_right_iff, List.forall₂_same]
  exact fun name _ => isTruncation_cast_iff (storage.get name)

theorem not_isTruncation_of_number? {value : Json} {whole : Int} (absent : value.number? = none) :
    ¬ IsTruncation value (.int whole) := by
  rintro (null | ⟨number, denoted, -⟩)
  · exact nomatch null
  · rw [absent] at denoted
    exact nomatch denoted

theorem cast_eq_int {value : Json} {whole : Int} (integer : toInteger? value = some whole) :
    DataType.integer.cast value = .int whole := by
  rw [DataType.cast, integer]
  rfl

def priceStorage : Storage :=
  ⟨[("price", .string " 12.99 ")]⟩

theorem combine_truncates_price :
    (Transform.builtIn .combine).apply (Step.castingToInteger ⟨"combine", []⟩ ["price"]) priceStorage .null =
        .ok (.array [.int 12], priceStorage) ∧
      IsTruncation (priceStorage.get "price") (.int 12) := by
  have price : DataType.integer.cast (priceStorage.get "price") = .int 12 := cast_eq_int (by decide)
  have spells : Decimal.spell? (Text.trimChars " 12.99 ".toList) = some (.decimal false 1299 (-(2 : Nat))) := by
    decide
  obtain ⟨⟨answers, answered, each⟩, short⟩ := combine_truncates_iff ⟨"combine", []⟩ priceStorage .null ["price"]
  have sound : CastsExactly (priceStorage.get "price") := short " 12.99 " false 1299 2 spells (by decide)
  have given := apply_castingToInteger ⟨"combine", []⟩ priceStorage .null ["price"]
  rw [List.map_singleton, price] at given
  rw [given] at answered
  cases answered
  cases each with
  | cons first rest => exact ⟨given, first.mpr sound⟩

/-- A number that no 64-bit word with a sign holds, and texts that spell no finite number. -/
def strayStorage : Storage :=
  ⟨[("big", .int 9223372036854775808), ("endless", .string "inf"), ("none", .string "nan")]⟩

/-- What denotes no finite number, or none in range, is cast to a number all the same. -/
theorem strays_become_numbers :
    (Transform.builtIn .combine).apply (Step.castingToInteger ⟨"combine", []⟩ ["big", "endless", "none"]) strayStorage .null =
        .ok (.array [.int maxInteger, .int maxInteger, .int 0], strayStorage) ∧
      ¬ IsTruncation (strayStorage.get "big") (.int maxInteger) ∧
      ¬ IsTruncation (strayStorage.get "endless") (.int maxInteger) ∧
      ¬ IsTruncation (strayStorage.get "none") (.int 0) := by
  have big : DataType.integer.cast (strayStorage.get "big") = .int maxInteger := cast_eq_int (by decide)
  have endless : DataType.integer.cast (strayStorage.get "endless") = .int maxInteger := cast_eq_int (by decide)
  have none : DataType.integer.cast (strayStorage.get "none") = .int 0 := cast_eq_int (by decide)
  have given := apply_castingToInteger ⟨"combine", []⟩ strayStorage .null ["big", "endless", "none"]
  rw [List.map_cons, List.map_cons, List.map_singleton, big, endless, none] at given
  refine ⟨given, ?_, not_isTruncation_of_number? (by decide), not_isTruncation_of_number? (by decide)⟩
  rintro (null | ⟨number, denoted, range, -⟩)
  · exact nomatch null
  · have whole : wholePart number = 9223372036854775808 := by
      rw [← Option.some.inj denoted]
      exact wholePart_intCast _
    rw [whole] at range
    exact absurd range.2 (by decide)

end Transform

end Harvest
