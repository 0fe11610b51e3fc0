import Harvest.Decimal.Reader
import Mathlib.Data.Rat.Floor
import Mathlib.Tactic.Linarith
import Mathlib.Tactic.Positivity
import Mathlib.Tactic.Ring

/-!
Contract: the exact number that a text spells.

A text that reads as a binary64 number spells a decimal, or an infinity, or NaN. What is read is the binary64 number nearest
to that decimal; the decimal itself is a rational number, and its whole part is what stands before its fraction.
-/

namespace Harvest

/-- The integer before the fraction of a number. -/
def wholePart (number : ℚ) : Int :=
  if number < 0 then ⌈number⌉ else ⌊number⌋

theorem wholePart_intCast (number : Int) : wholePart number = number := by
  unfold wholePart
  rw [Int.ceil_intCast, Int.floor_intCast, ite_self]

theorem wholePart_neg (number : ℚ) : wholePart (-number) = -wholePart number := by
  unfold wholePart
  rcases lt_trichotomy number 0 with less | none | more
  · rw [if_neg (by linarith), if_pos less, Int.floor_neg]
  · rw [none]
    simp
  · rw [if_pos (by linarith), if_neg (by linarith), Int.ceil_neg]

theorem wholePart_div (numerator denominator : Nat) :
    wholePart ((numerator : ℚ) / denominator) = ((numerator / denominator : Nat) : Int) := by
  have positive : ¬ (numerator : ℚ) / denominator < 0 := not_lt.mpr (by positivity)
  rw [wholePart, if_neg positive, Rat.floor_natCast_div_natCast]
  rfl

def signed (negative : Bool) (magnitude : ℚ) : ℚ :=
  if negative then -magnitude else magnitude

theorem wholePart_signed (negative : Bool) (magnitude : ℚ) :
    wholePart (signed negative magnitude) = if negative then -wholePart magnitude else wholePart magnitude := by
  cases negative
  · rfl
  · exact wholePart_neg magnitude

namespace Binary64

def value? : Binary64 → Option ℚ
  | .finite negative mantissa exponent => some (signed negative (mantissa * 2 ^ exponent))
  | _ => none

theorem truncate?_eq (number : Binary64) : number.truncate? = number.value?.map wholePart := by
  cases number with
  | nan => rfl
  | infinite negative => rfl
  | finite negative mantissa exponent =>
    have whole : wholePart ((mantissa : ℚ) * 2 ^ exponent) =
        ((if exponent ≥ 0 then mantissa * Nat.pow 2 exponent.toNat
          else mantissa / Nat.pow 2 (-exponent).toNat : Nat) : Int) := by
      rcases le_or_gt 0 exponent with upward | downward
      · obtain ⟨places, rfl⟩ := Int.eq_ofNat_of_zero_le upward
        have product : (mantissa : ℚ) * 2 ^ (places : Int) = ((mantissa * 2 ^ places : Nat) : Int) := by
          push_cast
          rw [zpow_natCast]
        rw [product, wholePart_intCast, if_pos upward]
        rfl
      · obtain ⟨places, rfl⟩ : ∃ places : Nat, exponent = -(places : Int) := ⟨exponent.natAbs, by omega⟩
        have quotient : (mantissa : ℚ) * 2 ^ (-(places : Int)) = (mantissa : ℚ) / ((2 ^ places : Nat) : ℚ) := by
          push_cast
          rw [zpow_neg, zpow_natCast, div_eq_mul_inv]
        rw [quotient, wholePart_div, if_neg (by omega), Int.neg_neg]
        rfl
    rw [truncate?, value?, Option.map_some, wholePart_signed, whole]

end Binary64

namespace Decimal

/-- What a text spells that reads as a number. -/
inductive Spelled where
  | nan
  | infinite (negative : Bool)
  | decimal (negative : Bool) (digits : Nat) (exponent : Int)
deriving DecidableEq

namespace Spelled

def value? : Spelled → Option ℚ
  | .decimal negative digits exponent => some (signed negative (digits * 10 ^ exponent))
  | _ => none

def rounded : Spelled → Binary64
  | .nan => .nan
  | .infinite negative => .infinite negative
  | .decimal negative digits exponent => nearest negative digits exponent

end Spelled

/-- The digits behind a point, none when no point stands there, and the rest. -/
def takeFraction : List Char → List Char × List Char
  | '.' :: rest => (rest.takeWhile isDigit, rest.dropWhile isDigit)
  | rest => ([], rest)

def spellUnsigned? (negative : Bool) (text : List Char) : Option Spelled :=
  let whole := text.takeWhile isDigit
  let pointed := takeFraction (text.dropWhile isDigit)
  if whole.isEmpty && pointed.1.isEmpty then
    let word := String.ofList (lowerAscii text)
    if word == "inf" || word == "infinity" then some (.infinite negative)
    else if word == "nan" then some .nan
    else none
  else
    (readExponent? pointed.2).map fun exponent =>
      .decimal negative (valueOfDigits (whole ++ pointed.1)) (exponent - pointed.1.length)

def spell? (text : List Char) : Option Spelled :=
  let (negative, rest) := takeSign text
  spellUnsigned? negative rest

theorem readUnsigned?_eq (negative : Bool) (text : List Char) :
    readUnsigned? negative text = (spellUnsigned? negative text).map Spelled.rounded := by
  unfold spellUnsigned?
  change (let whole := text.takeWhile isDigit
    let pointed := takeFraction (text.dropWhile isDigit)
    if whole.isEmpty && pointed.1.isEmpty then
      let word := String.ofList (lowerAscii text)
      if word == "inf" || word == "infinity" then some (Binary64.infinite negative)
      else if word == "nan" then some .nan
      else none
    else (readExponent? pointed.2).map fun exponent =>
      nearest negative (valueOfDigits (whole ++ pointed.1)) (exponent - pointed.1.length)) = _
  extract_lets whole pointed word
  split
  · split
    · rfl
    · split <;> rfl
  · cases readExponent? pointed.2 <;> rfl

/-- A text reads as the binary64 number nearest to what it spells. -/
theorem readReal?_eq (text : List Char) : readReal? text = (spell? text).map Spelled.rounded :=
  readUnsigned?_eq _ _

theorem spell?_of_readInt? {text : List Char} {value : Int} (read : readInt? text = some value) :
    ∃ spelled, spell? text = some spelled ∧ spelled.value? = some (value : ℚ) := by
  unfold readInt? at read
  unfold spell?
  generalize takeSign text = taken at read ⊢
  obtain ⟨negative, digits⟩ := taken
  dsimp only at read ⊢
  split at read
  case isTrue => exact nomatch read
  case isFalse shape =>
    rw [Bool.or_eq_true, not_or, Bool.not_eq_true, Bool.not_eq_true', Bool.not_eq_false] at shape
    obtain ⟨some_digits, every⟩ := shape
    have all := List.all_eq_true.mp every
    have taken : (digits ++ []).takeWhile isDigit = digits ∧ (digits ++ []).dropWhile isDigit = [] := by
      rw [List.takeWhile_append_of_pos all, List.dropWhile_append_of_pos all]
      simp
    rw [List.append_nil] at taken
    refine ⟨.decimal negative (valueOfDigits digits) 0, ?_, ?_⟩
    · simp [spellUnsigned?, takeFraction, taken, some_digits, readExponent?]
    · rw [← Option.some.inj read, Spelled.value?, zpow_zero, mul_one]
      cases negative
      · simp [signed]
      · simp [signed]

end Decimal

end Harvest
