import Harvest.Decimal.Reader
import Harvest.Description.Problem
import Harvest.Json.View
import Mathlib.Algebra.Group.Nat.Defs

/-!
Contract: counts come through unchanged.

A count is written into a selector as a text, and it is answered as a number. Reading the text gives
the count back if a 64-bit word holds it, and so does the binary64 number as long as every count up to it is
one. The numbers of such counts are ordered as the counts are, and that of any count that is not zero is not below one.
-/

namespace Harvest

/-! ### Counts as texts -/

namespace Decimal

theorem isDigit_eq (character : Char) : isDigit character = character.isDigit := rfl

theorem isBlank_of_isDigit {character : Char} (digit : isDigit character = true) : Text.isBlank character = false := by
  simp only [isDigit, Bool.and_eq_true, decide_eq_true_eq, Char.le_def, UInt32.le_iff_toNat_le] at digit
  have low : 48 ≤ character.toNat := digit.1
  have high : character.toNat ≤ 57 := digit.2
  simp only [Text.isBlank, Bool.or_eq_false_iff, Bool.and_eq_false_iff, decide_eq_false_iff_not, beq_eq_false_iff_ne]
  omega

theorem valueOfDigits_eq (digits : List Char) : valueOfDigits digits = Nat.ofDigitChars 10 digits 0 := by
  rw [Nat.ofDigitChars_eq_foldl]
  rfl

/-- The characters of a text that is an index. -/
theorem mem_of_readIndex? {text : List Char} {index : Nat} (read : readIndex? text = some index) {character : Char}
    (member : character ∈ text) : isDigit character = true ∨ character = '+' := by
  have natural := (Option.filter_eq_some_iff.mp read).1
  unfold readNat? at natural
  have digits : ∀ digits : List Char, (if digits.isEmpty || !digits.all isDigit then none
      else some (valueOfDigits digits)) = some index → ∀ character ∈ digits, isDigit character = true := by
    intro digits read character member
    by_cases every : digits.all isDigit = true
    · exact List.all_eq_true.mp every character member
    · simp [every] at read
  split at natural
  case h_1 rest =>
    rcases List.mem_cons.mp member with sign | behind
    · exact .inr sign
    · exact .inl (digits rest natural character behind)
  case h_2 => exact .inl (digits _ natural character member)

theorem isDigit_of_mem_digitsOf {index : Nat} {character : Char} (member : character ∈ digitsOf index) :
    isDigit character = true := by
  rw [isDigit_eq]
  exact Nat.isDigit_of_mem_toDigits (by omega) (by omega) member

theorem all_isDigit_digitsOf (number : Nat) : (digitsOf number).all isDigit = true :=
  List.all_eq_true.mpr fun _ member => isDigit_of_mem_digitsOf member

theorem isEmpty_digitsOf (number : Nat) : (digitsOf number).isEmpty = false :=
  List.isEmpty_eq_false_iff.mpr Nat.toDigits_ne_nil

theorem valueOfDigits_digitsOf (number : Nat) : valueOfDigits (digitsOf number) = number := by
  rw [valueOfDigits_eq]
  exact Nat.ofDigitChars_ten_toDigits

theorem exists_digitsOf (number : Nat) : ∃ first others, digitsOf number = first :: others ∧ isDigit first = true := by
  have shown : digitsOf number ≠ [] := Nat.toDigits_ne_nil
  obtain ⟨first, others, shape⟩ := List.exists_cons_of_ne_nil shown
  exact ⟨first, others, shape, isDigit_of_mem_digitsOf (by rw [shape]; exact List.mem_cons_self)⟩

/-- An index is read back from its digits. -/
theorem readIndex?_digitsOf {index : Nat} (bound : index ≤ maxIndex) : readIndex? (digitsOf index) = some index := by
  have read : readNat? (digitsOf index) = some index := by
    unfold readNat?
    split
    case h_1 rest shape =>
      have sign : isDigit '+' = true := isDigit_of_mem_digitsOf (by rw [shape]; exact List.mem_cons_self)
      exact absurd sign (by decide)
    case h_2 => simp [all_isDigit_digitsOf, valueOfDigits_digitsOf, isEmpty_digitsOf]
  unfold readIndex?
  rw [read]
  exact Option.filter_eq_some_iff.mpr ⟨rfl, by simpa using bound⟩

end Decimal

/-! ### Counts as numbers -/

namespace Binary64

theorem divideToEven_one (numerator : Nat) : divideToEven numerator 1 = numerator := by
  simp [divideToEven, Nat.mod_one]

theorem scale_neg (numerator denominator places : Nat) :
    scale numerator denominator (-(places : Int)) = (numerator * 2 ^ places, denominator) := by
  unfold scale
  rcases Nat.eq_zero_or_pos places with rfl | positive
  · simp
  · rw [if_neg (by omega), Int.neg_neg, Int.toNat_natCast]
    rfl

theorem targetExponent_one {number : Nat} (positive : number ≠ 0) (small : number < 2 ^ 53) :
    targetExponent number 1 = -((52 - number.log2 : Nat) : Int) := by
  have short : number.log2 < 53 := (Nat.log2_lt positive).mpr small
  have guess : (number.log2 : Int) - (Nat.log2 1 : Int) - 52 = -((52 - number.log2 : Nat) : Int) := by
    have one : Nat.log2 1 = 0 := by decide
    omega
  have long : 2 ^ 52 ≤ number * 2 ^ (52 - number.log2) := by
    calc 2 ^ 52 = 2 ^ number.log2 * 2 ^ (52 - number.log2) := by rw [← Nat.pow_add]; congr 1; omega
      _ ≤ number * 2 ^ (52 - number.log2) := Nat.mul_le_mul_right _ (Nat.log2_self_le positive)
  unfold targetExponent
  simp only [guess, scale_neg]
  rw [if_neg (by simpa using long)]
  unfold minExponent
  omega

/-- Below `2 ^ 53` the nearest number to a natural number is that number itself. -/
theorem ofRatio_one {number : Nat} (positive : number ≠ 0) (small : number < 2 ^ 53) :
    ofRatio false number 1 =
      .finite false (number * 2 ^ (52 - number.log2)) (-((52 - number.log2 : Nat) : Int)) := by
  have short : number.log2 < 53 := (Nat.log2_lt positive).mpr small
  have fits : number * 2 ^ (52 - number.log2) < Nat.pow 2 53 := by
    calc number * 2 ^ (52 - number.log2) < 2 ^ (number.log2 + 1) * 2 ^ (52 - number.log2) :=
          Nat.mul_lt_mul_of_pos_right Nat.lt_log2_self (Nat.pow_pos (by omega))
      _ = 2 ^ 53 := by rw [← Nat.pow_add]; congr 1; omega
  unfold ofRatio
  rw [if_neg positive]
  simp only [targetExponent_one positive small, scale_neg, divideToEven_one, if_pos fits]
  rw [if_neg (by unfold maxExponent; omega)]

/-- What stands before the point of a number with a negative exponent. -/
theorem truncate?_neg (mantissa places : Nat) :
    (finite false mantissa (-(places : Int))).truncate? = some ((mantissa / 2 ^ places : Nat) : Int) := by
  unfold truncate?
  rcases Nat.eq_zero_or_pos places with rfl | positive
  · simp
  · have negative : ¬ (-(places : Int) ≥ 0) := by omega
    simp only [negative, if_false, Int.neg_neg, Int.toNat_natCast, Bool.false_eq_true]
    rfl

theorem ofInt_natCast (number : Nat) : ofInt number = ofRatio false number 1 := by
  have sign : decide ((number : Int) < 0) = false := decide_eq_false (by omega)
  unfold ofInt
  rw [sign, Int.natAbs_natCast]

theorem truncate?_ofInt {number : Nat} (small : number < 2 ^ 53) : (ofInt number).truncate? = some (number : Int) := by
  rw [ofInt_natCast]
  by_cases none : number = 0
  · subst none
    obtain ⟨places, least⟩ : ∃ places : Nat, minExponent = -(places : Int) := ⟨1074, rfl⟩
    rw [ofRatio, if_pos rfl, zero, least, truncate?_neg, Nat.zero_div]
  · rw [ofRatio_one none small, truncate?_neg, Nat.mul_div_cancel _ (Nat.pow_pos (by omega))]

/-- Below `2 ^ 53` the place of a natural number is that number, in units of the least positive number. -/
theorem place?_ofInt {number : Nat} (small : number < 2 ^ 53) {places : Nat} (least : minExponent = -(places : Int))
    (enough : 52 ≤ places) : (ofInt number).place? = some (0, ((number * 2 ^ places : Nat) : Int)) := by
  rw [ofInt_natCast]
  by_cases none : number = 0
  · subst none
    rw [ofRatio, if_pos rfl, Nat.zero_mul]
    simp [zero, place?, scaledValue]
  · have shifted : 52 - number.log2 + (-((52 - number.log2 : Nat) : Int) - minExponent).toNat = places := by
      omega
    rw [ofRatio_one none small, place?, scaledValue, if_neg Bool.false_ne_true]
    show some ((0 : Int), ((number * 2 ^ (52 - number.log2) * 2 ^ _ : Nat) : Int)) = _
    rw [Nat.mul_assoc, ← Nat.pow_add, shifted]

theorem compare_mul {left right unit : Nat} (positive : 0 < unit) :
    compare ((left * unit : Nat) : Int) ((right * unit : Nat) : Int) = compare left right := by
  rcases Nat.lt_trichotomy left right with less | same | greater
  · have scaled : left * unit < right * unit := Nat.mul_lt_mul_of_pos_right less positive
    rw [Nat.compare_eq_lt.mpr less]
    exact Int.compare_eq_lt.mpr (Int.ofNat_lt.mpr scaled)
  · subst same
    simp
  · have scaled : right * unit < left * unit := Nat.mul_lt_mul_of_pos_right greater positive
    rw [Nat.compare_eq_gt.mpr greater]
    exact Int.compare_eq_gt.mpr (Int.ofNat_lt.mpr scaled)

/-- Below `2 ^ 53` natural numbers are ordered as their binary64 numbers are. -/
theorem order?_ofInt {left right : Nat} (smallLeft : left < 2 ^ 53) (smallRight : right < 2 ^ 53) :
    (ofInt left).order? (ofInt right) = some (compare left right) := by
  obtain ⟨places, least, enough⟩ : ∃ places : Nat, minExponent = -(places : Int) ∧ 52 ≤ places :=
    ⟨1074, rfl, by decide⟩
  have ordered := @compare_mul left right (2 ^ places) (Nat.pow_pos (by omega))
  unfold order?
  rw [place?_ofInt smallLeft least enough, place?_ofInt smallRight least enough]
  exact congrArg some ordered

theorem le_divideToEven (numerator denominator : Nat) : numerator / denominator ≤ divideToEven numerator denominator := by
  unfold divideToEven
  dsimp only
  split
  · exact Nat.le_refl _
  · split
    · exact Nat.le_succ _
    · split
      · exact Nat.le_refl _
      · exact Nat.le_succ _

theorem scale_nonneg (numerator denominator places : Nat) :
    scale numerator denominator (places : Int) = (numerator, denominator * 2 ^ places) := by
  unfold scale
  rw [if_pos (Int.natCast_nonneg places), Int.toNat_natCast]
  rfl

/-- From `2 ^ 53` on the number nearest to a natural number is infinite, or its mantissa and its exponent are those of a
number above `2 ^ 52`. -/
theorem ofRatio_large {number : Nat} (large : 2 ^ 53 ≤ number) : ofRatio false number 1 = .infinite false ∨
    ∃ mantissa places : Nat, 2 ^ 52 ≤ mantissa ∧ ofRatio false number 1 = .finite false mantissa places := by
  have positive : number ≠ 0 := by omega
  have long : 53 ≤ number.log2 := (Nat.le_log2 positive).mpr large
  have guess : (number.log2 : Int) - (Nat.log2 1 : Int) - 52 = ((number.log2 - 52 : Nat) : Int) := by
    have one : Nat.log2 1 = 0 := by decide
    omega
  have least : 2 ^ 52 * 2 ^ (number.log2 - 52) ≤ number := by
    calc 2 ^ 52 * 2 ^ (number.log2 - 52) = 2 ^ number.log2 := by rw [← Nat.pow_add]; congr 1; omega
      _ ≤ number := Nat.log2_self_le positive
  have target : targetExponent number 1 = ((number.log2 - 52 : Nat) : Int) := by
    unfold targetExponent
    simp only [guess, scale_nonneg, Nat.one_mul]
    rw [if_neg (by simpa using least)]
    unfold minExponent
    omega
  have mantissa : 2 ^ 52 ≤ divideToEven number (2 ^ (number.log2 - 52)) :=
    Nat.le_trans ((Nat.le_div_iff_mul_le (Nat.pow_pos (by omega))).mpr least) (le_divideToEven _ _)
  unfold ofRatio
  rw [if_neg positive]
  simp only [target, scale_nonneg, Nat.one_mul]
  by_cases fits : divideToEven number (2 ^ (number.log2 - 52)) < Nat.pow 2 53
  · rw [if_pos fits]
    split
    · exact .inl rfl
    · exact .inr ⟨_, _, mantissa, rfl⟩
  · rw [if_neg fits]
    split
    · exact .inl rfl
    · exact .inr ⟨2 ^ 52, number.log2 - 52 + 1, Nat.le_refl _, rfl⟩

/-- The number of a count is below one only if nothing was counted. -/
theorem order?_ofInt_one {number : Nat} (positive : number ≠ 0) : (ofInt number).order? (ofInt 1) ≠ some .lt := by
  by_cases small : number < 2 ^ 53
  · have ordered : (ofInt number).order? (ofInt (1 : Nat)) = some (compare number 1) := order?_ofInt small (by decide)
    rw [show ((1 : Nat) : Int) = 1 from rfl] at ordered
    rw [ordered]
    intro less
    exact absurd (Nat.compare_eq_lt.mp (Option.some.inj less)) (by omega)
  · obtain ⟨unit, least, enough⟩ : ∃ places : Nat, minExponent = -(places : Int) ∧ 52 ≤ places :=
      ⟨1074, rfl, by decide⟩
    have one : (ofInt (1 : Nat)).place? = some (0, ((1 * 2 ^ unit : Nat) : Int)) := place?_ofInt (by decide) least enough
    have sign : decide ((number : Int) < 0) = false := decide_eq_false (by omega)
    rw [show ((1 : Nat) : Int) = 1 from rfl] at one
    unfold order?
    rw [one, ofInt, sign, Int.natAbs_natCast]
    rcases ofRatio_large (Nat.not_lt.mp small) with endless | ⟨mantissa, places, great, finite⟩
    · rw [endless]
      exact nofun
    · rw [finite, place?, scaledValue, if_neg Bool.false_ne_true]
      have more : 1 * 2 ^ unit ≤ mantissa * 2 ^ ((places : Int) - minExponent).toNat :=
        Nat.mul_le_mul (by omega) (Nat.pow_le_pow_right (by omega) (by omega))
      intro less
      have below : compare ((mantissa * 2 ^ ((places : Int) - minExponent).toNat : Nat) : Int)
          ((1 * 2 ^ unit : Nat) : Int) = .lt := Option.some.inj less
      exact absurd (Int.ofNat_lt.mp (Int.compare_eq_lt.mp below)) (Nat.not_lt.mpr more)

end Binary64

end Harvest
