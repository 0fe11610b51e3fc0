import Harvest.Proofs.Decimal.Count
import Harvest.Proofs.Decimal.Exact
import Mathlib.Data.Nat.Digits.Defs

/-!
Contract: short decimals keep their whole part.

A decimal whose digits make a number below `2 ^ 53` is not rounded to another whole part: it is farther from the next integer
than the binary64 number that is read for it can be from it. With more digits this fails, as in `0.99999999999999999999`.
-/

namespace Harvest

namespace Binary64

/-- Rounding goes up by half a unit at most. -/
theorem divideToEven_le (numerator : Nat) {denominator : Nat} (positive : 0 < denominator) :
    2 * (divideToEven numerator denominator * denominator) ≤ 2 * numerator + denominator := by
  unfold divideToEven
  extract_lets quotient rest
  have parts : quotient * denominator + rest = numerator := Nat.div_add_mod' numerator denominator
  have down : 2 * (quotient * denominator) ≤ 2 * numerator + denominator := by omega
  have up : denominator ≤ 2 * rest → 2 * ((quotient + 1) * denominator) ≤ 2 * numerator + denominator := by
    intro half
    rw [Nat.add_one_mul quotient]
    omega
  split
  · exact down
  · split
    · exact up (by omega)
    · split
      · exact down
      · exact up (by omega)

theorem divideToEven_le_of_lt {numerator denominator bound : Nat} (positive : 0 < denominator)
    (room : numerator < bound * denominator) : divideToEven numerator denominator ≤ bound := by
  have half := divideToEven_le numerator positive
  by_contra more
  have larger : (bound + 1) * denominator ≤ divideToEven numerator denominator * denominator :=
    Nat.mul_le_mul_right _ (Nat.not_le.mp more)
  rw [Nat.add_one_mul] at larger
  omega

/-- Rounding does not fall below the whole part. -/
theorem whole_le_divideToEven (numerator : Nat) {denominator : Nat} (positive : 0 < denominator) (places : Nat) :
    numerator / denominator * 2 ^ places ≤ divideToEven (numerator * 2 ^ places) denominator := by
  calc numerator / denominator * 2 ^ places ≤ numerator * 2 ^ places / denominator := by
        rw [Nat.le_div_iff_mul_le positive, Nat.mul_right_comm]
        exact Nat.mul_le_mul_right _ (Nat.div_mul_le_self _ _)
    _ ≤ divideToEven (numerator * 2 ^ places) denominator := le_divideToEven _ _

/-- Rounding does not reach the next integer where a unit of the numerator is more than half a unit of the result. -/
theorem divideToEven_lt_next {numerator denominator places : Nat} (positive : 0 < denominator)
    (fine : denominator < 2 * 2 ^ places) :
    divideToEven (numerator * 2 ^ places) denominator < (numerator / denominator + 1) * 2 ^ places := by
  have half := divideToEven_le (numerator * 2 ^ places) positive
  generalize divideToEven (numerator * 2 ^ places) denominator = mantissa at half ⊢
  have next : numerator + 1 ≤ (numerator / denominator + 1) * denominator := by
    rw [Nat.add_one_mul]
    have rest := Nat.mod_lt numerator positive
    have parts := Nat.div_add_mod' numerator denominator
    omega
  by_contra reached
  have steps : (numerator + 1) * 2 ^ places ≤ mantissa * denominator := by
    calc (numerator + 1) * 2 ^ places ≤ (numerator / denominator + 1) * denominator * 2 ^ places :=
          Nat.mul_le_mul_right _ next
      _ = (numerator / denominator + 1) * 2 ^ places * denominator := Nat.mul_right_comm _ _ _
      _ ≤ mantissa * denominator := Nat.mul_le_mul_right _ (Nat.not_lt.mp reached)
  rw [Nat.add_one_mul] at steps
  omega

/-- Scaled by its target exponent a ratio has 53 bits before the point, or fewer if the exponent is the least one. -/
theorem exists_targetExponent {numerator denominator limit : Nat} (nonzero : numerator ≠ 0) (positive : 0 < denominator)
    (short : numerator < 2 ^ 53) (isLimit : minExponent = -(limit : Int)) :
    ∃ places : Nat, targetExponent numerator denominator = -(places : Int) ∧ places ≤ limit ∧
      numerator * 2 ^ places < 2 ^ 53 * denominator ∧
      (places < limit → 2 ^ 52 * denominator ≤ numerator * 2 ^ places) := by
  have few : numerator.log2 < 53 := (Nat.log2_lt nonzero).mpr short
  have below : numerator < 2 ^ (numerator.log2 + 1) := Nat.lt_log2_self
  have above : 2 ^ numerator.log2 ≤ numerator := Nat.log2_self_le nonzero
  have below' : denominator < 2 ^ (denominator.log2 + 1) := Nat.lt_log2_self
  have above' : 2 ^ denominator.log2 ≤ denominator := Nat.log2_self_le positive.ne'
  obtain ⟨first, count⟩ : ∃ first, first + numerator.log2 = 52 + denominator.log2 :=
    ⟨52 + denominator.log2 - numerator.log2, by omega⟩
  have guess : (numerator.log2 : Int) - (denominator.log2 : Int) - 52 = -(first : Int) := by omega
  have fits : numerator * 2 ^ first < 2 ^ 53 * denominator := by
    calc numerator * 2 ^ first < 2 ^ (numerator.log2 + 1) * 2 ^ first :=
          Nat.mul_lt_mul_of_pos_right below (Nat.two_pow_pos _)
      _ = 2 ^ 53 * 2 ^ denominator.log2 := by
          rw [← Nat.pow_add, ← Nat.pow_add]
          congr 1
          omega
      _ ≤ 2 ^ 53 * denominator := Nat.mul_le_mul_left _ above'
  obtain ⟨places, precise, room, full⟩ : ∃ places : Nat,
      (if numerator * 2 ^ first < Nat.pow 2 52 * denominator then -(first : Int) - 1 else -(first : Int)) = -(places : Int) ∧
        numerator * 2 ^ places < 2 ^ 53 * denominator ∧ 2 ^ 52 * denominator ≤ numerator * 2 ^ places := by
    by_cases less : numerator * 2 ^ first < Nat.pow 2 52 * denominator
    · refine ⟨first + 1, by rw [if_pos less]; omega, ?_, ?_⟩
      · have double : numerator * 2 ^ (first + 1) = 2 * (numerator * 2 ^ first) := by ring
        have less' : numerator * 2 ^ first < 2 ^ 52 * denominator := less
        omega
      · calc 2 ^ 52 * denominator ≤ 2 ^ 52 * 2 ^ (denominator.log2 + 1) := Nat.mul_le_mul_left _ below'.le
          _ = 2 ^ numerator.log2 * 2 ^ (first + 1) := by
              rw [← Nat.pow_add, ← Nat.pow_add]
              congr 1
              omega
          _ ≤ numerator * 2 ^ (first + 1) := Nat.mul_le_mul_right _ above
    · exact ⟨first, by rw [if_neg less], fits, Nat.not_lt.mp less⟩
  have target : targetExponent numerator denominator = max (-(places : Int)) minExponent := by
    unfold targetExponent
    simp only [guess, scale_neg, precise]
  by_cases least : places ≤ limit
  · exact ⟨places, by rw [target, isLimit]; omega, least, room, fun _ => full⟩
  · refine ⟨limit, by rw [target, isLimit]; omega, Nat.le_refl _, ?_, fun less => absurd less (Nat.lt_irrefl _)⟩
    calc numerator * 2 ^ limit ≤ numerator * 2 ^ places :=
          Nat.mul_le_mul_left _ (Nat.pow_le_pow_right (by decide) (Nat.le_of_not_le least))
      _ < 2 ^ 53 * denominator := room

/-- The number nearest to a ratio has the whole part of the ratio if the numerator is below `2 ^ 53`. -/
theorem truncate?_ofRatio {numerator denominator : Nat} (nonzero : numerator ≠ 0) (positive : 0 < denominator)
    (short : numerator < 2 ^ 53) :
    ∃ mantissa exponent, (∀ negative, ofRatio negative numerator denominator = .finite negative mantissa exponent) ∧
      (finite false mantissa exponent).truncate? = some ((numerator / denominator : Nat) : Int) := by
  obtain ⟨limit, isLimit, far⟩ : ∃ limit : Nat, minExponent = -(limit : Int) ∧ 53 < limit := ⟨1074, rfl, by decide⟩
  obtain ⟨places, target, least, room, full⟩ := exists_targetExponent nonzero positive short isLimit
  have below := whole_le_divideToEven numerator positive places
  have fits := divideToEven_le_of_lt positive room
  have above : divideToEven (numerator * 2 ^ places) denominator < (numerator / denominator + 1) * 2 ^ places := by
    rcases Nat.lt_or_ge places limit with normal | least
    · have bits : numerator * 2 ^ places < 2 ^ 53 * 2 ^ places := Nat.mul_lt_mul_of_pos_right short (Nat.two_pow_pos _)
      have enough := full normal
      exact divideToEven_lt_next positive (by omega)
    · have large : 2 ^ 54 ≤ 2 ^ places := Nat.pow_le_pow_right (by decide) (by omega)
      have one : 2 ^ places ≤ (numerator / denominator + 1) * 2 ^ places := Nat.le_mul_of_pos_left _ (Nat.succ_pos _)
      omega
  have whole : divideToEven (numerator * 2 ^ places) denominator / 2 ^ places = numerator / denominator :=
    Nat.div_eq_of_lt_le below above
  by_cases carried : divideToEven (numerator * 2 ^ places) denominator < Nat.pow 2 53
  · refine ⟨_, -(places : Int), fun negative => ?_, by rw [truncate?_neg, whole]⟩
    unfold ofRatio
    rw [if_neg nonzero]
    simp only [target, scale_neg, if_pos carried]
    rw [if_neg (by unfold maxExponent; omega)]
  · have carry : divideToEven (numerator * 2 ^ places) denominator = 2 ^ 53 := Nat.le_antisymm fits (Nat.not_lt.mp carried)
    obtain ⟨fewer, rfl⟩ : ∃ fewer, places = fewer + 1 := by
      refine Nat.exists_eq_succ_of_ne_zero ?_
      rintro rfl
      have small : numerator / denominator ≤ numerator := Nat.div_le_self _ _
      omega
    refine ⟨2 ^ 52, -(fewer : Int), fun negative => ?_, ?_⟩
    · unfold ofRatio
      rw [if_neg nonzero]
      simp only [target, scale_neg, if_neg carried]
      rw [if_neg (by unfold maxExponent; omega)]
      congr 1
      omega
    · rw [truncate?_neg, ← whole, carry, Nat.pow_succ 2 52, Nat.pow_succ 2 fewer, Nat.mul_div_mul_right _ _ (by decide)]

theorem truncate?_sign (negative : Bool) (mantissa : Nat) (exponent : Int) : (finite negative mantissa exponent).truncate? =
    (finite false mantissa exponent).truncate?.map fun whole => if negative then -whole else whole := rfl

end Binary64

namespace Decimal

theorem wholePart_short (digits places : Nat) :
    wholePart ((digits : ℚ) * 10 ^ (-(places : Int))) = ((digits / 10 ^ places : Nat) : Int) := by
  have quotient : (digits : ℚ) * 10 ^ (-(places : Int)) = (digits : ℚ) / ((10 ^ places : Nat) : ℚ) := by
    push_cast
    rw [zpow_neg, zpow_natCast, div_eq_mul_inv]
  rw [quotient, wholePart_div]

/-- Reading a decimal with fewer digits than a mantissa has keeps its whole part. -/
theorem truncate?_nearest {digits : Nat} (short : digits < 2 ^ 53) (negative : Bool) (places : Nat) :
    (nearest negative digits (-(places : Int))).truncate? =
      some (wholePart (signed negative (digits * 10 ^ (-(places : Int))))) := by
  rw [wholePart_signed, wholePart_short]
  have zero : (Binary64.zero negative).truncate? = some (if negative then -(0 : Int) else 0) := by
    obtain ⟨limit, least⟩ : ∃ limit : Nat, Binary64.minExponent = -(limit : Int) := ⟨1074, rfl⟩
    rw [Binary64.zero, Binary64.truncate?_sign, least, Binary64.truncate?_neg, Nat.zero_div]
    rfl
  unfold nearest
  by_cases absent : digits = 0
  · rw [if_pos absent, absent, Nat.zero_div]
    exact zero
  have few : (Nat.toDigits 10 digits).length ≤ 16 := Nat.toDigits_length 10 digits 16 (by decide) (by omega)
  rw [if_neg absent]
  dsimp only
  rw [if_neg (by omega)]
  split
  case isTrue tiny =>
    have less : digits < 10 ^ places := by
      calc digits < 10 ^ 16 := by omega
        _ ≤ 10 ^ places := Nat.pow_le_pow_right (by decide) (by omega)
    rw [Nat.div_eq_of_lt less]
    exact zero
  case isFalse =>
    have ratio : (if -(places : Int) ≥ 0 then Binary64.ofRatio negative (digits * Nat.pow 10 (-(places : Int)).toNat) 1
        else Binary64.ofRatio negative digits (Nat.pow 10 (- -(places : Int)).toNat)) =
        Binary64.ofRatio negative digits (10 ^ places) := by
      rcases Nat.eq_zero_or_pos places with rfl | positive
      · simp
      · rw [if_neg (by omega), Int.neg_neg, Int.toNat_natCast]
        rfl
    obtain ⟨mantissa, exponent, rounded, whole⟩ :=
      Binary64.truncate?_ofRatio absent (Nat.pow_pos (by decide) : 0 < 10 ^ places) short
    rw [ratio, rounded, Binary64.truncate?_sign, whole]
    rfl

example : (nearest false 99999999999999999999 (-20)).truncate? = some 1 := by
  decide

end Decimal

end Harvest
