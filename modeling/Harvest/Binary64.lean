/-!
Contract: the numbers of IEEE 754 binary64, as exact values.

A finite number is `mantissa * 2 ^ exponent` with its sign. `ofRatio` gives the
number nearest to a quotient of natural numbers, a tie going to the even
mantissa. Only the reading, ordering and truncation of numbers is needed here,
so there is no arithmetic on them.
-/

namespace Harvest

/-- A binary64 number. A finite one is canonical when its mantissa is below `2 ^ 53`, its
exponent is at least `-1074`, and its mantissa is at least `2 ^ 52` unless its exponent is
`-1074`. -/
inductive Binary64 where
  | nan
  | infinite (negative : Bool)
  | finite (negative : Bool) (mantissa : Nat) (exponent : Int)
deriving DecidableEq, Inhabited

namespace Binary64

def minExponent : Int := -1074

def maxExponent : Int := 971

def zero (negative : Bool) : Binary64 := .finite negative 0 minExponent

/-- The natural number nearest to `numerator / denominator`; a tie goes to the even one. -/
def divideToEven (numerator denominator : Nat) : Nat :=
  let quotient := numerator / denominator
  let rest := numerator % denominator
  if 2 * rest < denominator then quotient
  else if 2 * rest > denominator then quotient + 1
  else if quotient % 2 = 0 then quotient else quotient + 1

/-- The quotient `numerator / (denominator * 2 ^ exponent)` as numerator and denominator. -/
def scale (numerator denominator : Nat) (exponent : Int) : Nat × Nat :=
  if exponent ≥ 0 then (numerator, denominator * Nat.pow 2 exponent.toNat)
  else (numerator * Nat.pow 2 (-exponent).toNat, denominator)

/-- The exponent at which `numerator / denominator` has a mantissa of 53 bits, but no less than
the least exponent. -/
def targetExponent (numerator denominator : Nat) : Int :=
  let guess : Int := (Nat.log2 numerator : Int) - (Nat.log2 denominator : Int) - 52
  let scaled := scale numerator denominator guess
  let exact := if scaled.1 < Nat.pow 2 52 * scaled.2 then guess - 1 else guess
  max exact minExponent

/-- The number nearest to `numerator / denominator` for a positive denominator. -/
def ofRatio (negative : Bool) (numerator denominator : Nat) : Binary64 :=
  if numerator = 0 then zero negative
  else
    let exponent := targetExponent numerator denominator
    let scaled := scale numerator denominator exponent
    let mantissa := divideToEven scaled.1 scaled.2
    let carried := if mantissa < Nat.pow 2 53 then (mantissa, exponent) else (Nat.pow 2 52, exponent + 1)
    if carried.2 > maxExponent then .infinite negative else .finite negative carried.1 carried.2

/-- The number nearest to an integer. -/
def ofInt (value : Int) : Binary64 :=
  ofRatio (value < 0) value.natAbs 1

def isFinite : Binary64 → Bool
  | .finite _ _ _ => true
  | _ => false

def isZero : Binary64 → Bool
  | .finite _ mantissa _ => mantissa == 0
  | _ => false

/-- A finite number times `2 ^ 1074`, which is an integer. -/
def scaledValue (negative : Bool) (mantissa : Nat) (exponent : Int) : Int :=
  let magnitude : Int := (mantissa * Nat.pow 2 (exponent - minExponent).toNat : Nat)
  if negative then -magnitude else magnitude

/-- The place of a number on the line: `-1` and `1` are the infinities, `0` with its scaled value
is a finite number. A NaN has none. -/
def place? : Binary64 → Option (Int × Int)
  | .nan => none
  | .infinite negative => some (if negative then -1 else 1, 0)
  | .finite negative mantissa exponent => some (0, scaledValue negative mantissa exponent)

/-- The order of two numbers; none when one is a NaN. Zeros of both signs are equal. -/
def order? (left right : Binary64) : Option Ordering := do
  let leftPlace ← left.place?
  let rightPlace ← right.place?
  return (compare leftPlace.1 rightPlace.1).then (compare leftPlace.2 rightPlace.2)

/-- Equality of values: zeros of both signs are equal, and a NaN equals nothing. -/
def same (left right : Binary64) : Bool :=
  left.order? right == some .eq

/-- The integer that a finite number has before its fraction. -/
def truncate? : Binary64 → Option Int
  | .finite negative mantissa exponent =>
    let magnitude : Nat :=
      if exponent ≥ 0 then mantissa * Nat.pow 2 exponent.toNat else mantissa / Nat.pow 2 (-exponent).toNat
    some (if negative then -magnitude else magnitude)
  | _ => none

/-- The integer before the fraction, moved into `low .. high`: infinities go to the ends, and a
NaN to zero. -/
def truncateWithin (low high : Int) (number : Binary64) : Int :=
  match number with
  | .nan => 0
  | .infinite negative => if negative then low else high
  | .finite _ _ _ => max low (min high (number.truncate?.getD 0))

/-- The 64 bits of a number, as a natural number. -/
def bits : Binary64 → Nat
  | .nan => 0x7FF8000000000000
  | .infinite negative => (if negative then Nat.pow 2 63 else 0) + 0x7FF0000000000000
  | .finite negative mantissa exponent =>
    let sign := if negative then Nat.pow 2 63 else 0
    if mantissa < Nat.pow 2 52 then sign + mantissa
    else sign + (exponent - minExponent + 1).toNat * Nat.pow 2 52 + (mantissa - Nat.pow 2 52)

end Binary64

end Harvest
