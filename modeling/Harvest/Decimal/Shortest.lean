import Harvest.Binary64

/-!
Contract: the shortest decimal that reads back as a given binary64 number.

A finite number stands for the interval of reals that round to it, its ends
included when its mantissa is even. `shortest` tries one digit, two digits and
so on. On each decimal grid only the two neighbours of the number can lie in the
interval, so they alone are tested; of two hits the nearer one wins, and of two
equally near ones the even one.
-/

namespace Harvest

/-- The number `digits * 10 ^ exponent`. -/
structure Decimal where
  digits : Nat
  exponent : Int
deriving DecidableEq

namespace Decimal

/-- Numerator and denominator of `value * 2 ^ binary / 10 ^ decimal`. -/
def onGrid (value : Nat) (binary decimal : Int) : Nat × Nat :=
  (value * Nat.pow 2 binary.toNat * Nat.pow 10 (-decimal).toNat, Nat.pow 2 (-binary).toNat * Nat.pow 10 decimal.toNat)

/-- The reals that round to `mantissa * 2 ^ exponent`, in quarters of its last place. -/
structure Interval where
  low : Nat
  value : Nat
  high : Nat
  exponent : Int
  closed : Bool

/-- The interval of a finite number that is not zero. Below a power of two the numbers lie twice
as close, so the lower end is a quarter away instead of a half. -/
def Interval.ofFinite (mantissa : Nat) (exponent : Int) : Interval where
  low := if mantissa = Nat.pow 2 52 ∧ exponent > Binary64.minExponent then 4 * mantissa - 1 else 4 * mantissa - 2
  value := 4 * mantissa
  high := 4 * mantissa + 2
  exponent := exponent - 2
  closed := mantissa % 2 == 0

/-- Whether the point `digits * 10 ^ decimal` lies in the interval. -/
def Interval.holds (interval : Interval) (decimal : Int) (digits : Nat) : Bool :=
  let low := onGrid interval.low interval.exponent decimal
  let high := onGrid interval.high interval.exponent decimal
  if interval.closed then low.1 ≤ digits * low.2 && digits * high.2 ≤ high.1
  else low.1 < digits * low.2 && digits * high.2 < high.1

/-- The neighbour of the interval's value on the grid of `10 ^ decimal` that lies in the interval. -/
def Interval.pointOn? (interval : Interval) (decimal : Int) : Option Nat :=
  let scaled := onGrid interval.value interval.exponent decimal
  let below := scaled.1 / scaled.2
  let rest := scaled.1 % scaled.2
  let above := below + 1
  match interval.holds decimal below && below != 0, interval.holds decimal above with
  | true, true =>
    if 2 * rest < scaled.2 then some below
    else if 2 * rest > scaled.2 then some above
    else if below % 2 = 0 then some below else some above
  | true, false => some below
  | false, true => some above
  | false, false => none

/-- An exponent `k` for which the number has its first digit at `10 ^ k` or `10 ^ (k + 1)`. -/
def leadingExponent (mantissa : Nat) (exponent : Int) : Int :=
  ((Nat.log2 mantissa : Int) + exponent) * 30103 / 100000

/-- The first grid with a hit, from `10 ^ decimal` to finer ones. -/
def searchFrom (interval : Interval) : Nat → Int → Option Decimal
  | 0, _ => none
  | fuel + 1, decimal =>
    match interval.pointOn? decimal with
    | some digits => some ⟨digits, decimal⟩
    | none => searchFrom interval fuel (decimal - 1)

/-- The decimal without the zeros at the end of its digits. -/
def strip : Nat → Decimal → Decimal
  | 0, decimal => decimal
  | fuel + 1, ⟨digits, exponent⟩ =>
    if digits ≠ 0 ∧ digits % 10 = 0 then strip fuel ⟨digits / 10, exponent + 1⟩ else ⟨digits, exponent⟩

/-- The shortest decimal in the interval of a finite number. Eighteen digits always suffice, and the
search may begin one digit too early. -/
def shortest (mantissa : Nat) (exponent : Int) : Decimal :=
  if mantissa = 0 then ⟨0, 0⟩
  else
    let start := leadingExponent mantissa exponent + 1
    match searchFrom (Interval.ofFinite mantissa exponent) 21 start with
    | some found => found.strip 20
    | none => ⟨mantissa, 0⟩

def digitsOf (value : Nat) : List Char :=
  Nat.toDigits 10 value

/-- The exponent of the first digit when there is one digit before the point. -/
def magnitude (decimal : Decimal) : Int :=
  decimal.exponent + (digitsOf decimal.digits).length - 1

/-- Positional spelling, with a point only where a fraction stands. -/
def positional (decimal : Decimal) : List Char :=
  let digits := digitsOf decimal.digits
  if decimal.digits = 0 then ['0']
  else if decimal.exponent ≥ 0 then digits ++ List.replicate decimal.exponent.toNat '0'
  else
    let places := (-decimal.exponent).toNat
    if places < digits.length then
      digits.take (digits.length - places) ++ '.' :: digits.drop (digits.length - places)
    else '0' :: '.' :: List.replicate (places - digits.length) '0' ++ digits

/-- One digit, the fraction if there is one, and a signed exponent. -/
def scientific (decimal : Decimal) : List Char :=
  let digits := digitsOf decimal.digits
  let fraction := if digits.length ≤ 1 then [] else '.' :: digits.drop 1
  let magnitude := decimal.magnitude
  let sign := if magnitude < 0 then '-' else '+'
  digits.take 1 ++ fraction ++ 'e' :: sign :: digitsOf magnitude.natAbs

/-- A spelling with `.0` after it where it shows no fraction. -/
def withPoint (spelling : List Char) : List Char :=
  if spelling.contains '.' then spelling else spelling ++ ['.', '0']

/-- How finite numbers are spelt: positional for magnitudes from `low` to `high`, otherwise with an
exponent. -/
structure Spelling where
  low : Int
  high : Int

/-- The spelling of a finite number; an integral one in positional form ends in `.0`. -/
def Spelling.write (spelling : Spelling) (negative : Bool) (mantissa : Nat) (exponent : Int) : List Char :=
  let decimal := shortest mantissa exponent
  let magnitude := if mantissa = 0 then 0 else decimal.magnitude
  let digits :=
    if spelling.low ≤ magnitude ∧ magnitude ≤ spelling.high then withPoint decimal.positional
    else decimal.scientific
  if negative then '-' :: digits else digits

end Decimal

end Harvest
