import Harvest.Binary64
import Harvest.Text.Blank

/-!
Contract: reading decimal texts.

`readReal?` accepts an optional sign and then digits with an optional point and
exponent (a digit must stand on one side of the point), or `inf`, `infinity` or
`nan` in any letter case, and gives the nearest binary64 number. `readNat?` and
`readInt?` accept digits with an optional sign.
-/

namespace Harvest.Decimal

def isDigit (character : Char) : Bool :=
  '0' ≤ character && character ≤ '9'

def digitValue (character : Char) : Nat :=
  character.toNat - 48

def valueOfDigits (digits : List Char) : Nat :=
  digits.foldl (fun value digit => 10 * value + digitValue digit) 0

/-- The number nearest to `digits * 10 ^ exponent`. Beyond the range of finite numbers the answer is
known without the power. -/
def nearest (negative : Bool) (digits : Nat) (exponent : Int) : Binary64 :=
  if digits = 0 then Binary64.zero negative
  else
    let magnitude : Int := (Nat.toDigits 10 digits).length + exponent
    if magnitude > 310 then .infinite negative
    else if magnitude < -330 then Binary64.zero negative
    else if exponent ≥ 0 then Binary64.ofRatio negative (digits * Nat.pow 10 exponent.toNat) 1
    else Binary64.ofRatio negative digits (Nat.pow 10 (-exponent).toNat)

/-- A sign in front of a text: whether it is a minus, and the rest. -/
def takeSign : List Char → Bool × List Char
  | '-' :: rest => (true, rest)
  | '+' :: rest => (false, rest)
  | rest => (false, rest)

/-- The exponent that a text spells, `0` for the empty text. -/
def readExponent? : List Char → Option Int
  | [] => some 0
  | marker :: rest =>
    if marker = 'e' ∨ marker = 'E' then
      let (negative, digits) := takeSign rest
      if digits.isEmpty || !digits.all isDigit then none
      else some (if negative then -(valueOfDigits digits : Int) else valueOfDigits digits)
    else none

def lowerAscii (text : List Char) : List Char :=
  text.map fun character => if 'A' ≤ character ∧ character ≤ 'Z' then Char.ofNat (character.toNat + 32) else character

/-- The number that the text after the sign spells. -/
def readUnsigned? (negative : Bool) (text : List Char) : Option Binary64 :=
  let whole := text.takeWhile isDigit
  let afterWhole := text.dropWhile isDigit
  let pointed := match afterWhole with
    | '.' :: rest => (rest.takeWhile isDigit, rest.dropWhile isDigit)
    | rest => ([], rest)
  if whole.isEmpty && pointed.1.isEmpty then
    let word := String.ofList (lowerAscii text)
    if word == "inf" || word == "infinity" then some (.infinite negative)
    else if word == "nan" then some .nan
    else none
  else
    (readExponent? pointed.2).map fun exponent =>
      nearest negative (valueOfDigits (whole ++ pointed.1)) (exponent - pointed.1.length)

/-- The binary64 number nearest to the decimal that a text spells. -/
def readReal? (text : List Char) : Option Binary64 :=
  let (negative, rest) := takeSign text
  readUnsigned? negative rest

/-- The natural number that digits with an optional plus spell. -/
def readNat? (text : List Char) : Option Nat :=
  let digits := match text with
    | '+' :: rest => rest
    | rest => rest
  if digits.isEmpty || !digits.all isDigit then none else some (valueOfDigits digits)

/-- The integer that digits with an optional sign spell. -/
def readInt? (text : List Char) : Option Int :=
  let (negative, digits) := takeSign text
  if digits.isEmpty || !digits.all isDigit then none
  else some (if negative then -(valueOfDigits digits : Int) else valueOfDigits digits)

/-- The greatest machine integer without a sign, which is also the greatest index. -/
def maxIndex : Nat := 18446744073709551615

/-- The index that a text spells: a natural number that a 64-bit word holds. -/
def readIndex? (text : List Char) : Option Nat :=
  (readNat? text).filter (· ≤ maxIndex)

end Harvest.Decimal
