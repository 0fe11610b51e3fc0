import Harvest.Decimal.Reader
import Harvest.Json.Basic

/-!
Contract: reading JSON text.

`Json.read?` accepts exactly one value with white space around it, nested at most
`maxDepth` deep. Fields are kept as written, in their order and with repeated
names; `Json.normal` sorts them. Each reader takes the text that is left and
gives a value with the text behind it.
-/

namespace Harvest.Json

/-- How deep arrays and mappings may be nested. -/
def maxDepth : Nat := 127

def isSpace (character : Char) : Bool :=
  character == ' ' || character == '\n' || character == '\r' || character == '\t'

def skipSpace (text : List Char) : List Char :=
  text.dropWhile isSpace

def hexValue? (character : Char) : Option Nat :=
  let code := character.toNat
  if 48 ≤ code ∧ code ≤ 57 then some (code - 48)
  else if 65 ≤ code ∧ code ≤ 70 then some (code - 55)
  else if 97 ≤ code ∧ code ≤ 102 then some (code - 87)
  else none

def hexUnit? (first second third fourth : Char) : Option Nat := do
  let one ← hexValue? first
  let two ← hexValue? second
  let three ← hexValue? third
  let four ← hexValue? fourth
  return ((one * 16 + two) * 16 + three) * 16 + four

/-- The character that a backslash and this letter stand for. -/
def unescape? (letter : Char) : Option Char :=
  if letter = '"' then some '"'
  else if letter = '\\' then some '\\'
  else if letter = '/' then some '/'
  else if letter = 'b' then some (Char.ofNat 8)
  else if letter = 'f' then some (Char.ofNat 12)
  else if letter = 'n' then some '\n'
  else if letter = 'r' then some '\r'
  else if letter = 't' then some '\t'
  else none

/-- The rest of a quoted text, up to its closing quotation mark. A surrogate must have its partner. -/
def readQuoted? : List Char → Option (List Char × List Char)
  | [] => none
  | '"' :: rest => some ([], rest)
  | '\\' :: 'u' :: first :: second :: third :: fourth :: rest => do
    let unit ← hexUnit? first second third fourth
    if 0xD800 ≤ unit ∧ unit < 0xDC00 then
      match rest with
      | '\\' :: 'u' :: fifth :: sixth :: seventh :: eighth :: others =>
        let low ← hexUnit? fifth sixth seventh eighth
        if 0xDC00 ≤ low ∧ low < 0xE000 then
          let (characters, remaining) ← readQuoted? others
          some (Char.ofNat (0x10000 + (unit - 0xD800) * 1024 + (low - 0xDC00)) :: characters, remaining)
        else none
      | _ => none
    else if 0xDC00 ≤ unit ∧ unit < 0xE000 then none
    else
      let (characters, remaining) ← readQuoted? rest
      some (Char.ofNat unit :: characters, remaining)
  | '\\' :: letter :: rest => do
    let character ← unescape? letter
    let (characters, remaining) ← readQuoted? rest
    some (character :: characters, remaining)
  | character :: rest =>
    if character.toNat < 0x20 ∨ character = '\\' then none
    else do
      let (characters, remaining) ← readQuoted? rest
      some (character :: characters, remaining)

/-- Whether a row of digits is a whole part: no digit stands behind a leading zero. -/
def isWhole (digits : List Char) : Bool :=
  match digits with
  | [] => false
  | ['0'] => true
  | first :: _ => first != '0'

/-- The integers that stay integers: those that a 64-bit word holds, signed or not. -/
def isMachineInt (value : Int) : Bool :=
  -9223372036854775808 ≤ value && value < 18446744073709551616

/-- A whole number. Minus zero, and what no 64-bit word holds, is a binary64 number. -/
def ofWhole? (negative : Bool) (digits : List Char) : Option Json :=
  let magnitude := Decimal.valueOfDigits digits
  let value : Int := if negative then -magnitude else magnitude
  if isMachineInt value && !(negative && magnitude == 0) then some (.int value)
  else
    let number := Decimal.nearest negative magnitude 0
    if number.isFinite then some (.real number) else none

/-- The fraction behind a point: its digits and the rest, nothing when no point stands there. -/
def readFraction? : List Char → Option (List Char × List Char)
  | '.' :: rest =>
    let digits := rest.takeWhile Decimal.isDigit
    if digits.isEmpty then none else some (digits, rest.dropWhile Decimal.isDigit)
  | rest => some ([], rest)

/-- The exponent behind its letter and the rest, nothing when no such letter stands there. -/
def readPower? (text : List Char) : Option (Option Int × List Char) :=
  match text with
  | [] => some (none, [])
  | marker :: rest =>
    if marker = 'e' ∨ marker = 'E' then
      let (negative, behind) := Decimal.takeSign rest
      let digits := behind.takeWhile Decimal.isDigit
      if digits.isEmpty then none
      else
        let value : Int := Decimal.valueOfDigits digits
        some (some (if negative then -value else value), behind.dropWhile Decimal.isDigit)
    else some (none, text)

/-- A number after its sign. Infinite magnitudes are refused. -/
def readNumber? (negative : Bool) (text : List Char) : Option (Json × List Char) := do
  let whole := text.takeWhile Decimal.isDigit
  if !isWhole whole then none
  else
    let (fraction, afterFraction) ← readFraction? (text.dropWhile Decimal.isDigit)
    let (power, rest) ← readPower? afterFraction
    if fraction.isEmpty && power.isNone then
      let value ← ofWhole? negative whole
      return (value, rest)
    else
      let number := Decimal.nearest negative (Decimal.valueOfDigits (whole ++ fraction))
        (power.getD 0 - fraction.length)
      if number.isFinite then return (.real number, rest) else none

mutual

/-- The value at the beginning of a text, behind white space. Each call uses fuel; the length of the
text is enough. -/
def readValue? : (fuel depth : Nat) → List Char → Option (Json × List Char)
  | 0, _, _ => none
  | fuel + 1, depth, text =>
    match skipSpace text with
    | 'n' :: 'u' :: 'l' :: 'l' :: rest => some (.null, rest)
    | 't' :: 'r' :: 'u' :: 'e' :: rest => some (.bool true, rest)
    | 'f' :: 'a' :: 'l' :: 's' :: 'e' :: rest => some (.bool false, rest)
    | '"' :: rest => (readQuoted? rest).map fun found => (.string (String.ofList found.1), found.2)
    | '-' :: rest => readNumber? true rest
    | '[' :: rest =>
      match depth with
      | 0 => none
      | depth + 1 =>
        match skipSpace rest with
        | ']' :: behind => some (.array [], behind)
        | inside => (readItems? fuel depth inside).map fun found => (.array found.1, found.2)
    | '\x7b' :: rest =>
      match depth with
      | 0 => none
      | depth + 1 =>
        match skipSpace rest with
        | '\x7d' :: behind => some (.object [], behind)
        | inside => (readFields? fuel depth inside).map fun found => (.object found.1, found.2)
    | other => readNumber? false other

def readItems? : (fuel depth : Nat) → List Char → Option (List Json × List Char)
  | 0, _, _ => none
  | fuel + 1, depth, text => do
    let (item, behind) ← readValue? fuel depth text
    match skipSpace behind with
    | ',' :: rest =>
      let (items, remaining) ← readItems? fuel depth rest
      return (item :: items, remaining)
    | ']' :: rest => return ([item], rest)
    | _ => none

def readFields? : (fuel depth : Nat) → List Char → Option (List (String × Json) × List Char)
  | 0, _, _ => none
  | fuel + 1, depth, text => do
    match skipSpace text with
    | '"' :: quoted =>
      let (name, afterName) ← readQuoted? quoted
      match skipSpace afterName with
      | ':' :: rest =>
        let (value, behind) ← readValue? fuel depth rest
        match skipSpace behind with
        | ',' :: more =>
          let (fields, remaining) ← readFields? fuel depth more
          return ((String.ofList name, value) :: fields, remaining)
        | '\x7d' :: more => return ([(String.ofList name, value)], more)
        | _ => none
      | _ => none
    | _ => none

end

def readChars? (text : List Char) : Option Json := do
  let (value, rest) ← readValue? (text.length + 1) maxDepth text
  if (skipSpace rest).isEmpty then some value else none

/-- The one value that a text spells, with its fields as written. -/
def read? (text : String) : Option Json :=
  readChars? text.toList

end Harvest.Json
