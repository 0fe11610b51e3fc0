import Harvest.Decimal.Shortest
import Harvest.Json.Basic

/-!
Contract: JSON text.

`Json.compact` writes no white space; `Json.indented` puts each item and field
on a line of its own. Only the quotation mark, the backslash and the control
characters below U+0020 are escaped.
-/

namespace Harvest.Json

/-- Numbers are positional from `0.00001` up to, but without, `1e+16`. -/
def numberSpelling : Decimal.Spelling where
  low := -5
  high := 15

/-- The text of a number that is not an integer; there is none for infinities and NaN. -/
def writeReal : Binary64 → List Char
  | .finite negative mantissa exponent => numberSpelling.write negative mantissa exponent
  | _ => "null".toList

def writeInt (value : Int) : List Char :=
  if value < 0 then '-' :: Decimal.digitsOf value.natAbs else Decimal.digitsOf value.natAbs

def hexDigit (value : Nat) : Char :=
  if value < 10 then Char.ofNat (48 + value) else Char.ofNat (87 + value)

def escapeChar (character : Char) : List Char :=
  if character = '"' then ['\\', '"']
  else if character = '\\' then ['\\', '\\']
  else if character.toNat < 0x20 then
    if character = '\n' then ['\\', 'n']
    else if character = '\r' then ['\\', 'r']
    else if character = '\t' then ['\\', 't']
    else if character.toNat = 8 then ['\\', 'b']
    else if character.toNat = 12 then ['\\', 'f']
    else ['\\', 'u', '0', '0', hexDigit (character.toNat / 16), hexDigit (character.toNat % 16)]
  else [character]

def escape (text : List Char) : List Char :=
  text.flatMap escapeChar

def quote (text : String) : List Char :=
  '"' :: escape text.toList ++ ['"']

mutual

def write : Json → List Char
  | .null => "null".toList
  | .bool true => "true".toList
  | .bool false => "false".toList
  | .int value => writeInt value
  | .real value => writeReal value
  | .string value => quote value
  | .array [] => ['[', ']']
  | .array (item :: items) => '[' :: item.write ++ writeItems items
  | .object [] => ['\x7b', '\x7d']
  | .object ((name, value) :: fields) => '\x7b' :: quote name ++ ':' :: value.write ++ writeFields fields

def writeItems : List Json → List Char
  | [] => [']']
  | item :: items => ',' :: item.write ++ writeItems items

def writeFields : List (String × Json) → List Char
  | [] => ['\x7d']
  | (name, value) :: fields => ',' :: quote name ++ ':' :: value.write ++ writeFields fields

end

def compact (value : Json) : String :=
  String.ofList value.write

/-- A line break and the blanks in front of a line at this depth. -/
def lineBreak (depth : Nat) : List Char :=
  '\n' :: List.replicate (2 * depth) ' '

mutual

/-- The indented text of a value that begins at this depth. -/
def writeIndented (depth : Nat) : Json → List Char
  | .null => "null".toList
  | .bool true => "true".toList
  | .bool false => "false".toList
  | .int value => writeInt value
  | .real value => writeReal value
  | .string value => quote value
  | .array [] => ['[', ']']
  | .array (item :: items) =>
    '[' :: lineBreak (depth + 1) ++ item.writeIndented (depth + 1) ++ writeIndentedItems depth items
  | .object [] => ['\x7b', '\x7d']
  | .object ((name, value) :: fields) =>
    '\x7b' :: lineBreak (depth + 1) ++ quote name ++ ':' :: ' ' :: value.writeIndented (depth + 1)
      ++ writeIndentedFields depth fields

/-- The lines of the items after the first one, and of the closing bracket. -/
def writeIndentedItems (depth : Nat) : List Json → List Char
  | [] => lineBreak depth ++ [']']
  | item :: items =>
    ',' :: lineBreak (depth + 1) ++ item.writeIndented (depth + 1) ++ writeIndentedItems depth items

/-- The lines of the fields after the first one, and of the closing brace. -/
def writeIndentedFields (depth : Nat) : List (String × Json) → List Char
  | [] => lineBreak depth ++ ['\x7d']
  | (name, value) :: fields =>
    ',' :: lineBreak (depth + 1) ++ quote name ++ ':' :: ' ' :: value.writeIndented (depth + 1)
      ++ writeIndentedFields depth fields

end

/-- The text of a value over several lines, two blanks a level. -/
def indented (value : Json) : String :=
  String.ofList (value.writeIndented 0)

end Harvest.Json
