import Harvest.Decimal.Reader
import Harvest.Decimal.Shortest
import Harvest.Text.LetterCase
import Harvest.Text.Occurrence
import Harvest.Uri.Percent

/-!
Contract: the hosts of addresses.

`Host.read` reads the host of an address under a known scheme: an address of version
six between brackets, an address of version four if the last label is a number, and a
domain otherwise. Domains come out in lower case, labels that are not ASCII in their
ASCII form.
-/

namespace Harvest.Uri

inductive Fault where
  | emptyHost
  | badDomain
  | badPort
  | badAddressFour
  | badAddressSix
  | badHostCharacter
  | relativeWithoutBase
  | relativeToOpaque

def Fault.message : Fault → String
  | .emptyHost => "empty host"
  | .badDomain => "invalid international domain name"
  | .badPort => "invalid port number"
  | .badAddressFour => "invalid IPv4 address"
  | .badAddressSix => "invalid IPv6 address"
  | .badHostCharacter => "invalid domain character"
  | .relativeWithoutBase => "relative URL without a base"
  | .relativeToOpaque => "relative URL with a cannot-be-a-base base"

namespace Host

/-- The digit of a number below thirty-six in the ASCII form of labels. -/
def labelDigit (value : Nat) : Char :=
  if value < 26 then Char.ofNat (97 + value) else Char.ofNat (22 + value)

/-- A distance in digits whose weight depends on the bias; the fuel bounds their number. -/
def distanceDigits (bias : Nat) : (fuel base distance : Nat) → List Char
  | 0, _, distance => [labelDigit distance]
  | fuel + 1, base, distance =>
    let threshold := if base ≤ bias then 1 else min 26 (base - bias)
    if distance < threshold then [labelDigit distance]
    else
      labelDigit (threshold + (distance - threshold) % (36 - threshold))
        :: distanceDigits bias fuel (base + 36) ((distance - threshold) / (36 - threshold))

/-- The bias for the next distance; the fuel bounds the number of halvings. -/
def scaledBias : (fuel scale delta : Nat) → Nat
  | 0, scale, delta => scale + 36 * delta / (delta + 38)
  | fuel + 1, scale, delta =>
    if delta > 455 then scaledBias fuel (scale + 36) (delta / 35) else scale + 36 * delta / (delta + 38)

/-- The bias behind a distance, of which `count` characters have been written. -/
def nextBias (delta count : Nat) (isFirst : Bool) : Nat :=
  let delta := if isFirst then delta / 700 else delta / 2
  scaledBias 40 0 (delta + delta / count)

/-- How far the ASCII form of a label has come. -/
structure LabelProgress where
  code : Nat := 128
  delta : Nat := 0
  bias : Nat := 72
  written : Nat
  output : List Char

/-- Passes over one character of a label while characters with the current code are written. -/
def passCharacter (basic : Nat) (progress : LabelProgress) (character : Char) : LabelProgress :=
  let code := character.toNat
  if code < progress.code then { progress with delta := progress.delta + 1 }
  else if code = progress.code then
    { progress with
      output := progress.output ++ distanceDigits progress.bias 40 36 progress.delta
      bias := nextBias progress.delta (progress.written + 1) (progress.written == basic)
      delta := 0
      written := progress.written + 1 }
  else progress

/-- Writes the characters of a label that are not ASCII, the smallest code first. -/
def writeCodes (basic : Nat) (label : List Char) : List Nat → LabelProgress → LabelProgress
  | [], progress => progress
  | code :: codes, progress =>
    let progress :=
      { progress with delta := progress.delta + (code - progress.code) * (progress.written + 1), code := code }
    let progress := label.foldl (passCharacter basic) progress
    writeCodes basic label codes { progress with delta := progress.delta + 1, code := code + 1 }

def asciiLabel (label : List Char) : List Char :=
  if label.all (·.toNat < 128) then label
  else
    let basic := label.filter (·.toNat < 128)
    let codes := ((label.map Char.toNat).filter (128 ≤ ·)).mergeSort.eraseDups
    let start : LabelProgress :=
      { written := basic.length, output := if basic.isEmpty then [] else basic ++ ['-'] }
    "xn--".toList ++ (writeCodes basic.length label codes start).output

def isForbiddenInDomain (character : Char) : Bool :=
  character.toNat ≤ 0x20 || character.toNat = 0x7F
    || ['#', '/', ':', '<', '>', '?', '@', '[', '\\', ']', '^', '|', '%'].contains character

def isForbidden (character : Char) : Bool :=
  [0, 9, 10, 13, 32].contains character.toNat
    || ['#', '/', ':', '<', '>', '?', '@', '[', '\\', ']', '^', '|'].contains character

/-- A character of a domain as domains are compared: in lower case and of ordinary width. Soft hyphens do
not count. -/
def domainChar (character : Char) : List Char :=
  let code := character.toNat
  if code = 0x3002 ∨ code = 0xFF61 then ['.']
  else if code = 0xAD then []
  else if 0xFF01 ≤ code ∧ code ≤ 0xFF5E then Text.lowerChar (Char.ofNat (code - 0xFEE0))
  else Text.lowerChar character

def asciiDomain (text : List Char) : Except Fault (List Char) :=
  let folded := text.flatMap domainChar
  let domain := (Text.splitAt '.' folded).map asciiLabel
  let ascii := ['.'].intercalate domain
  if ascii.any isForbiddenInDomain || text.contains (Char.ofNat 0xFFFD) then .error .badDomain else .ok ascii

/-- The number that a label of an address of version four stands for; `none` if it is none, and
`some none` if it is too large. -/
def addressNumber? (label : List Char) : Option (Option Nat) :=
  let (base, digits) := match label with
    | '0' :: 'x' :: rest => (16, rest)
    | '0' :: 'X' :: rest => (16, rest)
    | '0' :: next :: rest => (8, next :: rest)
    | rest => (10, rest)
  if label.isEmpty then none
  else
    let values := digits.map fun digit => (Percent.hexValue? digit.toNat).filter (· < base)
    if values.all Option.isSome then
      let value := values.foldl (fun value digit => value * base + digit.getD 0) 0
      some (if value < Nat.pow 2 32 then some value else none)
    else none

/-- The labels of a domain without the empty one behind a final point. -/
def labelsOf (domain : List Char) : List (List Char) :=
  let labels := Text.splitAt '.' domain
  if labels.length > 1 ∧ labels.getLast? = some [] then labels.dropLast else labels

def endsInNumber (domain : List Char) : Bool :=
  match (labelsOf domain).getLast? with
  | some label =>
    (!label.isEmpty && label.all Decimal.isDigit) || (addressNumber? label).isSome
  | none => false

/-- The value of an address of version four whose last number fills the octets that remain. -/
def addressFour? (domain : List Char) : Option Nat := do
  let labels := labelsOf domain
  if labels.length > 4 then none
  let numbers ← labels.mapM fun label => (addressNumber? label).bind id
  let last ← numbers.getLast?
  let front := numbers.dropLast
  if front.any (· > 255) then none
  if last ≥ Nat.pow 256 (4 - front.length) then none
  return front.foldl (fun value number => value * 256 + number) 0 * Nat.pow 256 (4 - front.length) + last

def addressFourText (value : Nat) : List Char :=
  ['.'].intercalate ([value / 16777216 % 256, value / 65536 % 256, value / 256 % 256, value % 256].map Decimal.digitsOf)

def group? (text : List Char) : Option Nat :=
  if text.isEmpty ∨ text.length > 4 then none
  else
    (text.mapM fun digit => Percent.hexValue? digit.toNat).map fun values =>
      values.foldl (fun value digit => 16 * value + digit) 0

/-- A decimal number of one octet without leading zeros. -/
def octet? (text : List Char) : Option Nat :=
  if text.isEmpty ∨ !text.all Decimal.isDigit ∨ text.length > 3 ∨ (text.length > 1 ∧ text.head? = some '0') then none
  else
    let value := Decimal.valueOfDigits text
    if value < 256 then some value else none

/-- The groups of a part of an address of version six; its end may be an address of version four. -/
def groups? (isEnd : Bool) (text : List Char) : Option (List Nat) :=
  if text.isEmpty then some []
  else
    let parts := Text.splitAt ':' text
    match parts.getLast? with
    | none => some []
    | some last =>
      if isEnd && last.contains '.' then do
        let front ← parts.dropLast.mapM group?
        let octets ← (Text.splitAt '.' last).mapM octet?
        match octets with
        | [first, second, third, fourth] => return front ++ [first * 256 + second, third * 256 + fourth]
        | _ => none
      else parts.mapM group?

def addressSix? (text : List Char) : Option (List Nat) :=
  match Text.findFirst? [':', ':'] text with
  | none => (groups? true text).filter fun groups => groups.length == 8
  | some (front, back) => do
    let front ← groups? false front
    let back ← groups? true back
    if front.length + back.length > 7 then none
    return front ++ List.replicate (8 - front.length - back.length) 0 ++ back

/-- The length of the row of zeros in front of a list. -/
def zerosAhead (groups : List Nat) : Nat :=
  (groups.takeWhile (· = 0)).length

/-- The longest row of at least two zeros, the first of equal ones, as its place and length. -/
def longestZeros (groups : List Nat) : Option (Nat × Nat) :=
  let rows := (List.range groups.length).map fun place => (place, zerosAhead (groups.drop place))
  let best := rows.foldl (fun best row => if row.2 > best.2 then row else best) (0, 0)
  if best.2 < 2 then none else some best

def groupsText (groups : List Nat) : List Char :=
  [':'].intercalate (groups.map (Nat.toDigits 16))

/-- An address of version six with its longest row of zeros left out. -/
def addressSixText (groups : List Nat) : List Char :=
  match longestZeros groups with
  | none => '[' :: groupsText groups ++ [']']
  | some (place, length) =>
    '[' :: groupsText (groups.take place) ++ [':', ':'] ++ groupsText (groups.drop (place + length)) ++ [']']

def readBracketed (text : List Char) : Except Fault (List Char) :=
  match text.getLast? with
  | some ']' =>
    match addressSix? (text.drop 1).dropLast with
    | some groups => .ok (addressSixText groups)
    | none => .error .badAddressSix
  | _ => .error .badAddressSix

/-- The host of an address under a known scheme. -/
def read (text : List Char) : Except Fault (List Char) :=
  if text.head? = some '[' then readBracketed text
  else do
    let domain ← asciiDomain (Percent.decode text)
    if domain.isEmpty then .error .emptyHost
    else if endsInNumber domain then
      match addressFour? domain with
      | some value => .ok (addressFourText value)
      | none => .error .badAddressFour
    else .ok domain

/-- What is escaped everywhere: control characters and all that is not ASCII. -/
def isPlainOctet (octet : Nat) : Bool :=
  0x20 ≤ octet && octet < 0x7F

def readOpaque (text : List Char) : Except Fault (List Char) :=
  if text.head? = some '[' then readBracketed text
  else if text.any isForbidden then .error .badHostCharacter
  else .ok (Percent.encodeWith isPlainOctet text)

end Host

end Harvest.Uri
