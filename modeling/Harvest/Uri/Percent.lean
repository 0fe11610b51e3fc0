import Harvest.Text.Utf8

/-!
Contract: percent escapes.

`encodeWith` writes each octet of a text as `%` and two hexadecimal digits, unless the
octet belongs to a set of exempt characters. `decode` reads every such escape and
keeps all else, so it undoes `encodeWith` whenever `%` is not exempt.
-/

namespace Harvest.Uri.Percent

def hexDigit (value : Nat) : Char :=
  if value < 10 then Char.ofNat (48 + value) else Char.ofNat (55 + value)

/-- The value of a hexadecimal digit in any letter case. -/
def hexValue? (code : Nat) : Option Nat :=
  if 48 ≤ code ∧ code ≤ 57 then some (code - 48)
  else if 65 ≤ code ∧ code ≤ 70 then some (code - 55)
  else if 97 ≤ code ∧ code ≤ 102 then some (code - 87)
  else none

def escape (octet : Nat) : List Char :=
  ['%', hexDigit (octet / 16), hexDigit (octet % 16)]

/-- An octet: itself if it is exempt, and an escape otherwise. -/
def encodeOctet (exempt : Nat → Bool) (octet : Nat) : List Char :=
  if exempt octet then [Char.ofNat octet] else escape octet

/-- A text in which all octets that are not exempt are escapes. -/
def encodeWith (exempt : Nat → Bool) (text : List Char) : List Char :=
  (Text.Utf8.encode text).flatMap (encodeOctet exempt)

def decodeOctets : List Nat → List Nat
  | 37 :: high :: low :: rest =>
    match hexValue? high, hexValue? low with
    | some high, some low => (16 * high + low) :: decodeOctets rest
    | _, _ => 37 :: decodeOctets (high :: low :: rest)
  | octet :: rest => octet :: decodeOctets rest
  | [] => []

/-- A text in which the escapes are decoded; what is then ill-formed becomes replacement characters. -/
def decode (text : List Char) : List Char :=
  Text.Utf8.decodeLossy (decodeOctets (Text.Utf8.encode text))

def isAlphanumeric (octet : Nat) : Bool :=
  (48 ≤ octet && octet ≤ 57) || (65 ≤ octet && octet ≤ 90) || (97 ≤ octet && octet ≤ 122)

def addressMarks : List Char :=
  [';', ',', '/', '?', ':', '@', '&', '=', '+', '$', '-', '_', '.', '!', '~', '*', '\'', '(', ')', '#']

/-- What stays as it is when a whole address is encoded. -/
def isAddressOctet (octet : Nat) : Bool :=
  isAlphanumeric octet || (addressMarks.map Char.toNat).contains octet

def encodeAddress (text : List Char) : List Char :=
  encodeWith isAddressOctet text

end Harvest.Uri.Percent
