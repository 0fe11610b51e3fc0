/-!
Contract: UTF-8, with octets as natural numbers below 256.

`encode` writes the octets of a text. `decodeLossy` reads any octets: each
maximal ill-formed beginning of a character becomes one replacement character.
-/

namespace Harvest.Text.Utf8

def encodeChar (character : Char) : List Nat :=
  let code := character.toNat
  if code < 0x80 then [code]
  else if code < 0x800 then [0xC0 + code / 64, 0x80 + code % 64]
  else if code < 0x10000 then [0xE0 + code / 4096, 0x80 + code / 64 % 64, 0x80 + code % 64]
  else [0xF0 + code / 262144, 0x80 + code / 4096 % 64, 0x80 + code / 64 % 64, 0x80 + code % 64]

def encode (text : List Char) : List Nat :=
  text.flatMap encodeChar

/-- What stands for octets that form no character. -/
def replacement : Char := Char.ofNat 0xFFFD

/-- How a character begins: the number of octets still owed, the range of the next one, and
the bits that the first octet contributes. -/
structure Lead where
  owed : Nat
  low : Nat
  high : Nat
  bits : Nat

/-- The role of an octet that begins a character of several octets. -/
def Lead.of? (octet : Nat) : Option Lead :=
  if 0xC2 ≤ octet && octet ≤ 0xDF then some ⟨1, 0x80, 0xBF, octet - 0xC0⟩
  else if octet == 0xE0 then some ⟨2, 0xA0, 0xBF, 0⟩
  else if octet == 0xED then some ⟨2, 0x80, 0x9F, 0xD⟩
  else if 0xE1 ≤ octet && octet ≤ 0xEF then some ⟨2, 0x80, 0xBF, octet - 0xE0⟩
  else if octet == 0xF0 then some ⟨3, 0x90, 0xBF, 0⟩
  else if octet == 0xF4 then some ⟨3, 0x80, 0x8F, 4⟩
  else if 0xF1 ≤ octet && octet ≤ 0xF3 then some ⟨3, 0x80, 0xBF, octet - 0xF0⟩
  else none

/-- Reads octets with an unfinished character in hand (`none` between characters). -/
def decodeFrom : Option Lead → List Nat → List Char
  | none, [] => []
  | some _, [] => [replacement]
  | none, octet :: rest =>
    if octet < 0x80 then Char.ofNat octet :: decodeFrom none rest
    else
      match Lead.of? octet with
      | some lead => decodeFrom (some lead) rest
      | none => replacement :: decodeFrom none rest
  | some lead, octet :: rest =>
    if lead.low ≤ octet && octet ≤ lead.high then
      let bits := lead.bits * 64 + (octet - 0x80)
      if lead.owed ≤ 1 then Char.ofNat bits :: decodeFrom none rest
      else decodeFrom (some ⟨lead.owed - 1, 0x80, 0xBF, bits⟩) rest
    else if octet < 0x80 then replacement :: Char.ofNat octet :: decodeFrom none rest
    else
      match Lead.of? octet with
      | some next => replacement :: decodeFrom (some next) rest
      | none => replacement :: replacement :: decodeFrom none rest

/-- The text that octets spell, with replacement characters for what is ill-formed. -/
def decodeLossy (octets : List Nat) : List Char :=
  decodeFrom none octets

end Harvest.Text.Utf8
