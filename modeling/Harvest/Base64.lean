import Harvest.Description.Problem
import Harvest.Text.Utf8

/-!
Contract: octets written in sixty-four symbols.

`decode` reads groups of four symbols, the last filled up with padding. It refuses
octets that are no symbols, padding in the wrong place or of the wrong length, and a
last symbol with bits that no octet takes.
-/

namespace Harvest.Base64

inductive Fault where
  | badOctet (octet offset : Nat)
  | badLength
  | badLastSymbol (octet offset : Nat)
  | badPadding

def Fault.message : Fault → String
  | .badOctet octet offset =>
    "Invalid byte " ++ Description.countText octet ++ ", offset " ++ Description.countText offset ++ "."
  | .badLength => "Encoded text cannot have a 6-bit remainder."
  | .badLastSymbol octet offset =>
    "Invalid last symbol " ++ Description.countText octet ++ ", offset " ++ Description.countText offset ++ "."
  | .badPadding => "Invalid padding"

/-- The octet that fills a group up. -/
def padding : Nat := 61

/-- The six bits that a symbol stands for. -/
def value? (octet : Nat) : Option Nat :=
  if 65 ≤ octet ∧ octet ≤ 90 then some (octet - 65)
  else if 97 ≤ octet ∧ octet ≤ 122 then some (octet - 71)
  else if 48 ≤ octet ∧ octet ≤ 57 then some (octet + 4)
  else if octet = 43 then some 62
  else if octet = 47 then some 63
  else none

/-- What has been read of a text: the bits of its symbols, latest first, the last symbol, and where padding
began. -/
structure Progress where
  values : List Nat := []
  lastSymbol : Nat := 0
  paddingStart : Option Nat := none

def readSymbols : (offset : Nat) → Progress → List Nat → Except Fault Progress
  | _, progress, [] => .ok progress
  | offset, progress, octet :: rest =>
    if octet = padding then
      if offset % 4 < 2 then .error (.badOctet octet (progress.paddingStart.getD offset))
      else readSymbols (offset + 1) { progress with paddingStart := some (progress.paddingStart.getD offset) } rest
    else
      match progress.paddingStart, value? octet with
      | some start, _ => .error (.badOctet padding start)
      | none, none => .error (.badOctet octet offset)
      | none, some value =>
        readSymbols (offset + 1) { progress with values := value :: progress.values, lastSymbol := octet } rest

/-- The octets of groups of four symbols; a last group of two or three stands for one or two octets. -/
def octetsOf : List Nat → List Nat
  | first :: second :: third :: fourth :: rest =>
    (first * 4 + second / 16) :: (second % 16 * 16 + third / 4) :: (third % 4 * 64 + fourth) :: octetsOf rest
  | [first, second, third] => [first * 4 + second / 16, second % 16 * 16 + third / 4]
  | [first, second] => [first * 4 + second / 16]
  | _ => []

/-- The bits of the last symbol that no octet takes. -/
def unusedBits (values : List Nat) : Nat :=
  let last := values.getLast?.getD 0
  if values.length % 4 = 2 then last % 16 else if values.length % 4 = 3 then last % 4 else 0

/-- The octets that a row of symbols stands for. -/
def decode (symbols : List Nat) : Except Fault (List Nat) :=
  if symbols.length % 4 = 1 then
    match symbols.getLast? with
    | some last =>
      if last ≠ padding ∧ (value? last).isNone then .error (.badOctet last (symbols.length - 1))
      else .error .badLength
    | none => .error .badLength
  else
    match readSymbols 0 {} symbols with
    | .error fault => .error fault
    | .ok progress =>
      let values := progress.values.reverse
      if symbols.length % 4 ≠ 0 then .error .badPadding
      else if unusedBits values ≠ 0 then .error (.badLastSymbol progress.lastSymbol (values.length - 1))
      else .ok (octetsOf values)

/-- The text whose octets a text stands for; what is not well formed becomes replacement characters. -/
def decodeText (text : String) : Except Fault String :=
  (decode (Text.Utf8.encode text.toList)).map fun octets => String.ofList (Text.Utf8.decodeLossy octets)

end Harvest.Base64
