import Harvest.Decimal.Shortest
import Harvest.Text.Category

/-!
Contract: texts quoted for a reader of messages.

Quotation marks, backslashes and common control characters have short escapes;
other characters that print no mark, and marks that combine with what stands
before them, are shown by their code point.
-/

namespace Harvest.Text

/-- The code points that are shown by number: those that print nothing and those that extend the
character before them. -/
def shownByNumber : CodeRanges :=
  CodeRanges.ofList
    (unprintable ++ codesOfCategory "Mn" ++ codesOfCategory "Me" ++ [(0x200C, 0x200C), (0xFF9E, 0xFF9F)])

/-- The digits of a code point in lower-case hexadecimal. -/
def codeDigits (character : Char) : List Char :=
  Nat.toDigits 16 character.toNat

def quotedChar (character : Char) : List Char :=
  if character = '"' then ['\\', '"']
  else if character = '\\' then ['\\', '\\']
  else if character = '\n' then ['\\', 'n']
  else if character = '\r' then ['\\', 'r']
  else if character = '\t' then ['\\', 't']
  else if character.toNat = 0 then ['\\', '0']
  else if 0x20 ≤ character.toNat ∧ character.toNat < 0x7F then [character]
  else if CodeRanges.holds shownByNumber character.toNat then
    '\\' :: 'u' :: '\x7b' :: codeDigits character ++ ['\x7d']
  else [character]

def quoted (text : String) : String :=
  String.ofList ('"' :: text.toList.flatMap quotedChar ++ ['"'])

end Harvest.Text
