import Harvest.Markup.Reference

/-!
Contract: the tokens of HTML text.

`nextToken` takes one token from the front of a text. How much of it is markup
depends on the content mode, which the element being filled sets: in the raw modes
only the end tag of that element is markup. Tag and attribute names come in lower
case; of attributes with one name the first counts. A tag that the end of the text
cuts off is no token.
-/

namespace Harvest.Markup

structure Doctype where
  name : List Char := []
  isBroken : Bool := false

structure Tag where
  name : String
  attributes : List (String × String) := []
  isSelfClosing : Bool := false

inductive Token where
  | doctype (declaration : Doctype)
  | startTag (tag : Tag)
  | endTag (tag : Tag)
  | comment (text : List Char)
  | characters (text : List Char)
  | finish

/-- How the content of the element being filled is read. -/
inductive ContentMode where
  | markup
  | escapableText
  | rawText
  | script
  | plainText
deriving DecidableEq

def isSpace (character : Char) : Bool :=
  character == ' ' || character == '\n' || character == '\t' || character == '\r' || character.toNat == 12

def isLetter (character : Char) : Bool :=
  ('a' ≤ character && character ≤ 'z') || ('A' ≤ character && character ≤ 'Z')

def isDigit (character : Char) : Bool :=
  '0' ≤ character && character ≤ '9'

/-- An ASCII letter in lower case; other characters stay. -/
def lowerChar (character : Char) : Char :=
  if 'A' ≤ character ∧ character ≤ 'Z' then Char.ofNat (character.toNat + 32) else character

/-- What stands for a null character. -/
def replacement : Char := Char.ofNat 0xFFFD

/-- A character, with the replacement for a null character. -/
def notNull (character : Char) : Char :=
  if character.toNat = 0 then replacement else character

/-- A text in which every line break is one line feed. -/
def normalLines : List Char → List Char
  | [] => []
  | '\r' :: '\n' :: rest => '\n' :: normalLines rest
  | '\r' :: rest => '\n' :: normalLines rest
  | character :: rest => character :: normalLines rest

/-- The value of a digit of base ten or sixteen. -/
def digitIn? (base : Nat) (character : Char) : Option Nat :=
  let code := character.toNat
  if 48 ≤ code ∧ code ≤ 57 then some (code - 48)
  else if base = 16 ∧ 65 ≤ code ∧ code ≤ 70 then some (code - 55)
  else if base = 16 ∧ 97 ≤ code ∧ code ≤ 102 then some (code - 87)
  else none

/-- A reference by number behind its mark; the semicolon may be missing. -/
def readNumbered? (base : Nat) (text : List Char) : Option (List Char × List Char) :=
  let digits := text.takeWhile fun character => (digitIn? base character).isSome
  if digits.isEmpty then none
  else
    let code := digits.foldl
      (fun value digit => min (value * base + (digitIn? base digit).getD 0) 0x110000) 0
    let behind := text.dropWhile fun character => (digitIn? base character).isSome
    let rest := match behind with
      | ';' :: rest => rest
      | rest => rest
    some ([numberedReference code], rest)

/-- The longest name at the front of a run of letters and digits that is a reference without a
semicolon, as its characters and its length. -/
def longestName? (run : List Char) : Nat → Option (List Char × Nat)
  | 0 => none
  | length + 1 =>
    match reference? (run.take (length + 1)) with
    | some characters => some (characters, length + 1)
    | none => longestName? run length

/-- A reference by name behind its ampersand. In an attribute a name without a semicolon does not count
where an equals sign, a letter or a digit follows it. -/
def readNamed? (inAttribute : Bool) (text : List Char) : Option (List Char × List Char) :=
  let isNameChar (character : Char) := isLetter character || isDigit character
  let run := text.takeWhile isNameChar
  let behind := text.dropWhile isNameChar
  let whole := match behind with
    | ';' :: rest => (reference? (run ++ [';'])).map fun characters => (characters, rest)
    | _ => none
  match whole with
  | some found => some found
  | none =>
    match longestName? run (min run.length 32) with
    | none => none
    | some (characters, length) =>
      let rest := text.drop length
      let refused := inAttribute &&
        (match rest with
          | next :: _ => next == '=' || isNameChar next
          | [] => false)
      if refused then none else some (characters, rest)

/-- A character reference behind its ampersand; none if the ampersand stands for itself. -/
def readReference? (inAttribute : Bool) (text : List Char) : Option (List Char × List Char) :=
  match text with
  | '#' :: 'x' :: rest => readNumbered? 16 rest
  | '#' :: 'X' :: rest => readNumbered? 16 rest
  | '#' :: rest => readNumbered? 10 rest
  | first :: _ => if isLetter first || isDigit first then readNamed? inAttribute text else none
  | [] => none

/-- A text with its character references decoded; the fuel is its length. -/
def decodeReferences (inAttribute : Bool) : (fuel : Nat) → List Char → List Char
  | 0, _ => []
  | _, [] => []
  | fuel + 1, '&' :: rest =>
    match readReference? inAttribute rest with
    | some (characters, behind) => characters ++ decodeReferences inAttribute fuel behind
    | none => '&' :: decodeReferences inAttribute fuel rest
  | fuel + 1, character :: rest => notNull character :: decodeReferences inAttribute fuel rest

def addAttribute (attributes : List (String × String)) (name value : List Char) : List (String × String) :=
  let name := String.ofList name
  if attributes.any fun known => known.1 == name then attributes
  else attributes ++ [(name, String.ofList value)]

def attributeValue (text : List Char) : List Char :=
  decodeReferences true (text.length + 1) text

def readQuoted? (mark : Char) (text : List Char) : Option (List Char × List Char) :=
  match text.dropWhile (· != mark) with
  | [] => none
  | _ :: rest => some (attributeValue (text.takeWhile (· != mark)), rest)

def readValue? (text : List Char) : Option (List Char × List Char) :=
  match text.dropWhile isSpace with
  | [] => none
  | '"' :: rest => readQuoted? '"' rest
  | '\'' :: rest => readQuoted? '\'' rest
  | '>' :: rest => some ([], '>' :: rest)
  | rest =>
    let isPart (character : Char) := !isSpace character && character != '>'
    some (attributeValue (rest.takeWhile isPart), rest.dropWhile isPart)

/-- Whether a character belongs to an attribute name; the first character may be an equals sign. -/
def isAttributeChar (character : Char) : Bool :=
  !isSpace character && character != '/' && character != '>' && character != '='

/-- The attributes of a tag up to its end, whether it closes itself, and the text behind it. -/
def readAttributes? : (fuel : Nat) → List (String × String) → List Char →
    Option (List (String × String) × Bool × List Char)
  | 0, _, _ => none
  | fuel + 1, attributes, text =>
    match text.dropWhile isSpace with
    | [] => none
    | '>' :: rest => some (attributes, false, rest)
    | '/' :: '>' :: rest => some (attributes, true, rest)
    | '/' :: rest => readAttributes? fuel attributes rest
    | first :: rest =>
      let name := (first :: rest.takeWhile isAttributeChar).map fun character => notNull (lowerChar character)
      let behind := rest.dropWhile isAttributeChar
      match behind.dropWhile isSpace with
      | '=' :: valueText =>
        match readValue? valueText with
        | none => none
        | some (value, remaining) => readAttributes? fuel (addAttribute attributes name value) remaining
      | _ => readAttributes? fuel (addAttribute attributes name []) behind

def endsTagName (character : Char) : Bool :=
  isSpace character || character == '/' || character == '>'

def readTag? (text : List Char) : Option (Tag × List Char) :=
  let isPart (character : Char) := !endsTagName character
  let name := (text.takeWhile isPart).map fun character => notNull (lowerChar character)
  (readAttributes? (text.length + 1) [] (text.dropWhile isPart)).map fun (attributes, closing, rest) =>
    (⟨String.ofList name, attributes, closing⟩, rest)

inductive CommentEnd where
  | opened
  | openedDash
  | inside
  | dash
  | dashes
  | bang

/-- The text of a comment up to its end, and the text behind it. -/
def readComment : CommentEnd → List Char → List Char × List Char
  | _, [] => ([], [])
  | .opened, '>' :: rest => ([], rest)
  | .opened, '-' :: rest => readComment .openedDash rest
  | .openedDash, '>' :: rest => ([], rest)
  | .openedDash, '-' :: rest => readComment .dashes rest
  | .openedDash, character :: rest => before ['-', notNull character] (readComment .inside rest)
  | .dash, '-' :: rest => readComment .dashes rest
  | .dash, character :: rest => before ['-', notNull character] (readComment .inside rest)
  | .dashes, '>' :: rest => ([], rest)
  | .dashes, '!' :: rest => readComment .bang rest
  | .dashes, '-' :: rest => before ['-'] (readComment .dashes rest)
  | .dashes, character :: rest => before ['-', '-', notNull character] (readComment .inside rest)
  | .bang, '>' :: rest => ([], rest)
  | .bang, '-' :: rest => before ['-', '-', '!'] (readComment .dash rest)
  | .bang, character :: rest => before ['-', '-', '!', notNull character] (readComment .inside rest)
  | _, '-' :: rest => readComment .dash rest
  | _, character :: rest => before [notNull character] (readComment .inside rest)
where
  before (text : List Char) (found : List Char × List Char) : List Char × List Char :=
    (text ++ found.1, found.2)

/-- A comment that ends at the first closing angle bracket. -/
def readBogusComment (text : List Char) : List Char × List Char :=
  ((text.takeWhile (· != '>')).map notNull, (text.dropWhile (· != '>')).drop 1)

/-- The rest of a text behind a word in any letter case. -/
def dropWord? (word text : List Char) : Option (List Char) :=
  if (text.take word.length).map lowerChar = word then some (text.drop word.length) else none

def readDoctype (text : List Char) : Doctype × List Char :=
  let content := text.takeWhile (· != '>')
  let rest := text.dropWhile (· != '>')
  let name := ((content.dropWhile isSpace).takeWhile fun character => !isSpace character).map fun character =>
    notNull (lowerChar character)
  (⟨name, name.isEmpty || rest.isEmpty⟩, rest.drop 1)

/-- A section of raw characters up to its end mark. -/
def readSection : List Char → List Char × List Char
  | [] => ([], [])
  | ']' :: ']' :: '>' :: rest => ([], rest)
  | character :: rest =>
    let found := readSection rest
    (character :: found.1, found.2)

/-- Whether a text is the name of an element, in any letter case, followed by what ends a tag name. -/
def namesEnd (name : List Char) (text : List Char) : Bool :=
  match dropWord? name text with
  | some (next :: _) => endsTagName next
  | _ => false

/-- The text of an element of a raw mode up to its end tag. -/
def readRaw (name : List Char) : List Char → List Char × List Char
  | [] => ([], [])
  | '<' :: '/' :: rest =>
    if namesEnd name rest then ([], '<' :: '/' :: rest)
    else
      let found := readRaw name rest
      ('<' :: '/' :: found.1, found.2)
  | character :: rest =>
    let found := readRaw name rest
    (character :: found.1, found.2)

/-- How deep a script is inside a comment that hides it. -/
inductive ScriptState where
  | plain
  | hidden
  | nested

/-- The text of a script up to its end tag. A comment in it may hold a script of its own, whose end tag
does not end the outer one. -/
def readScript : ScriptState → List Char → List Char × List Char
  | _, [] => ([], [])
  | .plain, '<' :: '!' :: '-' :: '-' :: rest =>
    match rest with
    | '>' :: _ => before ['<', '!', '-', '-'] (readScript .plain rest)
    | '-' :: '>' :: _ => before ['<', '!', '-', '-'] (readScript .plain rest)
    | _ => before ['<', '!', '-', '-'] (readScript .hidden rest)
  | .hidden, '-' :: '-' :: '>' :: rest => before ['-', '-', '>'] (readScript .plain rest)
  | .nested, '-' :: '-' :: '>' :: rest => before ['-', '-', '>'] (readScript .plain rest)
  | .nested, '<' :: '/' :: rest =>
    if namesEnd "script".toList rest then before ['<', '/'] (readScript .hidden rest)
    else before ['<', '/'] (readScript .nested rest)
  | .nested, character :: rest => before [character] (readScript .nested rest)
  | state, '<' :: '/' :: rest =>
    if namesEnd "script".toList rest then ([], '<' :: '/' :: rest)
    else before ['<', '/'] (readScript state rest)
  | .hidden, '<' :: rest =>
    if namesEnd "script".toList rest then before ['<'] (readScript .nested rest)
    else before ['<'] (readScript .hidden rest)
  | state, character :: rest => before [character] (readScript state rest)
where
  before (text : List Char) (found : List Char × List Char) : List Char × List Char :=
    (text ++ found.1, found.2)

/-- The characters as one token, or what follows them if there are none. -/
def textOr (text : List Char) (other : Token × List Char) (rest : List Char) : Token × List Char :=
  if text.isEmpty then other else (.characters text, rest)

/-- The tag behind an opening mark, or the end of the text. -/
def tagOrEnd (make : Tag → Token) (text : List Char) : Token × List Char :=
  match readTag? text with
  | some (tag, rest) => (make tag, rest)
  | none => (.finish, [])

/-- What a declaration behind its exclamation mark is. -/
def readDeclaration (allowSection : Bool) (text : List Char) : Token × List Char :=
  match text with
  | '-' :: '-' :: rest =>
    let (comment, behind) := readComment .opened rest
    (.comment comment, behind)
  | _ =>
    match dropWord? "doctype".toList text with
    | some rest =>
      let (declaration, behind) := readDoctype rest
      (.doctype declaration, behind)
    | none =>
      if allowSection && text.take 7 == "[CDATA[".toList then
        let (characters, behind) := readSection (text.drop 7)
        (.characters characters, behind)
      else
        let (comment, behind) := readBogusComment text
        (.comment comment, behind)

/-- The token at the front of a text in the markup mode. -/
def nextMarkup (allowSection : Bool) (text : List Char) : Token × List Char :=
  match text with
  | [] => (.finish, [])
  | '<' :: '!' :: rest => readDeclaration allowSection rest
  | '<' :: '?' :: rest =>
    let (comment, behind) := readBogusComment ('?' :: rest)
    (.comment comment, behind)
  | '<' :: '/' :: '>' :: rest => (.characters [], rest)
  | '<' :: '/' :: next :: rest =>
    if isLetter next then tagOrEnd .endTag (next :: rest)
    else
      let (comment, behind) := readBogusComment (next :: rest)
      (.comment comment, behind)
  | '<' :: next :: rest =>
    if isLetter next then tagOrEnd .startTag (next :: rest) else (.characters ['<'], next :: rest)
  | '<' :: rest => (.characters ['<'], rest)
  | '&' :: rest =>
    match readReference? false rest with
    | some (characters, behind) => (.characters characters, behind)
    | none => (.characters ['&'], rest)
  | _ =>
    let isPlain (character : Char) := character != '<' && character != '&'
    (.characters (text.takeWhile isPlain), text.dropWhile isPlain)

/-- The token at the front of a text. The name is that of the element being filled. -/
def nextToken (mode : ContentMode) (name : String) (allowSection : Bool) (text : List Char) : Token × List Char :=
  match mode with
  | .markup => nextMarkup allowSection text
  | .plainText => textOr (text.map notNull) (.finish, []) []
  | .escapableText =>
    let (raw, rest) := readRaw name.toList text
    textOr (decodeReferences false (raw.length + 1) raw) (nextMarkup false rest) rest
  | .rawText =>
    let (raw, rest) := readRaw name.toList text
    textOr (raw.map notNull) (nextMarkup false rest) rest
  | .script =>
    let (raw, rest) := readScript .plain text
    textOr (raw.map notNull) (nextMarkup false rest) rest

end Harvest.Markup
