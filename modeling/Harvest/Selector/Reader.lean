import Harvest.Decimal.Reader
import Harvest.Selector.Basic

/-!
Contract: the texts that are selectors.

`read?` reads a list of alternatives between commas. Comments separate but mean
nothing, and what is still open at the end of the text is closed there. A text with a
test that is not known, or with a combinator that has nothing on one of its sides, is no
selector.
-/

namespace Harvest.Selector

open Markup

def afterComment : List Char → List Char
  | [] => []
  | '*' :: '/' :: rest => rest
  | _ :: rest => afterComment rest

theorem length_afterComment_le (text : List Char) : (afterComment text).length ≤ text.length := by
  fun_induction afterComment text <;> simp_all <;> omega

def skipComments (text : List Char) : List Char :=
  match text with
  | '/' :: '*' :: rest =>
    have : (afterComment rest).length < rest.length + 2 := by
      have := length_afterComment_le rest
      omega
    skipComments (afterComment rest)
  | _ => text
termination_by text.length

/-- Passes over comments and white space: whether there was white space, and the rest. -/
def gap : (fuel : Nat) → List Char → Bool × List Char
  | 0, text => (false, text)
  | fuel + 1, text =>
    match skipComments text with
    | first :: rest => if isSpace first then (true, (gap fuel rest).2) else (false, first :: rest)
    | [] => (false, [])

/-- Passes over comments and white space. -/
def skipGap (text : List Char) : List Char :=
  (gap (text.length + 1) text).2

def startsWithGap (text : List Char) : Bool :=
  (gap (text.length + 1) text).1

def isNameChar (character : Char) : Bool :=
  isLetter character || isDigit character || character == '_' || character == '-' || character.toNat ≥ 0x80

def isNameStart (character : Char) : Bool :=
  isLetter character || character == '_' || character.toNat ≥ 0x80

def startsWithEscape : List Char → Bool
  | '\\' :: next :: _ => next != '\n' && next != '\r' && next.toNat != 12
  | ['\\'] => true
  | _ => false

def startsName : List Char → Bool
  | '-' :: next :: rest => next == '-' || isNameStart next || startsWithEscape (next :: rest)
  | first :: rest => isNameStart first || startsWithEscape (first :: rest)
  | [] => false

/-- The character with a code point, or the replacement if it is none that a text may hold. -/
def codeChar (code : Nat) : Char :=
  if code = 0 ∨ code > 0x10FFFF ∨ (0xD800 ≤ code ∧ code ≤ 0xDFFF) then replacement else Char.ofNat code

/-- Passes over one white space; a line break of two characters is one. -/
def skipSpace : List Char → List Char
  | '\r' :: '\n' :: rest => rest
  | next :: rest => if isSpace next then rest else next :: rest
  | [] => []

def readEscape (text : List Char) : Char × List Char :=
  let digits := (text.take 6).takeWhile fun character => (digitIn? 16 character).isSome
  if digits.isEmpty then
    match text with
    | next :: rest => (notNull next, rest)
    | [] => (replacement, [])
  else
    let code := digits.foldl (fun value digit => 16 * value + (digitIn? 16 digit).getD 0) 0
    (codeChar code, skipSpace (text.drop digits.length))

def nameChars : (fuel : Nat) → List Char → List Char × List Char
  | 0, text => ([], text)
  | fuel + 1, text =>
    match text with
    | [] => ([], [])
    | first :: rest =>
      if isNameChar first then
        let (others, behind) := nameChars fuel rest
        (first :: others, behind)
      else if startsWithEscape (first :: rest) then
        let (character, rest) := readEscape rest
        let (others, behind) := nameChars fuel rest
        (character :: others, behind)
      else ([], first :: rest)

def readName? (text : List Char) : Option (String × List Char) :=
  if startsName text then
    let (name, rest) := nameChars (text.length + 1) text
    some (String.ofList name, rest)
  else none

/-- The rest of a text in quotation marks, up to the closing one or the end of the text. -/
def quotedChars (mark : Char) : (fuel : Nat) → List Char → Option (List Char × List Char)
  | 0, _ => none
  | fuel + 1, text =>
    match text with
    | [] => some ([], [])
    | '\\' :: '\n' :: rest => quotedChars mark fuel rest
    | ['\\'] => some ([], [])
    | '\\' :: rest =>
      let (character, rest) := readEscape rest
      (quotedChars mark fuel rest).map fun (others, behind) => (character :: others, behind)
    | first :: rest =>
      if first = mark then some ([], rest)
      else if first = '\n' ∨ first = '\r' ∨ first.toNat = 12 then none
      else (quotedChars mark fuel rest).map fun (others, behind) => (first :: others, behind)

/-- A name or a text in quotation marks. -/
def readValue? (text : List Char) : Option (String × List Char) :=
  match text with
  | '"' :: rest => (quotedChars '"' (rest.length + 1) rest).map fun (value, rest) => (String.ofList value, rest)
  | '\'' :: rest => (quotedChars '\'' (rest.length + 1) rest).map fun (value, rest) => (String.ofList value, rest)
  | _ => readName? text

/-- What follows a closing bracket; the end of the text closes too. -/
def readClose? (bracket : Char) (text : List Char) : Option (List Char) :=
  match skipGap text with
  | [] => some []
  | first :: rest => if first = bracket then some rest else none

def readOperator? (text : List Char) : Option (ValueTest × List Char) :=
  match text with
  | '=' :: rest => some (.equals, rest)
  | '~' :: '=' :: rest => some (.hasWord, rest)
  | '|' :: '=' :: rest => some (.hasLanguage, rest)
  | '^' :: '=' :: rest => some (.startsWith, rest)
  | '$' :: '=' :: rest => some (.endsWith, rest)
  | '*' :: '=' :: rest => some (.contains, rest)
  | _ => none

def readLetterCase? (text : List Char) : Option (LetterCase × List Char) :=
  match readName? text with
  | none => some (.byAttribute, text)
  | some (name, rest) =>
    match lowerText name.toList with
    | ['i'] => some (.ignored, rest)
    | ['s'] => some (.significant, rest)
    | _ => none

/-- The name of an attribute. A bar in front says that it belongs to no namespace, and a star with a bar that the
namespace does not matter; attributes are known by their names alone. -/
def readAttributeName? (text : List Char) : Option (String × List Char) :=
  match text with
  | '|' :: rest => readName? rest
  | '*' :: '|' :: rest => readName? rest
  | _ => readName? text

def readAttribute? (text : List Char) : Option (Simple × List Char) := do
  let (name, rest) ← readAttributeName? (skipGap text)
  match readClose? ']' rest with
  | some rest => return (.hasAttribute name, rest)
  | none =>
    let (test, rest) ← readOperator? (skipGap rest)
    let (value, rest) ← readValue? (skipGap rest)
    let (letterCase, rest) ← readLetterCase? (skipGap rest)
    let rest ← readClose? ']' rest
    return (.attributeValue name test value letterCase, rest)

def signed (negative : Bool) (digits : List Char) : Int :=
  let value : Int := Decimal.valueOfDigits digits
  if negative then -value else value

/-- A sign in front of a text, plus if there is none. -/
def readSign : List Char → Bool × Bool × List Char
  | '+' :: rest => (true, false, rest)
  | '-' :: rest => (true, true, rest)
  | rest => (false, false, rest)

def readFirst? (text : List Char) : Option (Int × List Char) :=
  match readSign (skipGap text) with
  | (false, _, _) => some (0, text)
  | (true, negative, rest) =>
    let rest := skipGap rest
    let digits := rest.takeWhile isDigit
    if digits.isEmpty then none else some (signed negative digits, rest.dropWhile isDigit)

def readOrdinal? (text : List Char) : Option (Ordinal × List Char) :=
  let text := skipGap text
  match readName? text with
  | some (name, rest) =>
    if lowerText name.toList = "even".toList then some (⟨2, 0⟩, rest)
    else if lowerText name.toList = "odd".toList then some (⟨2, 1⟩, rest)
    else readStepped? text
  | none => readStepped? text
where
  readStepped? (text : List Char) : Option (Ordinal × List Char) :=
    let (_, negative, rest) := readSign text
    let digits := rest.takeWhile isDigit
    match rest.dropWhile isDigit with
    | 'n' :: behind => withFirst negative digits behind
    | 'N' :: behind => withFirst negative digits behind
    | behind => if digits.isEmpty then none else some (⟨0, signed negative digits⟩, behind)
  withFirst (negative : Bool) (digits behind : List Char) : Option (Ordinal × List Char) :=
    let step := if digits.isEmpty then signed negative ['1'] else signed negative digits
    (readFirst? behind).map fun (first, rest) => (⟨step, first⟩, rest)

def namedTests? (name : List Char) : Option (List Simple) :=
  let first (ofType : Bool) : Simple := .nth ⟨0, 1⟩ ofType false
  let last (ofType : Bool) : Simple := .nth ⟨0, 1⟩ ofType true
  match String.ofList name with
  | "root" => some [.root]
  | "scope" => some [.scopeElement]
  | "empty" => some [.noContent]
  | "first-child" => some [first false]
  | "last-child" => some [last false]
  | "only-child" => some [first false, last false]
  | "first-of-type" => some [first true]
  | "last-of-type" => some [last true]
  | "only-of-type" => some [first true, last true]
  | _ => none

/-- How the tests by an ordinal count: whether by type, and whether from the end. -/
def countedTest? (name : List Char) : Option (Bool × Bool) :=
  match String.ofList name with
  | "nth-child" => some (false, false)
  | "nth-last-child" => some (false, true)
  | "nth-of-type" => some (true, false)
  | "nth-last-of-type" => some (true, true)
  | _ => none

/-- The test of the name of an element in front of a compound. -/
def readType? (text : List Char) : Option (List Simple × List Char) :=
  match text with
  | '*' :: '|' :: '*' :: rest => some ([.any], rest)
  | '*' :: '|' :: rest => (readName? rest).map fun (name, rest) => ([.name name], rest)
  | '|' :: '*' :: rest => some ([.never], rest)
  | '|' :: rest => (readName? rest).map fun (_, rest) => ([.never], rest)
  | '*' :: rest => some ([.any], rest)
  | _ =>
    match readName? text with
    | some (_, '|' :: '=' :: _) => none
    | some (_, '|' :: _) => none
    | some (name, rest) => some ([.name name], rest)
    | none => some ([], text)

/-- The combinator in front of a text, and the text behind it; none at the end of an alternative. -/
def readCombinator? (text : List Char) : Option (Combinator × List Char) :=
  match skipGap text with
  | '>' :: rest => some (.child, rest)
  | '+' :: rest => some (.nextSibling, rest)
  | '~' :: rest => some (.laterSibling, rest)
  | [] => none
  | ',' :: _ => none
  | ')' :: _ => none
  | rest => if startsWithGap text then some (.descendant, rest) else none

mutual

def readTests? : (fuel : Nat) → List Char → Option (List Simple × List Char)
  | 0, _ => none
  | fuel + 1, text =>
    match skipComments text with
    | '#' :: rest => do
      let (name, rest) ← readName? rest
      let (tests, rest) ← readTests? fuel rest
      return (.identity name :: tests, rest)
    | '.' :: rest => do
      let (name, rest) ← readName? rest
      let (tests, rest) ← readTests? fuel rest
      return (.className name :: tests, rest)
    | '[' :: rest => do
      let (test, rest) ← readAttribute? rest
      let (tests, rest) ← readTests? fuel rest
      return (test :: tests, rest)
    | ':' :: rest => do
      let (name, rest) ← readName? rest
      let name := lowerText name.toList
      match rest with
      | '(' :: rest =>
        if name = "not".toList then
          let (options, rest) ← readOptions? fuel rest
          let rest ← readClose? ')' rest
          let (tests, rest) ← readTests? fuel rest
          return (.none options :: tests, rest)
        else
          let (ofType, fromEnd) ← countedTest? name
          let (ordinal, rest) ← readOrdinal? rest
          let rest ← readClose? ')' rest
          let (tests, rest) ← readTests? fuel rest
          return (.nth ordinal ofType fromEnd :: tests, rest)
      | _ =>
        let named ← namedTests? name
        let (tests, rest) ← readTests? fuel rest
        return (named ++ tests, rest)
    | _ => return ([], text)

def readCompound? : (fuel : Nat) → List Char → Option (List Simple × List Char)
  | 0, _ => none
  | fuel + 1, text => do
    let (front, rest) ← readType? (skipGap text)
    let (tests, rest) ← readTests? fuel rest
    if front.isEmpty && tests.isEmpty then none else some (front ++ tests, rest)

def readRelated? : (fuel : Nat) → Complex → List Char → Option (Complex × List Char)
  | 0, _, _ => none
  | fuel + 1, left, text =>
    match readCombinator? text with
    | none => some (left, text)
    | some (combinator, rest) => do
      let (tests, rest) ← readCompound? fuel rest
      readRelated? fuel (.related left combinator tests) rest

def readOptions? : (fuel : Nat) → List Char → Option (List Complex × List Char)
  | 0, _ => none
  | fuel + 1, text => do
    let (tests, rest) ← readCompound? fuel text
    let (option, rest) ← readRelated? fuel (.compound tests) rest
    match skipGap rest with
    | ',' :: rest =>
      let (options, rest) ← readOptions? fuel rest
      return (option :: options, rest)
    | _ => return ([option], rest)

end

def read? (text : List Char) : Option Selector :=
  match readOptions? (2 * text.length + 4) text with
  | some (options, rest) => if (skipGap rest).isEmpty then some ⟨options⟩ else none
  | none => none

end Harvest.Selector
