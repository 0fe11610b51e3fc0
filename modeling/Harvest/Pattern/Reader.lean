import Harvest.Decimal.Reader
import Harvest.Pattern.Expression
import Harvest.Pattern.Property

/-!
Contract: reading the written form of regular expressions.

`readExpression?` accepts literals, sets with their algebra, Unicode properties,
groups with and without names, flags, repetitions and the conditions on places.
Back-references and look-around have no place in the language and are refused, as
is whatever else is ill-formed. Each reader takes the text that is left and gives
its result with the text behind it; the fuel of the mutual readers is the length
of the text.
-/

namespace Harvest.Pattern

open Harvest.Text

structure Flags where
  ignoreCase : Bool := false
  multiLine : Bool := false
  dotNewline : Bool := false
  swapGreed : Bool := false
  ignoreSpace : Bool := false
  anyLineEnd : Bool := false
  unicode : Bool := true

/-- What a reader has gathered about groups: how many have been opened, and the named ones. -/
structure Groups where
  opened : Nat := 0
  names : List (String × Nat) := []

def single (character : Char) : CodeRanges :=
  [(character.toNat, character.toNat)]

/-- The set that a set stands for under the flags. -/
def foldUnder (flags : Flags) (ranges : CodeRanges) : CodeRanges :=
  if flags.ignoreCase then foldCase ranges else CodeRanges.ofList ranges

def negateIf (negated : Bool) (ranges : CodeRanges) : CodeRanges :=
  if negated then CodeRanges.complement ranges else ranges

/-- One item of a set or an expression: a character, a set, or a condition. -/
inductive Primitive where
  | literal (character : Char)
  | set (ranges : CodeRanges)
  | look (condition : Look)

def isMeta (character : Char) : Bool :=
  "\\.+*?()|[]\x7b\x7d^$#&-~".toList.contains character

/-- Characters that may stand behind a backslash for themselves. -/
def isEscapable (character : Char) : Bool :=
  isMeta character ||
    (character.toNat < 0x80 && !character.isAlphanum && character != '<' && character != '>')

/-- The value of a hexadecimal digit of either letter case. -/
def hexDigit? (character : Char) : Option Nat :=
  let code := character.toNat
  if 48 ≤ code ∧ code ≤ 57 then some (code - 48)
  else if 65 ≤ code ∧ code ≤ 70 then some (code - 55)
  else if 97 ≤ code ∧ code ≤ 102 then some (code - 87)
  else none

/-- The value of hexadecimal digits, of which there must be at least one. -/
def hexNumber? (digits : List Char) : Option Nat :=
  if digits.isEmpty then none
  else digits.foldlM (fun value digit => (hexDigit? digit).map fun digitValue => min (value * 16 + digitValue) 0x110000) 0

def charOfCode? (code : Nat) : Option Char :=
  if code < 0xD800 ∨ (0xE000 ≤ code ∧ code ≤ 0x10FFFF) then some (Char.ofNat code) else none

/-- The character that a code in braces, or of a fixed number of digits, stands for. -/
def readHex? (width : Nat) (text : List Char) : Option (Char × List Char) :=
  match text with
  | '\x7b' :: rest =>
    let digits := rest.takeWhile (· != '\x7d')
    match rest.dropWhile (· != '\x7d') with
    | _ :: behind => do
      let code ← hexNumber? digits
      let character ← charOfCode? code
      return (character, behind)
    | [] => none
  | _ =>
    let digits := text.take width
    if digits.length < width then none
    else do
      let code ← hexNumber? digits
      let character ← charOfCode? code
      return (character, text.drop width)

/-- Splits at the first character that satisfies a test. -/
def cutAt? (test : Char → Bool) (text : List Char) : Option (List Char × List Char) :=
  match text.dropWhile (fun character => !test character) with
  | [] => none
  | _ :: behind => some (text.takeWhile (fun character => !test character), behind)

/-- The property named in braces or by one letter, behind `\p` or `\P`. -/
def readProperty? (flags : Flags) (negated : Bool) (text : List Char) : Option (CodeRanges × List Char) :=
  match text with
  | [] => none
  | '\x7b' :: rest => do
    let (content, behind) ← cutAt? (· == '\x7d') rest
    let (inverted, name) := match content with
      | '^' :: name => (true, name)
      | name => (false, name)
    let negative := negated != inverted
    match cutAt? (fun character => character == '=' || character == ':') name with
    | some (key, value) =>
      let unequal := key.getLast? == some '!'
      let ranges ← propertyWith? (if unequal then key.dropLast else key) value
      return (negateIf (negative != unequal) (foldUnder flags ranges), behind)
    | none =>
      let ranges ← property? name
      return (negateIf negative (foldUnder flags ranges), behind)
  | letter :: rest => do
    let ranges ← property? [letter]
    return (negateIf negated (foldUnder flags ranges), rest)

def classLetter? (flags : Flags) (letter : Char) : Option CodeRanges :=
  let digits := if flags.unicode then digitCodes else [(0x30, 0x39)]
  let spaces := if flags.unicode then spaceCodes else [(9, 0xD), (0x20, 0x20)]
  let words := if flags.unicode then wordCodes else [(0x30, 0x39), (0x41, 0x5A), (0x5F, 0x5F), (0x61, 0x7A)]
  if letter = 'd' then some digits
  else if letter = 'D' then some (CodeRanges.complement digits)
  else if letter = 's' then some spaces
  else if letter = 'S' then some (CodeRanges.complement spaces)
  else if letter = 'w' then some words
  else if letter = 'W' then some (CodeRanges.complement words)
  else none

/-- The character or condition that a letter behind a backslash stands for. -/
def escapeLetter? (letter : Char) : Option Primitive :=
  if letter = 'a' then some (.literal (Char.ofNat 7))
  else if letter = 'f' then some (.literal (Char.ofNat 12))
  else if letter = 't' then some (.literal '\t')
  else if letter = 'n' then some (.literal '\n')
  else if letter = 'r' then some (.literal '\r')
  else if letter = 'v' then some (.literal (Char.ofNat 11))
  else if letter = 'A' then some (.look .textStart)
  else if letter = 'z' then some (.look .textEnd)
  else if letter = 'B' then some (.look .notWordBoundary)
  else if letter = '<' then some (.look .wordStart)
  else if letter = '>' then some (.look .wordEnd)
  else none

/-- The boundary named in braces behind `\b`; without a name in braces the plain boundary. Letters and
hyphens in braces that name no boundary are refused. -/
def readBoundary? (text : List Char) : Option (Look × List Char) :=
  match text with
  | '\x7b' :: rest =>
    match rest with
    | first :: _ =>
      if first.isAlpha || first == '-' then
        match cutAt? (· == '\x7d') rest with
        | none => none
        | some (name, behind) =>
          let name := String.ofList name
          if name == "start" then some (.wordStart, behind)
          else if name == "end" then some (.wordEnd, behind)
          else if name == "start-half" then some (.wordStartHalf, behind)
          else if name == "end-half" then some (.wordEndHalf, behind)
          else none
      else some (.wordBoundary, text)
    | [] => none
  | _ => some (.wordBoundary, text)

def readEscape? (flags : Flags) (text : List Char) : Option (Primitive × List Char) :=
  match text with
  | [] => none
  | letter :: rest =>
    if letter.isDigit then none
    else if letter = 'x' then (readHex? 2 rest).map fun found => (.literal found.1, found.2)
    else if letter = 'u' then (readHex? 4 rest).map fun found => (.literal found.1, found.2)
    else if letter = 'U' then (readHex? 8 rest).map fun found => (.literal found.1, found.2)
    else if letter = 'p' then (readProperty? flags false rest).map fun found => (.set found.1, found.2)
    else if letter = 'P' then (readProperty? flags true rest).map fun found => (.set found.1, found.2)
    else
      match classLetter? flags letter with
      | some ranges => some (.set ranges, rest)
      | none =>
        if isEscapable letter then some (.literal letter, rest)
        else if letter = 'b' then (readBoundary? rest).map fun found => (.look found.1, found.2)
        else (escapeLetter? letter).map fun found => (found, rest)

/-- The text behind blanks and comments, where the flags let them stand. -/
def skipBlanks (flags : Flags) (text : List Char) : List Char :=
  if flags.ignoreSpace then go false text else text
where
  go : Bool → List Char → List Char
    | _, [] => []
    | true, character :: rest => if character = '\n' then go false rest else go true rest
    | false, character :: rest =>
      if CodeRanges.holds spaceCodes character.toNat then go false rest
      else if character = '#' then go true rest
      else character :: rest

def readSetItem? (flags : Flags) (text : List Char) : Option (Primitive × List Char) :=
  match text with
  | [] => none
  | '\\' :: rest => readEscape? flags rest
  | character :: rest => some (.literal character, rest)

def itemRanges? : Primitive → Option CodeRanges
  | .literal character => some (single character)
  | .set ranges => some ranges
  | .look _ => none

def readSetRange? (flags : Flags) (text : List Char) : Option (CodeRanges × List Char) := do
  let (first, afterFirst) ← readSetItem? flags text
  let behind := skipBlanks flags afterFirst
  match behind with
  | [] => none
  | '-' :: rest =>
    let afterMinus := skipBlanks flags rest
    match afterMinus with
    | [] => none
    | next :: _ =>
      if next = ']' ∨ next = '-' then
        let ranges ← itemRanges? first
        return (ranges, behind)
      else
        let (second, afterSecond) ← readSetItem? flags afterMinus
        match first, second with
        | .literal low, .literal high =>
          if low.toNat ≤ high.toNat then return ([(low.toNat, high.toNat)], afterSecond) else none
        | _, _ => none
  | _ =>
    let ranges ← itemRanges? first
    return (ranges, behind)

/-- The ASCII class written `[:name:]` or `[:^name:]` behind its opening bracket. -/
def readAsciiClass? (text : List Char) : Option (CodeRanges × List Char) :=
  match text with
  | ':' :: rest =>
    let (negated, named) := match rest with
      | '^' :: named => (true, named)
      | named => (false, named)
    match cutAt? (· == ':') named with
    | some (name, ']' :: behind) =>
      (asciiClass? (String.ofList name)).map fun ranges => (negateIf negated ranges, behind)
    | _ => none
  | _ => none

inductive SetOperation where
  | intersection
  | difference
  | symmetricDifference

/-- A set operation on two sets, letter case being worked into them first. -/
def SetOperation.apply (flags : Flags) (operation : SetOperation) (left right : CodeRanges) : CodeRanges :=
  let left := foldUnder flags left
  let right := foldUnder flags right
  match operation with
  | .intersection => CodeRanges.inter left right
  | .difference => CodeRanges.difference left right
  | .symmetricDifference => CodeRanges.symmetricDifference left right

/-- The set so far: an operation that waits for its right side, and the union being read. -/
structure PendingSet where
  waiting : Option (SetOperation × CodeRanges) := none
  gathered : CodeRanges := []

/-- The set with the waiting operation carried out. -/
def PendingSet.value (flags : Flags) (pending : PendingSet) : CodeRanges :=
  match pending.waiting with
  | none => pending.gathered
  | some (operation, left) => operation.apply flags left pending.gathered

/-- Hyphens at the beginning of a set, and a closing bracket before anything else, stand for
themselves. -/
def readSetFront (flags : Flags) : List Char → CodeRanges → CodeRanges × List Char
  | '-' :: rest, gathered =>
    let behind := skipBlanks flags rest
    if behind.length < rest.length then (gathered ++ single '-', behind)
    else readSetFront flags rest (gathered ++ single '-')
  | ']' :: rest, [] => (single ']', skipBlanks flags rest)
  | text, gathered => (gathered, text)

/-- The inside of a set up to its closing bracket; nested sets are read the same way. -/
def readSet? (flags : Flags) : (fuel : Nat) → PendingSet → List Char → Option (CodeRanges × List Char)
  | 0, _, _ => none
  | fuel + 1, pending, text =>
    let combine (operation : SetOperation) (rest : List Char) :=
      readSet? flags fuel ⟨some (operation, pending.value flags), []⟩ rest
    match skipBlanks flags text with
    | [] => none
    | '[' :: rest =>
      match readAsciiClass? rest with
      | some (ranges, behind) =>
        readSet? flags fuel { pending with gathered := pending.gathered ++ ranges } behind
      | none =>
        let (negated, inside) := match skipBlanks flags rest with
          | '^' :: inside => (true, skipBlanks flags inside)
          | inside => (false, inside)
        let (front, behindFront) := readSetFront flags inside []
        match readSet? flags fuel ⟨none, front⟩ behindFront with
        | none => none
        | some (ranges, behind) =>
          readSet? flags fuel
            { pending with gathered := pending.gathered ++ negateIf negated (foldUnder flags ranges) } behind
    | ']' :: rest => some (pending.value flags, rest)
    | '&' :: '&' :: rest => combine .intersection rest
    | '-' :: '-' :: rest => combine .difference rest
    | '~' :: '~' :: rest => combine .symmetricDifference rest
    | other =>
      match readSetRange? flags other with
      | none => none
      | some (ranges, behind) =>
        readSet? flags fuel { pending with gathered := pending.gathered ++ ranges } behind

def readBracketed? (flags : Flags) (text : List Char) : Option (CodeRanges × List Char) :=
  let (negated, inside) := match skipBlanks flags text with
    | '^' :: inside => (true, skipBlanks flags inside)
    | inside => (false, inside)
  let (front, behindFront) := readSetFront flags inside []
  (readSet? flags (text.length + 1) ⟨none, front⟩ behindFront).map fun found =>
    (negateIf negated (foldUnder flags found.1), found.2)

def readCount? (text : List Char) : Option (Nat × List Char) :=
  let isSpace (character : Char) := CodeRanges.holds spaceCodes character.toNat
  let begun := text.dropWhile isSpace
  let digits := begun.takeWhile Decimal.isDigit
  let value := Decimal.valueOfDigits digits
  if digits.isEmpty || Nat.pow 2 32 ≤ value then none
  else some (value, (begun.dropWhile Decimal.isDigit).dropWhile isSpace)

def readCounts? (flags : Flags) (text : List Char) : Option ((Nat × Option Nat) × List Char) := do
  let (least, behind) ← readCount? (skipBlanks flags text)
  match behind with
  | '\x7d' :: rest => return ((least, some least), rest)
  | ',' :: rest =>
    match skipBlanks flags rest with
    | '\x7d' :: behind => return ((least, none), behind)
    | more =>
      let (most, afterMost) ← readCount? more
      match afterMost with
      | '\x7d' :: behind => if least ≤ most then return ((least, some most), behind) else none
      | _ => none
  | _ => none

/-- A repetition mark behind an item: the counts, and whether more is preferred. -/
def readGreed (flags : Flags) (text : List Char) : Bool × List Char :=
  match skipBlanks flags text with
  | '?' :: rest => (flags.swapGreed, rest)
  | rest => (!flags.swapGreed, rest)

def isNameChar (isFirst : Bool) (character : Char) : Bool :=
  character == '_' || CodeRanges.holds alphabeticCodes character.toNat ||
    (!isFirst && (character == '.' || character == '[' || character == ']'
      || CodeRanges.holds (codesOfCategory "N") character.toNat))

/-- The name of a group up to its closing angle bracket. -/
def readName? (text : List Char) : Option (String × List Char) := do
  let (name, behind) ← cutAt? (· == '>') text
  match name with
  | [] => none
  | first :: others =>
    if isNameChar true first && others.all (isNameChar false) then return (String.ofList name, behind) else none

def Flags.set? (flags : Flags) (letter : Char) (value : Bool) : Option Flags :=
  if letter = 'i' then some { flags with ignoreCase := value }
  else if letter = 'm' then some { flags with multiLine := value }
  else if letter = 's' then some { flags with dotNewline := value }
  else if letter = 'U' then some { flags with swapGreed := value }
  else if letter = 'x' then some { flags with ignoreSpace := value }
  else if letter = 'R' then some { flags with anyLineEnd := value }
  else if letter = 'u' then some { flags with unicode := value }
  else none

/-- Flags up to a colon or a closing parenthesis; no flag may come twice, and a minus is followed by
one. The last component tells whether a colon stood behind them. -/
def readFlags? : Flags → (value : Bool) → (seen : List Char) → List Char → Option (Flags × Bool × List Char)
  | _, _, _, [] => none
  | flags, value, seen, letter :: rest =>
    if letter = ':' ∨ letter = ')' then
      if seen.head? = some '-' then none else some (flags, letter == ':', rest)
    else if seen.contains letter then none
    else if letter = '-' then readFlags? flags false ('-' :: seen) rest
    else
      match flags.set? letter value with
      | some changed => readFlags? changed value (letter :: seen) rest
      | none => none

/-- What the flags make of a dot. -/
def dotRanges (flags : Flags) : CodeRanges :=
  if flags.dotNewline then [(0, CodeRanges.maxCode)]
  else if flags.anyLineEnd then CodeRanges.complement [(10, 10), (13, 13)]
  else CodeRanges.complement [(10, 10)]

/-- What the flags make of a circumflex. -/
def startLook (flags : Flags) : Look :=
  if flags.multiLine then (if flags.anyLineEnd then .lineStartAny else .lineStart) else .textStart

/-- What the flags make of a dollar sign. -/
def endLook (flags : Flags) : Look :=
  if flags.multiLine then (if flags.anyLineEnd then .lineEndAny else .lineEnd) else .textEnd

/-- The expression of a character, a set or a condition. -/
def Primitive.expression (flags : Flags) : Primitive → Expression
  | .literal character => .set (foldUnder flags (single character))
  | .set ranges => .set ranges
  | .look condition => .look condition

inductive Opening where
  | capture (name : Option String)
  | plain (flags : Flags)
  | directive (flags : Flags)

def readOpening? (flags : Flags) (text : List Char) : Option (Opening × List Char) :=
  match skipBlanks flags text with
  | '?' :: '=' :: _ => none
  | '?' :: '!' :: _ => none
  | '?' :: '<' :: '=' :: _ => none
  | '?' :: '<' :: '!' :: _ => none
  | '?' :: 'P' :: '<' :: rest => (readName? rest).map fun found => (.capture (some found.1), found.2)
  | '?' :: '<' :: rest => (readName? rest).map fun found => (.capture (some found.1), found.2)
  | '?' :: ')' :: _ => none
  | '?' :: rest =>
    (readFlags? flags true [] rest).map fun (changed, colon, behind) =>
      (if colon then .plain changed else .directive changed, behind)
  | rest => some (.capture none, rest)

/-- What has been read of a group: earlier branches and the items of the present one, both with the
latest first. A flag directive leaves an item that nothing can repeat. -/
structure Branches where
  earlier : List Expression := []
  items : List (Option Expression) := []

def Branches.present (branches : Branches) : Expression :=
  Expression.ofSequence (branches.items.reverse.filterMap id)

def Branches.whole (branches : Branches) : Expression :=
  Expression.ofChoice (branches.present :: branches.earlier).reverse

def maxNesting : Nat := 250

/-- The inside of a group, or of the whole pattern at depth zero, with the text behind it. -/
def readBranches? : (fuel depth : Nat) → Flags → Groups → Branches → List Char →
    Option (Expression × Groups × List Char)
  | 0, _, _, _, _, _ => none
  | fuel + 1, depth, flags, groups, branches, text =>
    let push (item : Expression) (rest : List Char) :=
      readBranches? fuel depth flags groups { branches with items := some item :: branches.items } rest
    let repeatLast (least : Nat) (most : Option Nat) (rest : List Char) :=
      match branches.items with
      | some item :: items =>
        let (greedy, behind) := readGreed flags rest
        readBranches? fuel depth flags groups
          { branches with items := some (.repeated least most greedy item) :: items } behind
      | _ => none
    match skipBlanks flags text with
    | [] => if depth = 0 then some (branches.whole, groups, []) else none
    | ')' :: rest => if depth = 0 then none else some (branches.whole, groups, rest)
    | '|' :: rest =>
      readBranches? fuel depth flags groups ⟨branches.present :: branches.earlier, []⟩ rest
    | '(' :: rest =>
      if depth ≥ maxNesting then none
      else
        match readOpening? flags rest with
        | none => none
        | some (.directive changed, behind) =>
          readBranches? fuel depth changed groups { branches with items := none :: branches.items } behind
        | some (.plain changed, behind) =>
          match readBranches? fuel (depth + 1) changed groups {} behind with
          | none => none
          | some (inner, groups, behindGroup) =>
            readBranches? fuel depth flags groups { branches with items := some inner :: branches.items }
              behindGroup
        | some (.capture name, behind) =>
          let index := groups.opened + 1
          let known := groups.names.map (·.1)
          if name.any fun name => known.contains name then none
          else
            let names := match name with
              | some name => groups.names ++ [(name, index)]
              | none => groups.names
            match readBranches? fuel (depth + 1) flags ⟨index, names⟩ {} behind with
            | none => none
            | some (inner, groups, behindGroup) =>
              readBranches? fuel depth flags groups
                { branches with items := some (.group index inner) :: branches.items } behindGroup
    | '[' :: rest =>
      match readBracketed? flags rest with
      | none => none
      | some (ranges, behind) => push (.set ranges) behind
    | '?' :: rest => repeatLast 0 (some 1) rest
    | '*' :: rest => repeatLast 0 none rest
    | '+' :: rest => repeatLast 1 none rest
    | '\x7b' :: rest =>
      match readCounts? flags rest with
      | none => none
      | some ((least, most), behind) => repeatLast least most behind
    | '.' :: rest => push (.set (dotRanges flags)) rest
    | '^' :: rest => push (.look (startLook flags)) rest
    | '$' :: rest => push (.look (endLook flags)) rest
    | '\\' :: rest =>
      match readEscape? flags rest with
      | none => none
      | some (primitive, behind) => push (primitive.expression flags) behind
    | character :: rest => push (.set (foldUnder flags (single character))) rest

/-- The expression that a text spells, with its named groups. -/
def readExpression? (flags : Flags) (text : List Char) : Option (Expression × List (String × Nat)) :=
  (readBranches? (2 * text.length + 2) 0 flags {} {} text).map fun (expression, groups, _) =>
    (expression, groups.names)

end Harvest.Pattern
