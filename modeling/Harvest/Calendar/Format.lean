import Harvest.Calendar.Moment
import Harvest.Text.Blank

/-!
Contract: the items of a date format.

A format is literal text, white space, and specifiers behind a percent sign. A
hyphen, a zero or an underscore behind the sign changes the padding of a number.
A text that is no format has an item that is unknown, which neither writes nor
reads anything.
-/

namespace Harvest.Calendar

open Harvest.Text

inductive Field where
  | year
  | century
  | yearOfCentury
  | isoYear
  | isoYearOfCentury
  | quarter
  | month
  | day
  | weekFromSunday
  | weekFromMonday
  | isoWeek
  | daysFromSunday
  | dayFromMonday
  | ordinal
  | hour
  | hour12
  | minute
  | second
  | nanosecond
  | timestamp
deriving DecidableEq

inductive Padding where
  | none
  | zeros
  | blanks
deriving DecidableEq

inductive Item where
  | literal (text : List Char)
  | space (text : List Char)
  | number (field : Field) (padding : Padding)
  | shortMonth
  | longMonth
  | shortWeekday
  | longWeekday
  | halfOfDay (upper : Bool)
  | fraction
  | fractionOf (places : Nat)
  | digitsOf (places : Nat)
  | zoneName
  | offset
  | looseOffset
  | zoned
  | unknown
deriving DecidableEq

def zeroed (field : Field) : Item := .number field .zeros

def blanked (field : Field) : Item := .number field .blanks

def bare (field : Field) : Item := .number field .none

def sign (character : Char) : Item := .literal [character]

def gap : Item := .space [' ']

def clockItems : List Item :=
  [zeroed .hour, sign ':', zeroed .minute, sign ':', zeroed .second]

def slashedItems : List Item :=
  [zeroed .month, sign '/', zeroed .day, sign '/', zeroed .yearOfCentury]

/-- The items that a specifier of one letter stands for. -/
def itemsOf (letter : Char) : List Item :=
  match letter with
  | 'A' => [.longWeekday]
  | 'B' => [.longMonth]
  | 'C' => [zeroed .century]
  | 'D' => slashedItems
  | 'F' => [zeroed .year, sign '-', zeroed .month, sign '-', zeroed .day]
  | 'G' => [zeroed .isoYear]
  | 'H' => [zeroed .hour]
  | 'I' => [zeroed .hour12]
  | 'M' => [zeroed .minute]
  | 'P' => [.halfOfDay false]
  | 'R' => [zeroed .hour, sign ':', zeroed .minute]
  | 'S' => [zeroed .second]
  | 'T' => clockItems
  | 'U' => [zeroed .weekFromSunday]
  | 'V' => [zeroed .isoWeek]
  | 'W' => [zeroed .weekFromMonday]
  | 'X' => clockItems
  | 'Y' => [zeroed .year]
  | 'Z' => [.zoneName]
  | 'a' => [.shortWeekday]
  | 'b' => [.shortMonth]
  | 'h' => [.shortMonth]
  | 'c' =>
    [.shortWeekday, gap, .shortMonth, gap, blanked .day, gap] ++ clockItems ++ [gap, zeroed .year]
  | 'd' => [zeroed .day]
  | 'e' => [blanked .day]
  | 'f' => [zeroed .nanosecond]
  | 'g' => [zeroed .isoYearOfCentury]
  | 'j' => [zeroed .ordinal]
  | 'k' => [blanked .hour]
  | 'l' => [blanked .hour12]
  | 'm' => [zeroed .month]
  | 'n' => [.space ['\n']]
  | 'p' => [.halfOfDay true]
  | 'q' => [bare .quarter]
  | 'r' =>
    [zeroed .hour12, sign ':', zeroed .minute, sign ':', zeroed .second, gap, .halfOfDay true]
  | 's' => [bare .timestamp]
  | 't' => [.space ['\t']]
  | 'u' => [bare .dayFromMonday]
  | 'v' => [blanked .day, sign '-', .shortMonth, sign '-', zeroed .year]
  | 'w' => [bare .daysFromSunday]
  | 'x' => slashedItems
  | 'y' => [zeroed .yearOfCentury]
  | 'z' => [.offset]
  | '+' => [.zoned]
  | '%' => [sign '%']
  | _ => [.unknown]

/-- The padding that a character behind the percent sign asks for. -/
def paddingOf? (character : Char) : Option Padding :=
  if character = '-' then some .none
  else if character = '0' then some .zeros
  else if character = '_' then some .blanks
  else none

/-- The items with another padding, which only a single number can have. -/
def repad (padding : Padding) : List Item → List Item
  | [.number field _] => [.number field padding]
  | _ => [.unknown]

/-- Three, six or nine places, followed by the letter that stands for a fraction. -/
def readPlaces? : List Char → Option (Nat × List Char)
  | '3' :: 'f' :: rest => some (3, rest)
  | '6' :: 'f' :: rest => some (6, rest)
  | '9' :: 'f' :: rest => some (9, rest)
  | _ => none

/-- The items of the specifier behind a percent sign, and the text behind it. -/
def readSpecifier (text : List Char) : List Item × List Char :=
  match text with
  | [] => ([.unknown], [])
  | '#' :: 'z' :: rest => ([.looseOffset], rest)
  | ':' :: ':' :: ':' :: 'z' :: rest => ([.offset], rest)
  | ':' :: ':' :: 'z' :: rest => ([.offset], rest)
  | ':' :: 'z' :: rest => ([.offset], rest)
  | '.' :: 'f' :: rest => ([.fraction], rest)
  | '.' :: rest =>
    match readPlaces? rest with
    | some (places, behind) => ([.fractionOf places], behind)
    | none => ([.unknown], rest)
  | first :: rest =>
    match paddingOf? first with
    | some padding =>
      match rest with
      | [] => ([.unknown], [])
      | letter :: behind => (repad padding (itemsOf letter), behind)
    | none =>
      match readPlaces? text with
      | some (places, behind) => ([.digitsOf places], behind)
      | none => (itemsOf first, rest)

/-- The items of a format; its length is fuel enough. -/
def readItems : (fuel : Nat) → List Char → List Item
  | 0, _ => []
  | _, [] => []
  | fuel + 1, first :: rest =>
    if first = '%' then
      let (items, behind) := readSpecifier rest
      items ++ readItems fuel behind
    else if isBlank first then
      let text := first :: rest
      .space (text.takeWhile isBlank) :: readItems fuel (text.dropWhile isBlank)
    else
      let text := first :: rest
      let isPlain (character : Char) := !isBlank character && character != '%'
      .literal (text.takeWhile isPlain) :: readItems fuel (text.dropWhile isPlain)

def itemsOfFormat (format : String) : List Item :=
  readItems (format.toList.length + 1) format.toList

end Harvest.Calendar
