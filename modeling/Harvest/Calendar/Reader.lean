import Harvest.Calendar.Writer
import Harvest.Decimal.Reader

/-!
Contract: reading a moment in a format.

Items collect facts, and a fact may be given twice only with one value. A date
follows from a year with a month and a day, or a day of the year, or a week and a
weekday, or from an ISO year, week and weekday; every other fact must agree with
it. A time follows from an hour and a minute.
-/

namespace Harvest.Calendar

open Harvest.Text

structure Facts where
  year : Option Int := none
  century : Option Nat := none
  yearOfCentury : Option Nat := none
  isoYear : Option Int := none
  isoYearOfCentury : Option Nat := none
  quarter : Option Nat := none
  month : Option Nat := none
  day : Option Nat := none
  weekFromSunday : Option Nat := none
  weekFromMonday : Option Nat := none
  isoWeek : Option Nat := none
  weekday : Option Nat := none
  ordinal : Option Nat := none
  halfOfDay : Option Nat := none
  hourOfHalf : Option Nat := none
  minute : Option Nat := none
  second : Option Nat := none
  nanosecond : Option Nat := none
  timestamp : Option Int := none
  offset : Option Int := none

/-- A fact given once more: it must have the value it had. -/
def agree? {α : Type} [DecidableEq α] (known : Option α) (value : α) : Option (Option α) :=
  match known with
  | none => some (some value)
  | some former => if former = value then some (some value) else none

def within? (low high : Nat) (value : Int) : Option Nat :=
  if low ≤ value ∧ value ≤ high then some value.toNat else none

namespace Facts

def give? (facts : Facts) (field : Field) (value : Int) : Option Facts := do
  match field with
  | .year =>
    let year ← if -2147483648 ≤ value ∧ value < 2147483648 then some value else none
    return { facts with year := ← agree? facts.year year }
  | .century => return { facts with century := ← agree? facts.century (← within? 0 2147483647 value) }
  | .yearOfCentury => return { facts with yearOfCentury := ← agree? facts.yearOfCentury (← within? 0 99 value) }
  | .isoYear =>
    let year ← if -2147483648 ≤ value ∧ value < 2147483648 then some value else none
    return { facts with isoYear := ← agree? facts.isoYear year }
  | .isoYearOfCentury =>
    return { facts with isoYearOfCentury := ← agree? facts.isoYearOfCentury (← within? 0 99 value) }
  | .quarter => return { facts with quarter := ← agree? facts.quarter (← within? 1 4 value) }
  | .month => return { facts with month := ← agree? facts.month (← within? 1 12 value) }
  | .day => return { facts with day := ← agree? facts.day (← within? 1 31 value) }
  | .weekFromSunday =>
    return { facts with weekFromSunday := ← agree? facts.weekFromSunday (← within? 0 53 value) }
  | .weekFromMonday =>
    return { facts with weekFromMonday := ← agree? facts.weekFromMonday (← within? 0 53 value) }
  | .isoWeek => return { facts with isoWeek := ← agree? facts.isoWeek (← within? 1 53 value) }
  | .daysFromSunday =>
    let day ← within? 0 6 value
    return { facts with weekday := ← agree? facts.weekday ((day + 6) % 7) }
  | .dayFromMonday =>
    let day ← within? 1 7 value
    return { facts with weekday := ← agree? facts.weekday (day - 1) }
  | .ordinal => return { facts with ordinal := ← agree? facts.ordinal (← within? 1 366 value) }
  | .hour =>
    let hour ← within? 0 23 value
    return { facts with
      halfOfDay := ← agree? facts.halfOfDay (hour / 12)
      hourOfHalf := ← agree? facts.hourOfHalf (hour % 12) }
  | .hour12 =>
    let hour ← within? 1 12 value
    return { facts with hourOfHalf := ← agree? facts.hourOfHalf (hour % 12) }
  | .minute => return { facts with minute := ← agree? facts.minute (← within? 0 59 value) }
  | .second => return { facts with second := ← agree? facts.second (← within? 0 60 value) }
  | .nanosecond => return { facts with nanosecond := ← agree? facts.nanosecond (← within? 0 999999999 value) }
  | .timestamp => return { facts with timestamp := ← agree? facts.timestamp value }

/-- The year that the facts name; a year of a century alone lies between 1970 and 2069. The outer
option tells whether the facts agree. -/
def resolveYear? (year : Option Int) (century yearOfCentury : Option Nat) : Option (Option Int) :=
  match year, century, yearOfCentury with
  | year, none, none => some year
  | some year, century, rest =>
    if year < 0 then none
    else
      let ownCentury := (year / 100).toNat
      let ownRest := (year % 100).toNat
      if century.getD ownCentury = ownCentury ∧ rest.getD ownRest = ownRest then some (some year) else none
  | none, some century, some rest => some (some (century * 100 + rest))
  | none, none, some rest => some (some (rest + (if rest < 70 then 2000 else 1900)))
  | none, some _, none => none

/-- Whether a fact, if given, has this value. -/
def fits {α : Type} [DecidableEq α] (fact : Option α) (value : α) : Bool :=
  fact.all fun given => given = value

/-- Whether a fact about the year, if given, fits a year, which must not be negative then. -/
def fitsYear (fact : Option Nat) (year part : Int) : Bool :=
  fact.all fun given => year ≥ 0 && (given : Int) == part

/-- Whether a date agrees with the facts about its year, month and day. -/
def fitsCivil (facts : Facts) (date : Date) : Bool :=
  fits facts.year date.year && fitsYear facts.century date.year (date.year / 100)
    && fitsYear facts.yearOfCentury date.year (date.year % 100)
    && fits facts.month date.month && fits facts.day date.day

/-- Whether a date agrees with the facts about its ISO week and its weekday. -/
def fitsIsoWeek (facts : Facts) (date : Date) : Bool :=
  let (year, week) := date.isoWeek
  fits facts.isoYear year && fitsYear facts.isoYearOfCentury year (year % 100)
    && fits facts.isoWeek week && fits facts.weekday date.weekday

/-- Whether a date agrees with the facts about its day of the year, its weeks and its quarter. -/
def fitsOrdinal (facts : Facts) (date : Date) : Bool :=
  fits facts.ordinal date.ordinal && fits facts.weekFromSunday (date.weekFrom 6)
    && fits facts.weekFromMonday (date.weekFrom 0) && fits facts.quarter ((date.month + 2) / 3)

def checked? (facts : Facts) (date : Date) : Option Date :=
  if facts.fitsCivil date && facts.fitsIsoWeek date && facts.fitsOrdinal date then some date else none

def date? (facts : Facts) : Option Date := do
  let year ← resolveYear? facts.year facts.century facts.yearOfCentury
  let isoYear ← resolveYear? facts.isoYear none facts.isoYearOfCentury
  match year, facts.month, facts.day, facts.ordinal, facts.weekday with
  | some year, some month, some day, _, _ => (Date.of? year month day).bind facts.checked?
  | some year, _, _, some ordinal, _ => (Date.ofOrdinal? year ordinal).bind facts.checked?
  | some year, _, _, _, some weekday =>
    match facts.weekFromSunday, facts.weekFromMonday with
    | some week, _ => (Date.ofWeek? year week weekday 6).bind facts.checked?
    | none, some week => (Date.ofWeek? year week weekday 0).bind facts.checked?
    | none, none =>
      match isoYear, facts.isoWeek with
      | some isoYear, some week => (Date.ofIsoWeek? isoYear week weekday).bind facts.checked?
      | _, _ => none
  | none, _, _, _, some weekday =>
    match isoYear, facts.isoWeek with
    | some isoYear, some week => (Date.ofIsoWeek? isoYear week weekday).bind facts.checked?
    | _, _ => none
  | _, _, _, _, none => none

/-- The time that the facts give. A missing second is zero, but a fraction needs a second. -/
def time? (facts : Facts) : Option Time := do
  let half ← facts.halfOfDay
  let hour ← facts.hourOfHalf
  let minute ← facts.minute
  let given := facts.second.getD 0
  let (second, leap) := if given = 60 then (59, 1000000000) else (given, 0)
  match facts.nanosecond, facts.second with
  | some _, none => none
  | some nanosecond, some _ => return ⟨half * 12 + hour, minute, second, leap + nanosecond⟩
  | none, _ => return ⟨half * 12 + hour, minute, second, leap⟩

/-- The facts together with those that a timestamp gives. -/
def withTimestamp? (facts : Facts) (timestamp : Int) : Option Facts := do
  let named ← Moment.ofTimestamp? timestamp
  let moment ←
    if facts.second = some 60 then
      if named.time.second = 59 then some named
      else if named.time.second = 0 then Moment.ofTimestamp? (timestamp - 1)
      else none
    else some named
  let facts ← if facts.second = some 60 then some facts else facts.give? .second moment.time.second
  let facts ← facts.give? .year moment.date.year
  let facts ← facts.give? .ordinal moment.date.ordinal
  let facts ← facts.give? .hour moment.time.hour
  facts.give? .minute moment.time.minute

/-- The moment that the facts give; a timestamp alone is enough. -/
def moment? (facts : Facts) : Option Moment :=
  match facts.date?, facts.time? with
  | some date, some time =>
    let moment : Moment := ⟨date, time⟩
    let isLeap := time.nanosecond ≥ 1000000000
    match facts.timestamp with
    | none => some moment
    | some timestamp =>
      if timestamp = moment.timestamp ∨ (isLeap ∧ timestamp = moment.timestamp + 1) then some moment else none
  | _, _ => do
    let timestamp ← facts.timestamp
    let facts ← facts.withTimestamp? timestamp
    let date ← facts.date?
    let time ← facts.time?
    return ⟨date, time⟩

end Facts

/-- A number of at least `least` and at most `most` digits, and the text behind it. Its value must fit
63 bits. -/
def readDigits? (least : Nat) (most : Option Nat) (text : List Char) : Option (Nat × List Char) :=
  let run := text.takeWhile Decimal.isDigit
  let digits := match most with
    | some most => run.take most
    | none => run
  let value := Decimal.valueOfDigits digits
  if digits.length < least ∨ Nat.pow 2 63 ≤ value then none else some (value, text.drop digits.length)

/-- A number with a sign in front, or one of at most so many digits. -/
def readSigned? (width : Nat) (text : List Char) : Option (Int × List Char) :=
  match text with
  | '-' :: rest => (readDigits? 1 none rest).map fun found => (-(found.1 : Int), found.2)
  | '+' :: rest => (readDigits? 1 none rest).map fun found => ((found.1 : Int), found.2)
  | _ => (readDigits? 1 (some width) text).map fun found => ((found.1 : Int), found.2)

/-- The greatest number of digits of a field without a sign. -/
def Field.mostDigits (field : Field) : Option Nat :=
  if field = .timestamp then none else some field.width

def dropWord? (word text : List Char) : Option (List Char) :=
  if Decimal.lowerAscii (text.take word.length) = Decimal.lowerAscii word then some (text.drop word.length)
  else none

/-- The number of the name that a text begins with, by its first three letters; a long name may follow
to its end. -/
def readName? (names : List String) (long : Bool) (text : List Char) : Option (Nat × List Char) :=
  let rec go : Nat → List String → Option (Nat × List Char)
    | _, [] => none
    | index, name :: others =>
      match dropWord? (name.toList.take 3) text with
      | none => go (index + 1) others
      | some rest =>
        if long then some (index, (dropWord? (name.toList.drop 3) rest).getD rest) else some (index, rest)
  go 0 names

/-- A fraction of a second: up to nine digits count. -/
def readNanosecond? (text : List Char) : Option (Nat × List Char) :=
  (readDigits? 1 (some 9) text).map fun (value, rest) =>
    (value * Nat.pow 10 (9 - (text.length - rest.length)), rest.dropWhile Decimal.isDigit)

/-- The distance from Greenwich in seconds: a sign, two digits of hours and two of minutes. -/
def readOffset? (skip : List Char → Option (List Char)) (zulu looseMinutes : Bool) (text : List Char) :
    Option (Int × List Char) := do
  match text with
  | [] => none
  | first :: rest =>
    if zulu && (first == 'Z' || first == 'z') then return (0, rest)
    else
      let negative ←
        if first = '+' then some false
        else if first = '-' ∨ first.toNat = 0x2212 then some true
        else none
      let (hours, afterHours) ← readDigits? 2 (some 2) rest
      let behind ← skip afterHours
      match behind with
      | [] => if looseMinutes then return (signed negative (hours * 3600), []) else none
      | [_] => none
      | _ =>
        let (minutes, afterMinutes) ← readDigits? 2 (some 2) behind
        if minutes ≥ 60 then none
        else return (signed negative (hours * 3600 + minutes * 60), afterMinutes)
where
  signed (negative : Bool) (seconds : Nat) : Int :=
    if negative then -(seconds : Int) else seconds

def skipColons (text : List Char) : Option (List Char) :=
  some (text.dropWhile fun character => character == ':' || isBlank character)

def skipColon? : List Char → Option (List Char)
  | ':' :: rest => some rest
  | _ => none

def Facts.giveOffset? (facts : Facts) (offset : Int) : Option Facts := do
  return { facts with offset := ← agree? facts.offset offset }

/-- One item that is not a date and time with its zone. -/
def readPlainItem? (facts : Facts) (text : List Char) : Item → Option (Facts × List Char)
  | .literal literal => do
    if text.take literal.length = literal then return (facts, text.drop literal.length) else none
  | .space _ => some (facts, trimStart text)
  | .number field _ => do
    let begun := trimStart text
    let (value, rest) ←
      if field.isYear then readSigned? field.width begun
      else (readDigits? 1 field.mostDigits begun).map fun found => ((found.1 : Int), found.2)
    return (← facts.give? field value, rest)
  | .shortMonth => do
    let (index, rest) ← readName? monthNames false text
    return (← facts.give? .month (index + 1), rest)
  | .longMonth => do
    let (index, rest) ← readName? monthNames true text
    return (← facts.give? .month (index + 1), rest)
  | .shortWeekday => do
    let (index, rest) ← readName? weekdayNames false text
    return (← facts.give? .dayFromMonday (index + 1), rest)
  | .longWeekday => do
    let (index, rest) ← readName? weekdayNames true text
    return (← facts.give? .dayFromMonday (index + 1), rest)
  | .halfOfDay _ =>
    match dropWord? ['a', 'm'] text, dropWord? ['p', 'm'] text with
    | some rest, _ => (agree? facts.halfOfDay 0).map fun half => ({ facts with halfOfDay := half }, rest)
    | none, some rest => (agree? facts.halfOfDay 1).map fun half => ({ facts with halfOfDay := half }, rest)
    | none, none => none
  | .fraction => readPoint facts text
  | .fractionOf _ => readPoint facts text
  | .digitsOf places => do
    let (value, rest) ← readDigits? places (some places) text
    return (← facts.give? .nanosecond (value * Nat.pow 10 (9 - places) : Nat), rest)
  | .zoneName => some (facts, text.dropWhile fun character => !isBlank character)
  | .offset => do
    let (offset, rest) ← readOffset? skipColons false false (trimStart text)
    return (← facts.giveOffset? offset, rest)
  | .looseOffset => do
    let (offset, rest) ← readOffset? skipColons true true (trimStart text)
    return (← facts.giveOffset? offset, rest)
  | .zoned => none
  | .unknown => none
where
  readPoint (facts : Facts) (text : List Char) : Option (Facts × List Char) :=
    match text with
    | '.' :: rest => do
      let (nanosecond, behind) ← readNanosecond? rest
      return (← facts.give? .nanosecond nanosecond, behind)
    | _ => some (facts, text)

def readPlainItems? (facts : Facts) (text : List Char) : List Item → Option (Facts × List Char)
  | [] => some (facts, text)
  | item :: items => do
    let (facts, rest) ← readPlainItem? facts text item
    readPlainItems? facts rest items

/-- What separates a date from a time: a letter or a blank. -/
def skipSeparator? : List Char → Option (List Char)
  | first :: rest => if first = 'T' ∨ first = 't' ∨ first = ' ' then some rest else none
  | [] => none

/-- A date and a time with a zone, with blanks allowed between the parts. -/
def readZoned? (facts : Facts) (text : List Char) : Option (Facts × List Char) := do
  let between (character : Char) : List Item := [.space [], sign character]
  let (facts, afterDate) ← readPlainItems? facts text
    ([zeroed .year] ++ between '-' ++ [zeroed .month] ++ between '-' ++ [zeroed .day])
  let atTime ← skipSeparator? afterDate
  let (facts, afterTime) ← readPlainItems? facts atTime
    ([zeroed .hour] ++ between ':' ++ [zeroed .minute] ++ between ':' ++ [zeroed .second, .fraction, .space []])
  let atZone := trimStart afterTime
  match dropWord? ['U', 'T', 'C'] atZone with
  | some rest => return (← facts.giveOffset? 0, rest)
  | none =>
    let (offset, rest) ← readOffset? skipColons true false atZone
    return (← facts.giveOffset? offset, rest)

def readItems? (facts : Facts) (text : List Char) : List Item → Option (Facts × List Char)
  | [] => some (facts, text)
  | item :: items => do
    let (facts, rest) ← if item = .zoned then readZoned? facts text else readPlainItem? facts text item
    readItems? facts rest items

/-- The facts of a text that a format accounts for completely. -/
def readFacts? (text : List Char) (format : String) : Option Facts := do
  let (facts, rest) ← readItems? {} text (itemsOfFormat format)
  if rest.isEmpty then some facts else none

/-- The moment that a text gives in a format; a date without a time means its midnight. -/
def Moment.read? (text : List Char) (format : String) : Option Moment := do
  let facts ← readFacts? text format
  match facts.moment? with
  | some moment => return moment
  | none => return ⟨← facts.date?, .midnight⟩

/-- The moment of a date and time in the internet format of RFC 3339, as its own clock shows it. -/
def Moment.readInternet? (text : List Char) : Option Moment := do
  let twoDigits (field : Field) (facts : Facts) (text : List Char) := do
    let (value, rest) ← readDigits? 2 (some 2) text
    return (← facts.give? field value, rest)
  let skip (character : Char) (text : List Char) : Option (List Char) :=
    match text with
    | first :: rest => if first = character then some rest else none
    | [] => none
  let (year, text) ← readDigits? 4 (some 4) text
  let facts ← ({} : Facts).give? .year year
  let (facts, text) ← twoDigits .month facts (← skip '-' text)
  let (facts, text) ← twoDigits .day facts (← skip '-' text)
  let (facts, text) ← twoDigits .hour facts (← skipSeparator? text)
  let (facts, text) ← twoDigits .minute facts (← skip ':' text)
  let (facts, text) ← twoDigits .second facts (← skip ':' text)
  let (facts, text) ←
    match text with
    | '.' :: rest => do
      let (nanosecond, behind) ← readNanosecond? rest
      pure (← facts.give? .nanosecond nanosecond, behind)
    | _ => pure (facts, text)
  let (offset, rest) ← readOffset? skipColon? true false text
  if offset.natAbs > 86340 ∨ !rest.isEmpty then none
  else
    let date ← facts.date?
    let time ← facts.time?
    let moment : Moment := ⟨date, time⟩
    return moment

end Harvest.Calendar
