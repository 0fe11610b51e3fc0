import Harvest.Description.Reader
import Harvest.Description.Writer
import Harvest.Page.Call

/-!
Contract: what a parse is made of besides rules: pagination, waits and settings.

Each record reads from a mapping or from an array of its fields, and writes a mapping
with all of them. Settings have defaults for every field.
-/

namespace Harvest

open Description

structure WaitTimes where
  interval : Nat
  timeout : Nat
deriving Inhabited

structure Settings where
  wait : WaitTimes := ⟨10, 5000⟩
  pagination : WaitTimes := ⟨100, 2000⟩
  snapshotOnError : Bool := true
deriving Inhabited

inductive PageTurn where
  | scroll (scope : Option String)
  | control (scope pageScope : String)

/-- A pagination: how further pages are reached, and how far. -/
structure Pagination where
  turn : PageTurn
  interval : Option Nat := none
  timeout : Option Nat := none
  maxPages : Option Nat := none

structure ParseConfig where
  rules : Rule
  actions : List Action := []
  pagination : Option Pagination := none

structure Viewport where
  width : Nat := 1280
  height : Nat := 720
deriving Inhabited

structure BrowserSettings where
  isHeadless : Bool := true
  viewport : Viewport := {}
  userAgent : Option String := none
  disablesImages : Bool := false
  arguments : List String := []
  snapshotDirectory : String := "snapshots"
deriving Inhabited

namespace WaitTimes

def fields : List (RecordField WaitTimes) := [
  .defaulted "intervalMs" readWord fun time times => { times with interval := time },
  .defaulted "timeoutMs" readWord fun time times => { times with timeout := time }]

/-- Reads wait times, with defaults for what is absent. -/
def read (title : String) (default : WaitTimes) : Json → Reading WaitTimes :=
  readRecord title fields default

def toJson (times : WaitTimes) : Json :=
  .object [("intervalMs", .count times.interval), ("timeoutMs", .count times.timeout)]

end WaitTimes

namespace Settings

def readWait : Json → Reading WaitTimes :=
  WaitTimes.read "WaitConfig" ({} : Settings).wait

def readPagination : Json → Reading WaitTimes :=
  WaitTimes.read "PaginationDefaults" ({} : Settings).pagination

def fields : List (RecordField Settings) := [
  .defaulted "wait" readWait fun times settings => { settings with wait := times },
  .defaulted "pagination" readPagination fun times settings => { settings with pagination := times },
  .defaulted "snapshotOnError" readBool fun flag settings => { settings with snapshotOnError := flag }]

def read : Json → Reading Settings :=
  readRecord "ParserConfig" fields {}

def toJson (settings : Settings) : Json :=
  .object [("pagination", settings.pagination.toJson), ("snapshotOnError", .bool settings.snapshotOnError),
    ("wait", settings.wait.toJson)]

def fast : Settings where
  wait := ⟨5, 200⟩
  pagination := ⟨5, 100⟩

end Settings

namespace Pagination

/-- How the rows of a further page relate to those collected before. -/
inductive Strategy where
  | accumulate
  | replace
deriving DecidableEq

/-- A page that grows keeps its rows; a page that is replaced shows only new ones. -/
def strategy (pagination : Pagination) : Strategy :=
  match pagination.turn with
  | .scroll _ => .accumulate
  | .control _ _ => .replace

/-- The times that the probe for a further page keeps to. -/
def times (pagination : Pagination) (defaults : WaitTimes) : WaitTimes :=
  ⟨pagination.interval.getD defaults.interval, pagination.timeout.getD defaults.timeout⟩

def commonFields : List (RecordField Pagination) := [
  .setting "interval" (readOptional readWord) fun time pagination => { pagination with interval := time },
  .setting "timeout" (readOptional readWord) fun time pagination => { pagination with timeout := time },
  .setting "maxPagesCount" (readOptional readSize) fun count pagination => { pagination with maxPages := count }]

def withScope (scope : String) (pagination : Pagination) : Pagination :=
  match pagination.turn with
  | .control _ pageScope => { pagination with turn := .control scope pageScope }
  | .scroll _ => pagination

def withPageScope (pageScope : String) (pagination : Pagination) : Pagination :=
  match pagination.turn with
  | .control scope _ => { pagination with turn := .control scope pageScope }
  | .scroll _ => pagination

def variants : List (Variant Pagination) := [
  { name := "scroll", title := "PaginationConfig::Scroll", start := ⟨.scroll none, none, none, none⟩
    fields := .setting "scope" (readOptional readText)
      (fun scope pagination => { pagination with turn := .scroll scope }) :: commonFields },
  { name := "page", title := "PaginationConfig::Page", start := ⟨.control "" "", none, none, none⟩
    fields := .required "scope" readText withScope :: .required "pageScope" readText withPageScope :: commonFields }]

def read : Json → Reading Pagination :=
  readChoice "PaginationConfig" "type" variants

def toJson (pagination : Pagination) : Json :=
  let common : Fields := [("interval", countOrNull pagination.interval), ("timeout", countOrNull pagination.timeout),
    ("maxPagesCount", countOrNull pagination.maxPages)]
  let own : Fields := match pagination.turn with
    | .scroll scope => [("type", .string "scroll"), ("scope", textOrNull scope)]
    | .control scope pageScope => [("type", .string "page"), ("scope", .string scope), ("pageScope", .string pageScope)]
  .object (Fields.ofList (own ++ common))

end Pagination

namespace ParseConfig

def fields : List (RecordField ParseConfig) := [
  .required "rules" readRule fun rules config => { config with rules := rules },
  .defaulted "actions" readActionList fun actions config => { config with actions := actions },
  .setting "pagination" (readOptional Pagination.read) fun pagination config =>
    { config with pagination := pagination }]

def read : Json → Reading ParseConfig :=
  readRecord "ParseConfig" fields ⟨default, [], none⟩

/-- Reads what is to be parsed; what cannot be read is an invalid rule. -/
def ofJson (value : Json) : Except Failure ParseConfig :=
  match read value with
  | .ok config => .ok config
  | .error problem => .error (.invalidRule (.unreadable problem))

def toJson (config : ParseConfig) : Json :=
  .object (Fields.ofList
    ([("rules", writeRule config.rules), ("pagination", Json.optional (config.pagination.map Pagination.toJson))]
      ++ unlessEmpty "actions" (writeActions config.actions)))

end ParseConfig

namespace Viewport

def fields : List (RecordField Viewport) := [
  .required "width" readShortWord fun size viewport => { viewport with width := size },
  .required "height" readShortWord fun size viewport => { viewport with height := size }]

def read : Json → Reading Viewport :=
  readRecord "Viewport" fields {}

def toJson (viewport : Viewport) : Json :=
  .object [("height", .count viewport.height), ("width", .count viewport.width)]

end Viewport

namespace BrowserSettings

def fields : List (RecordField BrowserSettings) := [
  .defaulted "headless" readBool fun flag settings => { settings with isHeadless := flag },
  .defaulted "viewport" Viewport.read fun viewport settings => { settings with viewport := viewport },
  .defaulted "userAgent" (readOptional readText) fun text settings => { settings with userAgent := text },
  .defaulted "disableImages" readBool fun flag settings => { settings with disablesImages := flag },
  .defaulted "args" (readArray readText) fun texts settings => { settings with arguments := texts },
  .defaulted "snapshotDir" readPath fun path settings => { settings with snapshotDirectory := path }]

def read : Json → Reading BrowserSettings :=
  readRecord "ChromeConfig" fields {}

def toJson (settings : BrowserSettings) : Json :=
  .object (Fields.ofList [("headless", .bool settings.isHeadless), ("viewport", settings.viewport.toJson),
    ("userAgent", textOrNull settings.userAgent), ("disableImages", .bool settings.disablesImages),
    ("args", Json.texts settings.arguments), ("snapshotDir", .string settings.snapshotDirectory)])

end BrowserSettings

namespace Description

/-- A rule of a description whose problems make it an invalid rule. -/
def ruleOfJson (value : Json) : Except Failure Rule :=
  match readRule value with
  | .ok rule => .ok rule
  | .error problem => .error (.invalidRule (.unreadable problem))

/-- Actions of a description whose problems make it an invalid rule. -/
def actionsOfJson (value : Json) : Except Failure (List Action) :=
  match readActionList value with
  | .ok actions => .ok actions
  | .error problem => .error (.invalidRule (.unreadable problem))

end Description

end Harvest
