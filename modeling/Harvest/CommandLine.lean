import Harvest.Json.Reader
import Harvest.Run.Session

/-!
Contract: the command line.

Arguments are read in order, and the first one at fault counts as misuse; asking for help or
the version ends the reading. An order says which files to read. Executing it prints the
result as indented JSON; an order that fails prints nothing.
-/

namespace Harvest.CommandLine

/-- What is ordered: the files with the rules, the document and the settings, an address, and whether a window is
shown. -/
structure Order where
  rules : Option String := none
  html : Option String := none
  url : Option String := none
  config : Option String := none
  headed : Bool := false

inductive Refusal where
  | misuse
  | help
  | version

/-- What a run of the program gives: its exit code, and what it prints. -/
structure Answer where
  exitCode : Nat
  output : String := ""

inductive ValueOption where
  | rules
  | html
  | url
  | config

inductive Flag where
  | headed
  | help
  | version

abbrev AnyOption := ValueOption ⊕ Flag

def longNames : List (String × AnyOption) := [
  ("rules", .inl .rules), ("html", .inl .html), ("url", .inl .url), ("config", .inl .config),
  ("headed", .inr .headed), ("help", .inr .help), ("version", .inr .version)]

def shortNames : List (Char × AnyOption) :=
  [('r', .inl .rules), ('c', .inl .config), ('h', .inr .help), ('V', .inr .version)]

def setOnce (former : Option String) (value : String) : Except Refusal (Option String) :=
  match former with
  | none => .ok (some value)
  | some _ => .error .misuse

def fileName (value : String) : Except Refusal String :=
  if value = "" then .error .misuse else .ok value

def withValue (order : Order) (option : ValueOption) (value : String) : Except Refusal Order :=
  match option with
  | .rules => do return { order with rules := ← setOnce order.rules (← fileName value) }
  | .html => do return { order with html := ← setOnce order.html (← fileName value) }
  | .config => do return { order with config := ← setOnce order.config (← fileName value) }
  | .url => do return { order with url := ← setOnce order.url value }

def withFlag (order : Order) : Flag → Except Refusal Order
  | .headed => if order.headed then .error .misuse else .ok { order with headed := true }
  | .help => .error .help
  | .version => .error .version

def isOptionLike (argument : String) : Bool :=
  match argument.toList with
  | '-' :: _ :: _ => true
  | _ => false

/-- An argument of one or more short options: the order so far, and an option that still needs its value. -/
def readCluster : List Char → Order → Except Refusal (Order × Option ValueOption)
  | [], order => .ok (order, none)
  | letter :: rest, order =>
    match shortNames.lookup letter with
    | none => .error .misuse
    | some (.inr flag) => do readCluster rest (← withFlag order flag)
    | some (.inl option) =>
      match rest with
      | [] => .ok (order, some option)
      | '=' :: value => do return (← withValue order option (String.ofList value), none)
      | value => do return (← withValue order option (String.ofList value), none)

/-- An argument of one long option, without its dashes. -/
def readLong (text : List Char) (order : Order) : Except Refusal (Order × Option ValueOption) :=
  let name := String.ofList (text.takeWhile (· != '='))
  match longNames.lookup name, text.dropWhile (· != '=') with
  | none, _ => .error .misuse
  | some (.inr flag), [] => do return (← withFlag order flag, none)
  | some (.inr _), _ => .error .misuse
  | some (.inl option), [] => .ok (order, some option)
  | some (.inl option), _ :: value => do return (← withValue order option (String.ofList value), none)

def readArgument (argument : String) (order : Order) : Except Refusal (Order × Option ValueOption) :=
  match argument.toList with
  | '-' :: '-' :: name => readLong name order
  | '-' :: letter :: letters => readCluster (letter :: letters) order
  | _ => .error .misuse

/-- Reads arguments; an option may still need its value. -/
def readArguments : List String → (pending : Option ValueOption) → Order → Except Refusal Order
  | [], none, order => .ok order
  | [], some _, _ => .error .misuse
  | argument :: rest, some option, order =>
    if isOptionLike argument then .error .misuse
    else do readArguments rest none (← withValue order option argument)
  | "--" :: rest, none, order => if rest.isEmpty then .ok order else .error .misuse
  | argument :: rest, none, order => do
    let (order, option) ← readArgument argument order
    readArguments rest option order

/-- Reads an order. Rules are needed, and a document excludes an address. -/
def readOrder (arguments : List String) : Except Refusal Order := do
  let order ← readArguments arguments none {}
  if order.rules.isNone || (order.html.isSome && order.url.isSome) then .error .misuse else .ok order

def Order.files (order : Order) : List String :=
  order.rules.toList ++ order.config.toList ++ order.html.toList

def readConfig? (text : String) : Option ParseConfig := do
  let value ← Json.read? text
  (ParseConfig.read value).toOption

def readSettings? (text : String) : Option Settings := do
  let value ← Json.read? text
  (Settings.read value).toOption

/-- The outcome of parsing a document, when the order can be carried out. -/
def Order.outcome? (order : Order) (files : String → Option String) : Option Json := do
  let config ← (← order.rules.bind files) |> readConfig?
  let settings ← match order.config with
    | none => some {}
    | some path => (files path).bind readSettings?
  let html ← order.html.bind files
  let session := Session.start { page := { source := .ofText html } } { performers := Performer.standard, settings := settings }
    Transform.standard {} []
  let (session, config) := session.identify (Description.identifyConfig Description.noBreaker config)
  (session.parse config).2.toOption

def helpText : String :=
  "Declarative rule-driven extraction from rendered documents, with scripted page interactions\n\n" ++
  "Usage: page-parser [OPTIONS] --rules <RULES>\n\n" ++
  "Options:\n" ++
  "  -r, --rules <RULES>    Parse config: `\x7b\"rules\": .., \"actions\": [..], \"pagination\": \x7b..\x7d\x7d`\n" ++
  "      --html <HTML>      Saved HTML document to parse\n" ++
  "      --url <URL>        Live page to open in Chrome\n" ++
  "  -c, --config <CONFIG>  Parser settings (waits, pagination, snapshots)\n" ++
  "      --headed           Show the browser window\n" ++
  "  -h, --help             Print help\n" ++
  "  -V, --version          Print version\n"

def versionText : String :=
  "page-parser 0.1.0\n"

def Refusal.answer : Refusal → Answer
  | .misuse => ⟨2, ""⟩
  | .help => ⟨0, helpText⟩
  | .version => ⟨0, versionText⟩

/-- What the program gives for arguments, with the files that there are. -/
def run (files : String → Option String) (arguments : List String) : Answer :=
  match readOrder arguments with
  | .error refusal => refusal.answer
  | .ok order =>
    match order.outcome? files with
    | none => ⟨1, ""⟩
    | some result => ⟨0, result.indented ++ "\n"⟩

def filesOf (arguments : List String) : List String :=
  match readOrder arguments with
  | .error _ => []
  | .ok order => order.files

end Harvest.CommandLine
