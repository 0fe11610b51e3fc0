import Harvest.Uri.Host

/-!
Contract: addresses, read by themselves or relative to a base.

`read` reads an absolute address; `join` reads a text relative to a base, which may be
absolute itself. `text` writes an address: `read` of what it writes gives the same
address. Schemes in common use have a host always, a path that begins with a slash and a
port that is left out when it is the usual one.
-/

namespace Harvest

namespace Uri

/-- The path of an address: segments between slashes, or a text that means nothing here. -/
inductive Path where
  | opaqueText (text : List Char)
  | segments (segments : List (List Char))

structure Authority where
  user : List Char := []
  password : List Char := []
  host : List Char
  port : Option Nat := none

end Uri

structure Uri where
  scheme : List Char
  authority : Option Uri.Authority
  path : Uri.Path
  query : Option (List Char) := none
  fragment : Option (List Char) := none

namespace Uri

def commonSchemes : List (String × Option Nat) :=
  [("http", some 80), ("https", some 443), ("ws", some 80), ("wss", some 443), ("ftp", some 21), ("file", none)]

def isCommon (scheme : List Char) : Bool :=
  (commonSchemes.lookup (String.ofList scheme)).isSome

def usualPort? (scheme : List Char) : Option Nat :=
  (commonSchemes.lookup (String.ofList scheme)).bind id

def isFileScheme (scheme : List Char) : Bool :=
  scheme == "file".toList

/-- The text of a path; an address without authority marks a path that begins with two slashes. -/
def Path.text (hasAuthority : Bool) : Path → List Char
  | .opaqueText text => text
  | .segments parts =>
    let text := parts.flatMap fun segment => '/' :: segment
    if !hasAuthority && parts.length > 1 && parts.head? == some [] then '/' :: '.' :: text else text

def Authority.text (authority : Authority) : List Char :=
  let password := if authority.password.isEmpty then [] else ':' :: authority.password
  let login := if authority.user.isEmpty && authority.password.isEmpty then []
    else authority.user ++ password ++ ['@']
  let port := match authority.port with
    | some port => ':' :: Decimal.digitsOf port
    | none => []
  '/' :: '/' :: login ++ authority.host ++ port

def markedPart (mark : Char) : Option (List Char) → List Char
  | some part => mark :: part
  | none => []

def text (address : Uri) : String :=
  String.ofList
    (address.scheme ++ [':'] ++ ((address.authority.map Authority.text).getD [])
      ++ address.path.text address.authority.isSome
      ++ markedPart '?' address.query ++ markedPart '#' address.fragment)

def isFragmentOctet (octet : Nat) : Bool :=
  Host.isPlainOctet octet && !([32, 34, 60, 62, 96].contains octet)

def isPathOctet (octet : Nat) : Bool :=
  isFragmentOctet octet && !([35, 63, 123, 125].contains octet)

def isUserOctet (octet : Nat) : Bool :=
  isPathOctet octet && !([47, 58, 59, 61, 64, 91, 92, 93, 94, 124].contains octet)

def isQueryOctet (common : Bool) (octet : Nat) : Bool :=
  Host.isPlainOctet octet && !([32, 34, 35, 60, 62].contains octet) && !(common && octet == 39)

def isSlash (common : Bool) (character : Char) : Bool :=
  character == '/' || (common && character == '\\')

def endsPath (character : Char) : Bool :=
  character == '?' || character == '#'

def isLetter (character : Char) : Bool :=
  ('a' ≤ character && character ≤ 'z') || ('A' ≤ character && character ≤ 'Z')

/-- The characters that count: none that controls stand for or blanks around, no tabs and line breaks. -/
def counted (text : List Char) : List Char :=
  let isEdge (character : Char) := character.toNat ≤ 0x20
  let trimmed := ((text.dropWhile isEdge).reverse.dropWhile isEdge).reverse
  trimmed.filter fun character => !([9, 10, 13].contains character.toNat)

/-- The scheme in front of a text, in lower case, and the rest behind its colon. -/
def takeScheme? (text : List Char) : Option (List Char × List Char) :=
  let isPart (character : Char) :=
    isLetter character || Decimal.isDigit character || ['+', '-', '.'].contains character
  match text with
  | first :: _ =>
    if isLetter first then
      match text.dropWhile isPart with
      | ':' :: rest => some (Decimal.lowerAscii (text.takeWhile isPart), rest)
      | _ => none
    else none
  | [] => none

/-- The query and the fragment at the end of an address. -/
def readTail (common : Bool) (text : List Char) : Option (List Char) × Option (List Char) :=
  let query := match text with
    | '?' :: rest => some (Percent.encodeWith (isQueryOctet common) (rest.takeWhile (· != '#')))
    | _ => none
  let fragment := match text.dropWhile (· != '#') with
    | _ :: rest => some (Percent.encodeWith isFragmentOctet rest)
    | [] => none
  (query, fragment)

def rawSegments (common : Bool) : List Char → List (List Char)
  | [] => [[]]
  | character :: text =>
    if isSlash common character then [] :: rawSegments common text
    else
      match rawSegments common text with
      | [] => [[character]]
      | segment :: segments => (character :: segment) :: segments

/-- A segment in which escaped points are points. -/
def pointForm : List Char → List Char
  | '%' :: '2' :: 'e' :: rest => '.' :: pointForm rest
  | '%' :: '2' :: 'E' :: rest => '.' :: pointForm rest
  | character :: rest => character :: pointForm rest
  | [] => []

def isSinglePoint (segment : List Char) : Bool :=
  pointForm segment == ['.']

def isDoublePoint (segment : List Char) : Bool :=
  pointForm segment == ['.', '.']

/-- Adds segments to a path, whose latest segment comes first. One point stands for the path itself, two
for the path above it. -/
def addSegments : (path : List (List Char)) → List (List Char) → List (List Char)
  | path, [] => path
  | path, [last] =>
    if isDoublePoint last then [] :: path.drop 1
    else if isSinglePoint last then [] :: path
    else last :: path
  | path, segment :: rest =>
    if isDoublePoint segment then addSegments (path.drop 1) rest
    else if isSinglePoint segment then addSegments path rest
    else addSegments (segment :: path) rest

/-- The path that begins with some segments and goes on as a text says, and what follows it. -/
def readSegments (scheme : List Char) (start : List (List Char)) (text : List Char) : Path × List Char :=
  let common := isCommon scheme
  let isPart (character : Char) := !endsPath character
  let raw := (rawSegments common (text.takeWhile isPart)).map (Percent.encodeWith isPathOctet)
  let segments := (addSegments start.reverse raw).reverse
  let segments :=
    if isFileScheme scheme then
      match segments.dropWhile List.isEmpty with
      | [] => [[]]
      | segments => segments
    else segments
  (.segments segments, text.dropWhile isPart)

def readPath (scheme text : List Char) : Path × List Char :=
  match text with
  | [] => if isCommon scheme then (.segments [[]], []) else (.segments [], [])
  | first :: rest =>
    if isSlash (isCommon scheme) first then readSegments scheme [] rest
    else if endsPath first && !isCommon scheme then (.segments [], text)
    else readSegments scheme [] text

/-- The user name and password in front of a host, and the rest. -/
def readLogin (common : Bool) (text : List Char) : Except Fault (List Char × List Char × List Char) :=
  let isPart (character : Char) := !isSlash common character && !endsPath character
  let before := text.takeWhile isPart
  match (before.reverse.dropWhile (· != '@')) with
  | [] => .ok ([], [], text)
  | _ :: reversed =>
    let login := reversed.reverse
    let rest := text.drop (login.length + 1)
    if login.isEmpty && (rest.head?.map fun next => !isPart next).getD false then .error .emptyHost
    else
      let user := login.takeWhile (· != ':')
      let password := (login.dropWhile (· != ':')).drop 1
      .ok (Percent.encodeWith isUserOctet user, Percent.encodeWith isUserOctet password, rest)

/-- The characters of a host up to its end; a colon between brackets does not end it. -/
def hostChars (common : Bool) : (inBrackets : Bool) → List Char → List Char × List Char
  | _, [] => ([], [])
  | inBrackets, character :: rest =>
    if (character == ':' && !inBrackets) || isSlash common character || endsPath character then
      ([], character :: rest)
    else
      let inside := if character = '[' then true else if character = ']' then false else inBrackets
      let (others, behind) := hostChars common inside rest
      (character :: others, behind)

/-- The port behind its colon, and the rest. A usual or empty port is none. -/
def readPort (scheme text : List Char) : Except Fault (Option Nat × List Char) :=
  let digits := text.takeWhile Decimal.isDigit
  let rest := text.dropWhile Decimal.isDigit
  let ends := match rest with
    | [] => true
    | next :: _ => isSlash true next || endsPath next
  let port := Decimal.valueOfDigits digits
  if port > 65535 || !ends then .error .badPort
  else if digits.isEmpty || some port = usualPort? scheme then .ok (none, rest)
  else .ok (some port, rest)

/-- The address behind a scheme and its two slashes. -/
def readBehindSlashes (scheme text : List Char) : Except Fault Uri := do
  let common := isCommon scheme
  let (user, password, rest) ← readLogin common text
  let (raw, rest) := hostChars common false rest
  if raw.isEmpty && (common || rest.head? = some ':') then throw .emptyHost
  let host ← if common then Host.read raw else Host.readOpaque raw
  let (port, rest) ← match rest with
    | ':' :: rest => readPort scheme rest
    | rest => pure (none, rest)
  if host.isEmpty && !(user.isEmpty && password.isEmpty) then throw .emptyHost
  let (path, rest) := readPath scheme rest
  let (query, fragment) := readTail common rest
  return ⟨scheme, some ⟨user, password, host, port⟩, path, query, fragment⟩

/-- The address with this authority and path, and the tail that a text holds. -/
def withTail (scheme : List Char) (authority : Option Authority) (path : Path × List Char) : Uri :=
  let (query, fragment) := readTail (isCommon scheme) path.2
  ⟨scheme, authority, path.1, query, fragment⟩

def Path.segmentsOf : Path → List (List Char)
  | .segments parts => parts
  | .opaqueText _ => []

/-- A text relative to the path of a base. -/
def readBesides (base : Uri) (text : List Char) : Uri :=
  match text with
  | [] => { base with fragment := none }
  | '?' :: _ => withTail base.scheme base.authority (base.path, text)
  | '#' :: _ => { base with fragment := (readTail true text).2 }
  | _ => withTail base.scheme base.authority (readSegments base.scheme base.path.segmentsOf.dropLast text)

def readFile (base : Option Uri) (text : List Char) : Except Fault Uri :=
  let scheme := "file".toList
  let localHost : Authority := { host := [] }
  match text with
  | first :: rest =>
    if isSlash true first then
      match rest with
      | second :: behind =>
        if isSlash true second then do
          let isPart (character : Char) := !isSlash true character && !endsPath character
          let raw := behind.takeWhile isPart
          let host ← if raw.isEmpty then .ok [] else Host.read raw
          let host := if host = "localhost".toList then [] else host
          return withTail scheme (some { host := host }) (readPath scheme (behind.dropWhile isPart))
        else .ok (withTail scheme (baseHost.getD localHost) (readSegments scheme [] rest))
      | [] => .ok (withTail scheme (baseHost.getD localHost) (readSegments scheme [] rest))
    else
      match base with
      | some base => .ok (readBesides base text)
      | none => .ok (withTail scheme localHost (readSegments scheme [] text))
  | [] =>
    match base with
    | some base => .ok (readBesides base [])
    | none => .ok (withTail scheme localHost (.segments [[]], []))
where
  baseHost : Option Authority := base.bind (·.authority)

/-- A text relative to a base whose path has segments. -/
def readRelative (base : Uri) (text : List Char) : Except Fault Uri :=
  match text with
  | first :: rest =>
    if isSlash true first then
      match text with
      | '/' :: '/' :: behind => readBehindSlashes base.scheme behind
      | _ =>
        if (rest.head?.map (isSlash true)).getD false then
          readBehindSlashes base.scheme (text.dropWhile (isSlash true))
        else .ok (withTail base.scheme base.authority (readSegments base.scheme [] rest))
    else .ok (readBesides base text)
  | [] => .ok (readBesides base text)

def isHierarchical (address : Uri) : Bool :=
  match address.path with
  | .segments _ => true
  | .opaqueText _ => false

def readBehindScheme (base : Option Uri) (scheme text : List Char) : Except Fault Uri :=
  if isFileScheme scheme then readFile (base.filter fun base => isFileScheme base.scheme) text
  else if isCommon scheme then
    let slashes := (text.takeWhile (isSlash true)).length
    match base with
    | some base =>
      if slashes < 2 && base.scheme == scheme then readRelative base text
      else readBehindSlashes scheme (text.drop slashes)
    | none => readBehindSlashes scheme (text.drop slashes)
  else
    match text with
    | '/' :: '/' :: rest => readBehindSlashes scheme rest
    | '/' :: rest => .ok (withTail scheme none (readSegments scheme [] rest))
    | _ =>
      let isPart (character : Char) := !endsPath character
      let path := Percent.encodeWith Host.isPlainOctet (text.takeWhile isPart)
      .ok (withTail scheme none (.opaqueText path, text.dropWhile isPart))

/-- An address, absolute or relative to a base. -/
def readWith (base : Option Uri) (text : String) : Except Fault Uri :=
  let text := counted text.toList
  match takeScheme? text with
  | some (scheme, rest) => readBehindScheme base scheme rest
  | none =>
    match base with
    | none => .error .relativeWithoutBase
    | some base =>
      if text.head? = some '#' then .ok (readBesides base text)
      else if !base.isHierarchical then .error .relativeToOpaque
      else if isFileScheme base.scheme then readFile (some base) text
      else readRelative base text

def read (text : String) : Except Fault Uri :=
  readWith none text

def join (base : Uri) (text : String) : Except Fault Uri :=
  readWith (some base) text

end Uri

end Harvest
