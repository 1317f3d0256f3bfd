import PackageRegistry.Url.Basic
import PackageRegistry.Url.Domain

/-!
Reading absolute URLs as browsers do: blanks and controls around the text and line breaks in it do
not count, backslashes divide like slashes in the web schemes, `.` and `..` segments are resolved,
and every part comes out encoded.
-/

namespace PackageRegistry.Url

namespace Parser

def isLetter (c : Char) : Bool := ('a' ≤ c && c ≤ 'z') || ('A' ≤ c && c ≤ 'Z')

def isSchemeChar (c : Char) : Bool :=
  isLetter c || ('0' ≤ c && c ≤ '9') || c == '+' || c == '-' || c == '.'

/-- The characters that count. -/
def relevant (cs : List Char) : List Char :=
  let outer (c : Char) : Bool := c.toNat ≤ 0x20
  (Text.dropTail outer (cs.dropWhile outer)).filter fun c => c ≠ '\t' ∧ c ≠ '\n' ∧ c ≠ '\r'

/-- The scheme in small letters, and what follows its colon. -/
def scheme? (cs : List Char) : Option (String × List Char) :=
  match cs, cs.dropWhile isSchemeChar with
  | c :: _, ':' :: rest =>
    if isLetter c then some (String.ofList ((cs.takeWhile isSchemeChar).map Char.toLower), rest)
    else none
  | _, _ => none

def endsAuthority (k : Kind) (c : Char) : Bool :=
  c == '/' || c == '?' || c == '#' || (k.isSpecial && c == '\\')

def encoded (p : Part) (cs : List Char) : String := String.ofList (percentEncode p.keeps cs)

/-- Text before the last occurrence of a character and text after it. -/
def cutLast (mark : Char) (cs : List Char) : Option (List Char × List Char) :=
  if cs.contains mark then
    let tail := (cs.reverse.takeWhile (· ≠ mark)).reverse
    some (cs.take (cs.length - tail.length - 1), tail)
  else none

/-- Name and password. -/
def credentials (cs : List Char) : String × String :=
  match Text.cutAt (· == ':') cs with
  | none => (encoded .userinfo cs, "")
  | some (name, password) => (encoded .userinfo name, encoded .userinfo password)

def sixHost (cs : List Char) : Except Flaw Host :=
  if cs.getLast? = some ']' then
    match Address.parseSix? cs.tail.dropLast with
    | some pieces => .ok (.six pieces)
    | none => .error .invalidSix
  else .error .invalidSix

/-- The host of a scheme with rules of its own. -/
def namedHost (cs : List Char) : Except Flaw Host :=
  match cs with
  | '[' :: _ => sixHost cs
  | _ =>
    match (Text.Utf8.chars? (Text.Utf8.decode (percentDecode cs))).bind Domain.toAscii? with
    | none => .error .invalidDomain
    | some [] => .error .emptyHost
    | some name =>
      if Address.endsInNumber name then
        match Address.parseFour? name with
        | some n => .ok (.four n)
        | none => .error .invalidFour
      else .ok (.domain (String.ofList name))

/-- The printable characters that no host has. -/
def forbiddenInHost : List Char :=
  ['\x00', '\t', '\n', '\r', ' ', '#', '/', ':', '<', '>', '?', '@', '[', '\\', ']', '^', '|']

/-- The host of any other scheme, which is not looked into. -/
def looseHost (cs : List Char) : Except Flaw Host :=
  match cs with
  | '[' :: _ => sixHost cs
  | _ =>
    if cs.any forbiddenInHost.contains then .error .invalidHostCharacter
    else .ok (.domain (encoded .free cs))

/-- Cuts a host off at the first colon outside brackets. -/
def cutPort (inside : Bool) : List Char → List Char × Option (List Char)
  | [] => ([], none)
  | c :: cs =>
    if c = ':' ∧ !inside then ([], some cs)
    else
      let inside := if c = '[' then true else if c = ']' then false else inside
      let (host, port) := cutPort inside cs
      (c :: host, port)

/-- A port below 65536, or nothing for an empty one and the usual one. -/
def readPort (scheme : String) (cs : List Char) : Except Flaw (Option Nat) :=
  if cs.all Address.isDigit then
    let n := cs.foldl (fun n c => n * 10 + (c.toNat - 48)) 0
    if 65535 < n then .error .invalidPort
    else if cs.isEmpty ∨ defaultPort? scheme = some n then .ok none
    else .ok (some n)
  else .error .invalidPort

/-- The port may be followed by a backslash in any scheme; the rest then belongs to the path. -/
def cutBackslash (cs : List Char) : List Char × List Char :=
  (cs.takeWhile (· ≠ '\\'), cs.dropWhile (· ≠ '\\'))

def isSingleDot (cs : List Char) : Bool :=
  [".", "%2e", "%2E"].contains (String.ofList cs)

def isDoubleDot (cs : List Char) : Bool :=
  ["..", ".%2e", ".%2E", "%2e.", "%2E.", "%2e%2e", "%2e%2E", "%2E%2e", "%2E%2E"].contains
    (String.ofList cs)

/-- A letter and a colon or bar: the name of a drive. -/
def isDrive : List Char → Bool
  | [a, b] => isLetter a && (b == ':' || b == '|')
  | _ => false

/-- A segment that a path going up does not leave: the name of a drive, in any scheme and at any
depth, also with a backslash and more behind it. -/
def isFixed (segment : String) : Bool :=
  isDrive (segment.toList.takeWhile (· ≠ '\\'))

/-- The segments without the last one, unless it is fixed. -/
def shorten (segments : List String) : List String :=
  match segments.getLast? with
  | some s => if isFixed s then segments else segments.dropLast
  | none => []

/-- A segment as it enters the path. The name of a drive at the front of a file path has a colon. -/
def segmentText (k : Kind) (before : List String) (cs : List Char) : String :=
  match k, before, cs with
  | .file, [], [a, '|'] => if isLetter a then String.ofList [a, ':'] else encoded .path cs
  | _, _, _ => encoded .path cs

/-- Resolves dots. A dot segment at the end leaves an empty segment in its place. -/
def resolve (k : Kind) (before : List String) : List (List Char) → List String
  | [] => before
  | s :: rest =>
    let ending := if rest.isEmpty then [""] else []
    if isDoubleDot s then resolve k (shorten before ++ ending) rest
    else if isSingleDot s then resolve k (before ++ ending) rest
    else resolve k (before ++ [segmentText k before s]) rest

/-- The segments of a text without its first slash. -/
def segments (k : Kind) (cs : List Char) : List String :=
  resolve k [] (Text.pieces '/' (cs.map fun c => if k.isSpecial ∧ c = '\\' then '/' else c))

/-- The path of a text behind its first slash. -/
def pathOf (k : Kind) (cs : List Char) : Path := .segments (segments k cs)

/-- The path behind a host: the schemes with rules of their own always have one. -/
def pathAfterHost (k : Kind) (cs : List Char) : Path :=
  match cs with
  | '/' :: rest => pathOf k rest
  | [] => if k.isSpecial then .segments [""] else .segments []
  | c :: rest => if k.isSpecial ∧ c = '\\' then pathOf k rest else pathOf k cs

/-- A text, and the query and fragment cut off behind it. -/
structure Cut where
  body : List Char
  query : Option (List Char)
  fragment : Option (List Char)

def cut (cs : List Char) : Cut :=
  let (front, fragment) :=
    match Text.cutAt (· == '#') cs with
    | some (a, b) => (a, some b)
    | none => (cs, none)
  match Text.cutAt (· == '?') front with
  | some (a, b) => ⟨a, some b, fragment⟩
  | none => ⟨front, none, fragment⟩

/-- Host, port and path behind the two slashes and the credentials. -/
def hostAndPath (scheme : String) (k : Kind) (cs : List Char) :
    Except Flaw (Host × Option Nat × Path) := do
  let place := cs.takeWhile fun c => !endsAuthority k c
  let rest := cs.dropWhile fun c => !endsAuthority k c
  let (name, portText) := cutPort false place
  let host ← if k.isSpecial then
      if name.isEmpty then .error .emptyHost else namedHost name
    else looseHost name
  match portText with
  | none => return (host, none, pathAfterHost k rest)
  | some digits =>
    if host = .domain "" then .error .emptyHost
    let (digits, more) := cutBackslash digits
    let port ← readPort scheme digits
    return (host, port, pathAfterHost k (more ++ rest))

/-- What stands behind the two slashes, and whether a query or fragment follows it. -/
def withAuthority (scheme : String) (k : Kind) (cs : List Char) (followed : Bool) :
    Except Flaw Url := do
  let place := cs.takeWhile fun c => !endsAuthority k c
  let rest := cs.dropWhile fun c => !endsAuthority k c
  match cutLast '@' place with
  | none =>
    let (host, port, path) ← hostAndPath scheme k cs
    return { scheme, host, port, path }
  | some (info, after) =>
    if info.isEmpty ∧ after.isEmpty ∧ (!rest.isEmpty || followed) then .error .emptyHost
    let (username, password) := credentials info
    let (host, port, path) ← hostAndPath scheme k (after ++ rest)
    if host = .domain "" ∧ ¬ (username = "" ∧ password = "") then .error .emptyHost
    return { scheme, username, password, host, port, path }

def isSlash (c : Char) : Bool := c == '/' || c == '\\'

/-- A file URL with these segments. Empty segments in front do not count, and where the first segment
names a drive, there is no host. -/
def onDisk (host : Host) (segments : List String) : Url :=
  let host :=
    match segments with
    | s :: _ => if isDrive s.toList then .domain "" else host
    | [] => host
  let path :=
    match segments.dropWhile (· = "") with
    | [] => [""]
    | ss => ss
  { scheme := "file", host := some host, path := .segments path }

/-- A file URL behind its colon. Two slashes lead to a host, which may be empty or the machine
itself; what looks like the name of a drive there belongs to the path. -/
def fileUrl (cs : List Char) : Except Flaw Url :=
  let here (cs : List Char) : Url := onDisk (.domain "") (segments .file cs)
  match cs with
  | a :: b :: rest =>
    if isSlash a && isSlash b then
      let name := rest.takeWhile fun c => !isSlash c
      let more := rest.dropWhile fun c => !isSlash c
      if isDrive name then .ok (here rest)
      else if name.isEmpty then .ok (here more)
      else
        (namedHost name).map fun host =>
          if host = .domain "localhost" then here more
          else onDisk host (segments .file more.tail)
    else .ok (here (if isSlash a then b :: rest else cs))
  | [a] => .ok (here (if isSlash a then [] else cs))
  | [] => .ok (here [])

/-- A URL behind its scheme, without query and fragment. -/
def body (scheme : String) (cs : List Char) (followed : Bool) : Except Flaw Url :=
  match Kind.ofScheme scheme with
  | .web => withAuthority scheme .web (cs.dropWhile fun c => c == '/' || c == '\\') followed
  | .file => fileUrl cs
  | .other =>
    match cs with
    | '/' :: '/' :: rest => withAuthority scheme .other rest followed
    | '/' :: rest => .ok { scheme, path := pathOf .other rest }
    | _ => .ok { scheme, path := .plain (encoded .free cs) }

end Parser

/-- The URL that a text writes. -/
def parse (s : String) : Except Flaw Url :=
  match Parser.scheme? (Parser.relevant s.toList) with
  | none => .error .noScheme
  | some (scheme, rest) =>
    let c := Parser.cut rest
    let queryPart := if (Kind.ofScheme scheme).isSpecial then Part.specialQuery else Part.query
    (Parser.body scheme c.body (c.query.isSome || c.fragment.isSome)).map fun u =>
      { u with
        query := c.query.map (Parser.encoded queryPart)
        fragment := c.fragment.map (Parser.encoded .fragment) }

end PackageRegistry.Url
