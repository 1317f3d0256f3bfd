import PackageRegistry.Url.Address

/-!
Absolute URLs: their parts, and the text that the parts make.
-/

namespace PackageRegistry

namespace Url

inductive Host where
  | domain (name : String)
  | four (address : Nat)
  | six (pieces : List Nat)
deriving DecidableEq, Repr

namespace Host

def text : Host → String
  | .domain name => name
  | .four address => Address.fourText address
  | .six pieces => "[" ++ Address.sixText pieces ++ "]"

end Host

inductive Path where
  /-- Segments, each behind a slash. -/
  | segments (parts : List String)
  /-- Text without structure, as behind `mailto:`. -/
  | plain (text : String)
deriving DecidableEq, Repr

namespace Path

def text : Path → String
  | .segments parts => String.join (parts.map ("/" ++ ·))
  | .plain text => text

end Path

/-- Why a text is no absolute URL. -/
inductive Flaw where
  | noScheme
  | emptyHost
  | invalidPort
  | invalidFour
  | invalidSix
  | invalidDomain
  | invalidHostCharacter
deriving DecidableEq, Repr

namespace Flaw

def message : Flaw → String
  | .noScheme => "relative URL without a base"
  | .emptyHost => "empty host"
  | .invalidPort => "invalid port number"
  | .invalidFour => "invalid IPv4 address"
  | .invalidSix => "invalid IPv6 address"
  | .invalidDomain => "invalid international domain name"
  | .invalidHostCharacter => "invalid domain character"

end Flaw

/-- The schemes with rules of their own. -/
inductive Kind where
  | web
  | file
  | other
deriving DecidableEq, Repr

namespace Kind

def ofScheme (scheme : String) : Kind :=
  if ["http", "https", "ws", "wss", "ftp"].contains scheme then .web
  else if scheme = "file" then .file
  else .other

/-- Whether a backslash divides like a slash. -/
def isSpecial (k : Kind) : Bool := k ≠ .other

end Kind

/-- The port that a scheme uses when none is given. -/
def defaultPort? (scheme : String) : Option Nat :=
  match scheme with
  | "http" | "ws" => some 80
  | "https" | "wss" => some 443
  | "ftp" => some 21
  | _ => none

end Url

/-- A URL with its parts in their encoded form. -/
structure Url where
  scheme : String
  username : String := ""
  password : String := ""
  host : Option Url.Host := none
  port : Option Nat := none
  path : Url.Path
  query : Option String := none
  fragment : Option String := none
deriving DecidableEq, Repr

namespace Url

/-- Name and password in front of a host. -/
def credentials (u : Url) : String :=
  if u.username = "" ∧ u.password = "" then ""
  else u.username ++ (if u.password = "" then "" else ":" ++ u.password) ++ "@"

/-- What stands between the scheme and the path. Without a host, a path that begins with an empty
segment is kept apart from it by a dot. -/
def authority (u : Url) : String :=
  match u.host, u.path with
  | some h, _ =>
    "//" ++ u.credentials ++ h.text ++
      match u.port with
      | some n => ":" ++ toString n
      | none => ""
  | none, .segments ("" :: _ :: _) => "/."
  | none, _ => ""

/-- A part behind its mark, if there is one. -/
def marked (mark : String) : Option String → String
  | some s => mark ++ s
  | none => ""

def text (u : Url) : String :=
  u.scheme ++ ":" ++ u.authority ++ u.path.text ++ marked "?" u.query ++ marked "#" u.fragment

end Url

end PackageRegistry
