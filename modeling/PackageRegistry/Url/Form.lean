import PackageRegistry.Url.Parser

/-!
Names and values in the query of a URL: pairs divided by ampersands, a name divided from its value
by an equals sign, spaces written as plus signs.
-/

namespace PackageRegistry.Url

namespace Form

def keeps (c : Char) : Bool :=
  ('a' ≤ c && c ≤ 'z') || ('A' ≤ c && c ≤ 'Z') || ('0' ≤ c && c ≤ '9') ||
    c == '*' || c == '-' || c == '.' || c == '_'

def encodeChar (c : Char) : List Char := if c = ' ' then ['+'] else percentChar keeps c

def encode (s : String) : List Char := s.toList.flatMap encodeChar

/-- The text of an encoded name or value; bytes that are no text are replaced. -/
def decode (cs : List Char) : String :=
  Text.Utf8.lossy (percentDecode (cs.map fun c => if c = '+' then ' ' else c))

def encodePair (p : String × String) : List Char := encode p.1 ++ '=' :: encode p.2

def decodePair (cs : List Char) : String × String :=
  match Text.cutAt (· == '=') cs with
  | some (name, value) => (decode name, decode value)
  | none => (decode cs, "")

/-- The pairs of a query; empty ones do not count. -/
def pairs (query : String) : List (String × String) :=
  ((Text.pieces '&' query.toList).filter fun p => !p.isEmpty).map decodePair

/-- The query with a pair behind the pairs it has. -/
def append (query : Option String) (p : String × String) : Option String :=
  match query with
  | none | some "" => some (String.ofList (encodePair p))
  | some q => some (q ++ "&" ++ String.ofList (encodePair p))

/-- The value of the last pair with a name. -/
def last? (name : String) (ps : List (String × String)) : Option String :=
  (ps.reverse.find? fun p => p.1 == name).map Prod.snd

end Form

def queryPairs (u : Url) : List (String × String) := Form.pairs (u.query.getD "")

/-- The URL with more pairs in its query. -/
def appendPairs (u : Url) (ps : List (String × String)) : Url :=
  { u with query := ps.foldl Form.append u.query }

end PackageRegistry.Url
