import PackageRegistry.Keyed

/-!
Header fields of a request, under names in small letters.
-/

namespace PackageRegistry.Http

/-- Header fields in the order of their names. A name may come more than once. -/
abbrev Headers := List (String × String)

/-- Why a header field cannot be sent. -/
inductive HeaderFlaw where
  | name
  | value
deriving DecidableEq, Repr

namespace HeaderFlaw

def message : HeaderFlaw → String
  | .name => "invalid HTTP header name"
  | .value => "failed to parse header value"

end HeaderFlaw

/-- The marks that a header name may have besides letters and digits. -/
def nameMarks : List Char :=
  ['!', '#', '$', '%', '&', '\'', '*', '+', '-', '.', '^', '_', '\x60', '|', '~']

def isNameChar (c : Char) : Bool :=
  ('a' ≤ c && c ≤ 'z') || ('A' ≤ c && c ≤ 'Z') || ('0' ≤ c && c ≤ '9') || nameMarks.contains c

/-- A header name holds letters, digits and some marks, and is not empty. -/
def isName (s : String) : Bool := s ≠ "" && s.toList.all isNameChar

/-- Everything but the controls; a tab is allowed. -/
def isValueChar (c : Char) : Bool :=
  c == '\t' || (0x20 ≤ c.toNat && c.toNat ≠ 0x7F)

def isValue (s : String) : Bool := s.toList.all isValueChar

/-- The text with its letters small. -/
def lowerName (s : String) : String := String.ofList (s.toList.map Char.toLower)

namespace Headers

/-- Sets a header field, if it can be sent. -/
def set (hs : Headers) (name value : String) : Except HeaderFlaw Headers :=
  if !isName name then .error .name
  else if !isValue value then .error .value
  else .ok (Keyed.insert (lowerName name) value hs)

/-- Sets header fields one after the other. -/
def setAll (hs : Headers) : List (String × String) → Except HeaderFlaw Headers
  | [] => .ok hs
  | (name, value) :: rest => do
    let hs ← hs.set name value
    setAll hs rest

/-- The header fields of a request with defaults for those it does not set itself. A field that the
request sets twice stays twice. -/
def withDefaults (own defaults : Headers) : Headers :=
  defaults.foldl
    (fun hs h => if hs.any fun o => o.1 == h.1 then hs else Keyed.insert h.1 h.2 hs) own

end Headers

end PackageRegistry.Http
