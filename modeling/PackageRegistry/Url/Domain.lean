import PackageRegistry.Unicode.Composition
import PackageRegistry.Url.Domain.Direction
import PackageRegistry.Url.Domain.Joining
import PackageRegistry.Url.Domain.Mapping
import PackageRegistry.Url.Percent
import PackageRegistry.Url.Punycode

/-!
Domain names in ASCII. A name is brought into the one form in which names are compared, its labels
are checked, and a label that goes past ASCII is written in Punycode behind `xn--`. A label that
already has this form is looked into as well.
-/

namespace PackageRegistry.Url.Domain

def isAscii (c : Char) : Bool := c.toNat < 0x80

/-- The form in which names are compared, unless the name has a character that no name may have. -/
def fold (name : List Char) : Option (List Char) :=
  if name.all isAscii then some (name.map Char.toLower)
  else (name.mapM mapChar).map fun parts => Unicode.composed parts.flatten

/-- The printable ASCII characters that no domain name has. -/
def forbidden : List Char :=
  [' ', '%', '#', '/', ':', '<', '>', '?', '@', '[', '\\', ']', '^', '|']

/-- Whether a character of a folded name may stand in a label. -/
def isAllowed (c : Char) : Bool :=
  !isAscii c || (!isControl c && !forbidden.contains c)

/-- The longest Punycode that is looked into. -/
def maxEncoded : Nat := 2000

/-- The longest label past ASCII. -/
def maxLabel : Nat := 1000

/-- The label that Punycode stands for. It has to need its encoding, and to be in folded form. -/
def decodeLabel? (text : List Char) : Option (List Char) :=
  if text.all isAscii && text.length ≤ maxEncoded then
    match Punycode.decode? text with
    | some label =>
      if !label.all isAscii && !label.contains '.' && fold label == some label then some label
      else none
    | none => none
  else none

/-- A label as it is meant. -/
def meaning? (label : List Char) : Option (List Char) :=
  match label with
  | 'x' :: 'n' :: '-' :: '-' :: text => decodeLabel? text
  | label => some label

/-- Whether a label past ASCII may stand in a name. -/
def isLabel (label : List Char) : Bool :=
  label.length ≤ maxLabel && joinersFit [] label &&
    match label with
    | c :: _ => !Unicode.isMark c
    | [] => true

/-- A label as it is meant, if it may stand in a name. -/
def checkedLabel? (label : List Char) : Option (List Char) := do
  let meant ← meaning? label
  if meant.all isAllowed && (meant.all isAscii || isLabel meant) then some meant else none

/-- A label in ASCII. -/
def encodeLabel (label : List Char) : List Char :=
  if label.all isAscii then label else 'x' :: 'n' :: '-' :: '-' :: Punycode.encode label

/-- Labels with dots between them. -/
def joinLabels : List (List Char) → List Char
  | [] => []
  | [l] => l
  | l :: ls => l ++ '.' :: joinLabels ls

/-- The labels of a name as they are meant, if it is a domain name. -/
def labels? (name : List Char) : Option (List (List Char)) := do
  let labels ← (Text.pieces '.' (← fold name)).mapM checkedLabel?
  if isBidirectional labels && !labels.all keepsDirection then none else some labels

/-- The name in ASCII, if it is a domain name. -/
def toAscii? (name : List Char) : Option (List Char) :=
  (labels? name).map fun labels => joinLabels (labels.map encodeLabel)

end PackageRegistry.Url.Domain
