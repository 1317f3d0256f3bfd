import PackageRegistry.Json.Literal
import PackageRegistry.Json.Printer
import PackageRegistry.Json.Reader
import PackageRegistry.Text.Quoted

/-!
The form that a document has to have, and the first place where a text departs from it. Reading goes
from left to right, so that a part of the wrong type is found before a defect of form behind it. The
parts of a record that it does not know are checked for their form only.
-/

namespace PackageRegistry.Json

open Text (Glyph)

inductive Schema where
  | text
  /-- Null, or what the inner schema asks for. -/
  | nullable (inner : Schema)
  /-- An object, or an array of the fields in order. Only fields that may be null may be missing. -/
  | record (name : String) (fields : List (String × Schema))

namespace Schema

open Reader

def isNullable : Schema → Bool
  | .nullable _ => true
  | _ => false

/-- What a fault says that was expected. -/
def expected : Schema → String
  | .text => "a string"
  | .nullable s => expected s
  | .record name _ => "struct " ++ name

/-! ### Strings -/

/-- The character of an escaped code unit: one half of a pair asks for the other half. -/
def escapedChar (unit : Nat) (rest : List Glyph) : Except Stop (Char × List Glyph) :=
  if 0xDC00 ≤ unit ∧ unit ≤ 0xDFFF then stopBefore .loneSurrogate rest
  else if unit < 0xD800 ∨ 0xDFFF < unit then .ok (Char.ofNat unit, rest)
  else
    match rest with
    | [] => stopEnd .endInString
    | .char '\\' :: [] => stopEnd .endInString
    | .char '\\' :: .char 'u' :: more => do
      let (low, after) ← hexUnit more
      if 0xDC00 ≤ low ∧ low ≤ 0xDFFF then .ok (pairChar unit low, after)
      else stopBefore .loneSurrogate after
    | .char '\\' :: other => stopAt .brokenPair other
    | other => stopAt .brokenPair other

/-- The characters of a string literal behind its opening quotation mark; the fuel bounds their
number. -/
def stringChars : Nat → List Glyph → Except Stop (List Char × List Glyph)
  | 0, _ => stopEnd .endInString
  | fuel + 1, input =>
    match input with
    | [] => stopEnd .endInString
    | .char '"' :: rest => .ok ([], rest)
    | .char '\\' :: [] => stopEnd .endInString
    | .char '\\' :: .char 'u' :: rest => do
      let (unit, rest) ← hexUnit rest
      let (c, rest) ← escapedChar unit rest
      let (cs, rest) ← stringChars fuel rest
      return (c :: cs, rest)
    | .char '\\' :: g :: rest => do
      match g with
      | .char e =>
        match shortEscape? e with
        | some c =>
          let (cs, rest) ← stringChars fuel rest
          return (c :: cs, rest)
        | none => stopAt .invalidEscape (g :: rest)
      | .stray _ => stopAt .invalidEscape (g :: rest)
    | .char c :: rest => do
      if c.toNat < 32 then stopAt .controlCharacter (.char c :: rest)
      let (cs, rest) ← stringChars fuel rest
      return (c :: cs, rest)
    | .stray bytes :: rest => stopBefore .invalidCharacter (.stray bytes :: rest)

/-- A string literal behind its opening quotation mark. -/
def string (input : List Glyph) : Step String :=
  (stringChars (input.length + 1) input).map fun (cs, rest) => (String.ofList cs, rest)

/-! ### Values of the wrong type -/

/-- The digits of an exponent behind those that already exceed every exponent of 32 bits. -/
def unreadDigits : Nat → List Char → List Char
  | _, [] => []
  | acc, c :: cs =>
    let next := acc * 10 + (c.toNat - 48)
    if 2147483647 < next then cs else unreadDigits next cs

/-- The digits of a number too large that are not looked at any more. -/
def unread (n : Numeral) : List Char :=
  match n.exponent with
  | some (false, ds) => unreadDigits 0 ds
  | _ => []

/-- What a fault says that was found in a number. -/
def foundNumber : Number → String
  | .double x => "floating point `" ++ String.ofList (numberText (.double x)) ++ "`"
  | n => "integer `" ++ String.ofList (numberText n) ++ "`"

/-- A value found in place of another one: what it is called, and what follows the part of it that
was read. -/
def found (c : Char) (rest : List Glyph) : Except Stop (String × List Glyph) :=
  if c = 'n' then (word .null ['u', 'l', 'l'] rest).map fun (_, r) => ("null", r)
  else if c = 't' then
    (word (.bool true) ['r', 'u', 'e'] rest).map fun (_, r) => ("boolean `true`", r)
  else if c = 'f' then
    (word (.bool false) ['a', 'l', 's', 'e'] rest).map fun (_, r) => ("boolean `false`", r)
  else if c = '-' ∨ c.isDigit then do
    match ← number (c = '-') (if c = '-' then rest else .char c :: rest) with
    | (.number n, r) =>
      match n.read with
      | .ok n => .ok (foundNumber n, r)
      | .error d => stopBefore d ((unread n).map Glyph.char ++ r)
    | (_, r) => stopBefore .invalidNumber r
  else if c = '"' then (string rest).map fun (s, r) => ("string " ++ Text.quoted s, r)
  else if c = '[' then .ok ("sequence", .char c :: rest)
  else if c = '\x7b' then .ok ("map", .char c :: rest)
  else stopAt .expectedValue (.char c :: rest)

/-- Refuses a value that is not what was expected. -/
def refuse (s : Schema) (input : List Glyph) : Except Stop (List Glyph) :=
  match input with
  | [] => stopEnd .endInValue
  | .stray bytes :: rest => stopAt .expectedValue (.stray bytes :: rest)
  | .char c :: rest => do
    let (what, rest) ← found c rest
    stopBefore (.wrongType what s.expected) rest

/-! ### Parts that are passed over -/

/-- Passes over a number. One that the end of the text cuts short is not a number. -/
def skipNumber (negative : Bool) (input : List Glyph) : Except Stop (List Glyph) :=
  match number negative input with
  | .ok (_, rest) => .ok rest
  | .error s => .error (if s.defect = .endInValue then { s with defect := .invalidNumber } else s)

/-- Passes over a string literal behind its opening quotation mark, and stops in front of a control
character. -/
def skipString (input : List Glyph) : Except Stop (List Glyph) :=
  match Reader.stringLiteral input with
  | .ok (_, rest) => .ok rest
  | .error s => .error (if s.defect = .controlCharacter then { s with seen := 0 } else s)

/-- Passes over a key and its colon. -/
def skipKey (input : List Glyph) : Except Stop (List Glyph) := do
  match skipSpace input with
  | [] => stopEnd .endInObject
  | .char '"' :: rest =>
    match skipSpace (← skipString rest) with
    | [] => stopEnd .endInObject
    | .char ':' :: more => .ok more
    | other => stopAt .expectedColon other
  | other => stopAt .keyNotString other

mutual

/-- Passes over a value of any depth; the fuel bounds the length of the text. -/
def skipValue : Nat → List Glyph → Except Stop (List Glyph)
  | 0, _ => stopEnd .endInValue
  | fuel + 1, input =>
    match skipSpace input with
    | [] => stopEnd .endInValue
    | .stray bytes :: rest => stopAt .expectedValue (.stray bytes :: rest)
    | .char c :: rest =>
      if c = '-' then skipNumber true rest
      else if c.isDigit then skipNumber false (.char c :: rest)
      else if c = '"' then skipString rest
      else if c = '[' then
        match skipSpace rest with
        | [] => stopEnd .endInArray
        | .char ']' :: more => .ok more
        | more => skipItems fuel more
      else if c = '\x7b' then
        match skipSpace rest with
        | .char '\x7d' :: more => .ok more
        | more => skipMembers fuel more
      else (found c rest).map Prod.snd

/-- Passes over the items of an array and its end. After a comma there has to be a value. -/
def skipItems : Nat → List Glyph → Except Stop (List Glyph)
  | 0, _ => stopEnd .endInArray
  | fuel + 1, input => do
    match skipSpace (← skipValue fuel input) with
    | [] => stopEnd .endInArray
    | .char ']' :: rest => .ok rest
    | .char ',' :: rest => skipItems fuel rest
    | other => stopAt .expectedArrayEnd other

/-- Passes over the members of an object and its end. After a comma there has to be a key. -/
def skipMembers : Nat → List Glyph → Except Stop (List Glyph)
  | 0, _ => stopEnd .endInObject
  | fuel + 1, input => do
    match skipSpace (← skipValue fuel (← skipKey input)) with
    | [] => stopEnd .endInObject
    | .char '\x7d' :: rest => .ok rest
    | .char ',' :: rest => skipMembers fuel rest
    | other => stopAt .expectedObjectEnd other

end

/-- Passes over a value. -/
def skip (input : List Glyph) : Except Stop (List Glyph) :=
  skipValue (2 * input.length + 2) input

/-- The text behind the colon that follows a key. -/
def colon (input : List Glyph) : Except Stop (List Glyph) :=
  match skipSpace input with
  | [] => stopEnd .endInObject
  | .char ':' :: rest => .ok rest
  | other => stopAt .expectedColon other

/-- The text at the next key of an object: behind the opening quotation mark of the key, or nothing
at the end of the object. -/
def nextKey (first : Bool) (input : List Glyph) : Except Stop (Option (List Glyph)) :=
  let key (input : List Glyph) : Except Stop (Option (List Glyph)) :=
    match input with
    | [] => stopEnd .endInValue
    | .char '"' :: rest => .ok (some rest)
    | .char '\x7d' :: rest => stopAt .trailingComma (.char '\x7d' :: rest)
    | other => stopAt .keyNotString other
  match skipSpace input with
  | [] => stopEnd .endInObject
  | .char '\x7d' :: _ => .ok none
  | .char ',' :: rest => if first then key (.char ',' :: rest) else key (skipSpace rest)
  | other => if first then key other else stopAt .expectedObjectEnd other

/-- The text at the next item of an array, or nothing at its end. -/
def nextItem (first : Bool) (input : List Glyph) : Except Stop (Option (List Glyph)) :=
  match skipSpace input with
  | [] => stopEnd .endInArray
  | .char ']' :: _ => .ok none
  | .char ',' :: rest =>
    if first then .ok (some (.char ',' :: rest))
    else
      match skipSpace rest with
      | [] => stopEnd .endInValue
      | .char ']' :: more => stopAt .trailingComma (.char ']' :: more)
      | more => .ok (some more)
  | other => if first then .ok (some other) else stopAt .expectedArrayEnd other

/-- The text behind the end of an array that has all its items. -/
def arrayEnd (input : List Glyph) : Except Stop (List Glyph) :=
  match skipSpace input with
  | [] => stopEnd .endInArray
  | .char ']' :: rest => .ok rest
  | .char ',' :: rest =>
    match skipSpace rest with
    | .char ']' :: more => stopAt .trailingComma (.char ']' :: more)
    | more => stopAt .trailingText more
  | other => stopAt .trailingText other

/-- The text behind a closing bracket that is next but for blanks, or the text without the blanks. -/
def pastBracket (bracket : Char) (input : List Glyph) : List Glyph :=
  match skipSpace input with
  | .char c :: rest => if c = bracket then rest else .char c :: rest
  | other => other

/-! ### Documents -/

mutual

/-- Reads a value of a schema and gives what follows it; the fuel bounds the length of the text. -/
def check : Nat → Schema → List Glyph → Except Stop (List Glyph)
  | 0, _, _ => stopEnd .endInValue
  | _ + 1, .text, input =>
    match skipSpace input with
    | .char '"' :: rest => (string rest).map Prod.snd
    | other => refuse .text other
  | fuel + 1, .nullable s, input =>
    match skipSpace input with
    | .char 'n' :: rest => (word .null ['u', 'l', 'l'] rest).map Prod.snd
    | other => check fuel s other
  | fuel + 1, .record name fields, input =>
    match skipSpace input with
    | .char '[' :: rest => items fuel name 0 fields rest
    | .char '\x7b' :: rest => members fuel fields [] true rest
    | other => refuse (.record name fields) other

/-- Reads the fields of a record that is an array, of which `count` have been read. -/
def items : Nat → String → Nat → List (String × Schema) → List Glyph → Except Stop (List Glyph)
  | 0, _, _, _, _ => stopEnd .endInArray
  | _, _, _, [], input => arrayEnd input
  | fuel + 1, name, count, (_, s) :: fields, input => do
    match ← nextItem (count = 0) input with
    | some rest => items fuel name (count + 1) fields (← check fuel s rest)
    | none =>
      if ((("", s) :: fields).all fun f => f.2.isNullable) then arrayEnd input
      else
        stopBefore
          (.wrongLength count
            ("struct " ++ name ++ " with " ++ toString (count + 1 + fields.length) ++ " elements"))
          (pastBracket ']' input)

/-- Reads the members of a record that is an object, of which those under `seen` have been read. -/
def members : Nat → List (String × Schema) → List String → Bool → List Glyph →
    Except Stop (List Glyph)
  | 0, _, _, _, _ => stopEnd .endInObject
  | fuel + 1, fields, seen, first, input => do
    match ← nextKey first input with
    | none =>
      let rest := pastBracket '\x7d' input
      match fields.find? fun f => !f.2.isNullable && !seen.contains f.1 with
      | some (k, _) => stopBefore (.missingField k) rest
      | none => .ok rest
    | some rest =>
      let (k, rest) ← string rest
      match fields.find? fun f => f.1 = k with
      | none => members fuel fields seen false (← skip (← colon rest))
      | some (_, s) =>
        if seen.contains k then stopBefore (.repeatedField k) (pastBracket '\x7d' rest)
        else members fuel fields (k :: seen) false (← check fuel s (← colon rest))

end

/-- The first place where a text departs from a schema. -/
def fault? (s : Schema) (input : List Glyph) : Option Fault :=
  match check (2 * input.length + 8) s input with
  | .error stop => some (faultOf input stop)
  | .ok rest =>
    match skipSpace rest with
    | [] => none
    | more => some (faultOf input ⟨.trailingText, more, 1⟩)

end Schema

end PackageRegistry.Json
