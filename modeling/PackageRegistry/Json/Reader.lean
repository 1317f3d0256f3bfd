import PackageRegistry.Json.Raw

/-!
Reading the form of a JSON document. The reader goes from left to right over the glyphs of a text
and stops at the first defect.
-/

namespace PackageRegistry.Json

open Text

/-- A defect, the glyphs that were still to be read when it showed, and how many bytes of them had
been seen. -/
structure Stop where
  defect : Defect
  rest : List Glyph
  seen : Nat

abbrev Step (α : Type) := Except Stop (α × List Glyph)

namespace Reader

/-- A defect shown by the first byte of the next glyph. -/
def stopAt {α : Type} (d : Defect) (input : List Glyph) : Except Stop α := .error ⟨d, input, 1⟩

/-- A defect that shows in what was read. -/
def stopBefore {α : Type} (d : Defect) (input : List Glyph) : Except Stop α := .error ⟨d, input, 0⟩

/-- A defect that shows at the end of the text. -/
def stopEnd {α : Type} (d : Defect) : Except Stop α := stopBefore d []

def isSpace : Glyph → Bool
  | .char c => c = ' ' || c = '\n' || c = '\t' || c = '\r'
  | .stray _ => false

def skipSpace (input : List Glyph) : List Glyph := input.dropWhile isSpace

/-- The rest of a word after its first letter. -/
def word (value : Raw) : List Char → List Glyph → Step Raw
  | [], input => .ok (value, input)
  | _ :: _, [] => stopEnd .endInValue
  | c :: cs, g :: rest =>
    if g = .char c then word value cs rest else stopAt .misspeltWord (g :: rest)

def digit? : Glyph → Option Char
  | .char c => if c.isDigit then some c else none
  | .stray _ => none

/-- The digits at the front and what follows them. -/
def digits : List Glyph → List Char × List Glyph
  | [] => ([], [])
  | g :: rest =>
    match digit? g with
    | some c => let (ds, r) := digits rest; (c :: ds, r)
    | none => ([], g :: rest)

/-- One digit or more, where a number asks for them. -/
def someDigits (input : List Glyph) : Step (List Char) :=
  match digits input with
  | ([], []) => stopEnd .endInValue
  | ([], rest) => stopAt .invalidNumber rest
  | found => .ok found

def fraction (input : List Glyph) : Step (Option (List Char)) :=
  match input with
  | .char '.' :: rest => (someDigits rest).map fun (ds, r) => (some ds, r)
  | _ => .ok (none, input)

def exponentDigits (negative : Bool) (input : List Glyph) : Step (Option (Bool × List Char)) :=
  match digits input with
  | ([], []) => stopEnd .endInValue
  | ([], rest) => stopAt .invalidNumber rest
  | (ds, rest) => .ok (some (negative, ds), rest)

def exponent (input : List Glyph) : Step (Option (Bool × List Char)) :=
  match input with
  | .char c :: rest =>
    if c = 'e' ∨ c = 'E' then
      match rest with
      | .char '-' :: more => exponentDigits true more
      | .char '+' :: more => exponentDigits false more
      | more => exponentDigits false more
    else .ok (none, input)
  | _ => .ok (none, input)

/-- The digits before the point: a zero alone, or digits that do not begin with one. -/
def whole (input : List Glyph) : Step (List Char) :=
  match digits input with
  | ([], []) => stopEnd .endInValue
  | ([], rest) => stopAt .invalidNumber rest
  | ('0' :: d :: ds, rest) => stopAt .invalidNumber ((d :: ds).map Glyph.char ++ rest)
  | found => .ok found

def number (negative : Bool) (input : List Glyph) : Except Stop (Raw × List Glyph) := do
  let (w, r₁) ← whole input
  let (f, r₂) ← fraction r₁
  let (e, r₃) ← exponent r₂
  return (.number ⟨negative, w, f, e⟩, r₃)

/-- The code unit of four hexadecimal digits. -/
def hexUnit? : List Glyph → Option (Nat × List Glyph)
  | .char a :: .char b :: .char c :: .char d :: rest => do
    let w ← hexValue? a
    let x ← hexValue? b
    let y ← hexValue? c
    let z ← hexValue? d
    return (((w * 16 + x) * 16 + y) * 16 + z, rest)
  | _ => none

/-- The number of bytes of some glyphs. -/
def width (gs : List Glyph) : Nat := gs.foldl (fun n g => n + g.width) 0

/-- The code unit of an escape behind its letter. -/
def hexUnit (input : List Glyph) : Step Nat :=
  match hexUnit? input with
  | some found => .ok found
  | none => if width input < 4 then stopEnd .endInString else .error ⟨.invalidEscape, input, 4⟩

/-- A code unit as a mark: half of a pair, or the character it stands for. -/
def unitMark (n : Nat) : Mark :=
  if 0xD800 ≤ n ∧ n ≤ 0xDFFF then .half n else .char (Char.ofNat n)

/-- The character of an escape of one letter. -/
def shortEscape? (c : Char) : Option Char :=
  if c = '"' ∨ c = '\\' ∨ c = '/' then some c
  else if c = 'b' then some (Char.ofNat 8)
  else if c = 'f' then some (Char.ofNat 12)
  else if c = 'n' then some '\n'
  else if c = 'r' then some '\r'
  else if c = 't' then some '\t'
  else none

/-- The marks of a string literal after its opening quotation mark. -/
def stringMarks : Nat → List Glyph → Step (List Mark)
  | 0, _ => stopEnd .endInString
  | _, [] => stopEnd .endInString
  | fuel + 1, .stray bytes :: rest =>
    (stringMarks fuel rest).map fun (ms, r) => (.stray bytes :: ms, r)
  | fuel + 1, .char c :: rest =>
    if c = '"' then .ok ([], rest)
    else if c.toNat < 32 then stopAt .controlCharacter (.char c :: rest)
    else if c = '\\' then
      match rest with
      | [] => stopEnd .endInString
      | .stray bytes :: more => stopAt .invalidEscape (.stray bytes :: more)
      | .char e :: more =>
        if e = 'u' then
          match hexUnit more with
          | .ok (n, after) => (stringMarks fuel after).map fun (ms, r) => (unitMark n :: ms, r)
          | .error s => .error s
        else
          match shortEscape? e with
          | some x => (stringMarks fuel more).map fun (ms, r) => (.char x :: ms, r)
          | none => stopAt .invalidEscape (.char e :: more)
    else (stringMarks fuel rest).map fun (ms, r) => (.char c :: ms, r)

/-- A string literal after its opening quotation mark; every mark takes a glyph, so the length of
the input bounds the search. -/
def stringLiteral (input : List Glyph) : Step (List Mark) :=
  stringMarks (input.length + 1) input

mutual

/-- A value. The fuel bounds the nesting and the number of members together. -/
def value : Nat → List Glyph → Step Raw
  | 0, _ => stopEnd .endInValue
  | fuel + 1, input =>
    match skipSpace input with
    | [] => stopEnd .endInValue
    | .stray bytes :: rest => stopAt .expectedValue (.stray bytes :: rest)
    | .char c :: rest =>
      if c = 'n' then word .null ['u', 'l', 'l'] rest
      else if c = 't' then word (.bool true) ['r', 'u', 'e'] rest
      else if c = 'f' then word (.bool false) ['a', 'l', 's', 'e'] rest
      else if c = '-' then number true rest
      else if c.isDigit then number false (.char c :: rest)
      else if c = '"' then
        (stringLiteral rest).map fun (ms, r) => (.string ms, r)
      else if c = '[' then
        match skipSpace rest with
        | .char ']' :: more => .ok (.array [], more)
        | more => (items fuel more).map fun (vs, r) => (.array vs, r)
      else if c = '\x7b' then
        match skipSpace rest with
        | .char '\x7d' :: more => .ok (.object [], more)
        | more => (fields fuel more).map fun (fs, r) => (.object fs, r)
      else stopAt .expectedValue (.char c :: rest)

/-- The members of an array up to its end. -/
def items : Nat → List Glyph → Except Stop (List Raw × List Glyph)
  | 0, _ => stopEnd .endInArray
  | fuel + 1, input => do
    match input with
    | [] => stopEnd .endInArray
    | _ =>
      let (v, r) ← value fuel input
      match skipSpace r with
      | [] => stopEnd .endInArray
      | .char ']' :: more => .ok ([v], more)
      | .char ',' :: more =>
        match skipSpace more with
        | [] => stopEnd .endInValue
        | .char ']' :: after => stopAt .trailingComma (.char ']' :: after)
        | next => (items fuel next).map fun (vs, r') => (v :: vs, r')
      | more => stopAt .expectedArrayEnd more

/-- The fields of an object up to its end. -/
def fields : Nat → List Glyph → Except Stop (List (List Mark × Raw) × List Glyph)
  | 0, _ => stopEnd .endInObject
  | fuel + 1, input => do
    match input with
    | [] => stopEnd .endInObject
    | .char '"' :: rest =>
      let (k, r) ← stringLiteral rest
      match skipSpace r with
      | [] => stopEnd .endInObject
      | .char ':' :: more =>
        let (v, r') ← value fuel more
        match skipSpace r' with
        | [] => stopEnd .endInObject
        | .char '\x7d' :: after => .ok ([(k, v)], after)
        | .char ',' :: after =>
          match skipSpace after with
          | [] => stopEnd .endInValue
          | .char '\x7d' :: last => stopAt .trailingComma (.char '\x7d' :: last)
          | next => (fields fuel next).map fun (fs, r'') => ((k, v) :: fs, r'')
        | after => stopAt .expectedObjectEnd after
      | more => stopAt .expectedColon more
    | other => stopAt .keyNotString other

end

/-- Line and byte column after so many bytes of a text, counted on from a line and column. -/
def positionFrom (line column : Nat) : Nat → List Glyph → Nat × Nat
  | _, [] => (line, column)
  | bytes, g :: gs =>
    if bytes = 0 then (line, column)
    else if g = .char '\n' then positionFrom (line + 1) 0 (bytes - 1) gs
    else if g.width ≤ bytes then positionFrom line (column + g.width) (bytes - g.width) gs
    else (line, column + bytes)

def faultOf (input : List Glyph) (s : Stop) : Fault :=
  ⟨s.defect, some (positionFrom 1 0 (width input - width s.rest + s.seen) input)⟩

/-- A whole document: one value with nothing but blanks around it. -/
def document (input : List Glyph) : Except Fault Raw :=
  match value (2 * input.length + 2) input with
  | .error s => .error (faultOf input s)
  | .ok (v, rest) =>
    match skipSpace rest with
    | [] => .ok v
    | more => .error (faultOf input ⟨.trailingText, more, 1⟩)

end Reader

end PackageRegistry.Json
