import PackageRegistry.Text.Hexadecimal
import PackageRegistry.Time.Rfc3339
import PackageRegistry.Toml.Value

/-!
The literals of a configuration document: strings of four kinds, numbers, words, dates and times.
Each reader takes the front of a text and gives what it read and what follows.
-/

namespace PackageRegistry.Toml

/-- A character that may stand in a comment or string. -/
def isPlain (c : Char) : Bool := c == '\t' || (0x20 ≤ c.toNat && c.toNat ≠ 0x7F)

def isSpace (c : Char) : Bool := c == ' ' || c == '\t'

/-- The text behind a line end. -/
def newline? : List Char → Option (List Char)
  | '\n' :: rest => some rest
  | '\r' :: '\n' :: rest => some rest
  | _ => none

/-- The character with a code point in base sixteen. -/
def codePoint? (digits : List Char) : Option Char := do
  let n ← Text.hexNumber? digits
  if n < 0xD800 ∨ (0xDFFF < n ∧ n < 0x110000) then some (Char.ofNat n) else none

def shortEscape? (c : Char) : Option Char :=
  match c with
  | 'b' => some '\x08'
  | 't' => some '\t'
  | 'n' => some '\n'
  | 'f' => some '\x0c'
  | 'e' => some '\x1b'
  | 'r' => some '\r'
  | '"' => some '"'
  | '\\' => some '\\'
  | _ => none

/-- Puts a character in front of what was read. -/
def before (c : Char) : Option (List Char × List Char) → Option (List Char × List Char)
  | some (cs, rest) => some (c :: cs, rest)
  | none => none

/-- A string with escapes, behind its opening quote. -/
def basic : List Char → Option (List Char × List Char)
  | '"' :: rest => some ([], rest)
  | '\\' :: 'x' :: a :: b :: rest =>
    (codePoint? [a, b]).bind fun x => before x (basic rest)
  | '\\' :: 'u' :: a :: b :: c :: d :: rest =>
    (codePoint? [a, b, c, d]).bind fun x => before x (basic rest)
  | '\\' :: 'U' :: a :: b :: c :: d :: e :: f :: g :: h :: rest =>
    (codePoint? [a, b, c, d, e, f, g, h]).bind fun x => before x (basic rest)
  | '\\' :: c :: rest => (shortEscape? c).bind fun x => before x (basic rest)
  | c :: rest => if isPlain c ∧ c ≠ '\\' then before c (basic rest) else none
  | [] => none

/-- A string without escapes, behind its opening quote. -/
def literal : List Char → Option (List Char × List Char)
  | '\'' :: rest => some ([], rest)
  | c :: rest => if isPlain c then before c (literal rest) else none
  | [] => none

/-- What ends a string of several lines behind three quotes: up to two more quotes belong to it. -/
def closing (quote : Char) : List Char → List Char × List Char
  | a :: b :: rest =>
    if a = quote ∧ b = quote then ([a, b], rest)
    else if a = quote then ([a], b :: rest)
    else ([], a :: b :: rest)
  | [a] => if a = quote then ([a], []) else ([], [a])
  | [] => ([], [])

/-- Whether only blanks stand before the next line end. -/
def endsLine (cs : List Char) : Bool := (newline? (cs.dropWhile isSpace)).isSome

/-- A string of several lines with escapes. After a backslash at the end of a line, blanks and line
ends are skipped; all other line ends stay as they are. -/
def basicLines (skipping : Bool) : List Char → Option (List Char × List Char)
  | '"' :: '"' :: '"' :: rest => some (closing '"' rest)
  | '\\' :: 'x' :: a :: b :: rest =>
    (codePoint? [a, b]).bind fun x => before x (basicLines false rest)
  | '\\' :: 'u' :: a :: b :: c :: d :: rest =>
    (codePoint? [a, b, c, d]).bind fun x => before x (basicLines false rest)
  | '\\' :: 'U' :: a :: b :: c :: d :: e :: f :: g :: h :: rest =>
    (codePoint? [a, b, c, d, e, f, g, h]).bind fun x => before x (basicLines false rest)
  | '\\' :: c :: rest =>
    if endsLine (c :: rest) then basicLines true (c :: rest)
    else (shortEscape? c).bind fun x => before x (basicLines false rest)
  | '\r' :: '\n' :: rest =>
    if skipping then basicLines true rest
    else before '\r' (before '\n' (basicLines false rest))
  | c :: rest =>
    if c = '\n' ∨ isSpace c then
      if skipping then basicLines true rest else before c (basicLines false rest)
    else if isPlain c ∧ c ≠ '\\' then before c (basicLines false rest)
    else none
  | [] => none

/-- A string of several lines without escapes. -/
def literalLines : List Char → Option (List Char × List Char)
  | '\'' :: '\'' :: '\'' :: rest => some (closing '\'' rest)
  | '\r' :: '\n' :: rest => before '\r' (before '\n' (literalLines rest))
  | c :: rest => if isPlain c ∨ c = '\n' then before c (literalLines rest) else none
  | [] => none

/-- The text behind a line end, if there is one. -/
def dropNewline (cs : List Char) : List Char := (newline? cs).getD cs

/-- Any string. -/
def string? : List Char → Option (List Char × List Char)
  | '"' :: '"' :: '"' :: rest => basicLines false (dropNewline rest)
  | '"' :: rest => basic rest
  | '\'' :: '\'' :: '\'' :: rest => literalLines (dropNewline rest)
  | '\'' :: rest => literal rest
  | _ => none

def isBareChar (c : Char) : Bool :=
  ('a' ≤ c && c ≤ 'z') || ('A' ≤ c && c ≤ 'Z') || ('0' ≤ c && c ≤ '9') || c == '_' || c == '-'

/-- Digits with single underscores between them, without the underscores. -/
def digits? (isDigit : Char → Bool) : List Char → Option (List Char)
  | [] => none
  | [c] => if isDigit c then some [c] else none
  | c :: '_' :: rest => if isDigit c then (digits? isDigit rest).map (c :: ·) else none
  | c :: rest => if isDigit c then (digits? isDigit rest).map (c :: ·) else none

def isDecimal (c : Char) : Bool := '0' ≤ c && c ≤ '9'

def isHex (c : Char) : Bool := (Text.hexValue? c).isSome

def isOctal (c : Char) : Bool := '0' ≤ c && c ≤ '7'

def isBinary (c : Char) : Bool := c == '0' || c == '1'

def valueOf (base : Nat) (ds : List Char) : Nat :=
  ds.foldl (fun n c => n * base + (Text.hexValue? c).getD 0) 0

/-- Whether a number fits 64 bits with a sign. -/
def fits (n : Int) : Bool := -9223372036854775808 ≤ n && n ≤ 9223372036854775807

/-- An integer of 64 bits. -/
def inRange (n : Int) : Option Value := if fits n then some (.integer n) else none

/-- Digits of base ten without needless zeros in front. -/
def whole? (cs : List Char) : Option (List Char) := do
  let ds ← digits? isDecimal cs
  if 1 < ds.length ∧ ds.head? = some '0' then none else some ds

/-- The sign of a number and the rest of it. -/
def sign : List Char → Bool × List Char
  | '-' :: rest => (true, rest)
  | '+' :: rest => (false, rest)
  | cs => (false, cs)

def integer? (cs : List Char) : Option Value :=
  match cs with
  | '0' :: 'x' :: rest => (digits? isHex rest).bind fun ds => inRange (valueOf 16 ds)
  | '0' :: 'o' :: rest => (digits? isOctal rest).bind fun ds => inRange (valueOf 8 ds)
  | '0' :: 'b' :: rest => (digits? isBinary rest).bind fun ds => inRange (valueOf 2 ds)
  | cs =>
    let (negative, rest) := sign cs
    (whole? rest).bind fun ds =>
      let n : Int := valueOf 10 ds
      inRange (if negative then -n else n)

/-- The part of a number behind its point, with the point. -/
def fraction? : List Char → Option (List Char)
  | [] => some []
  | '.' :: rest => (digits? isDecimal rest).map ('.' :: ·)
  | _ => none

/-- The exponent of a number, with its mark. -/
def exponent? (cs : List Char) : Option (List Char) := do
  let (negative, rest) := sign cs
  let ds ← digits? isDecimal rest
  return 'e' :: (if negative then '-' :: ds else ds)

/-- A number with a point or an exponent, or a word for one. -/
def float? (cs : List Char) : Option Value := do
  let (negative, rest) := sign cs
  let signText := if negative then ['-'] else []
  if rest = ['i', 'n', 'f'] then return .float (.signed negative .infinite)
  if rest = ['n', 'a', 'n'] then return .float .nan
  let mantissa := rest.takeWhile fun c => c ≠ 'e' ∧ c ≠ 'E'
  let tail := rest.drop mantissa.length
  let front ← whole? (mantissa.takeWhile (· ≠ '.'))
  let middle ← fraction? (mantissa.dropWhile (· ≠ '.'))
  let power ← if tail.isEmpty then some [] else exponent? tail.tail
  if middle.isEmpty ∧ power.isEmpty then none
  match ← Numeric.Binary64.parse? (String.ofList (signText ++ front ++ middle ++ power)) with
  | .signed _ .infinite => none
  | x => return .float x

/-- The part of a second that is written, with as few digits as show it but at least one. -/
def fractionText (nanos : Nat) : String :=
  let digits := ((Time.padded 9 nanos).toList.reverse.dropWhile (· == '0')).reverse
  "." ++ if digits.isEmpty then "0" else String.ofList digits

/-- The seconds of a time of day in their plain form, which may be left out, and what follows. -/
def seconds? (cs : List Char) : Option (String × List Char) :=
  match cs with
  | ':' :: rest => do
    let (second, rest) ← Time.Rfc3339.fixed 2 rest
    if 60 < second then none
    let (nanos, after) ← Time.Rfc3339.fraction rest
    let written := if after.length < rest.length then fractionText nanos else ""
    return (":" ++ Time.padded 2 second ++ written, after)
  | _ => some ("", cs)

/-- A time of day in its plain form, and what follows it. -/
def time? (cs : List Char) : Option (String × List Char) := do
  let (hour, cs) ← Time.Rfc3339.fixed 2 cs
  let cs ← Time.Rfc3339.oneOf [':'] cs
  let (minute, cs) ← Time.Rfc3339.fixed 2 cs
  if 23 < hour ∨ 59 < minute then none
  let (seconds, cs) ← seconds? cs
  return (Time.padded 2 hour ++ ":" ++ Time.padded 2 minute ++ seconds, cs)

/-- An offset from UTC in its plain form. -/
def offsetText? (cs : List Char) : Option String :=
  match cs with
  | [] => some ""
  | ['Z'] | ['z'] => some "Z"
  | '−' :: _ => none
  | cs => do
    let (minutes, rest) ← Time.Rfc3339.offset cs
    if rest.isEmpty then
      let n := minutes.natAbs
      some ((if minutes < 0 then "-" else "+") ++ Time.padded 2 (n / 60) ++ ":" ++
        Time.padded 2 (n % 60))
    else none

/-- A date, a time, or both, in their plain form. -/
def moment? (cs : List Char) : Option Value :=
  match Time.Rfc3339.date cs with
  | none => do
    let (t, rest) ← time? cs
    if rest.isEmpty then some (.text t) else none
  | some (d, []) => some (.text d.text)
  | some (d, c :: rest) => do
    if c ≠ 'T' ∧ c ≠ 't' ∧ c ≠ ' ' then none
    let (t, rest) ← time? rest
    let offset ← offsetText? rest
    some (.text (d.text ++ "T" ++ t ++ offset))

/-- A character that a number, date or word can have. -/
def isScalarChar (c : Char) : Bool := isBareChar c || c == '+' || c == '.' || c == ':'

/-- The longest front that can be a number, date or word; a blank may divide a date from a time. -/
def scalarText (cs : List Char) : List Char × List Char :=
  let front := cs.takeWhile isScalarChar
  let rest := cs.drop front.length
  match Time.Rfc3339.date front, rest with
  | some (_, []), ' ' :: c :: _ =>
    if isDecimal c then
      let time := rest.tail.takeWhile isScalarChar
      (front ++ ' ' :: time, rest.tail.drop time.length)
    else (front, rest)
  | _, _ => (front, rest)

/-- A number, date or word. -/
def scalar? (cs : List Char) : Option (Value × List Char) :=
  let (front, rest) := scalarText cs
  let value :=
    if front = ['t', 'r', 'u', 'e'] then some (Value.boolean true)
    else if front = ['f', 'a', 'l', 's', 'e'] then some (.boolean false)
    else ((integer? front).or (float? front)).or (moment? front)
  value.map fun v => (v, rest)

end PackageRegistry.Toml
