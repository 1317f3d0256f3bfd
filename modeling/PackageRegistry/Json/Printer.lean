import PackageRegistry.Json.Value

/-!
The two written forms of a JSON value: compact, and pretty with two blanks of indentation a level.
-/

namespace PackageRegistry.Json

/-- The lower-case hexadecimal digit of a number below 16. -/
def hexDigit (n : Nat) : Char :=
  if n < 10 then Char.ofNat (48 + n) else Char.ofNat (87 + n)

/-- A character inside a string literal. The quotation mark, the backslash and the controls below
the blank are escaped, with the short form where there is one. -/
def escapeChar (c : Char) : List Char :=
  if c = '"' then ['\\', '"']
  else if c = '\\' then ['\\', '\\']
  else if c = '\n' then ['\\', 'n']
  else if c = '\r' then ['\\', 'r']
  else if c = '\t' then ['\\', 't']
  else if c.toNat = 8 then ['\\', 'b']
  else if c.toNat = 12 then ['\\', 'f']
  else if c.toNat < 32 then ['\\', 'u', '0', '0', hexDigit (c.toNat / 16), hexDigit (c.toNat % 16)]
  else [c]

def stringLiteral (s : String) : List Char :=
  '"' :: s.toList.flatMap escapeChar ++ ['"']

/-- The fewest digits that read back: positional with at least one place while the leading digit
stands between the fifth place after the point and the sixteenth before it, and with an exponent
beyond. -/
def doubleText (mantissa : Nat) (exponent : Int) : List Char :=
  let d := (Numeric.Decimal.shortest mantissa exponent).normal
  let ds := Nat.toDigits 10 d.digits
  let lead : Int := ds.length + d.exponent
  if d.digits = 0 then ['0', '.', '0']
  else if 0 ≤ d.exponent ∧ lead ≤ 16 then d.positional.toList ++ ['.', '0']
  else if -5 < lead ∧ lead ≤ 16 then d.positional.toList
  else
    let body := match ds with
      | [] => []
      | [x] => [x]
      | x :: more => x :: '.' :: more
    body ++ 'e' :: (toString (lead - 1)).toList

def numberText : Number → List Char
  | .natural n => Nat.toDigits 10 n
  | .negative n => '-' :: Nat.toDigits 10 n
  | .double (.signed negative (.finite m e)) =>
    (if negative then ['-'] else []) ++ doubleText m e
  | .double _ => ['n', 'u', 'l', 'l']

/-- The written forms of the members of a list with commas between them. -/
def commaJoin : List (List Char) → List Char
  | [] => []
  | [x] => x
  | x :: rest => x ++ ',' :: commaJoin rest

mutual

/-- A value on one line without blanks. -/
def compactChars : Value → List Char
  | .null => ['n', 'u', 'l', 'l']
  | .bool true => ['t', 'r', 'u', 'e']
  | .bool false => ['f', 'a', 'l', 's', 'e']
  | .number n => numberText n
  | .string s => stringLiteral s
  | .array items => '[' :: commaJoin (compactItems items) ++ [']']
  | .object fields => '\x7b' :: commaJoin (compactFields fields) ++ ['\x7d']

def compactItems : List Value → List (List Char)
  | [] => []
  | v :: vs => compactChars v :: compactItems vs

def compactFields : List (String × Value) → List (List Char)
  | [] => []
  | (k, v) :: fs => (stringLiteral k ++ ':' :: compactChars v) :: compactFields fs

end

/-- A line feed and the indentation of a level. -/
def newLine (level : Nat) : List Char := '\n' :: List.replicate (2 * level) ' '

/-- Members on lines of their own, one level in, with commas between them. -/
def block (level : Nat) (members : List (List Char)) : List Char :=
  newLine (level + 1) ++ inner members ++ newLine level
where
  inner : List (List Char) → List Char
    | [] => []
    | [x] => x
    | x :: rest => x ++ ',' :: newLine (level + 1) ++ inner rest

mutual

/-- A value over several lines, as seen at a level of nesting. -/
def prettyChars (level : Nat) : Value → List Char
  | .array [] => ['[', ']']
  | .array (v :: vs) =>
    '[' :: block level (prettyChars (level + 1) v :: prettyItems (level + 1) vs) ++ [']']
  | .object [] => ['\x7b', '\x7d']
  | .object ((k, v) :: fs) =>
    '\x7b' :: block level ((stringLiteral k ++ ':' :: ' ' :: prettyChars (level + 1) v) ::
      prettyFields (level + 1) fs) ++ ['\x7d']
  | v => compactChars v

def prettyItems (level : Nat) : List Value → List (List Char)
  | [] => []
  | v :: vs => prettyChars level v :: prettyItems level vs

def prettyFields (level : Nat) : List (String × Value) → List (List Char)
  | [] => []
  | (k, v) :: fs =>
    (stringLiteral k ++ ':' :: ' ' :: prettyChars level v) :: prettyFields level fs

end

namespace Value

def compact (v : Value) : String := String.ofList (compactChars v)

def pretty (v : Value) : String := String.ofList (prettyChars 0 v)

end Value

end PackageRegistry.Json
