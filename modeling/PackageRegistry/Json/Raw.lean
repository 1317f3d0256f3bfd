import PackageRegistry.Text.Hexadecimal
import PackageRegistry.Text.Utf8

/-!
JSON text as written: the tree of a document with its literals still unread, so that a part nobody
asks for is checked for its form only.
-/

namespace PackageRegistry.Json

open Text

/-- What stands inside a string literal: a character, half of a surrogate pair given by an escape,
or bytes that are no character. -/
inductive Mark where
  | char (c : Char)
  | half (unit : Nat)
  | stray (bytes : List UInt8)
deriving DecidableEq, Repr

/-- A number literal: sign, digits before and after the point, and the exponent with its sign. -/
structure Numeral where
  negative : Bool
  whole : List Char
  fraction : Option (List Char)
  exponent : Option (Bool × List Char)
deriving DecidableEq, Repr

inductive Raw where
  | null
  | bool (b : Bool)
  | number (n : Numeral)
  | string (marks : List Mark)
  | array (items : List Raw)
  | object (fields : List (List Mark × Raw))
deriving Repr

/-- Why a document cannot be read. -/
inductive Defect where
  | endInValue | endInArray | endInObject | endInString
  | expectedColon | expectedArrayEnd | expectedObjectEnd
  | misspeltWord | expectedValue | invalidEscape | invalidNumber
  | controlCharacter | keyNotString | trailingComma | trailingText
  | numberOutOfRange | loneSurrogate | invalidCharacter | tooDeep
  | brokenPair | invalidType | missingField (name : String) | repeatedField (name : String)
  | wrongType (found expected : String) | wrongLength (found : Nat) (expected : String)
deriving DecidableEq, Repr

namespace Defect

def message : Defect → String
  | .endInValue => "EOF while parsing a value"
  | .endInArray => "EOF while parsing a list"
  | .endInObject => "EOF while parsing an object"
  | .endInString => "EOF while parsing a string"
  | .expectedColon => "expected `:`"
  | .expectedArrayEnd => "expected `,` or `]`"
  | .expectedObjectEnd => "expected `,` or `\x7d`"
  | .misspeltWord => "expected ident"
  | .expectedValue => "expected value"
  | .invalidEscape => "invalid escape"
  | .invalidNumber => "invalid number"
  | .controlCharacter => "control character (\\u0000-\\u001F) found while parsing a string"
  | .keyNotString => "key must be a string"
  | .trailingComma => "trailing comma"
  | .trailingText => "trailing characters"
  | .numberOutOfRange => "number out of range"
  | .loneSurrogate => "lone leading surrogate in hex escape"
  | .brokenPair => "unexpected end of hex escape"
  | .invalidCharacter => "invalid unicode code point"
  | .tooDeep => "recursion limit exceeded"
  | .invalidType => "invalid type"
  | .missingField name => "missing field `" ++ name ++ "`"
  | .repeatedField name => "duplicate field `" ++ name ++ "`"
  | .wrongType found expected => "invalid type: " ++ found ++ ", expected " ++ expected
  | .wrongLength found expected => "invalid length " ++ toString found ++ ", expected " ++ expected

end Defect

/-- A defect, and for one of form the line and the byte column where it shows. -/
structure Fault where
  defect : Defect
  position : Option (Nat × Nat)
deriving DecidableEq, Repr

namespace Fault

def message (f : Fault) : String :=
  f.defect.message ++
    match f.position with
    | some (line, column) => " at line " ++ toString line ++ " column " ++ toString column
    | none => ""

end Fault

end PackageRegistry.Json
