import PackageRegistry.Text.Hexadecimal
import PackageRegistry.Text.Utf8

/-!
Percent encoding. What lies outside ASCII is always encoded, byte by byte; the sets say which ASCII
characters are encoded too.
-/

namespace PackageRegistry.Url

open Text (Utf8.encodeChar Utf8.encode)

def isControl (c : Char) : Bool := c.toNat < 0x20 || c.toNat == 0x7F

/-- The ASCII characters that are encoded in each part of a URL. -/
inductive Part where
  | free
  | fragment
  | query
  | specialQuery
  | path
  | userinfo
deriving DecidableEq, Repr

namespace Part

/-- The printable characters that a part does not take as they are. -/
def reserved : Part → List Char
  | .free => []
  | .fragment => [' ', '"', '<', '>', '\x60']
  | .query => [' ', '"', '#', '<', '>']
  | .specialQuery => [' ', '"', '#', '<', '>', '\'']
  | .path => [' ', '"', '<', '>', '\x60', '#', '?', '\x7b', '\x7d']
  | .userinfo =>
    [' ', '"', '<', '>', '\x60', '#', '?', '\x7b', '\x7d', '/', ':', ';', '=', '@', '[', '\\', ']',
      '^', '|']

/-- Whether a character stands for itself in a part. -/
def keeps (p : Part) (c : Char) : Bool :=
  c.toNat < 0x80 && !isControl c && !p.reserved.contains c

end Part

/-- A digit of base sixteen in upper case. -/
def hexDigit (n : Nat) : Char :=
  if n < 10 then Char.ofNat (48 + n) else Char.ofNat (55 + n)

def percentByte (b : UInt8) : List Char := ['%', hexDigit (b.toNat / 16), hexDigit (b.toNat % 16)]

/-- A character, encoded unless it is kept. -/
def percentChar (keeps : Char → Bool) (c : Char) : List Char :=
  if keeps c then [c] else (Utf8.encodeChar c).flatMap percentByte

def percentEncode (keeps : Char → Bool) (cs : List Char) : List Char :=
  cs.flatMap (percentChar keeps)

/-- The bytes of an encoded text; a percent sign without two digits stands for itself. -/
def percentDecode : List Char → List UInt8
  | [] => []
  | '%' :: a :: b :: rest =>
    match Text.hexValue? a, Text.hexValue? b with
    | some x, some y => UInt8.ofNat (x * 16 + y) :: percentDecode rest
    | _, _ => 37 :: percentDecode (a :: b :: rest)
  | c :: rest => Utf8.encodeChar c ++ percentDecode rest

end PackageRegistry.Url
