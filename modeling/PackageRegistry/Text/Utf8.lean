/-!
UTF-8. Any bytes decode to a list of glyphs: characters, and the longest runs that begin a
character without completing it. Text is what decodes without such runs.
-/

namespace PackageRegistry.Text

/-- A decoded character, or a run of bytes that is no character. -/
inductive Glyph where
  | char (c : Char)
  | stray (bytes : List UInt8)
deriving DecidableEq, Repr

namespace Utf8

/-- The byte with the low six bits of a number, marked as a continuation. -/
def continuation (n : Nat) : UInt8 := UInt8.ofNat (0x80 + n % 64)

/-- The one to four bytes of a character. -/
def encodeChar (c : Char) : List UInt8 :=
  let n := c.toNat
  if n < 0x80 then [UInt8.ofNat n]
  else if n < 0x800 then [UInt8.ofNat (0xC0 + n / 64), continuation n]
  else if n < 0x10000 then
    [UInt8.ofNat (0xE0 + n / 4096), continuation (n / 64), continuation n]
  else
    [UInt8.ofNat (0xF0 + n / 262144), continuation (n / 4096), continuation (n / 64),
      continuation n]

def encode (s : String) : List UInt8 := s.toList.flatMap encodeChar

def within (low high : Nat) (b : UInt8) : Bool := low ≤ b.toNat && b.toNat ≤ high

/-- The range of the byte after a lead byte; it keeps out overlong forms, surrogates and numbers
past the last character. -/
def secondRange (lead : Nat) : Nat × Nat :=
  if lead = 0xE0 then (0xA0, 0xBF)
  else if lead = 0xED then (0x80, 0x9F)
  else if lead = 0xF0 then (0x90, 0xBF)
  else if lead = 0xF4 then (0x80, 0x8F)
  else (0x80, 0xBF)

/-- A character begun: its bytes so far, their value, how many bytes are to come, and the range of
the next one. -/
structure Partial where
  bytes : List UInt8
  value : Nat
  missing : Nat
  range : Nat × Nat

/-- What a byte begins: a glyph of its own, or a longer character. -/
def begin (b : UInt8) : Glyph ⊕ Partial :=
  let n := b.toNat
  if n < 0x80 then .inl (.char (Char.ofNat n))
  else if 0xC2 ≤ n ∧ n ≤ 0xDF then .inr ⟨[b], n - 0xC0, 1, secondRange n⟩
  else if 0xE0 ≤ n ∧ n ≤ 0xEF then .inr ⟨[b], n - 0xE0, 2, secondRange n⟩
  else if 0xF0 ≤ n ∧ n ≤ 0xF4 then .inr ⟨[b], n - 0xF0, 3, secondRange n⟩
  else .inl (.stray [b])

/-- Reads bytes as glyphs, with a character begun or none. -/
def decodeFrom : Option Partial → List UInt8 → List Glyph
  | none, [] => []
  | some p, [] => [.stray p.bytes]
  | none, b :: rest =>
    match begin b with
    | .inl g => g :: decodeFrom none rest
    | .inr p => decodeFrom (some p) rest
  | some p, b :: rest =>
    if within p.range.1 p.range.2 b then
      let value := p.value * 64 + b.toNat % 64
      if p.missing = 1 then .char (Char.ofNat value) :: decodeFrom none rest
      else decodeFrom (some ⟨p.bytes ++ [b], value, p.missing - 1, (0x80, 0xBF)⟩) rest
    else
      .stray p.bytes ::
        match begin b with
        | .inl g => g :: decodeFrom none rest
        | .inr q => decodeFrom (some q) rest

def decode (bytes : List UInt8) : List Glyph := decodeFrom none bytes

/-- The characters of glyphs, if there are only characters. -/
def chars? : List Glyph → Option (List Char)
  | [] => some []
  | .char c :: rest => (chars? rest).map (c :: ·)
  | .stray _ :: _ => none

/-- The text of bytes that are UTF-8. -/
def text? (bytes : List UInt8) : Option String := (chars? (decode bytes)).map String.ofList

/-- The text of any bytes, with the replacement character for each stray run. -/
def lossy (bytes : List UInt8) : String :=
  String.ofList ((decode bytes).map fun
    | .char c => c
    | .stray _ => Char.ofNat 0xFFFD)

end Utf8

namespace Glyph

def ofString (s : String) : List Glyph := s.toList.map .char

/-- The number of bytes of a glyph. -/
def width : Glyph → Nat
  | .char c => (Utf8.encodeChar c).length
  | .stray bytes => bytes.length

end Glyph

end PackageRegistry.Text
