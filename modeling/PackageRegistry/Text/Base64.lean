/-!
Bytes as text of letters, digits, hyphens and underscores, six bits to a character.
-/

namespace PackageRegistry.Text.Base64

/-- The character for six bits. -/
def digit (n : Nat) : Char :=
  if n < 26 then Char.ofNat (65 + n)
  else if n < 52 then Char.ofNat (71 + n)
  else if n < 62 then Char.ofNat (n - 4)
  else if n = 62 then '-'
  else '_'

def encodeChars : List UInt8 → List Char
  | [] => []
  | [a] =>
    let n := a.toNat * 16
    [digit (n / 64), digit (n % 64)]
  | [a, b] =>
    let n := (a.toNat * 256 + b.toNat) * 4
    [digit (n / 4096), digit (n / 64 % 64), digit (n % 64)]
  | a :: b :: c :: rest =>
    let n := (a.toNat * 256 + b.toNat) * 256 + c.toNat
    digit (n / 262144) :: digit (n / 4096 % 64) :: digit (n / 64 % 64) :: digit (n % 64) ::
      encodeChars rest

def encode (bytes : List UInt8) : String := String.ofList (encodeChars bytes)

/-- The same with plus and slash in place of hyphen and underscore, and filled up with equals signs
to whole groups of four characters. -/
def encodePadded (bytes : List UInt8) : String :=
  let cs := (encodeChars bytes).map fun c =>
    if c = '-' then '+' else if c = '_' then '/' else c
  String.ofList (cs ++ List.replicate ((4 - cs.length % 4) % 4) '=')

end PackageRegistry.Text.Base64
