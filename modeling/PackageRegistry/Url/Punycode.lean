/-!
Punycode (RFC 3492): the characters of a label past ASCII written in letters and digits. The plain
characters come first; then, for each other character in order of code points, how far to go on to
the place where it is inserted.
-/

namespace PackageRegistry.Url.Punycode

/-- The shift of the thresholds after a step of `delta`. -/
def adaptLoop (delta shift : Nat) : Nat :=
  if 455 < delta then adaptLoop (delta / 35) (shift + 36)
  else shift + 36 * delta / (delta + 38)
termination_by delta
decreasing_by omega

def adapt (delta points : Nat) (first : Bool) : Nat :=
  let delta := if first then delta / 700 else delta / 2
  adaptLoop (delta + delta / points) 0

/-- The threshold of a digit position. -/
def threshold (k bias : Nat) : Nat := max 1 (min 26 (k - bias))

def digit (n : Nat) : Char := if n < 26 then Char.ofNat (97 + n) else Char.ofNat (22 + n)

def digitValue? (c : Char) : Option Nat :=
  if 'a' ≤ c ∧ c ≤ 'z' then some (c.toNat - 97)
  else if 'A' ≤ c ∧ c ≤ 'Z' then some (c.toNat - 65)
  else if '0' ≤ c ∧ c ≤ '9' then some (c.toNat - 22)
  else none

/-- A number in digits of varying base, the last of which lies below its threshold. -/
def number (q k bias : Nat) : List Char :=
  if q < threshold k bias then [digit q]
  else
    digit (threshold k bias + (q - threshold k bias) % (36 - threshold k bias)) ::
      number ((q - threshold k bias) / (36 - threshold k bias)) (k + 36) bias
termination_by q
decreasing_by
  have h1 : 1 ≤ threshold k bias := by unfold threshold; omega
  have h2 : threshold k bias ≤ 26 := by unfold threshold; omega
  exact Nat.lt_of_le_of_lt (Nat.div_le_self _ _) (by omega)

/-- How far an encoder has come: the step so far, the bias, the characters handled, the output. -/
structure Encoder where
  delta : Nat
  bias : Nat
  handled : Nat
  output : List Char

/-- Goes over the label once for the code point `m`. -/
def Encoder.pass (m basic : Nat) (e : Encoder) : List Char → Encoder
  | [] => e
  | c :: cs =>
    if c.toNat < m then pass m basic { e with delta := e.delta + 1 } cs
    else if c.toNat = m then
      pass m basic
        { delta := 0
          bias := adapt e.delta (e.handled + 1) (e.handled = basic)
          handled := e.handled + 1
          output := e.output ++ number e.delta 36 e.bias } cs
    else pass m basic e cs

/-- Handles code points in increasing order, each above the one before. -/
def Encoder.passes (label : List Char) (basic : Nat) (e : Encoder) (previous : Nat) :
    List Nat → Encoder
  | [] => e
  | m :: ms =>
    let e := { e with delta := e.delta + (m - previous) * (e.handled + 1) }
    let e := e.pass m basic label
    passes label basic { e with delta := e.delta + 1 } (m + 1) ms

/-- Puts a number in an increasing list unless it is there. -/
def insertPoint (n : Nat) : List Nat → List Nat
  | [] => [n]
  | m :: ms => if n < m then n :: m :: ms else if n = m then m :: ms else m :: insertPoint n ms

def encode (label : List Char) : List Char :=
  let plain := label.filter fun c => c.toNat < 0x80
  let others := (label.filter fun c => 0x80 ≤ c.toNat).foldl (fun ms c => insertPoint c.toNat ms) []
  let start := if plain.isEmpty then [] else plain ++ ['-']
  (Encoder.passes label plain.length ⟨0, 72, plain.length, start⟩ 0x80 others).output

/-- How far a decoder has come: the label so far, the code point and place reached, the bias; and
of the number being read its value so far, its weight, and the position of the next digit. -/
structure Decoder where
  label : List Char
  point : Nat
  place : Nat
  bias : Nat
  value : Nat
  weight : Nat
  position : Nat

/-- A character with this code point, unless there is none. -/
def charAt? (n : Nat) : Option Char :=
  if n < 0xD800 ∨ (0xDFFF < n ∧ n < 0x110000) then some (Char.ofNat n) else none

/-- Reads one digit; a number that ends with it inserts a character. -/
def Decoder.read (d : Decoder) (c : Char) : Option Decoder := do
  let n ← digitValue? c
  let value := d.value + n * d.weight
  let t := threshold d.position d.bias
  if n < t then
    let length := d.label.length + 1
    let place := d.place + value
    let point := d.point + place / length
    let ch ← charAt? point
    return {
      label := d.label.take (place % length) ++ ch :: d.label.drop (place % length)
      point
      place := place % length + 1
      bias := adapt value length (d.place = 0)
      value := 0
      weight := 1
      position := 36 }
  else return { d with value, weight := d.weight * (36 - t), position := d.position + 36 }

def Decoder.readAll (d : Decoder) : List Char → Option Decoder
  | [] => some d
  | c :: cs => (d.read c).bind fun e => e.readAll cs

/-- The plain characters before the last hyphen, and the digits behind it. A hyphen with no plain
characters before it is not taken for a divider. -/
def divide (text : List Char) : List Char × List Char :=
  let tail := (text.reverse.takeWhile (· ≠ '-')).reverse
  let plain := text.take (text.length - tail.length - 1)
  if plain.isEmpty then ([], text) else (plain, tail)

/-- The label that a text encodes. -/
def decode? (text : List Char) : Option (List Char) := do
  let (plain, tail) := divide text
  let d ← Decoder.readAll ⟨plain, 0x80, 0, 72, 0, 1, 36⟩ tail
  if d.position = 36 then some d.label else none

end PackageRegistry.Url.Punycode
