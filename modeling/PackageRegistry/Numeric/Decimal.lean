import PackageRegistry.Numeric.Binary64

/-!
Decimal text of doubles: the fewest digits that read back, a fixed number of places, and the
reading of decimal text to the nearest double.
-/

namespace PackageRegistry.Numeric

/-- A decimal number `digits * 10 ^ exponent`. -/
structure Decimal where
  digits : Nat
  exponent : Int
deriving DecidableEq, Repr

namespace Decimal

/-- Numerator and denominator of a decimal number. -/
def toRatio (d : Decimal) : Nat × Nat :=
  if 0 ≤ d.exponent then (d.digits * Nat.pow 10 d.exponent.toNat, 1)
  else (d.digits, Nat.pow 10 (-d.exponent).toNat)

/-- The number of decimal digits of a natural number; zero has one. -/
def width (n : Nat) : Nat := (Nat.toDigits 10 n).length

/-- The double nearest to a decimal number. Exponents far outside the range of doubles are
settled by their size alone. -/
def toMagnitude (d : Decimal) : Magnitude :=
  if d.digits = 0 then .zero
  else
    let top : Int := width d.digits + d.exponent
    if 400 < top then .infinite
    else if top < -400 then .zero
    else
      let (num, den) := d.toRatio
      .ofRatio num den

/-- The decimals with `n` digits next to a value, in the order nearer first. The value and its
rounding interval are given as `value`, `low` and `high` over the common denominator `den`;
`p` is the position of the leading digit. -/
def neighbours (value den : Nat) (p : Int) (n : Nat) : List Decimal :=
  let unit : Int := p - n
  let (num, d) : Nat × Nat :=
    if 0 ≤ unit then (value, den * Nat.pow 10 unit.toNat)
    else (value * Nat.pow 10 (-unit).toNat, den)
  let below := num / d
  let r := num % d
  if r = 0 then [⟨below, unit⟩]
  else if 2 * r < d || (2 * r = d && below % 2 = 0) then [⟨below, unit⟩, ⟨below + 1, unit⟩]
  else [⟨below + 1, unit⟩, ⟨below, unit⟩]

/-- Whether a decimal lies between two fractions over the same denominator, the ends included or
not. -/
def between (low high den : Nat) (inclusive : Bool) (d : Decimal) : Bool :=
  let (a, b) := d.toRatio
  if inclusive then low * b ≤ a * den && a * den ≤ high * b
  else low * b < a * den && a * den < high * b

/-- The position of the leading digit of a positive quotient: the least `p` with
`num / den < 10 ^ p`. -/
def leadingPosition (num den : Nat) : Int :=
  let q := num / den
  if 0 < q then width q
  else
    let r := den / num
    let guess : Int := -(width r : Int) + 1
    if num * Nat.pow 10 (width r) < den * 10 then guess else guess + 1

/-- The shortest decimal that reads back as the double `mantissa * 2 ^ exponent`, and the nearest
of those. -/
def shortest (mantissa : Nat) (exponent : Int) : Decimal :=
  if mantissa = 0 then ⟨0, 0⟩
  else
    let lowGap := if mantissa = Nat.pow 2 52 ∧ Magnitude.leastExponent < exponent then 1 else 2
    let shift (x : Nat) : Nat := if 2 ≤ exponent then x * Nat.pow 2 (exponent - 2).toNat else x
    let den : Nat := if 2 ≤ exponent then 1 else Nat.pow 2 (2 - exponent).toNat
    let value := shift (4 * mantissa)
    let low := shift (4 * mantissa - lowGap)
    let high := shift (4 * mantissa + 2)
    let p := leadingPosition value den
    let candidates := (List.range 17).flatMap fun n => neighbours value den p (n + 1)
    (candidates.find? (between low high den (mantissa % 2 = 0))).getD ⟨mantissa, exponent⟩

/-- The digits and exponent with the zeros at the end of the digits moved into the exponent. -/
def reduce : Nat → Decimal → Decimal
  | 0, d => d
  | fuel + 1, d =>
    if d.digits ≠ 0 ∧ d.digits % 10 = 0 then reduce fuel ⟨d.digits / 10, d.exponent + 1⟩ else d

def normal (d : Decimal) : Decimal := reduce (width d.digits) d

/-- Positional text: all digits, with a point only where there are places after it. -/
def positional (d : Decimal) : String :=
  let ds := Nat.toDigits 10 d.digits
  if 0 ≤ d.exponent then
    String.ofList (if d.digits = 0 then ds else ds ++ List.replicate d.exponent.toNat '0')
  else
    let places := (-d.exponent).toNat
    let padded := List.replicate (places + 1 - ds.length) '0' ++ ds
    let cut := padded.length - places
    String.ofList (padded.take cut ++ '.' :: padded.drop cut)

end Decimal

/-- The number `num / den` with one decimal place, a half going to the even digit. -/
def oneDecimal (num den : Nat) : String :=
  let tenths := roundHalfEven (num * 10) den
  toString (tenths / 10) ++ "." ++ toString (tenths % 10)

namespace Binary64

/-- Positional text with the fewest digits that read back and never an exponent. -/
def display : Binary64 → String
  | .nan => "NaN"
  | .signed negative size =>
    let body :=
      match size with
      | .infinite => "inf"
      | .finite m e => (Decimal.shortest m e).normal.positional
    if negative then "-" ++ body else body

/-- The characters of an exponent part: an optional sign and at least one digit. -/
def readExponent : List Char → Option Int
  | '-' :: ds => if ds ≠ [] ∧ ds.all Char.isDigit then some (-(ofDigits ds : Int)) else none
  | '+' :: ds => if ds ≠ [] ∧ ds.all Char.isDigit then some (ofDigits ds) else none
  | ds => if ds ≠ [] ∧ ds.all Char.isDigit then some (ofDigits ds) else none
where
  ofDigits (ds : List Char) : Nat := ds.foldl (fun n c => n * 10 + (c.toNat - 48)) 0

/-- Reads digits with an optional point and an optional exponent; digits are needed on at least
one side of the point. -/
def readDecimal (cs : List Char) : Option Decimal :=
  let whole := cs.takeWhile Char.isDigit
  let afterWhole := cs.dropWhile Char.isDigit
  let (frac, rest) :=
    match afterWhole with
    | '.' :: more => (more.takeWhile Char.isDigit, more.dropWhile Char.isDigit)
    | _ => ([], afterWhole)
  if whole = [] ∧ frac = [] then none
  else
    let digits := readExponent.ofDigits (whole ++ frac)
    match rest with
    | [] => some ⟨digits, -(frac.length : Int)⟩
    | c :: more =>
      if c = 'e' ∨ c = 'E' then
        (readExponent more).map fun x => ⟨digits, x - frac.length⟩
      else none

/-- Reads a decimal number, or one of the words for infinity and for no number in any case, with
an optional sign. -/
def parse? (s : String) : Option Binary64 :=
  let (negative, cs) :=
    match s.toList with
    | '-' :: r => (true, r)
    | '+' :: r => (false, r)
    | r => (false, r)
  let word := String.ofList (cs.map Char.toLower)
  if word = "inf" ∨ word = "infinity" then some (.signed negative .infinite)
  else if word = "nan" then some .nan
  else (readDecimal cs).map fun d => .signed negative d.toMagnitude

end Binary64

end PackageRegistry.Numeric
