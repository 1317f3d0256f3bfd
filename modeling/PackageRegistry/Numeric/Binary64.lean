/-!
Double-precision numbers as exact values. A finite double is `mantissa * 2 ^ exponent` with at most
53 bits of mantissa; every operation is an exact quotient rounded once, to the nearest double and
to the even one of two.
-/

namespace PackageRegistry.Numeric

/-- The quotient `num / den` rounded to the nearest natural number, a half to the even one. -/
def roundHalfEven (num den : Nat) : Nat :=
  let q := num / den
  let r := num % den
  if den < 2 * r then q + 1
  else if 2 * r < den then q
  else if q % 2 = 0 then q else q + 1

/-- The quotient `num / den` rounded to the nearest natural number, a half upwards. -/
def roundHalfUp (num den : Nat) : Nat :=
  (2 * num + den) / (2 * den)

/-- The size of a double: `mantissa * 2 ^ exponent`, or beyond all finite ones. -/
inductive Magnitude where
  | finite (mantissa : Nat) (exponent : Int)
  | infinite
deriving DecidableEq, Repr

namespace Magnitude

def mantissaBits : Nat := 53
def leastExponent : Int := -1074
def greatestExponent : Int := 971

def zero : Magnitude := .finite 0 leastExponent

/-- Numerator and denominator of `num / den / 2 ^ e`. -/
def scaled (num den : Nat) (e : Int) : Nat × Nat :=
  if 0 ≤ e then (num, den * Nat.pow 2 e.toNat) else (num * Nat.pow 2 (-e).toNat, den)

/-- The exponent at which `num / den` has a mantissa of exactly 53 bits, or the least exponent
when the quotient is too small for that. -/
def exponentOf (num den : Nat) : Int :=
  let k : Int := (num.log2 : Int) - (den.log2 : Int) - 52
  let (n, d) := scaled num den k
  max leastExponent (if n < d * Nat.pow 2 52 then k - 1 else k)

/-- A mantissa and an exponent, with a 54-bit mantissa halved and a large exponent given up. -/
def normalize (mantissa : Nat) (exponent : Int) : Magnitude :=
  let (m, e) := if Nat.pow 2 mantissaBits ≤ mantissa then (mantissa / 2, exponent + 1)
    else (mantissa, exponent)
  if greatestExponent < e then .infinite else .finite m e

/-- The double nearest to `num / den`. -/
def ofRatio (num den : Nat) : Magnitude :=
  if num = 0 then zero
  else
    let e := exponentOf num den
    let (n, d) := scaled num den e
    normalize (roundHalfEven n d) e

/-- A finite magnitude as a quotient of natural numbers. -/
def toRatio (mantissa : Nat) (exponent : Int) : Nat × Nat :=
  if 0 ≤ exponent then (mantissa * Nat.pow 2 exponent.toNat, 1)
  else (mantissa, Nat.pow 2 (-exponent).toNat)

def ofNat (n : Nat) : Magnitude := ofRatio n 1

/-- The double nearest to the product. -/
def mul : Magnitude → Magnitude → Magnitude
  | .finite m e, .finite n f =>
    let (a, b) := toRatio m e
    let (c, d) := toRatio n f
    ofRatio (a * c) (b * d)
  | _, _ => .infinite

/-- The double nearest to the quotient by a positive finite number. -/
def div : Magnitude → Magnitude → Magnitude
  | .finite m e, .finite n f =>
    let (a, b) := toRatio m e
    let (c, d) := toRatio n f
    ofRatio (a * d) (b * c)
  | _, _ => .infinite

end Magnitude

/-- A double, with its sign, or the value that is no number. -/
inductive Binary64 where
  | signed (negative : Bool) (size : Magnitude)
  | nan
deriving DecidableEq, Repr

namespace Binary64

/-- The nearest integer, a half away from zero, cut off at the ends of the range from 0 to
`2 ^ 64 - 1`. -/
def toNatSaturating : Binary64 → Nat
  | .nan => 0
  | .signed true _ => 0
  | .signed false .infinite => Nat.pow 2 64 - 1
  | .signed false (.finite m e) =>
    let (num, den) := Magnitude.toRatio m e
    min (roundHalfUp num den) (Nat.pow 2 64 - 1)

end Binary64

end PackageRegistry.Numeric
