import PackageRegistry.Json.Raw
import PackageRegistry.Json.Value

/-!
The meaning of JSON literals. A number without point and exponent is an integer while it fits 64
bits; all others are doubles, found by scaling the leading digits in steps of at most `10 ^ 308`,
each step rounded. A string literal is text when its surrogates come in pairs.
-/

namespace PackageRegistry.Json

open Numeric (Magnitude Decimal Binary64)

def largest : Nat := Nat.pow 2 64 - 1

/-- The digits that fit 64 bits, and how many are left over. -/
def leadingDigits : Nat → List Char → Nat × Nat
  | acc, [] => (acc, 0)
  | acc, c :: cs =>
    let next := acc * 10 + (c.toNat - 48)
    if largest < next then (acc, cs.length + 1) else leadingDigits next cs

/-- Appends the digits after the point while they fit 64 bits, and counts them. -/
def trailingDigits : Nat → List Char → Nat × Nat
  | acc, [] => (acc, 0)
  | acc, c :: cs =>
    let next := acc * 10 + (c.toNat - 48)
    if largest < next then (acc, 0)
    else
      let (n, k) := trailingDigits next cs
      (n, k + 1)

/-- Scales a double by a power of ten. The fuel is spent on steps of `10 ^ -308`, of which four
leave nothing of any number of 64 bits. -/
def scale : Nat → Magnitude → Int → Except Defect Magnitude
  | 0, _, _ => .ok .zero
  | fuel + 1, x, e =>
    if x = .zero then .ok .zero
    else if 308 < e then .error .numberOutOfRange
    else if 0 ≤ e then
      match x.mul (Decimal.toMagnitude ⟨1, e⟩) with
      | .infinite => .error .numberOutOfRange
      | y => .ok y
    else if -308 ≤ e then .ok (x.div (Decimal.toMagnitude ⟨1, -e⟩))
    else scale fuel (x.div (Decimal.toMagnitude ⟨1, 308⟩)) (e + 308)

namespace Numeral

/-- The exponent that is written out. -/
def writtenExponent (n : Numeral) : Int :=
  match n.exponent with
  | none => 0
  | some (negative, ds) =>
    let x : Int := ds.foldl (fun n c => n * 10 + (c.toNat - 48)) 0
    if negative then -x else x

/-- The double a number stands for. -/
def double (n : Numeral) : Except Defect Number := do
  let (lead, left) := leadingDigits 0 n.whole
  let (digits, places) := trailingDigits lead (n.fraction.getD [])
  let size ← scale 5 (Magnitude.ofNat digits) (n.writtenExponent + left - places)
  return .double (.signed n.negative size)

/-- The number a literal stands for. -/
def read (n : Numeral) : Except Defect Number :=
  if n.fraction.isSome || n.exponent.isSome then n.double
  else
    match leadingDigits 0 n.whole with
    | (k, 0) =>
      if !n.negative then .ok (.natural k)
      else if k ≠ 0 ∧ k ≤ Nat.pow 2 63 then .ok (.negative k)
      else n.double
    | _ => n.double

end Numeral

/-- The character of a surrogate pair. -/
def pairChar (high low : Nat) : Char :=
  Char.ofNat (0x10000 + (high - 0xD800) * 0x400 + (low - 0xDC00))

/-- The characters of a string literal. -/
def markChars : List Mark → Except Defect (List Char)
  | [] => .ok []
  | .char c :: rest => (markChars rest).map (c :: ·)
  | .stray _ :: _ => .error .invalidCharacter
  | [.half _] => .error .loneSurrogate
  | .half high :: .half low :: rest =>
    if high < 0xDC00 ∧ 0xDC00 ≤ low then (markChars rest).map (pairChar high low :: ·)
    else .error .loneSurrogate
  | .half _ :: _ :: _ => .error .loneSurrogate

def markText (ms : List Mark) : Except Defect String := (markChars ms).map String.ofList

namespace Raw

mutual

/-- The value of a document with at most so many levels of arrays and objects. -/
def toValue (depth : Nat) : Raw → Except Defect Value
  | .null => .ok .null
  | .bool b => .ok (.bool b)
  | .number n => n.read.map .number
  | .string ms => (markText ms).map .string
  | .array xs =>
    match depth with
    | 0 => .error .tooDeep
    | d + 1 => (itemValues d xs).map .array
  | .object fs =>
    match depth with
    | 0 => .error .tooDeep
    | d + 1 => (fieldValues d fs).map .record

def itemValues (depth : Nat) : List Raw → Except Defect (List Value)
  | [] => .ok []
  | x :: xs => do
    let v ← toValue depth x
    let vs ← itemValues depth xs
    return v :: vs

def fieldValues (depth : Nat) : List (List Mark × Raw) → Except Defect (List (String × Value))
  | [] => .ok []
  | (k, x) :: fs => do
    let key ← markText k
    let v ← toValue depth x
    let vs ← fieldValues depth fs
    return (key, v) :: vs

end

/-- The most levels of arrays and objects a document may have. -/
def maxDepth : Nat := 127

end Raw

end PackageRegistry.Json
