import PackageRegistry.Keyed
import PackageRegistry.Numeric.Decimal

/-!
JSON values. Numbers keep what a reader can tell apart: natural numbers below `2 ^ 64`, negative
integers down to `-2 ^ 63`, and doubles. The fields of an object stand in the order of their keys,
each key once.
-/

namespace PackageRegistry.Json

inductive Number where
  | natural (n : Nat)
  /-- The integer `-n`. -/
  | negative (n : Nat)
  | double (x : Numeric.Binary64)
deriving DecidableEq, Repr

inductive Value where
  | null
  | bool (b : Bool)
  | number (n : Number)
  | string (s : String)
  | array (items : List Value)
  | object (fields : List (String × Value))
deriving Repr

namespace Value

def nat (n : Nat) : Value := .number (.natural n)

/-- A text, or null when there is none. -/
def optional : Option String → Value
  | none => .null
  | some s => .string s

def strings (ss : List String) : Value := .array (ss.map .string)

/-- An object with its fields brought into key order. -/
def record (fields : List (String × Value)) : Value := .object (Keyed.sort fields)

mutual

/-- The value with the fields of every object in it brought into key order. -/
def sorted : Value → Value
  | .array items => .array (sortedItems items)
  | .object fields => .record (sortedMembers fields)
  | v => v

def sortedItems : List Value → List Value
  | [] => []
  | v :: vs => sorted v :: sortedItems vs

def sortedMembers : List (String × Value) → List (String × Value)
  | [] => []
  | (k, v) :: fs => (k, sorted v) :: sortedMembers fs

end

/-- The member of an object under a key. -/
def get? (key : String) : Value → Option Value
  | .object fields => Keyed.find? key fields
  | _ => none

def string? : Value → Option String
  | .string s => some s
  | _ => none

/-- A natural number below `2 ^ 64`. -/
def natural? : Value → Option Nat
  | .number (.natural n) => some n
  | _ => none

end Value

end PackageRegistry.Json
