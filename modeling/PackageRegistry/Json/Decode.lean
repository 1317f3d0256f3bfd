import PackageRegistry.Json.Literal
import PackageRegistry.Json.Reader

/-!
Reading typed data out of JSON. A record is an object, where keys it does not know are passed over
and a key it knows comes at most once, or an array of its fields in the order of their
declaration. Both documents as written and values can be read this way.
-/

namespace PackageRegistry.Json

open Text (Glyph)

/-- One layer of a JSON document. -/
inductive Shape (ν : Type) where
  | null
  | bool (b : Bool)
  | natural (n : Nat)
  | otherNumber
  | string (s : String)
  | array (items : List ν)
  | object (fields : List (String × ν))

/-- Documents that can be opened layer by layer. -/
class Document (ν : Type) where
  shape : ν → Except Defect (Shape ν)
  /-- The whole of a part of the document that stands one level deep. -/
  inner : ν → Except Defect Value

def numberShape {ν : Type} : Number → Shape ν
  | .natural n => .natural n
  | _ => .otherNumber

instance : Document Value where
  shape
    | .null => .ok .null
    | .bool b => .ok (.bool b)
    | .number n => .ok (numberShape n)
    | .string s => .ok (.string s)
    | .array xs => .ok (.array xs)
    | .object fs => .ok (.object fs)
  inner := .ok

/-- The keys of the fields of an object as text. -/
def fieldKeys {ν : Type} : List (List Mark × ν) → Except Defect (List (String × ν))
  | [] => .ok []
  | (k, x) :: fs => do
    let key ← markText k
    let rest ← fieldKeys fs
    return (key, x) :: rest

instance : Document Raw where
  shape
    | .null => .ok .null
    | .bool b => .ok (.bool b)
    | .number n => n.read.map numberShape
    | .string ms => (markText ms).map .string
    | .array xs => .ok (.array xs)
    | .object fs => (fieldKeys fs).map .object
  inner := Raw.toValue (Raw.maxDepth - 1)

/-- The value of a text. -/
def parse (input : List Glyph) : Except Fault Value := do
  let raw ← Reader.document input
  (raw.toValue Raw.maxDepth).mapError fun d => ⟨d, none⟩

namespace Decode

variable {ν : Type} [Document ν]

def text (x : ν) : Except Defect String := do
  match ← Document.shape x with
  | .string s => .ok s
  | _ => .error .invalidType

def boolean (x : ν) : Except Defect Bool := do
  match ← Document.shape x with
  | .bool b => .ok b
  | _ => .error .invalidType

def natural (x : ν) : Except Defect Nat := do
  match ← Document.shape x with
  | .natural n => .ok n
  | _ => .error .invalidType

/-- Nothing for null. -/
def nullable {α : Type} (read : ν → Except Defect α) (x : ν) : Except Defect (Option α) := do
  match ← Document.shape x with
  | .null => .ok none
  | _ => (read x).map some

/-- Reads every member, in order. -/
def each {α : Type} (read : ν → Except Defect α) : List ν → Except Defect (List α)
  | [] => .ok []
  | x :: xs => do
    let a ← read x
    let rest ← each read xs
    return a :: rest

def list {α : Type} (read : ν → Except Defect α) (x : ν) : Except Defect (List α) := do
  match ← Document.shape x with
  | .array xs => each read xs
  | _ => .error .invalidType

/-- The fields with known names; none of these may come twice. -/
def known (names : List String) : List (String × ν) → Except Defect (List (String × ν))
  | [] => .ok []
  | (k, x) :: fs => do
    let rest ← known names fs
    if names.contains k then
      if rest.any (fun f => f.1 == k) then .error (.repeatedField k) else .ok ((k, x) :: rest)
    else .ok rest

/-- The fields of a record with these field names. -/
def record (names : List String) (x : ν) : Except Defect (List (String × ν)) := do
  match ← Document.shape x with
  | .object fs => known names fs
  | .array xs => if xs.length ≤ names.length then .ok (names.zip xs) else .error .invalidType
  | _ => .error .invalidType

/-- A field that has to be there. -/
def required {α : Type} (fields : List (String × ν)) (name : String)
    (read : ν → Except Defect α) : Except Defect α :=
  match Keyed.find? name fields with
  | some x => read x
  | none => .error (.missingField name)

/-- A field with a default. -/
def withDefault {α : Type} (fields : List (String × ν)) (name : String) (default : α)
    (read : ν → Except Defect α) : Except Defect α :=
  match Keyed.find? name fields with
  | some x => read x
  | none => .ok default

/-- A field that may be missing or null. -/
def optional {α : Type} (fields : List (String × ν)) (name : String)
    (read : ν → Except Defect α) : Except Defect (Option α) :=
  withDefault fields name none (nullable read)

end Decode

/-- Reads typed data straight from text. -/
def parseAs {α : Type} (read : Raw → Except Defect α) (input : List Glyph) : Except Fault α := do
  let raw ← Reader.document input
  (read raw).mapError fun d => ⟨d, none⟩

end PackageRegistry.Json
