import PackageRegistry.Filter
import PackageRegistry.Json.Printer
import PackageRegistry.Package

/-!
A page of search results. A reply that cannot be understood gives an empty page that names the
problem; entries that are no packages are left out of a page.
-/

namespace PackageRegistry

open Json (Value)

/-- What is wrong with a reply. -/
inductive Problem where
  | invalidJson (detail : String)
  | notAnObject
  | missingField (name : String)
  | invalidField (name : String)
deriving DecidableEq, Repr

namespace Problem

def message : Problem → String
  | .invalidJson detail => "response body is not valid JSON: " ++ detail
  | .notAnObject => "response body is not a JSON object"
  | .missingField name => "response is missing the '" ++ name ++ "' field"
  | .invalidField name => "response field '" ++ name ++ "' has an unexpected type"

end Problem

/-- Packages in the order of the registry, and how many there are in all. -/
structure Listing where
  items : List Package
  total : Nat
  problem : Option Problem := none
deriving DecidableEq, Repr

namespace Listing

def degraded (p : Problem) : Listing := ⟨[], 0, some p⟩

def isDegraded (l : Listing) : Bool := l.problem.isSome

/-- A member of an object that is there and not null. -/
def present? (key : String) (fields : List (String × Value)) : Option Value :=
  match Keyed.find? key fields with
  | some .null => none
  | other => other

def readTotal (fields : List (String × Value)) : Except Problem Nat :=
  match present? "total" fields with
  | none => .error (.missingField "total")
  | some v =>
    match v.natural? with
    | some n => .ok n
    | none => .error (.invalidField "total")

def readPackages (fields : List (String × Value)) : Except Problem (List Package) :=
  match present? "packages" fields with
  | none => .error (.missingField "packages")
  | some (.array entries) => .ok (entries.filterMap fun e => (Package.ofJson e).toOption)
  | some _ => .error (.invalidField "packages")

def read (body : List UInt8) : Except Problem Listing := do
  let value ← (Json.parse (Text.Utf8.decode body)).mapError fun f => Problem.invalidJson f.message
  match value with
  | .object fields =>
    let total ← readTotal fields
    let items ← readPackages fields
    return { items, total }
  | _ => .error .notAnObject

/-- The page that the body of a reply gives. -/
def ofBody (body : List UInt8) : Listing :=
  match read body with
  | .ok page => page
  | .error problem => degraded problem

/-- The filters of a search and its page as one document. -/
def toJson (l : Listing) (f : Filters) : Value :=
  Value.sorted (.object [
    ("filters", f.payload),
    ("total", .nat l.total),
    ("packages", .array (l.items.map Package.toJson))])

def render (l : Listing) (f : Filters) : String := Json.Value.pretty (l.toJson f)

end Listing

end PackageRegistry
