import PackageRegistry.Json.Value
import PackageRegistry.Text.Blank
import PackageRegistry.Vocabulary

/-!
The filters of a package search and the patches that change them. A patch names only the fields it
changes; merging keeps the query trimmed and never blank.
-/

namespace PackageRegistry

/-- What a search asks for. -/
structure Filters where
  query : Option String := none
  category : Option Category := none
  license : Option License := none
  sort : SortKey := .relevance
deriving DecidableEq, Repr, Inhabited

/-- The change of one field. -/
inductive Change (α : Type) where
  | set (value : α)
  /-- Clears the field if it holds the value, and sets it otherwise. -/
  | toggle (value : α)
  | clear
deriving DecidableEq, Repr

namespace Change

/-- The field after the change. -/
def apply {α : Type} [DecidableEq α] : Change α → Option α → Option α
  | .set v, _ => some v
  | .toggle v, current => if current = some v then none else some v
  | .clear, _ => none

end Change

/-- Changes of some of the fields. -/
structure Patch where
  query : Option (Change String) := none
  category : Option (Change Category) := none
  license : Option (Change License) := none
  sort : Option (Change SortKey) := none
deriving DecidableEq, Repr, Inhabited

namespace Patch

def empty : Patch := {}

def setQuery (query : String) : Patch := { query := some (.set query) }

def toggleCategory (c : Category) : Patch := { category := some (.toggle c) }

def toggleLicense (l : License) : Patch := { license := some (.toggle l) }

def setSort (s : SortKey) : Patch := { sort := some (.set s) }

/-- Clears every field. -/
def clearAll : Patch :=
  { query := some .clear, category := some .clear, license := some .clear, sort := some .clear }

/-- Two patches as one; where both name a field, the later one counts. -/
def overlay (earlier later : Patch) : Patch where
  query := later.query.or earlier.query
  category := later.category.or earlier.category
  license := later.license.or earlier.license
  sort := later.sort.or earlier.sort

/-- Patches composed from left to right. -/
def overlayAll (patches : List Patch) : Patch := patches.foldl overlay empty

end Patch

namespace Filters

/-- A query is either unset or trimmed text that is not blank. -/
def Canonical (f : Filters) : Prop :=
  ∀ q, f.query = some q → Text.trimmed? q = some q

/-- The filters with a patch applied. -/
def merge (f : Filters) (p : Patch) : Filters where
  query :=
    match p.query with
    | none => f.query
    | some change => (change.apply f.query).bind Text.trimmed?
  category :=
    match p.category with
    | none => f.category
    | some change => change.apply f.category
  license :=
    match p.license with
    | none => f.license
    | some change => change.apply f.license
  sort :=
    match p.sort with
    | none => f.sort
    | some change => (change.apply (some f.sort)).getD .relevance

/-- The filters with patches applied one after the other. -/
def mergeAll (f : Filters) (patches : List Patch) : Filters := patches.foldl merge f

/-- The part of a request that carries the filters: only what is set, in key order. -/
def payloadFields (f : Filters) : List (String × Json.Value) :=
  (f.category.map fun c => ("category", Json.Value.string (Vocabulary.wire c))).toList ++
    (f.license.map fun l => ("license", Json.Value.string (Vocabulary.wire l))).toList ++
    ((f.query.bind Text.trimmed?).map fun q => ("query", Json.Value.string q)).toList ++
    if f.sort = .relevance then [] else [("sort", .string (Vocabulary.wire f.sort))]

def payload (f : Filters) : Json.Value := .object f.payloadFields

/-- How many of the controls besides the query are in use. -/
def activeCount (f : Filters) : Nat :=
  f.category.toList.length + f.license.toList.length + if f.sort = .relevance then 0 else 1

end Filters

/-- How a change of the filters reaches the registry. -/
inductive Trigger where
  | unchanged
  /-- Only the query changed: wait until the typing stops. -/
  | debounced
  /-- A control changed: search right away. -/
  | immediate
deriving DecidableEq, Repr

namespace Trigger

def classify (before after : Filters) : Trigger :=
  if before.category ≠ after.category ∨ before.license ≠ after.license ∨
      before.sort ≠ after.sort then .immediate
  else if before.query ≠ after.query then .debounced
  else .unchanged

end Trigger

end PackageRegistry
