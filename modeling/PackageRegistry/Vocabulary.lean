/-!
The closed vocabularies of a search: categories, licenses and sort orders. Each word has one
wire name, and reading a wire name is the inverse of writing it.
-/

namespace PackageRegistry

/-- A word that is in none of the names of its vocabulary. -/
structure UnknownWord where
  kind : String
  value : String
  expected : List String
deriving DecidableEq, Repr

namespace UnknownWord

def message (e : UnknownWord) : String :=
  "unknown " ++ e.kind ++ " '" ++ e.value ++ "', expected one of: " ++
    String.intercalate ", " e.expected

end UnknownWord

/-- A finite vocabulary: its words in display order, each with a wire name. -/
class Vocabulary (α : Type) where
  kind : String
  words : List α
  wire : α → String

namespace Vocabulary

variable {α : Type} [Vocabulary α]

/-- The wire names in display order. -/
def names (α : Type) [Vocabulary α] : List String :=
  (words : List α).map wire

/-- The word with exactly this wire name. -/
def parse? (value : String) : Option α :=
  (words : List α).find? fun w => wire w == value

/-- The word with exactly this wire name, or the error that lists all names. -/
def parse (value : String) : Except UnknownWord α :=
  match (parse? value : Option α) with
  | some w => .ok w
  | none => .error ⟨kind α, value, names α⟩

end Vocabulary

inductive Category where
  | database | web | utils | media | networking | testing | cli | other
deriving DecidableEq, Repr

inductive License where
  | mit | apache2 | gpl3 | bsd3 | isc | other
deriving DecidableEq, Repr

/-- The order in which the registry lists the packages it found. -/
inductive SortKey where
  | relevance | downloads | stars | updated
deriving DecidableEq, Repr

instance : Inhabited SortKey := ⟨.relevance⟩

instance : Vocabulary Category where
  kind := "category"
  words := [.database, .web, .utils, .media, .networking, .testing, .cli, .other]
  wire
    | .database => "database"
    | .web => "web"
    | .utils => "utils"
    | .media => "media"
    | .networking => "networking"
    | .testing => "testing"
    | .cli => "cli"
    | .other => "other"

instance : Vocabulary License where
  kind := "license"
  words := [.mit, .apache2, .gpl3, .bsd3, .isc, .other]
  wire
    | .mit => "MIT"
    | .apache2 => "Apache-2.0"
    | .gpl3 => "GPL-3.0"
    | .bsd3 => "BSD-3"
    | .isc => "ISC"
    | .other => "Other"

instance : Vocabulary SortKey where
  kind := "sort key"
  words := [.relevance, .downloads, .stars, .updated]
  wire
    | .relevance => "relevance"
    | .downloads => "downloads"
    | .stars => "stars"
    | .updated => "updated"

theorem Category.parse?_wire (c : Category) : Vocabulary.parse? (Vocabulary.wire c) = some c := by
  cases c <;> decide

theorem License.parse?_wire (l : License) : Vocabulary.parse? (Vocabulary.wire l) = some l := by
  cases l <;> decide

theorem SortKey.parse?_wire (s : SortKey) : Vocabulary.parse? (Vocabulary.wire s) = some s := by
  cases s <;> decide

end PackageRegistry
