import PackageRegistry.Client

/-!
Publishing a package: a form filled in by a user who is logged in becomes the description that the
registry takes, or the first thing that is wrong with it.
-/

namespace PackageRegistry

open Json (Value)
open Http (Reply Traffic)

/-- What a user fills in. -/
structure Form where
  name : String := ""
  displayName : String := ""
  description : String := ""
  version : String := ""
  repository : String := ""
  homepage : String := ""
  category : Option Category := none
  license : Option License := none
  keywords : String := ""
  readme : String := ""
deriving DecidableEq, Repr, Inhabited

/-- What the registry takes. -/
structure Publication where
  name : String
  displayName : String
  description : String
  version : String
  author : String
  repository : String
  homepage : String
  category : Option Category
  license : License
  keywords : List String
  readme : String
deriving DecidableEq, Repr

/-- What is wrong with a form. -/
inductive FormFlaw where
  | notLoggedIn
  | missing (field : String)
  | invalidName (name : String)
deriving DecidableEq, Repr

namespace FormFlaw

def message : FormFlaw → String
  | .notLoggedIn => "you must be logged in to publish packages"
  | .missing field => "'" ++ field ++ "' is required"
  | .invalidName name =>
    "package name '" ++ name ++ "' may only contain lowercase letters, digits and '-'"

end FormFlaw

namespace Publication

/-- The description in the words of the registry; a category that was not chosen is left out. -/
def toJson (p : Publication) : Value :=
  .object ([
    ("name", .string p.name),
    ("displayName", .string p.displayName),
    ("description", .string p.description),
    ("version", .string p.version),
    ("author", .string p.author),
    ("repository", .string p.repository),
    ("homepage", .string p.homepage)] ++
    (p.category.map fun c => ("category", Value.string (Vocabulary.wire c))).toList ++ [
    ("license", .string (Vocabulary.wire p.license)),
    ("keywords", .strings p.keywords),
    ("readme", .string p.readme)])

def fieldNames : List String :=
  ["name", "displayName", "description", "version", "author", "repository", "homepage", "category",
    "license", "keywords", "readme"]

/-- A word of a vocabulary. -/
def word {α ν : Type} [Vocabulary α] [Json.Document ν] (x : ν) : Except Json.Defect α := do
  match Vocabulary.parse? (← Json.Decode.text x) with
  | some w => .ok w
  | none => .error .invalidType

def ofJson {ν : Type} [Json.Document ν] (x : ν) : Except Json.Defect Publication := do
  let fields ← Json.Decode.record fieldNames x
  let name ← Json.Decode.required fields "name" Json.Decode.text
  let displayName ← Json.Decode.required fields "displayName" Json.Decode.text
  let description ← Json.Decode.required fields "description" Json.Decode.text
  let version ← Json.Decode.required fields "version" Json.Decode.text
  let author ← Json.Decode.required fields "author" Json.Decode.text
  let repository ← Json.Decode.required fields "repository" Json.Decode.text
  let homepage ← Json.Decode.required fields "homepage" Json.Decode.text
  let category ← Json.Decode.optional fields "category" word
  let license ← Json.Decode.required fields "license" word
  let keywords ← Json.Decode.required fields "keywords" (Json.Decode.list Json.Decode.text)
  let readme ← Json.Decode.required fields "readme" Json.Decode.text
  return {
    name, displayName, description, version, author, repository, homepage, category, license,
    keywords, readme }

end Publication

namespace Form

/-- A small letter, a digit or a hyphen. -/
def isNameChar (c : Char) : Bool :=
  ('a' ≤ c && c ≤ 'z') || ('0' ≤ c && c ≤ '9') || c == '-'

/-- The keywords between commas, without blanks around them; blank ones do not count. -/
def splitKeywords (s : String) : List String := (Text.split ',' s).filterMap Text.trimmed?

/-- A field that must not be blank, as it is. -/
def required (field text : String) : Except FormFlaw Unit :=
  if Text.isBlank text then .error (.missing field) else .ok ()

/-- The user of an account that can publish. -/
def author (a : Account) : Except FormFlaw Profile :=
  match a.token, a.user with
  | some _, some user => .ok user
  | _, _ => .error .notLoggedIn

/-- The trimmed name, if it is a package name. -/
def packageName (name : String) : Except FormFlaw String :=
  match Text.trimmed? name with
  | none => .error (.missing "name")
  | some n => if n.toList.all isNameChar then .ok n else .error (.invalidName n)

/-- What the registry takes, or the first thing that is wrong. -/
def validate (f : Form) (a : Account) : Except FormFlaw Publication := do
  let user ← author a
  let name ← packageName f.name
  required "description" f.description
  required "version" f.version
  required "repository" f.repository
  required "readme" f.readme
  return {
    name
    displayName := (Text.trimmed? f.displayName).getD name
    description := Text.trim f.description
    version := f.version
    author := user.login
    repository := Text.trim f.repository
    homepage := Text.trim f.homepage
    category := f.category
    license := f.license.getD .mit
    keywords := splitKeywords f.keywords
    readme := f.readme }

end Form

/-- What the registry says to a publication. -/
structure Receipt where
  success : Bool
  data : Option Value
deriving Repr

namespace Receipt

/-- Any document but null. -/
def dataOf {ν : Type} [Json.Document ν] (x : ν) : Except Json.Defect (Option Value) :=
  (Json.Document.inner x).map fun
    | .null => none
    | v => some v

def ofJson {ν : Type} [Json.Document ν] (x : ν) : Except Json.Defect Receipt := do
  let fields ← Json.Decode.record ["success", "data"] x
  let success ← Json.Decode.required fields "success" Json.Decode.boolean
  let data ← Json.Decode.withDefault fields "data" none dataOf
  return { success, data }

end Receipt

namespace Client

/-- Hands a publication to the registry under a token. -/
def submit (c : Client) (p : Publication) (token : String) (reply : Reply) :
    Traffic (Except Failure Receipt) :=
  let payload : Value := .record [("package", p.toJson.sorted), ("token", .string token)]
  (c.post "api-publish" payload (some token) reply).map fun r => r.bind (readBody Receipt.ofJson)

end Client

/-- Why a package was not published. -/
inductive PublishFailure where
  | flaw (f : FormFlaw)
  | notAccepted
  | failed (failure : Failure)
deriving DecidableEq, Repr

namespace PublishFailure

def message : PublishFailure → String
  | .flaw f => f.message
  | .notAccepted => "the registry did not accept the package"
  | .failed failure => failure.message

def userMessage : PublishFailure → String
  | .failed failure => failure.userMessage
  | other => other.message

end PublishFailure

namespace Form

/-- Checks a form and hands it in under the token of the account. -/
def publish (f : Form) (a : Account) (c : Client) (reply : Reply) :
    Traffic (Except PublishFailure Receipt) :=
  match f.validate a, a.token with
  | .error flaw, _ => .silent (.error (.flaw flaw))
  | .ok _, none => .silent (.error (.flaw .notLoggedIn))
  | .ok p, some token =>
    (c.submit p token reply).map fun r =>
      match r with
      | .error failure => .error (.failed failure)
      | .ok receipt => if receipt.success then .ok receipt else .error .notAccepted

end Form

end PackageRegistry
