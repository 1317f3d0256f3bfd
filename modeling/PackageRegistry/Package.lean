import PackageRegistry.Json.Decode
import PackageRegistry.Text.Blank
import PackageRegistry.Time.Rfc3339

/-!
Packages as the registry describes them. Only the name of a package is required; everything else
has a default, so a record that is filled in part still counts.
-/

namespace PackageRegistry

open Json (Value Document Defect)

namespace Package

/-- How much a package is used, and when it was last updated, as the registry words it. -/
structure Statistics where
  downloads : Nat := 0
  stars : Nat := 0
  lastUpdated : Option String := none
deriving DecidableEq, Repr, Inhabited

/-- One published version. -/
structure Release where
  version : String := ""
  releaseDate : Option String := none
  releaseUrl : Option String := none
  downloadUrl : Option String := none
  checksum : Option String := none
deriving DecidableEq, Repr, Inhabited

end Package

structure Package where
  name : String
  displayName : String := ""
  description : String := ""
  version : String := ""
  author : String := ""
  repository : String := ""
  homepage : Option String := none
  keywords : List String := []
  license : Option String := none
  category : Option String := none
  readme : String := ""
  latestVersion : Option String := none
  versions : List Package.Release := []
  stats : Package.Statistics := {}
deriving DecidableEq, Repr

namespace Package

namespace Statistics

/-- The update as a moment, if the registry gave one. -/
def updatedAt (s : Statistics) : Option Time.Moment :=
  s.lastUpdated.bind Time.Rfc3339.parse?

def toJson (s : Statistics) : Value :=
  .object [
    ("downloads", .nat s.downloads),
    ("stars", .nat s.stars),
    ("lastUpdated", .optional s.lastUpdated)]

def fieldNames : List String := ["downloads", "stars", "lastUpdated"]

def ofJson {ν : Type} [Document ν] (x : ν) : Except Defect Statistics := do
  let fields ← Json.Decode.record fieldNames x
  let downloads ← Json.Decode.withDefault fields "downloads" 0 Json.Decode.natural
  let stars ← Json.Decode.withDefault fields "stars" 0 Json.Decode.natural
  let lastUpdated ← Json.Decode.optional fields "lastUpdated" Json.Decode.text
  return { downloads, stars, lastUpdated }

end Statistics

namespace Release

def toJson (r : Release) : Value :=
  .object [
    ("version", .string r.version),
    ("releaseDate", .optional r.releaseDate),
    ("releaseUrl", .optional r.releaseUrl),
    ("downloadUrl", .optional r.downloadUrl),
    ("checksum", .optional r.checksum)]

def fieldNames : List String :=
  ["version", "releaseDate", "releaseUrl", "downloadUrl", "checksum"]

def ofJson {ν : Type} [Document ν] (x : ν) : Except Defect Release := do
  let fields ← Json.Decode.record fieldNames x
  let version ← Json.Decode.withDefault fields "version" "" Json.Decode.text
  let releaseDate ← Json.Decode.optional fields "releaseDate" Json.Decode.text
  let releaseUrl ← Json.Decode.optional fields "releaseUrl" Json.Decode.text
  let downloadUrl ← Json.Decode.optional fields "downloadUrl" Json.Decode.text
  let checksum ← Json.Decode.optional fields "checksum" Json.Decode.text
  return { version, releaseDate, releaseUrl, downloadUrl, checksum }

end Release

/-- The name to show: the display name unless that is blank. -/
def title (p : Package) : String :=
  if Text.isBlank p.displayName then p.name else p.displayName

def toJson (p : Package) : Value :=
  .object [
    ("name", .string p.name),
    ("displayName", .string p.displayName),
    ("description", .string p.description),
    ("version", .string p.version),
    ("author", .string p.author),
    ("repository", .string p.repository),
    ("homepage", .optional p.homepage),
    ("keywords", .strings p.keywords),
    ("license", .optional p.license),
    ("category", .optional p.category),
    ("readme", .string p.readme),
    ("latestVersion", .optional p.latestVersion),
    ("versions", .array (p.versions.map Release.toJson)),
    ("stats", p.stats.toJson)]

def fieldNames : List String :=
  ["name", "displayName", "description", "version", "author", "repository", "homepage", "keywords",
    "license", "category", "readme", "latestVersion", "versions", "stats"]

def ofJson {ν : Type} [Document ν] (x : ν) : Except Defect Package := do
  let fields ← Json.Decode.record fieldNames x
  let name ← Json.Decode.required fields "name" Json.Decode.text
  let displayName ← Json.Decode.withDefault fields "displayName" "" Json.Decode.text
  let description ← Json.Decode.withDefault fields "description" "" Json.Decode.text
  let version ← Json.Decode.withDefault fields "version" "" Json.Decode.text
  let author ← Json.Decode.withDefault fields "author" "" Json.Decode.text
  let repository ← Json.Decode.withDefault fields "repository" "" Json.Decode.text
  let homepage ← Json.Decode.optional fields "homepage" Json.Decode.text
  let keywords ←
    Json.Decode.withDefault fields "keywords" [] (Json.Decode.list Json.Decode.text)
  let license ← Json.Decode.optional fields "license" Json.Decode.text
  let category ← Json.Decode.optional fields "category" Json.Decode.text
  let readme ← Json.Decode.withDefault fields "readme" "" Json.Decode.text
  let latestVersion ← Json.Decode.optional fields "latestVersion" Json.Decode.text
  let versions ← Json.Decode.withDefault fields "versions" [] (Json.Decode.list Release.ofJson)
  let stats ← Json.Decode.withDefault fields "stats" {} Statistics.ofJson
  return {
    name, displayName, description, version, author, repository, homepage, keywords, license,
    category, readme, latestVersion, versions, stats }

end Package

end PackageRegistry
