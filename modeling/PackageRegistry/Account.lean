import PackageRegistry.Json.Decode
import PackageRegistry.Json.Schema

/-!
Who is logged in. The token of an account never appears in a description of it.
-/

namespace PackageRegistry

open Json (Value Document Defect)

/-- The public side of a user. -/
structure Profile where
  login : String
  name : Option String := none
  avatarUrl : Option String := none
  bio : Option String := none
  url : Option String := none
deriving DecidableEq, Repr, Inhabited

/-- What is remembered between runs about a login. -/
structure Account where
  token : Option String := none
  user : Option Profile := none
deriving DecidableEq, Repr, Inhabited

namespace Profile

def toJson (p : Profile) : Value :=
  .object [
    ("login", .string p.login),
    ("name", .optional p.name),
    ("avatarUrl", .optional p.avatarUrl),
    ("bio", .optional p.bio),
    ("url", .optional p.url)]

def fieldNames : List String := ["login", "name", "avatarUrl", "bio", "url"]

def ofJson {ν : Type} [Document ν] (x : ν) : Except Defect Profile := do
  let fields ← Json.Decode.record fieldNames x
  let login ← Json.Decode.required fields "login" Json.Decode.text
  let name ← Json.Decode.optional fields "name" Json.Decode.text
  let avatarUrl ← Json.Decode.optional fields "avatarUrl" Json.Decode.text
  let bio ← Json.Decode.optional fields "bio" Json.Decode.text
  let url ← Json.Decode.optional fields "url" Json.Decode.text
  return { login, name, avatarUrl, bio, url }

def schema : Json.Schema :=
  .record "UserProfile" [
    ("login", .text),
    ("name", .nullable .text),
    ("avatarUrl", .nullable .text),
    ("bio", .nullable .text),
    ("url", .nullable .text)]

def describe (p : Profile) : String :=
  "UserProfile \x7b login: " ++ Text.quoted p.login ++
    ", name: " ++ Text.quotedOption p.name ++
    ", avatar_url: " ++ Text.quotedOption p.avatarUrl ++
    ", bio: " ++ Text.quotedOption p.bio ++
    ", url: " ++ Text.quotedOption p.url ++ " \x7d"

end Profile

namespace Account

def isAuthenticated (a : Account) : Bool := a.token.isSome

def toJson (a : Account) : Value :=
  .object [
    ("token", .optional a.token),
    ("user", (a.user.map Profile.toJson).getD .null)]

def fieldNames : List String := ["token", "user"]

def ofJson {ν : Type} [Document ν] (x : ν) : Except Defect Account := do
  let fields ← Json.Decode.record fieldNames x
  let token ← Json.Decode.optional fields "token" Json.Decode.text
  let user ← Json.Decode.optional fields "user" Profile.ofJson
  return { token, user }

def schema : Json.Schema :=
  .record "Session" [
    ("token", .nullable .text),
    ("user", .nullable Profile.schema)]

/-- The account in words for diagnostics, with the token masked. -/
def describe (a : Account) : String :=
  "Session \x7b token: " ++ (if a.token.isSome then "Some(CredentialToken(***))" else "None") ++
    ", user: " ++
    (match a.user with
      | some u => "Some(" ++ u.describe ++ ")"
      | none => "None") ++ " \x7d"

end Account

end PackageRegistry
