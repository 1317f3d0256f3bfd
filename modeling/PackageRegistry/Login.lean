import PackageRegistry.Client
import PackageRegistry.Store
import PackageRegistry.Url.Form

/-!
Logging in with an identity provider. The user is sent to the provider with a secret state, comes
back with a code and that state, and the registry exchanges the code for an account.
-/

namespace PackageRegistry

open Http (Reply Traffic)

/-- How to send a user to the identity provider. -/
structure Provider where
  clientId : String := ""
  authorizeUrl : String := "https://github.com/login/oauth/authorize"
  redirectUri : String := "https://registry.rads-lang.org/api/auth/callback"
  scopes : List String := ["read:user", "read:org", "repo"]
deriving DecidableEq, Repr, Inhabited

/-- Why a login did not come about. -/
inductive LoginFailure where
  | missingClientId
  | invalidUrl (what : String) (flaw : Url.Flaw)
  | missingParameter (name : String)
  | stateMismatch
  | rejected (reason : String)
  | failed (failure : Failure)
  | notStored (fault : StoreFault)
deriving DecidableEq, Repr

namespace LoginFailure

/-- The texts of a failure, from the outermost cause to the innermost. -/
def chain : LoginFailure → List String
  | .missingClientId => ["no OAuth client id configured"]
  | .invalidUrl what flaw => ["invalid " ++ what ++ ": " ++ flaw.message, flaw.message]
  | .missingParameter name => ["callback is missing the '" ++ name ++ "' parameter"]
  | .stateMismatch => ["state returned by the provider does not match the login request"]
  | .rejected reason => [reason]
  | .failed failure => failure.chain
  | .notStored fault => "could not store session" :: fault.chain

def message (f : LoginFailure) : String := f.chain.headD ""

end LoginFailure

namespace Provider

/-- The pairs that a login request adds to the query of the provider. -/
def parameters (p : Provider) (state : String) : List (String × String) :=
  let scope := String.intercalate " " p.scopes
  [("response_type", "code"), ("client_id", p.clientId), ("state", state),
    ("redirect_uri", p.redirectUri)] ++ if scope = "" then [] else [("scope", scope)]

/-- Where to send the user who is to come back with this state. -/
def authorization (p : Provider) (state : String) : Except LoginFailure Url := do
  if Text.isBlank p.clientId then .error .missingClientId
  let url ← (Url.parse p.authorizeUrl).mapError (.invalidUrl "authorize url")
  let _ ← (Url.parse p.redirectUri).mapError (.invalidUrl "redirect uri")
  return url.appendPairs (p.parameters state)

end Provider

/-- What a user comes back with. -/
structure Callback where
  code : String
  state : String
deriving DecidableEq, Repr

namespace Callback

/-- The last value under a name, unless it is empty. -/
def parameter (ps : List (String × String)) (name : String) : Except LoginFailure String :=
  match Url.Form.last? name ps with
  | none | some "" => .error (.missingParameter name)
  | some value => .ok value

def ofPairs (ps : List (String × String)) : Except LoginFailure Callback := do
  let code ← parameter ps "code"
  let state ← parameter ps "state"
  return { code, state }

/-- Reads a URL, or else the query of one alone. -/
def parse (input : String) : Except LoginFailure Callback :=
  let input := Text.trim input
  match Url.parse input with
  | .ok url => ofPairs url.queryPairs
  | .error _ =>
    let query := String.ofList (input.toList.dropWhile (· == '?'))
    match Url.parse ("http://callback.invalid/?" ++ query) with
    | .ok url => ofPairs url.queryPairs
    | .error flaw => .error (.invalidUrl "callback" flaw)

end Callback

/-- What the registry says to a login. -/
structure LoginAnswer where
  success : Bool
  data : Option (String × Profile)
  error : Option String
deriving DecidableEq, Repr

namespace LoginAnswer

def grantOf {ν : Type} [Json.Document ν] (x : ν) : Except Json.Defect (String × Profile) := do
  let fields ← Json.Decode.record ["token", "user"] x
  let token ← Json.Decode.required fields "token" Json.Decode.text
  let user ← Json.Decode.required fields "user" Profile.ofJson
  return (token, user)

def ofJson {ν : Type} [Json.Document ν] (x : ν) : Except Json.Defect LoginAnswer := do
  let fields ← Json.Decode.record ["success", "data", "error"] x
  let success ← Json.Decode.required fields "success" Json.Decode.boolean
  let data ← Json.Decode.optional fields "data" grantOf
  let error ← Json.Decode.optional fields "error" Json.Decode.text
  return { success, data, error }

/-- The account that an answer grants, or why there is none. -/
def account (a : LoginAnswer) : Except LoginFailure Account :=
  match a.success, a.data with
  | true, some (token, user) => .ok { token := some token, user := some user }
  | _, _ =>
    match a.error with
    | some reason =>
      .error (.rejected (if Text.isBlank reason then "Authentication failed" else reason))
    | none => .error (.rejected "Authentication failed")

end LoginAnswer

namespace Client

/-- Exchanges a code for an account. -/
def exchange (c : Client) (callback : Callback) (reply : Reply) :
    Traffic (Except Failure LoginAnswer) :=
  let payload : Json.Value :=
    .record [("code", .string callback.code), ("state", .string callback.state)]
  (c.post "api-auth-callback" payload none reply).map fun r =>
    r.bind (readBody LoginAnswer.ofJson)

end Client

namespace Callback

/-- What an answer grants, kept in a store. -/
def keep (store : Store) (r : Except Failure LoginAnswer) :
    Except LoginFailure Account × Store :=
  match r with
  | .error failure => (.error (.failed failure), store)
  | .ok answer =>
    match answer.account with
    | .error refusal => (.error refusal, store)
    | .ok account =>
      match store.save account with
      | (.error fault, store) => (.error (.notStored fault), store)
      | (.ok (), store) => (.ok account, store)

/-- Completes a login: checks the state, exchanges the code, and keeps the account. The store
afterwards comes back also when that fails. -/
def complete (callback : Callback) (expected : String) (c : Client) (reply : Reply)
    (store : Store) : Traffic (Except LoginFailure Account × Store) :=
  if callback.state ≠ expected then .silent (.error .stateMismatch, store)
  else (c.exchange callback reply).map (keep store)

end Callback

end PackageRegistry
