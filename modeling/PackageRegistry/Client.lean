import PackageRegistry.Account
import PackageRegistry.Http.Exchange
import PackageRegistry.Listing
import PackageRegistry.Text.Base64
import PackageRegistry.Url.Login

/-!
The client of a registry. Every operation posts an event with its payload to one endpoint; the
answer is read by the operation, and whatever goes wrong is one of four failures.
-/

namespace PackageRegistry

open Json (Value)
open Http (Headers Request Reply Interruption Traffic)

/-- Shown when the registry gives no reason of its own. -/
def genericFailure : String := "API request failed"

/-- Why an operation of the registry failed. -/
inductive Failure where
  /-- No complete response came back from this URL. -/
  | transport (url : String) (cause : Interruption)
  /-- The registry answered with a status other than success. -/
  | rejection (status : Nat) (detail : String)
  | malformed (problem : Problem)
  | other (text : String)
deriving DecidableEq, Repr

namespace Failure

/-- The texts of a failure, from the outermost cause to the innermost. -/
def chain : Failure → List String
  | .transport url cause =>
    ("could not reach the registry: " ++ (cause.causes url).headD "") :: cause.causes url
  | .rejection status detail => [Http.statusText status ++ ": " ++ detail]
  | .malformed problem =>
    ["unexpected response from the registry: " ++ problem.message, problem.message]
  | .other text => [text]

def message (f : Failure) : String := f.chain.headD ""

/-- What a user is told: the words of the registry where it gave some. -/
def userMessage : Failure → String
  | .rejection _ detail => detail
  | _ => genericFailure

end Failure

/-- The reason that the body of a rejection gives. -/
def rejectionDetail (body : List UInt8) : String :=
  match Json.parse (Text.Utf8.decode body) with
  | .error _ => genericFailure
  | .ok value =>
    match (value.get? "error").bind Value.string? with
    | some text => if Text.isBlank text then genericFailure else text
    | none => genericFailure

/-- How to reach a registry, and as whom. -/
structure ClientOptions where
  baseUrl : String := "https://api.registry.rads-lang.org"
  account : Account := {}
  extraHeaders : List (String × String) := []
  userAgent : Option String := none
deriving Repr

structure Client where
  endpoint : Url
  authenticated : Bool
  /-- The header fields of every request that does not set them itself. -/
  defaults : Headers
deriving Repr

namespace Client

def dropSlashes (s : String) : String := String.ofList (Text.dropTail (· == '/') s.toList)

/-- Where the events of a registry are posted. -/
def endpointOf (baseUrl : String) : Except Failure Url :=
  (Url.parse (dropSlashes baseUrl ++ "/dispatch")).mapError fun flaw =>
    .other ("invalid dispatch url '" ++ baseUrl ++ "': " ++ flaw.message)

def bearer (token : String) : String := "Bearer " ++ token

/-- The credentials in a URL as the value of a header field. -/
def basic (login : String × String) : String :=
  "Basic " ++ Text.Base64.encodePadded (Text.Utf8.encode (login.1 ++ ":" ++ login.2))

/-- The header fields of every request: first the token, then the extra fields in key order. -/
def defaultHeaders (o : ClientOptions) : Except Http.HeaderFlaw Headers := do
  let accept : Headers := [("accept", "application/json")]
  let hs ←
    match o.account.token with
    | some token => accept.set "authorization" (bearer token)
    | none => .ok accept
  hs.setAll o.extraHeaders

/-- Adds the name of the program to the header fields. -/
def withUserAgent (hs : Headers) : Option String → Except Failure Headers
  | none => .ok hs
  | some agent => (hs.set "user-agent" agent).mapError fun _ => .other "builder error"

/-- Makes a client, if the endpoint is a URL and the header fields can be sent. -/
def make (o : ClientOptions) : Except Failure Client := do
  let endpoint ← endpointOf o.baseUrl
  let hs ← (defaultHeaders o).mapError fun flaw => Failure.other flaw.message
  let defaults ← withUserAgent hs o.userAgent
  return { endpoint, authenticated := o.account.isAuthenticated, defaults }

/-- The client in words for diagnostics. -/
def describe (c : Client) : String :=
  "CatalogClient \x7b endpoint: " ++ Text.quoted c.endpoint.text ++ ", authenticated: " ++
    (if c.authenticated then "true" else "false") ++ ", .. \x7d"

/-- The credentials in the endpoint, which every request to it carries. -/
def loginFields (c : Client) : Headers :=
  (c.endpoint.login?.map fun login => ("authorization", basic login)).toList

/-- The request for an event. A credential takes the place of the one every request has, and so do
credentials in the endpoint; where both are given, both are sent. -/
def request (c : Client) (event : String) (payload : Value) (credential : Option String) :
    Except Interruption Request := do
  let own : Headers := [("content-type", "application/json")]
  let own ←
    match credential with
    | some token => (own.set "authorization" (bearer token)).mapError fun _ => .badHeader
    | none => .ok own
  if ["http", "https"].contains c.endpoint.scheme then
    return {
      url := c.endpoint
      headers := Headers.withDefaults (c.loginFields ++ own) c.defaults
      body := .record [("event_type", .string event), ("client_payload", payload)] }
  else .error .unsupportedScheme

/-- What a reply means before its body is read. -/
def bodyOf (url : String) : Reply → Except Failure (List UInt8)
  | .response status body =>
    if Http.isSuccess status then .ok body
    else .error (.rejection status (rejectionDetail body))
  | .interrupted cause => .error (.transport url cause)

/-- The endpoint as failures name it, without the credentials that requests carry. -/
def address (c : Client) : String := c.endpoint.withoutLogin.text

/-- Posts an event; the reply is what comes back if the request can be made. -/
def post (c : Client) (event : String) (payload : Value) (credential : Option String)
    (reply : Reply) : Traffic (Except Failure (List UInt8)) :=
  match c.request event payload credential with
  | .error cause => .silent (.error (.transport c.address cause))
  | .ok r => ⟨[(r, reply)], bodyOf c.address reply⟩

/-- Reads a body straight into typed data. -/
def readBody {α : Type} (read : Json.Raw → Except Json.Defect α) (body : List UInt8) :
    Except Failure α :=
  (Json.parseAs read (Text.Utf8.decode body)).mapError fun f =>
    .malformed (.invalidJson f.message)

/-- Posts any event and reads the answer as any JSON. -/
def dispatch (c : Client) (event : String) (payload : Value) (reply : Reply) :
    Traffic (Except Failure Value) :=
  (c.post event payload none reply).map fun r => r.bind fun body =>
    (Json.parse (Text.Utf8.decode body)).mapError fun f => .malformed (.invalidJson f.message)

/-- The packages that match filters. -/
def list (c : Client) (f : Filters) (reply : Reply) : Traffic (Except Failure Listing) :=
  (c.post "api-list-packages" f.payload none reply).map fun r => r.map Listing.ofBody

/-- Why a package was not found. -/
inductive LookupFailure where
  | notFound (name : String)
  | failed (failure : Failure)
deriving DecidableEq, Repr

namespace LookupFailure

def chain : LookupFailure → List String
  | .notFound name => ["package '" ++ name ++ "' not found"]
  | .failed failure => failure.chain

end LookupFailure

/-- The package of a listing with exactly this name. -/
def pick (name : String) (l : Listing) : Except LookupFailure Package :=
  match l.problem with
  | some problem => .error (.failed (.malformed problem))
  | none =>
    match l.items.find? fun p => p.name == name with
    | some p => .ok p
    | none => .error (.notFound name)

/-- Looks a package up in the listing of all. -/
def find (c : Client) (name : String) (reply : Reply) : Traffic (Except LookupFailure Package) :=
  (c.list {} reply).map fun r =>
    match r with
    | .ok page => pick name page
    | .error failure => .error (.failed failure)

end Client

end PackageRegistry
