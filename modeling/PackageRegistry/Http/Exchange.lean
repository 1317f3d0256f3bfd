import PackageRegistry.Http.Header
import PackageRegistry.Http.Status
import PackageRegistry.Json.Value
import PackageRegistry.Url.Parser

/-!
Requests to the registry and what comes back for them.
-/

namespace PackageRegistry.Http

/-- A request that posts a JSON document. -/
structure Request where
  url : Url
  headers : Headers
  body : Json.Value
deriving Repr

/-- Why no complete response came back. -/
inductive Interruption where
  | unreachable
  | closed
  | truncated
  /-- The request could not be made for its URL. -/
  | unsupportedScheme
  /-- The request could not be made for one of its header fields. -/
  | badHeader
deriving DecidableEq, Repr

/-- What comes back for a request. -/
inductive Reply where
  | response (status : Nat) (body : List UInt8)
  | interrupted (cause : Interruption)
deriving DecidableEq, Repr

namespace Reply

/-- Whether the request got as far as the registry. -/
def delivered : Reply → Bool
  | .response _ _ => true
  | .interrupted .closed => true
  | .interrupted .truncated => true
  | .interrupted _ => false

end Reply

namespace Interruption

/-- What went wrong with a request to a URL, from the outermost cause to the innermost. -/
def causes (url : String) : Interruption → List String
  | .unreachable =>
    ["error sending request for url (" ++ url ++ ")", "client error (Connect)",
      "tcp connect error", "Network is unreachable (os error 101)"]
  | .closed =>
    ["error sending request for url (" ++ url ++ ")", "client error (SendRequest)",
      "connection closed before message completed"]
  | .truncated =>
    ["error decoding response body", "request or response body error",
      "error reading a body from connection", "end of file before message length reached"]
  | .unsupportedScheme =>
    ["builder error for url (" ++ url ++ ")", "URL scheme is not allowed"]
  | .badHeader => ["builder error", "failed to parse header value"]

end Interruption

/-- A result, and the requests made for it with what came back. -/
structure Traffic (α : Type) where
  exchanges : List (Request × Reply)
  result : α

namespace Traffic

variable {α β : Type}

/-- A result that took no request. -/
def silent (a : α) : Traffic α := ⟨[], a⟩

def map (f : α → β) (t : Traffic α) : Traffic β := ⟨t.exchanges, f t.result⟩

/-- The requests that got as far as the registry. -/
def delivered (t : Traffic α) : List Request :=
  (t.exchanges.filter fun e => e.2.delivered).map Prod.fst

end Traffic

end PackageRegistry.Http
