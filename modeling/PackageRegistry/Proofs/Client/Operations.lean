import PackageRegistry.Login
import PackageRegistry.Proofs.Client
import PackageRegistry.Publication

/-! # The operations of a client

Every operation posts one event to the endpoint, and they differ in the event, its payload and the
credential that goes with it. What holds for the request of an event holds for all of them.
-/

namespace PackageRegistry

open Http (Headers Reply Request)

/-- What can be asked of a registry. -/
inductive Operation where
  | list (f : Filters)
  | find (name : String)
  | dispatch (event : String) (payload : Json.Value)
  | exchange (callback : Callback)
  | submit (p : Publication) (token : String)

namespace Operation

def event : Operation → String
  | .list _ | .find _ => "api-list-packages"
  | .dispatch event _ => event
  | .exchange _ => "api-auth-callback"
  | .submit _ _ => "api-publish"

def payload : Operation → Json.Value
  | .list f => f.payload
  | .find _ => Filters.payload {}
  | .dispatch _ payload => payload
  | .exchange callback =>
    .record [("code", .string callback.code), ("state", .string callback.state)]
  | .submit p token => .record [("package", p.toJson.sorted), ("token", .string token)]

/-- The credential that an operation brings along. -/
def credential? : Operation → Option String
  | .submit _ token => some token
  | .list _ | .find _ | .dispatch _ _ | .exchange _ => none

end Operation

namespace Client

/-- The requests of an operation, whatever comes back. -/
def requests (c : Client) (reply : Reply) : Operation → List Request
  | .list f => (c.list f reply).exchanges.map Prod.fst
  | .find name => (c.find name reply).exchanges.map Prod.fst
  | .dispatch event payload => (c.dispatch event payload reply).exchanges.map Prod.fst
  | .exchange callback => (c.exchange callback reply).exchanges.map Prod.fst
  | .submit p token => (c.submit p token reply).exchanges.map Prod.fst

theorem map_fst_exchanges_post (c : Client) (event : String) (payload : Json.Value)
    (credential : Option String) (reply : Reply) :
    (c.post event payload credential reply).exchanges.map Prod.fst =
      (c.request event payload credential).toOption.toList := by
  unfold post
  cases c.request event payload credential <;> rfl

/-- An operation makes the one request of its event, if that can be made. -/
theorem requests_eq (c : Client) (reply : Reply) (op : Operation) :
    c.requests reply op = (c.request op.event op.payload op.credential?).toOption.toList := by
  cases op <;> exact c.map_fst_exchanges_post _ _ _ reply

/-- The fields that a request sets itself. -/
def ownFields : Option String → Headers
  | none => [("content-type", "application/json")]
  | some token => [("authorization", bearer token), ("content-type", "application/json")]

/-- The request for an event that sets these fields itself. -/
def requestWith (c : Client) (own : Headers) (event : String) (payload : Json.Value) : Request where
  url := c.endpoint
  headers := Headers.withDefaults (c.loginFields ++ own) c.defaults
  body := .record [("event_type", .string event), ("client_payload", payload)]

theorem isValue_bearer_iff {token : String} :
    Http.isValue (bearer token) = true ↔ Http.isValue token = true := by
  have hprefix : "Bearer ".toList.all Http.isValueChar = true := by decide
  rw [Http.isValue, bearer, String.toList_append, List.all_append, hprefix, Bool.true_and,
    Http.isValue]

/-- A request is made over the web only. -/
theorem requestWith_eq_ok_iff (c : Client) (own : Headers) (event : String) (payload : Json.Value)
    (r : Request) :
    (if ["http", "https"].contains c.endpoint.scheme = true then
      .ok (c.requestWith own event payload)
    else .error .unsupportedScheme : Except Http.Interruption Request) = .ok r ↔
      c.Reaches ∧ r = c.requestWith own event payload := by
  rw [← contains_scheme_iff]
  split_ifs with hscheme
  · rw [Except.ok.injEq, and_iff_right hscheme]
    exact eq_comm
  · simp only [reduceCtorEq, hscheme, false_and]

/-- A request is made over the web only, and only with a credential that can be sent. -/
theorem request_eq_ok_iff {c : Client} {event : String} {payload : Json.Value}
    {credential : Option String} {r : Request} :
    c.request event payload credential = .ok r ↔
      c.Reaches ∧ (∀ token ∈ credential, Http.isValue token = true) ∧
        r = c.requestWith (ownFields credential) event payload := by
  cases credential with
  | none =>
      rw [request]
      exact (c.requestWith_eq_ok_iff _ event payload r).trans (by simp [ownFields])
  | some token =>
      by_cases htoken : Http.isValue token = true
      · rw [request, set_authorization_eq htoken]
        exact (c.requestWith_eq_ok_iff _ event payload r).trans (by simp [ownFields, htoken])
      · have hname : Http.isName "authorization" = true := by decide
        have hset : Headers.set [("content-type", "application/json")] "authorization"
            (bearer token) = .error .value := by
          simp [Headers.set, hname, mt isValue_bearer_iff.mp htoken]
        simp [request, hset, htoken]

theorem mem_requests_iff {c : Client} {reply : Reply} {op : Operation} {r : Request} :
    r ∈ c.requests reply op ↔
      c.Reaches ∧ (∀ token ∈ op.credential?, Http.isValue token = true) ∧
        r = c.requestWith (ownFields op.credential?) op.event op.payload := by
  rw [requests_eq, ← request_eq_ok_iff]
  cases c.request op.event op.payload op.credential? with
  | error cause => simp [Except.toOption]
  | ok r' => simp [Except.toOption, eq_comm]

end Client

end PackageRegistry
