import PackageRegistry.Client
import PackageRegistry.Proofs.Keyed
import PackageRegistry.Proofs.Results

/-! # Requests to the registry

A client makes the one request of an operation if its endpoint can be reached over the web. Nothing
that every request carries takes the place of what a request sets itself.
-/

namespace PackageRegistry

open Http (Headers Reply Request)

/-! ## Replies -/

/-- A complete response is among what came back for requests. -/
def Http.Arrived (exchanges : List (Request × Reply)) (status : Nat) (body : List UInt8) : Prop :=
  Reply.response status body ∈ exchanges.map Prod.snd

theorem Http.arrived_singleton_iff {r : Request} {reply : Reply} {status : Nat}
    {body : List UInt8} : Arrived [(r, reply)] status body ↔ reply = .response status body := by
  simp [Arrived, eq_comm]

theorem Http.isSuccess_iff {status : Nat} :
    isSuccess status = true ↔ 200 ≤ status ∧ status ≤ 299 := by
  simp [isSuccess, Nat.lt_succ_iff]

/-! ## Header fields -/

theorem Http.isValue_bearer {token : String} (h : Http.isValue token = true) :
    Http.isValue (Client.bearer token) = true := by
  have hprefix : "Bearer ".toList.all Http.isValueChar = true := by decide
  rw [Http.isValue, Client.bearer, String.toList_append, List.all_append, hprefix]
  exact h

/-- A field under another name comes in or changes. -/
theorem Keyed.filter_insert_of_ne {α : Type} {key k : String} (h : key ≠ k) (value : α)
    (entries : List (String × α)) :
    (insert key value entries).filter (fun e => e.1 == k) =
      entries.filter fun e => e.1 == k := by
  induction entries with
  | nil => simp [insert, h]
  | cons e entries ih =>
      obtain ⟨k', v⟩ := e
      unfold insert
      split_ifs with hbefore hsame
      · simp [h]
      · subst hsame
        simp [h]
      · rw [List.filter_cons, List.filter_cons, ih]

namespace Http.Headers

/-- The values that are sent under a name. -/
def values (hs : Headers) (name : String) : List String :=
  (hs.filter fun h => h.1 == name).map Prod.snd

/-- What a request sets itself is sent as it is, whatever the defaults. -/
theorem values_withDefaults (defaults : Headers) {own : Headers} {name : String}
    (h : own.values name ≠ []) : (withDefaults own defaults).values name = own.values name := by
  induction defaults generalizing own with
  | nil => rfl
  | cons field defaults ih =>
      have hstep : (if own.any fun o => o.1 == field.1 then own
          else Keyed.insert field.1 field.2 own).values name = own.values name := by
        split_ifs with hset
        · rfl
        · have hne : field.1 ≠ name := by
            rintro rfl
            apply h
            rw [values, List.map_eq_nil_iff, List.filter_eq_nil_iff]
            exact fun o ho heq => hset (List.any_eq_true.mpr ⟨o, ho, heq⟩)
          rw [values, values, Keyed.filter_insert_of_ne hne]
      rw [withDefaults, List.foldl_cons]
      exact (ih (hstep ▸ h)).trans hstep

end Http.Headers

/-! ## Endpoints -/

namespace Client

/-- Whether requests can be made to the endpoint of a client at all. -/
def Reaches (c : Client) : Prop := c.endpoint.scheme = "http" ∨ c.endpoint.scheme = "https"

theorem contains_scheme_iff (c : Client) :
    ["http", "https"].contains c.endpoint.scheme = true ↔ c.Reaches := by
  simp [Reaches]

/-- Without a credential of its own, a request is made if the client reaches its endpoint. -/
theorem post_of_reaches {c : Client} (h : c.Reaches) (event : String) (payload : Json.Value)
    (reply : Reply) :
    ∃ r : Request, r.url = c.endpoint ∧
      r.body = .record [("event_type", .string event), ("client_payload", payload)] ∧
      c.post event payload none reply = ⟨[(r, reply)], bodyOf c.address reply⟩ := by
  have hscheme := c.contains_scheme_iff.mpr h
  simp only [post, request, Results.ok_bind, hscheme, if_true, Results.pure_eq_ok]
  exact ⟨_, rfl, rfl, rfl⟩

theorem post_of_not_reaches {c : Client} (h : ¬ c.Reaches) (event : String)
    (payload : Json.Value) (reply : Reply) :
    c.post event payload none reply =
      .silent (.error (.transport c.address .unsupportedScheme)) := by
  have hscheme := mt c.contains_scheme_iff.mp h
  simp only [post, request, Results.ok_bind, hscheme]
  rfl

/-! ## Requests with a credential -/

theorem set_authorization_eq {token : String} (h : Http.isValue token = true) :
    Headers.set [("content-type", "application/json")] "authorization" (bearer token) =
      .ok [("authorization", bearer token), ("content-type", "application/json")] := by
  have hname : Http.isName "authorization" = true := by decide
  have hlower : Http.lowerName "authorization" = "authorization" := by decide
  have hbefore : "authorization" < "content-type" := by decide
  simp only [Headers.set, hname, hlower, Http.isValue_bearer h, Keyed.insert, if_pos hbefore]
  rfl

/-- A credential that can be sent is sent, and besides it only the one in the endpoint. -/
theorem post_of_credential {c : Client} (h : c.Reaches) {token : String}
    (htoken : Http.isValue token = true) (event : String) (payload : Json.Value) (reply : Reply) :
    ∃ r : Request, r.url = c.endpoint ∧
      r.body = .record [("event_type", .string event), ("client_payload", payload)] ∧
      r.headers.values "authorization" =
        (c.endpoint.login?.map basic).toList ++ [bearer token] ∧
      c.post event payload (some token) reply = ⟨[(r, reply)], bodyOf c.address reply⟩ := by
  have hscheme := c.contains_scheme_iff.mpr h
  have hown : (c.loginFields ++ [("authorization", bearer token),
      ("content-type", "application/json")]).values "authorization" =
        (c.endpoint.login?.map basic).toList ++ [bearer token] := by
    cases hlogin : c.endpoint.login? <;> simp [Headers.values, loginFields, hlogin]
  simp only [post, request, set_authorization_eq htoken, Results.mapError_ok, Results.ok_bind,
    hscheme, if_true, Results.pure_eq_ok]
  exact ⟨_, rfl, rfl, (Headers.values_withDefaults c.defaults (by simp [hown])).trans hown, rfl⟩

theorem post_of_credential_of_not_reaches {c : Client} (h : ¬ c.Reaches) {token : String}
    (htoken : Http.isValue token = true) (event : String) (payload : Json.Value) (reply : Reply) :
    c.post event payload (some token) reply =
      .silent (.error (.transport c.address .unsupportedScheme)) := by
  have hscheme := mt c.contains_scheme_iff.mp h
  simp only [post, request, set_authorization_eq htoken, Results.mapError_ok, Results.ok_bind,
    hscheme]
  rfl

end Client

end PackageRegistry
