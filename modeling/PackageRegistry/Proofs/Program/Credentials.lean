import PackageRegistry.Program
import PackageRegistry.Proofs.Client.Credentials
import PackageRegistry.Proofs.Publication

/-! # Whose requests a program makes

A login is requested by nobody: the client that exchanges the code is made without the account that
may be stored, and the extra fields of the program say nothing about who makes a request.
-/

namespace PackageRegistry.Program

open Client (MadeAs basic)
open Http (Controlled Reply Request)

/-- The options of the program for nobody in particular name nobody. -/
theorem authorization?_clientOptions (s : Settings) (env : Environment) :
    (clientOptions s env {}).authorization? = none := by
  have hextra : Http.lowerName "rads-ci" ≠ "authorization" := by decide
  unfold clientOptions ClientOptions.authorization?
  split_ifs <;> simp [hextra]

/-- What a login asks of the registry, it asks through a client for nobody in particular. -/
theorem exchanges_finishLogin {s : Settings} {w : World} {e : Request × Reply}
    (h : e ∈ (finishLogin s w).exchanges) :
    ∃ c callback, Client.make (clientOptions s w.environment {}) = .ok c ∧
      e.1 ∈ c.requests (w.replies 0) (.exchange callback) := by
  unfold finishLogin at h
  cases hpasted : pasted w with
  | error causes => simp [hpasted, Effect.fail] at h
  | ok callback =>
      cases hmake : makeClient s w {} with
      | error causes => simp [hpasted, hmake, Effect.fail] at h
      | ok c =>
          refine ⟨c, callback, Results.mapError_eq_ok_iff.mp hmake, ?_⟩
          simp only [hpasted, hmake, Callback.complete] at h
          split_ifs at h
          · simp [Http.Traffic.silent] at h
          · exact List.mem_map_of_mem h

theorem exchanges_login {w : World} {e : Request × Reply} (h : e ∈ (run .login w).exchanges) :
    ∃ s c callback, Client.make (clientOptions s w.environment {}) = .ok c ∧
      e.1 ∈ c.requests (w.replies 0) (.exchange callback) := by
  unfold run at h
  rcases hload : Settings.load w.library w.environment w.disk with ⟨result, d⟩
  cases result with
  | error fault => simp [hload, Effect.fail] at h
  | ok s =>
      simp only [hload, perform, login] at h
      cases hurl : s.provider.authorization w.loginState with
      | error failure => simp [hurl, Effect.fail] at h
      | ok url =>
          simp only [hurl] at h
          obtain ⟨c, callback, hmake, hr⟩ := exchanges_finishLogin h
          exact ⟨s, c, callback, hmake, hr⟩

/-- A request is made by whoever the operation names, or else the options: the last extra field for
it, or the token of the account. Who is named in the endpoint comes before that. A login is made by
nobody, whoever has logged in before. And no text with a control in it is ever sent. -/
theorem requests_are_made_as_configured :
    (∀ (o : ClientOptions) (c : Client), Client.make o = .ok c →
      o.Clean ∧ ∀ (reply : Reply) (op : Operation),
        ((∃ r, c.requests reply op = [r]) ↔
          c.Reaches ∧ ∀ token ∈ op.credential?, ¬ Controlled token) ∧
        ∀ r ∈ c.requests reply op, MadeAs o op.credential? r) ∧
    ∀ w : World, ∀ e ∈ (run .login w).exchanges,
      e.1.headers.values "authorization" = (e.1.url.login?.map basic).toList := by
  constructor
  · intro o c hmake
    refine ⟨ClientOptions.clean_of_fields (Client.defaults_of_make hmake).1, ?_⟩
    intro reply op
    exact ⟨Client.exists_requests_iff, fun r hr => Client.madeAs_of_mem_requests hmake hr⟩
  · intro w e he
    obtain ⟨s, c, callback, hmake, hr⟩ := exchanges_login he
    have hmade := Client.madeAs_of_mem_requests hmake hr
    cases hlogin : e.1.url.login? with
    | none => exact (hmade.single hlogin).trans (by rw [authorization?_clientOptions]; rfl)
    | some login => exact hmade.named login hlogin

/-- Options with a token, and with two extra fields that name somebody else. -/
def twiceNamed : ClientOptions where
  baseUrl := "http://h"
  account := ⟨some "s", none⟩
  extraHeaders := [("AUTHORIZATION", "x"), ("Authorization", "y")]

theorem exists_request {c : Client} (hscheme : c.endpoint.scheme = "http") (reply : Reply)
    (op : Operation) (hcredential : ∀ token ∈ op.credential?, Http.isValue token = true) :
    ∃ r ∈ c.requests reply op, r.url = c.endpoint :=
  ⟨_, Client.mem_requests_iff.mpr ⟨.inl hscheme, hcredential, rfl⟩, rfl⟩

/-- The last extra field counts, and before it the token that comes with an operation. -/
theorem requester_is_the_last_one_named :
    ∃ c r r', Client.make twiceNamed = .ok c ∧
      r ∈ c.requests (.interrupted .closed) (.list {}) ∧
      r.headers.values "authorization" = ["y"] ∧
      r' ∈ c.requests (.interrupted .closed) (.submit Form.checked "t") ∧
      r'.headers.values "authorization" = ["Bearer t"] := by
  obtain ⟨c, hmake, hscheme, hlogin⟩ :=
    Form.exists_client twiceNamed "http" none (by decide +kernel)
  obtain ⟨r, hr, hurl⟩ :=
    exists_request hscheme (.interrupted .closed) (.list {}) (by simp [Operation.credential?])
  obtain ⟨r', hr', hurl'⟩ :=
    exists_request hscheme (.interrupted .closed) (.submit Form.checked "t") (by decide)
  have hall := (requests_are_made_as_configured.1 twiceNamed c hmake).2 (.interrupted .closed)
  refine ⟨c, r, r', hmake, hr, ?_, hr', ?_⟩
  · rw [((hall _).2 r hr).single (by rw [hurl, hlogin])]
    decide +kernel
  · rw [((hall _).2 r' hr').single (by rw [hurl', hlogin])]
    decide +kernel

/-- Somebody named in the endpoint makes every request: in place of whoever the options name, and in
front of the token that comes with an operation, so that two are named. -/
theorem endpoint_names_another_requester :
    ∃ c r r', Client.make Form.credentialed = .ok c ∧
      r ∈ c.requests (.interrupted .closed) (.list {}) ∧
      r.headers.values "authorization" = ["Basic dTpw"] ∧
      r' ∈ c.requests (.interrupted .closed) (.submit Form.checked "t") ∧
      r'.headers.values "authorization" = ["Basic dTpw", "Bearer t"] := by
  obtain ⟨c, hmake, hscheme, hlogin⟩ :=
    Form.exists_client Form.credentialed "http" (some ("u", "p")) (by decide +kernel)
  obtain ⟨r, hr, hurl⟩ :=
    exists_request hscheme (.interrupted .closed) (.list {}) (by simp [Operation.credential?])
  obtain ⟨r', hr', hurl'⟩ :=
    exists_request hscheme (.interrupted .closed) (.submit Form.checked "t") (by decide)
  refine ⟨c, r, r', hmake, hr, ?_, hr', ?_⟩
  · rw [(Client.madeAs_of_mem_requests hmake hr).named _ (by rw [hurl, hlogin])]
    decide +kernel
  · rw [(Client.madeAs_of_mem_requests hmake hr').named _ (by rw [hurl', hlogin])]
    decide +kernel

end PackageRegistry.Program
