import PackageRegistry.Login
import PackageRegistry.Proofs.Results
import PackageRegistry.Proofs.Url.Form

/-! # Where a user is sent

The provider reads the login request from the address that the user is sent to, behind whatever the
address asked for by itself.
-/

namespace PackageRegistry.Provider

/-- What the request for a login comes to: the first thing that is wrong with the provider, or its
own address with the request behind the pairs that were in it. -/
structure Requested (p : Provider) (state : String) (r : Except LoginFailure Url) : Prop where
  noClient : r = .error .missingClientId ↔ Text.isBlank p.clientId = true
  noAddress : ∀ flaw, r = .error (.invalidUrl "authorize url" flaw) ↔
    Text.isBlank p.clientId = false ∧ Url.parse p.authorizeUrl = .error flaw
  noReturn : ∀ flaw, r = .error (.invalidUrl "redirect uri" flaw) ↔
    Text.isBlank p.clientId = false ∧ (∃ base, Url.parse p.authorizeUrl = .ok base) ∧
      Url.parse p.redirectUri = .error flaw
  made : (∃ url, r = .ok url) ↔
    Text.isBlank p.clientId = false ∧ (∃ base, Url.parse p.authorizeUrl = .ok base) ∧
      ∃ back, Url.parse p.redirectUri = .ok back
  decoded : ∀ url, r = .ok url → ∃ base, Url.parse p.authorizeUrl = .ok base ∧
    url.queryPairs = base.queryPairs ++
      [("response_type", "code"), ("client_id", p.clientId), ("state", state),
        ("redirect_uri", p.redirectUri)] ++
      (if " ".intercalate p.scopes = "" then [] else [("scope", " ".intercalate p.scopes)]) ∧
    { url with query := base.query } = base

variable {p : Provider} {base back : Url} {flaw : Url.Flaw}

theorem authorization_of_blank (h : Text.isBlank p.clientId = true) (state : String) :
    p.authorization state = .error .missingClientId := by
  rw [authorization, if_pos h, Results.error_bind]

theorem authorization_of_noAddress (hclient : Text.isBlank p.clientId = false)
    (hbase : Url.parse p.authorizeUrl = .error flaw) (state : String) :
    p.authorization state = .error (.invalidUrl "authorize url" flaw) := by
  simp [authorization, hclient, hbase]

theorem authorization_of_noReturn (hclient : Text.isBlank p.clientId = false)
    (hbase : Url.parse p.authorizeUrl = .ok base) (hback : Url.parse p.redirectUri = .error flaw)
    (state : String) :
    p.authorization state = .error (.invalidUrl "redirect uri" flaw) := by
  simp [authorization, hclient, hbase, hback]

theorem authorization_of_addresses (hclient : Text.isBlank p.clientId = false)
    (hbase : Url.parse p.authorizeUrl = .ok base) (hback : Url.parse p.redirectUri = .ok back)
    (state : String) :
    p.authorization state = .ok (base.appendPairs (p.parameters state)) := by
  simp [authorization, hclient, hbase, hback]

/-- The request that a user is sent away with can be read back from the address, for every provider
and every state. -/
theorem authorization_decodes_to_request (p : Provider) (state : String) :
    Requested p state (p.authorization state) := by
  cases hclient : Text.isBlank p.clientId with
  | true =>
      rw [authorization_of_blank hclient]
      constructor <;> simp [hclient]
  | false =>
      cases hbase : Url.parse p.authorizeUrl with
      | error flaw =>
          rw [authorization_of_noAddress hclient hbase]
          constructor <;> simp [hclient, hbase]
      | ok base =>
          cases hback : Url.parse p.redirectUri with
          | error flaw =>
              rw [authorization_of_noReturn hclient hbase hback]
              constructor <;> simp [hclient, hbase, hback]
          | ok back =>
              rw [authorization_of_addresses hclient hbase hback]
              constructor
              case decoded =>
                rintro url ⟨⟩
                refine ⟨base, hbase, ?_, rfl⟩
                rw [Url.queryPairs_appendPairs, List.append_assoc]
                rfl
              all_goals simp [hclient, hbase, hback]

end PackageRegistry.Provider
