import PackageRegistry.Proofs.Client
import PackageRegistry.Proofs.Json.Records
import PackageRegistry.Proofs.Text.Utf8
import PackageRegistry.Publication

/-! # Publishing all or nothing

A form with a flaw is not sent at all. A form without one is sent once, as what the registry reads
back as the publication that was checked, under the token of the account and no other; and it is
published just when the registry says so.
-/

namespace PackageRegistry

open Http (Arrived Reply Request Traffic)
open Json (Document Faithful Value)

/-! ## Publications as documents -/

namespace Publication

variable {ν : Type} [Document ν] {g : Value → ν}

theorem word_wire {α : Type} [Vocabulary α] (hg : Faithful g) {w : α}
    (hw : Vocabulary.parse? (Vocabulary.wire w) = some w) :
    word (g (.string (Vocabulary.wire w))) = .ok w := by
  simp [word, hg.text, hw]

/-- The keys of a publication are its fields, but for a category that was not chosen. -/
theorem toJson_keys (p : Publication) :
    ∃ fs, p.toJson = .object fs ∧ (fs.map Prod.fst).Sublist fieldNames := by
  refine ⟨_, rfl, ?_⟩
  cases p.category with
  | none =>
      change List.Sublist ["name", "displayName", "description", "version", "author", "repository",
        "homepage", "license", "keywords", "readme"] fieldNames
      decide
  | some c => exact .refl _

theorem ofJson_toJson (hg : Faithful g) (p : Publication) : ofJson (g p.toJson) = .ok p := by
  obtain ⟨fields, hrecord, hfind⟩ := hg.record fieldNames p.toJson (by decide) p.toJson_keys
  rw [ofJson, hrecord]
  obtain ⟨_, _, _, _, _, _, _, category, license, _, _⟩ := p
  have hlicense : word (g (.string (Vocabulary.wire license))) = .ok license :=
    word_wire hg license.parse?_wire
  cases category with
  | none =>
      simp [Json.Decode.required, Json.Decode.optional, Json.Decode.withDefault, hfind, toJson,
        Value.get?, Keyed.find?, hg.text, hg.strings, hlicense]
  | some c =>
      have hcategory : word (g (.string (Vocabulary.wire c))) = .ok c :=
        word_wire hg c.parse?_wire
      simp [Json.Decode.required, Json.Decode.optional, Json.Decode.withDefault,
        Json.Decode.nullable, hfind, toJson, Value.get?, Keyed.find?, hg.text, hg.string,
        hg.strings, hcategory, hlicense]

end Publication

/-! ## The request -/

/-- A request that hands in a publication under a token. The registry reads the publication from it,
and the only credential besides the token is the one in the endpoint. -/
structure Submits (c : Client) (token : String) (p : Publication) (r : Request) : Prop where
  url : r.url = c.endpoint
  event : r.body.get? "event_type" = some (.string "api-publish")
  package : ∃ v, (r.body.get? "client_payload").bind (Value.get? "package") = some v ∧
    Publication.ofJson v = .ok p
  secret : (r.body.get? "client_payload").bind (Value.get? "token") = some (.string token)
  credentials : r.headers.values "authorization" =
    (c.endpoint.login?.map Client.basic).toList ++ [Client.bearer token]

namespace Client

variable {c : Client} {token : String}

/-- What a body says about a publication. -/
def Answers (body : List UInt8) (receipt : Receipt) : Prop :=
  Json.parseAs Receipt.ofJson (Text.Utf8.decode body) = .ok receipt

theorem readBody_eq_ok_iff {body : List UInt8} {receipt : Receipt} :
    readBody Receipt.ofJson body = .ok receipt ↔ Answers body receipt :=
  Results.mapError_eq_ok_iff

/-- The registry answers with a status of success and a body that can be read. -/
theorem bodyOf_readBody_eq_ok_iff {url : String} {reply : Reply} {receipt : Receipt} :
    (bodyOf url reply).bind (readBody Receipt.ofJson) = .ok receipt ↔
      ∃ status body, reply = .response status body ∧ 200 ≤ status ∧ status ≤ 299 ∧
        Answers body receipt := by
  cases reply with
  | interrupted cause => simp [bodyOf, Except.bind]
  | response status body =>
      by_cases hsuccess : Http.isSuccess status = true
      · have hrange := Http.isSuccess_iff.mp hsuccess
        simp [bodyOf, hsuccess, hrange, Except.bind, readBody_eq_ok_iff]
      · have hrange := mt Http.isSuccess_iff.mpr hsuccess
        simp only [bodyOf, if_neg hsuccess, Except.bind, reduceCtorEq, false_iff]
        rintro ⟨_, _, heq, hlow, hhigh, -⟩
        cases heq
        exact hrange ⟨hlow, hhigh⟩

theorem submit_of_reaches (h : c.Reaches) (htoken : Http.isValue token = true) (p : Publication)
    (reply : Reply) :
    ∃ r, Submits c token p r ∧
      c.submit p token reply =
        ⟨[(r, reply)], (bodyOf c.address reply).bind (readBody Receipt.ofJson)⟩ := by
  obtain ⟨r, hurl, hbody, hcredentials, hpost⟩ := post_of_credential h htoken "api-publish"
    (.record [("package", p.toJson.sorted), ("token", .string token)]) reply
  have hpayload : r.body.get? "client_payload" =
      some (.record [("package", p.toJson.sorted), ("token", .string token)]) := by
    rw [hbody]
    exact Keyed.find?_sort_of_nodup (by simp) _
  refine ⟨r, ⟨hurl, ?_, ?_, ?_, hcredentials⟩, ?_⟩
  · rw [hbody]
    exact Keyed.find?_sort_of_nodup (by simp) _
  · refine ⟨p.toJson.sorted, ?_, Publication.ofJson_toJson Json.faithful_sorted p⟩
    rw [hpayload]
    exact Keyed.find?_sort_of_nodup (by simp) _
  · rw [hpayload]
    exact Keyed.find?_sort_of_nodup (by simp) _
  · rw [submit, hpost]
    rfl

theorem submit_of_not_reaches (h : ¬ c.Reaches) (htoken : Http.isValue token = true)
    (p : Publication) (reply : Reply) :
    c.submit p token reply = .silent (.error (.transport c.address .unsupportedScheme)) := by
  rw [submit, post_of_credential_of_not_reaches h htoken]
  rfl

end Client

/-! ## The outcome -/

namespace Form

variable {f : Form} {a : Account} {c : Client} {reply : Reply} {p : Publication} {token : String}

/-- What a publication comes to, for every form, account, client and reply. -/
structure PublishOutcome (f : Form) (a : Account) (c : Client) (reply : Reply)
    (t : Traffic (Except PublishFailure Receipt)) : Prop where
  flawed : ∀ flaw, f.validate a = .error flaw → t = .silent (.error (.flaw flaw))
  sent : ∀ p, f.validate a = .ok p → c.Reaches →
    ∃ token r, a.token = some token ∧ Submits c token p r ∧ t.exchanges = [(r, reply)]
  unsent : ∀ p, f.validate a = .ok p → ¬ c.Reaches →
    ∃ url, t = .silent (.error (.failed (.transport url .unsupportedScheme)))
  accepted : ∀ receipt, t.result = .ok receipt ↔
    ∃ status body, Arrived t.exchanges status body ∧ 200 ≤ status ∧ status ≤ 299 ∧
      Client.Answers body receipt ∧ receipt.success = true
  notAccepted : t.result = .error .notAccepted ↔
    ∃ status body receipt, Arrived t.exchanges status body ∧ 200 ≤ status ∧ status ≤ 299 ∧
      Client.Answers body receipt ∧ receipt.success = false
  failed : (∃ failure, t.result = .error (.failed failure)) ↔
    (∃ p, f.validate a = .ok p) ∧ ¬ ∃ status body receipt, Arrived t.exchanges status body ∧
      200 ≤ status ∧ status ≤ 299 ∧ Client.Answers body receipt

/-- Whoever passes the check has a token. -/
theorem exists_token_of_validate (h : f.validate a = .ok p) : ∃ token, a.token = some token := by
  obtain ⟨user, hauthor, -⟩ := Results.bind_eq_ok_iff.mp h
  unfold author at hauthor
  split at hauthor
  · exact ⟨_, ‹_›⟩
  · cases hauthor

theorem publish_of_flaw {flaw : FormFlaw} (h : f.validate a = .error flaw) (c : Client)
    (reply : Reply) : f.publish a c reply = .silent (.error (.flaw flaw)) := by
  rw [publish, h]

/-- The verdict of the registry as the outcome of a publication. -/
def verdict : Except Failure Receipt → Except PublishFailure Receipt
  | .error failure => .error (.failed failure)
  | .ok receipt => if receipt.success then .ok receipt else .error .notAccepted

theorem publish_of_valid (h : f.validate a = .ok p) (htoken : a.token = some token) (c : Client)
    (reply : Reply) : f.publish a c reply = (c.submit p token reply).map verdict := by
  rw [publish, h, htoken]
  rfl

section Verdicts

variable {x : Except Failure Receipt} {receipt : Receipt}

theorem verdict_eq_ok_iff : verdict x = .ok receipt ↔ x = .ok receipt ∧ receipt.success = true := by
  cases x with
  | error failure => simp [verdict]
  | ok receipt' =>
      cases hsuccess : receipt'.success with
      | true =>
          simp only [verdict, hsuccess, if_true, Except.ok.injEq]
          exact ⟨fun h => ⟨h, h ▸ hsuccess⟩, And.left⟩
      | false =>
          simp only [verdict, hsuccess, Bool.false_eq_true, if_false, reduceCtorEq, false_iff]
          rintro ⟨h, htrue⟩
          cases h
          simp [hsuccess] at htrue

theorem verdict_eq_notAccepted_iff :
    verdict x = .error .notAccepted ↔ ∃ receipt, x = .ok receipt ∧ receipt.success = false := by
  cases x with
  | error failure => simp [verdict]
  | ok receipt => cases hsuccess : receipt.success <;> simp [verdict, hsuccess]

theorem verdict_eq_failed_iff :
    (∃ failure, verdict x = .error (.failed failure)) ↔ ∀ receipt, x ≠ .ok receipt := by
  cases x with
  | error failure => simp [verdict]
  | ok receipt => cases hsuccess : receipt.success <;> simp [verdict, hsuccess]

end Verdicts

/-- The outcome of a form without flaws that could be sent. -/
theorem outcome_of_sent (hvalid : f.validate a = .ok p) (ha : a.token = some token)
    (hreaches : c.Reaches) {r : Request} (hsubmits : Submits c token p r) (reply : Reply) :
    PublishOutcome f a c reply ⟨[(r, reply)],
      verdict ((Client.bodyOf c.address reply).bind (Client.readBody Receipt.ofJson))⟩ where
  flawed := by simp [hvalid]
  sent q hq _ := by
    cases hvalid.symm.trans hq
    exact ⟨token, r, ha, hsubmits, rfl⟩
  unsent _ _ h := absurd hreaches h
  accepted receipt := by
    simp only [verdict_eq_ok_iff, Client.bodyOf_readBody_eq_ok_iff, Http.arrived_singleton_iff]
    constructor
    · rintro ⟨⟨status, body, hreply, hlow, hhigh, hanswers⟩, hsuccess⟩
      exact ⟨status, body, hreply, hlow, hhigh, hanswers, hsuccess⟩
    · rintro ⟨status, body, hreply, hlow, hhigh, hanswers, hsuccess⟩
      exact ⟨⟨status, body, hreply, hlow, hhigh, hanswers⟩, hsuccess⟩
  notAccepted := by
    simp only [verdict_eq_notAccepted_iff, Client.bodyOf_readBody_eq_ok_iff,
      Http.arrived_singleton_iff]
    constructor
    · rintro ⟨receipt, ⟨status, body, hreply, hlow, hhigh, hanswers⟩, hrefused⟩
      exact ⟨status, body, receipt, hreply, hlow, hhigh, hanswers, hrefused⟩
    · rintro ⟨status, body, receipt, hreply, hlow, hhigh, hanswers, hrefused⟩
      exact ⟨receipt, ⟨status, body, hreply, hlow, hhigh, hanswers⟩, hrefused⟩
  failed := by
    simp only [verdict_eq_failed_iff, ne_eq, Client.bodyOf_readBody_eq_ok_iff,
      Http.arrived_singleton_iff]
    constructor
    · intro hnone
      refine ⟨⟨p, hvalid⟩, ?_⟩
      rintro ⟨status, body, receipt, hanswer⟩
      exact hnone receipt ⟨status, body, hanswer⟩
    · rintro ⟨-, hnone⟩ receipt ⟨status, body, hanswer⟩
      exact hnone ⟨status, body, receipt, hanswer⟩

/-- A form is published as a whole or not at all, under the token of the account, whatever else the
client carries; and no other answer of the registry counts as a success. -/
theorem publish_is_all_or_nothing (f : Form) (a : Account) (c : Client) (reply : Reply)
    (htoken : ∀ token, a.token = some token → Http.isValue token = true) :
    PublishOutcome f a c reply (f.publish a c reply) := by
  cases hvalid : f.validate a with
  | error flaw =>
      rw [publish_of_flaw hvalid]
      constructor <;> simp [hvalid, Arrived, Traffic.silent]
  | ok p =>
      obtain ⟨token, ha⟩ := exists_token_of_validate hvalid
      rw [publish_of_valid hvalid ha]
      by_cases hreaches : c.Reaches
      · obtain ⟨r, hsubmits, hsubmit⟩ :=
          Client.submit_of_reaches hreaches (htoken token ha) p reply
        rw [hsubmit]
        exact outcome_of_sent hvalid ha hreaches hsubmits reply
      · rw [Client.submit_of_not_reaches hreaches (htoken token ha)]
        constructor <;> simp [hvalid, hreaches, Arrived, Traffic.silent, Traffic.map, verdict]

/-- A form without flaws. -/
def filledIn : Form where
  name := "p"
  description := "d"
  version := "1"
  repository := "r"
  readme := "m"

/-- What is published for it. -/
def checked : Publication where
  name := "p"
  displayName := "p"
  description := "d"
  version := "1"
  author := "o"
  repository := "r"
  homepage := ""
  category := none
  license := .mit
  keywords := []
  readme := "m"

def publisher : Account := ⟨some "t", some { login := "o" }⟩

/-- A body that says yes. -/
def assent : List UInt8 := Text.Utf8.encode (Value.object [("success", .bool true)]).pretty

theorem answers_assent : Client.Answers assent ⟨true, none⟩ := by
  have hdocument := Json.Reader.document_pretty (v := .object [("success", .bool true)])
    ⟨trivial, trivial⟩
  rw [Client.Answers, assent, Text.Utf8.decode_encode, Json.parseAs, hdocument]
  rfl

theorem validate_filledIn : filledIn.validate publisher = .ok checked := by decide +kernel

theorem exists_client (o : ClientOptions) (scheme : String) (login : Option (String × String))
    (h : (Client.make o).toOption.map (fun c => (c.endpoint.scheme, c.endpoint.login?)) =
      some (scheme, login)) :
    ∃ c, Client.make o = .ok c ∧ c.endpoint.scheme = scheme ∧ c.endpoint.login? = login := by
  cases hmake : Client.make o with
  | error failure => simp [hmake, Except.toOption] at h
  | ok c => exact ⟨c, rfl, by simpa [hmake, Except.toOption] using h⟩

/-- Options with credentials of three other kinds. -/
def credentialed : ClientOptions where
  baseUrl := "http://u:p@h"
  account := ⟨some "other", none⟩
  extraHeaders := [("Authorization", "Bearer another")]

theorem published_under_own_token :
    ∃ c r, Client.make credentialed = .ok c ∧
      (filledIn.publish publisher c (.response 200 assent)).exchanges =
        [(r, .response 200 assent)] ∧
      Submits c "t" checked r ∧
      r.headers.values "authorization" = ["Basic dTpw", "Bearer t"] ∧
      (filledIn.publish publisher c (.response 200 assent)).result = .ok ⟨true, none⟩ := by
  obtain ⟨c, hmake, hscheme, hlogin⟩ :=
    exists_client credentialed "http" (some ("u", "p")) (by decide +kernel)
  have hall := publish_is_all_or_nothing filledIn publisher c (.response 200 assent) (by decide)
  obtain ⟨token, r, htoken, hsubmits, hexchanges⟩ := hall.sent _ validate_filledIn (.inl hscheme)
  cases htoken
  have harrived : Arrived (filledIn.publish publisher c (.response 200 assent)).exchanges 200
      assent := by
    rw [hexchanges]
    exact Http.arrived_singleton_iff.mpr rfl
  refine ⟨c, r, hmake, hexchanges, hsubmits, ?_, ?_⟩
  · rw [hsubmits.credentials, hlogin]
    decide +kernel
  · exact (hall.accepted _).mpr
      ⟨200, assent, harrived, by decide, by decide, answers_assent, rfl⟩

/-- Any URL will do for a client, but requests are made over the web only: elsewhere nothing is sent
for a form without flaws. -/
theorem publishes_nothing_elsewhere :
    ∃ c, Client.make { baseUrl := "ftp://h" } = .ok c ∧
      filledIn.validate publisher = .ok checked ∧
      (filledIn.publish publisher c (.response 200 assent)).exchanges = [] ∧
      ∃ failure, (filledIn.publish publisher c (.response 200 assent)).result =
        .error (.failed failure) := by
  obtain ⟨c, hmake, hscheme, -⟩ :=
    exists_client { baseUrl := "ftp://h" } "ftp" none (by decide +kernel)
  have hreaches : ¬ c.Reaches := by simp [Client.Reaches, hscheme]
  have hpublish := publish_of_valid validate_filledIn rfl c (.response 200 assent)
  rw [Client.submit_of_not_reaches hreaches (by decide)] at hpublish
  refine ⟨c, hmake, validate_filledIn, ?_, ?_⟩
  · rw [hpublish]
    rfl
  · rw [hpublish]
    exact ⟨_, rfl⟩

end Form

end PackageRegistry
