import PackageRegistry.Proofs.Client.Operations
import PackageRegistry.Proofs.Listing.Entries
import PackageRegistry.Proofs.Login
import PackageRegistry.Proofs.Publication

/-! # What users are told

A user is told the words of the registry where it refused a request in words, and a phrase of our
own everywhere else. Neither is ever blank.
-/

namespace PackageRegistry

open Http (Arrived Reply Request Traffic)
open Json (Mark Raw Value)
open Text (isBlank)

namespace Text

/-- Behind a first character that is no blank, anything may follow. -/
theorem visible_ofList {c : Char} (h : isBlankChar c = false) (cs : List Char) :
    isBlank (String.ofList (c :: cs)) = false := by
  simp [isBlank, h]

theorem visible_append {s : String} (h : isBlank s = false) (t : String) :
    isBlank (s ++ t) = false := by
  rw [isBlank, String.toList_append, List.all_append, Bool.and_eq_false_iff]
  exact .inl h

end Text

/-! ## The words of the registry -/

/-- The reason that a body gives: it is an object, and the last of its members under `error` is a
text that is not blank. -/
def Explains (body : List UInt8) (reason : String) : Prop :=
  ∃ members marks, Listing.Carries body (.object members) ∧
    Raw.member? "error" members = some (.string marks) ∧ Json.markText marks = .ok reason ∧
    isBlank reason = false

theorem Explains.unique {body : List UInt8} {r s : String} (hr : Explains body r)
    (hs : Explains body s) : r = s := by
  obtain ⟨members, marks, hcarries, hmember, htext, -⟩ := hr
  obtain ⟨members', marks', hcarries', hmember', htext', -⟩ := hs
  cases hcarries.unique hcarries'
  cases hmember.symm.trans hmember'
  exact Except.ok.inj (htext.symm.trans htext')

/-- The text under a key of a value is that of the member as written. -/
theorem text_get?_iff {body : List UInt8} {v : Value}
    (hparse : Json.parse (Text.Utf8.decode body) = .ok v) (key text : String) :
    (v.get? key).bind Value.string? = some text ↔
      ∃ members marks, Listing.Carries body (.object members) ∧
        Raw.member? key members = some (.string marks) ∧ Json.markText marks = .ok text := by
  obtain ⟨x, hdocument, hvalue⟩ := Json.parse_eq_ok_iff.mp hparse
  have hx : Listing.Carries body x := ⟨hdocument, v, hvalue⟩
  generalize Raw.maxDepth = d at hvalue
  cases Raw.means_of_toValue hvalue with
  | @object d members fields hfields =>
      have hrel := Raw.rel_member? hfields key
      have hget : (Value.object (Keyed.sort fields)).get? key =
          Keyed.find? key (Keyed.sort fields) := rfl
      rw [hget]
      constructor
      · intro htext
        obtain ⟨w, hw, hstring⟩ := Option.bind_eq_some_iff.mp htext
        rw [hw] at hrel
        cases w with
        | string s =>
            obtain rfl : s = text := Option.some.inj hstring
            generalize hmember : Raw.member? key members = member at hrel
            cases hrel with
            | @some y _ hy =>
                cases Raw.means_of_toValue hy with
                | @string _ marks _ hmarks => exact ⟨members, marks, hx, hmember, hmarks⟩
        | null | bool | number | array | object => cases hstring
      · rintro ⟨members', marks, hcarries, hmember, hmarks⟩
        cases hx.unique hcarries
        rw [hmember] at hrel
        generalize Keyed.find? key (Keyed.sort fields) = found at hrel ⊢
        cases hrel with
        | @some _ w hw =>
            cases Raw.means_of_toValue hw with
            | string _ hmarks' =>
                rw [hmarks, Except.ok.injEq] at hmarks'
                rw [hmarks']
                rfl
  | null | bool | number | string | array =>
      constructor
      · intro htext
        cases htext
      · rintro ⟨members, marks, hcarries, -⟩
        cases hx.unique hcarries

/-- A rejection comes with the words of its body, or with ours if it has none. -/
theorem rejectionDetail_cases (body : List UInt8) :
    Explains body (rejectionDetail body) ∨
      (∀ reason, ¬ Explains body reason) ∧ rejectionDetail body = genericFailure := by
  unfold rejectionDetail
  cases hparse : Json.parse (Text.Utf8.decode body) with
  | error fault =>
      refine .inr ⟨?_, rfl⟩
      rintro reason ⟨members, marks, ⟨hdocument, v, hvalue⟩, -⟩
      cases hparse.symm.trans (Json.parse_eq_ok_iff.mpr ⟨_, hdocument, hvalue⟩)
  | ok v =>
      have hiff := text_get?_iff hparse "error"
      dsimp only
      cases htext : (v.get? "error").bind Value.string? with
      | none =>
          refine .inr ⟨?_, rfl⟩
          rintro reason ⟨members, marks, hcarries, hmember, hmarks, -⟩
          cases htext.symm.trans ((hiff reason).mpr ⟨members, marks, hcarries, hmember, hmarks⟩)
      | some text =>
          obtain ⟨members, marks, hcarries, hmember, hmarks⟩ := (hiff text).mp htext
          by_cases hblank : isBlank text = true
          · refine .inr ⟨?_, if_pos hblank⟩
            rintro reason ⟨members', marks', hcarries', hmember', hmarks', hvisible⟩
            cases hcarries.unique hcarries'
            cases hmember.symm.trans hmember'
            cases hmarks.symm.trans hmarks'
            simp [hblank] at hvisible
          · simp only [if_neg hblank]
            exact .inl ⟨members, marks, hcarries, hmember, hmarks, by simpa using hblank⟩

/-- A request was turned down, and this is the reason that came with it. -/
def Objects (exchanges : List (Request × Reply)) (reason : String) : Prop :=
  ∃ status body, Arrived exchanges status body ∧ ¬ (200 ≤ status ∧ status ≤ 299) ∧
    Explains body reason

/-- A message that quotes the reason of the registry, if there is one. -/
structure Told (exchanges : List (Request × Reply)) (message : String) : Prop where
  quoted : ∀ reason, Objects exchanges reason → message = reason
  generic : (∀ reason, ¬ Objects exchanges reason) → message = "API request failed"

theorem Told.visible {exchanges : List (Request × Reply)} {message : String}
    (h : Told exchanges message) : isBlank message = false := by
  by_cases hobjects : ∃ reason, Objects exchanges reason
  · obtain ⟨reason, hreason⟩ := hobjects
    obtain ⟨status, body, -, -, -, -, -, -, -, hvisible⟩ := id hreason
    rw [h.quoted reason hreason]
    exact hvisible
  · rw [h.generic (not_exists.mp hobjects)]
    exact Text.visible_ofList rfl _

/-! ## Texts of failures -/

/-- Texts of which none is blank. -/
def AllVisible (texts : List String) : Prop := ∀ text ∈ texts, isBlank text = false

theorem allVisible_nil : AllVisible [] := by simp [AllVisible]

theorem allVisible_cons {text : String} {texts : List String} (h : isBlank text = false)
    (hs : AllVisible texts) : AllVisible (text :: texts) :=
  List.forall_mem_cons.mpr ⟨h, hs⟩

section Texts

open Text (visible_append visible_ofList)

theorem Http.allVisible_causes (url : String) (cause : Interruption) :
    AllVisible (cause.causes url) := by
  have hurl : ∀ {text : String}, isBlank text = false → isBlank (text ++ url ++ ")") = false :=
    fun h => visible_append (visible_append h url) _
  cases cause with
  | unreachable =>
      exact allVisible_cons (hurl (visible_ofList rfl _)) (allVisible_cons (visible_ofList rfl _)
        (allVisible_cons (visible_ofList rfl _) (allVisible_cons (visible_ofList rfl _)
          allVisible_nil)))
  | closed =>
      exact allVisible_cons (hurl (visible_ofList rfl _)) (allVisible_cons (visible_ofList rfl _)
        (allVisible_cons (visible_ofList rfl _) allVisible_nil))
  | truncated =>
      exact allVisible_cons (visible_ofList rfl _) (allVisible_cons (visible_ofList rfl _)
        (allVisible_cons (visible_ofList rfl _) (allVisible_cons (visible_ofList rfl _)
          allVisible_nil)))
  | unsupportedScheme =>
      exact allVisible_cons (hurl (visible_ofList rfl _)) (allVisible_cons (visible_ofList rfl _)
        allVisible_nil)
  | badHeader =>
      exact allVisible_cons (visible_ofList rfl _) (allVisible_cons (visible_ofList rfl _)
        allVisible_nil)

theorem Problem.visible_message (problem : Problem) : isBlank problem.message = false := by
  cases problem with
  | notAnObject => exact visible_ofList rfl _
  | invalidJson detail => exact visible_append (visible_ofList rfl _) detail
  | missingField name | invalidField name =>
      exact visible_append (visible_append (visible_ofList rfl _) name) _

theorem FormFlaw.visible_message (flaw : FormFlaw) : isBlank flaw.message = false := by
  cases flaw with
  | notLoggedIn => exact visible_ofList rfl _
  | missing name | invalidName name =>
      exact visible_append (visible_append (visible_ofList rfl _) name) _

theorem Url.Flaw.visible_message (flaw : Url.Flaw) : isBlank flaw.message = false := by
  cases flaw <;> exact visible_ofList rfl _

theorem DiskFault.visible_message (fault : DiskFault) : isBlank fault.message = false := by
  cases fault <;> exact visible_ofList rfl _

theorem Json.Defect.visible_message (defect : Json.Defect) : isBlank defect.message = false := by
  cases defect with
  | missingField name | repeatedField name =>
      exact visible_append (visible_append (visible_ofList rfl _) name) _
  | wrongType found expected | wrongLength found expected =>
      exact visible_append (visible_append (visible_append (visible_ofList rfl _) _) _) _
  | _ => exact visible_ofList rfl _

theorem StoreFault.allVisible_chain (fault : StoreFault) : AllVisible fault.chain := by
  cases fault with
  | read l fault =>
      exact allVisible_cons (visible_append (visible_append (visible_ofList rfl _) l) _)
        (allVisible_cons fault.visible_message allVisible_nil)
  | parse l fault =>
      exact allVisible_cons (visible_append (visible_append (visible_ofList rfl _) l) _)
        (allVisible_cons (visible_append fault.defect.visible_message _) allVisible_nil)
  | write fault =>
      exact allVisible_cons (visible_ofList rfl _)
        (allVisible_cons fault.visible_message allVisible_nil)
  | replace fault =>
      exact allVisible_cons (visible_append (visible_ofList rfl _) _)
        (allVisible_cons fault.visible_message allVisible_nil)

namespace Failure

theorem allVisible_of_malformed (problem : Problem) : AllVisible (malformed problem).chain :=
  allVisible_cons (visible_append (visible_ofList rfl _) _)
    (allVisible_cons problem.visible_message allVisible_nil)

theorem allVisible_of_transport (url : String) (cause : Http.Interruption) :
    AllVisible (transport url cause).chain :=
  allVisible_cons (visible_append (visible_ofList rfl _) _) (Http.allVisible_causes url cause)

/-- The colon behind the status is seen, whatever the detail. -/
theorem allVisible_of_rejection (status : Nat) (detail : String) :
    AllVisible (rejection status detail).chain := by
  have hcolon : isBlank ": " = false := visible_ofList rfl _
  refine allVisible_cons ?_ allVisible_nil
  rw [isBlank] at hcolon ⊢
  rw [String.toList_append, String.toList_append, List.all_append, List.all_append, hcolon,
    Bool.and_false, Bool.false_and]

end Failure

end Texts

/-! ## Failures of operations -/

namespace Client

/-- What posting an event can come to. -/
inductive Posted : Traffic (Except Failure (List UInt8)) → Prop where
  | unsent (url : String) (cause : Http.Interruption) :
      Posted (.silent (.error (.transport url cause)))
  | interrupted (r : Request) (url : String) (cause : Http.Interruption) :
      Posted ⟨[(r, .interrupted cause)], .error (.transport url cause)⟩
  | refused (r : Request) (status : Nat) (body : List UInt8)
      (h : ¬ (200 ≤ status ∧ status ≤ 299)) :
      Posted ⟨[(r, .response status body)], .error (.rejection status (rejectionDetail body))⟩
  | answered (r : Request) (status : Nat) (body : List UInt8) (h : 200 ≤ status ∧ status ≤ 299) :
      Posted ⟨[(r, .response status body)], .ok body⟩

theorem posted_post (c : Client) (event : String) (payload : Value) (credential : Option String)
    (reply : Reply) : Posted (c.post event payload credential reply) := by
  unfold post
  cases c.request event payload credential with
  | error cause => exact .unsent _ cause
  | ok r =>
      cases reply with
      | interrupted cause => exact .interrupted r _ cause
      | response status body =>
          by_cases hsuccess : Http.isSuccess status = true
          · simp only [bodyOf, if_pos hsuccess]
            exact .answered r status body (Http.isSuccess_iff.mp hsuccess)
          · simp only [bodyOf, if_neg hsuccess]
            exact .refused r status body (mt Http.isSuccess_iff.mpr hsuccess)

namespace Posted

variable {t : Traffic (Except Failure (List UInt8))}

theorem told (h : Posted t) {failure : Failure} (hfail : t.result = .error failure) :
    Told t.exchanges failure.userMessage := by
  cases h with
  | unsent url cause =>
      cases hfail
      exact ⟨by simp [Objects, Arrived, Traffic.silent], fun _ => rfl⟩
  | interrupted r url cause =>
      cases hfail
      exact ⟨by simp [Objects, Arrived], fun _ => rfl⟩
  | answered r status body h => cases hfail
  | refused r status body hstatus =>
      cases hfail
      have honly : ∀ reason,
          Objects [(r, .response status body)] reason → Explains body reason := by
        rintro reason ⟨status', body', harrived, -, hreason⟩
        cases Http.arrived_singleton_iff.mp harrived
        exact hreason
      rcases rejectionDetail_cases body with hexplains | ⟨hsilent, hdetail⟩
      · refine ⟨fun reason hreason => hexplains.unique (honly reason hreason), fun hnone => ?_⟩
        exact absurd ⟨status, body, Http.arrived_singleton_iff.mpr rfl, hstatus, hexplains⟩
          (hnone _)
      · exact ⟨fun reason hreason => absurd (honly reason hreason) (hsilent reason),
          fun _ => hdetail⟩

/-- A body that came back is no refusal. -/
theorem not_objects (h : Posted t) {body : List UInt8} (hok : t.result = .ok body)
    (reason : String) : ¬ Objects t.exchanges reason := by
  cases h with
  | unsent | interrupted | refused => cases hok
  | answered r status body hstatus =>
      rintro ⟨status', body', harrived, hrefused, -⟩
      cases Http.arrived_singleton_iff.mp harrived
      exact hrefused hstatus

/-- A body comes back just when it arrived with a status that is a success. -/
theorem result_eq_ok_iff (h : Posted t) {body : List UInt8} :
    t.result = .ok body ↔
      ∃ status, Arrived t.exchanges status body ∧ 200 ≤ status ∧ status ≤ 299 := by
  cases h with
  | unsent url cause => simp [Traffic.silent, Arrived]
  | interrupted r url cause => simp [Arrived]
  | refused r status bytes hstatus =>
      simp only [reduceCtorEq, Http.arrived_singleton_iff, Reply.response.injEq, false_iff]
      rintro ⟨_, ⟨rfl, -⟩, hsuccess⟩
      exact hstatus hsuccess
  | answered r status bytes hstatus =>
      simp only [Except.ok.injEq, Http.arrived_singleton_iff, Reply.response.injEq]
      constructor
      · intro heq
        exact ⟨status, ⟨rfl, heq⟩, hstatus⟩
      · rintro ⟨_, ⟨-, heq⟩, -⟩
        exact heq

theorem allVisible (h : Posted t) {failure : Failure} (hfail : t.result = .error failure) :
    AllVisible failure.chain := by
  cases h with
  | unsent | interrupted =>
      cases hfail
      exact Failure.allVisible_of_transport _ _
  | refused =>
      cases hfail
      exact Failure.allVisible_of_rejection _ _
  | answered => cases hfail

end Posted

/-- The failure that an operation ends in, if any; that a package is not there is none. -/
def attempt (c : Client) (reply : Reply) : Operation → Traffic (Option Failure)
  | .list f => (c.list f reply).map error?
  | .find name => (c.find name reply).map fun
    | .error (.failed failure) => some failure
    | _ => none
  | .dispatch event payload => (c.dispatch event payload reply).map error?
  | .exchange callback => (c.exchange callback reply).map error?
  | .submit p token => (c.submit p token reply).map error?
where
  error? {α : Type} : Except Failure α → Option Failure
    | .error failure => some failure
    | .ok _ => none

theorem exchanges_attempt (c : Client) (reply : Reply) (op : Operation) :
    (c.attempt reply op).exchanges =
      (c.post op.event op.payload op.credential? reply).exchanges := by
  cases op <;> rfl

theorem error?_eq_some_iff {α : Type} {x : Except Failure α} {failure : Failure} :
    attempt.error? x = some failure ↔ x = .error failure := by
  cases x <;> simp [attempt.error?]

/-- A failure is that of the event, or there is something wrong with the body. -/
theorem bind_cases {α : Type} {x : Except Failure (List UInt8)}
    {read : List UInt8 → Except Failure α} {failure : Failure} (h : x.bind read = .error failure)
    (hread : ∀ body failure, read body = .error failure → ∃ problem, failure = .malformed problem) :
    x = .error failure ∨ (∃ body, x = .ok body) ∧ ∃ problem, failure = .malformed problem := by
  cases x with
  | error other => exact .inl (congrArg Except.error (Except.error.inj h))
  | ok body => exact .inr ⟨⟨body, rfl⟩, hread body failure h⟩

theorem exists_malformed_of_readBody {α : Type} {read : Raw → Except Json.Defect α}
    {body : List UInt8} {failure : Failure} (h : readBody read body = .error failure) :
    ∃ problem, failure = .malformed problem := by
  unfold readBody at h
  cases hparse : Json.parseAs read (Text.Utf8.decode body) with
  | ok a => simp [hparse] at h
  | error fault => exact ⟨_, by simpa [hparse] using h.symm⟩

/-- A listing that came back is searched in vain, or it has a problem. -/
theorem exists_malformed_of_pick {name : String} {page : Listing} {failure : Failure}
    (h : pick name page = .error (.failed failure)) : ∃ problem, failure = .malformed problem := by
  unfold pick at h
  split at h
  · rename_i problem _
    cases h
    exact ⟨problem, rfl⟩
  · split at h <;> cases h

theorem attempt_cases {c : Client} {reply : Reply} {op : Operation} {failure : Failure}
    (h : (c.attempt reply op).result = some failure) :
    (c.post op.event op.payload op.credential? reply).result = .error failure ∨
      (∃ body, (c.post op.event op.payload op.credential? reply).result = .ok body) ∧
        ∃ problem, failure = .malformed problem := by
  cases op with
  | list f =>
      left
      have hmap : (c.post "api-list-packages" f.payload none reply).result.map Listing.ofBody =
          .error failure := error?_eq_some_iff.mp h
      change (c.post "api-list-packages" f.payload none reply).result = _
      cases hpost : (c.post "api-list-packages" f.payload none reply).result with
      | error other => simpa [hpost] using hmap
      | ok body => simp [hpost] at hmap
  | find name =>
      change (c.post "api-list-packages" (Filters.payload {}) none reply).result = _ ∨
        (∃ body, (c.post "api-list-packages" (Filters.payload {}) none reply).result = _) ∧ _
      cases hpost : (c.post "api-list-packages" (Filters.payload {}) none reply).result with
      | error other =>
          have hfind : (c.find name reply).result = .error (.failed other) := by
            simp [find, list, Traffic.map, hpost]
          simp only [attempt, Traffic.map, hfind, Option.some.injEq] at h
          exact .inl (congrArg Except.error h)
      | ok body =>
          have hfind : (c.find name reply).result = pick name (.ofBody body) := by
            simp [find, list, Traffic.map, hpost]
          refine .inr ⟨⟨body, rfl⟩, ?_⟩
          simp only [attempt, Traffic.map, hfind] at h
          split at h
          · rename_i why hpick
            exact exists_malformed_of_pick (Option.some.inj h ▸ hpick)
          · cases h
  | dispatch event payload =>
      refine bind_cases (error?_eq_some_iff.mp h) ?_
      intro body failure hfail
      cases hparse : Json.parse (Text.Utf8.decode body) with
      | ok v => simp [hparse] at hfail
      | error fault => exact ⟨_, by simpa [hparse] using hfail.symm⟩
  | exchange callback =>
      exact bind_cases (error?_eq_some_iff.mp h) fun _ _ => exists_malformed_of_readBody
  | submit p token =>
      exact bind_cases (error?_eq_some_iff.mp h) fun _ _ => exists_malformed_of_readBody

/-- What is told about a failed operation. -/
theorem told_attempt {c : Client} {reply : Reply} {failure : Failure} (op : Operation)
    (h : (c.attempt reply op).result = some failure) :
    Told (c.attempt reply op).exchanges failure.userMessage ∧ AllVisible failure.chain := by
  have hposted := c.posted_post op.event op.payload op.credential? reply
  rw [exchanges_attempt]
  rcases attempt_cases h with hfail | ⟨⟨body, hbody⟩, problem, rfl⟩
  · exact ⟨hposted.told hfail, hposted.allVisible hfail⟩
  · have hnone := hposted.not_objects hbody
    exact ⟨⟨fun reason hreason => absurd hreason (hnone reason), fun _ => rfl⟩,
      Failure.allVisible_of_malformed problem⟩

/-- No reply is asked for where a client cannot be made. -/
theorem told_make {o : ClientOptions} {failure : Failure} (h : make o = .error failure) :
    Told [] failure.userMessage ∧ AllVisible failure.chain := by
  obtain ⟨text, rfl, htext⟩ : ∃ text, failure = .other text ∧ isBlank text = false := by
    simp only [make, Results.bind_eq_error_iff, Results.mapError_eq_error_iff] at h
    rcases h with hendpoint | ⟨_, -, ⟨flaw, -, rfl⟩ | ⟨hs, -, hagent | ⟨_, -, hpure⟩⟩⟩
    · obtain ⟨flaw, -, rfl⟩ := Results.mapError_eq_error_iff.mp hendpoint
      exact ⟨_, rfl, Text.visible_append (Text.visible_append
        (Text.visible_append (Text.visible_ofList rfl _) _) _) _⟩
    · exact ⟨_, rfl, by cases flaw <;> exact Text.visible_ofList rfl _⟩
    · cases hagent' : o.userAgent with
      | none => simp [withUserAgent, hagent'] at hagent
      | some agent =>
          rw [hagent', withUserAgent] at hagent
          obtain ⟨flaw, -, rfl⟩ := Results.mapError_eq_error_iff.mp hagent
          exact ⟨_, rfl, Text.visible_ofList rfl _⟩
    · cases hpure
  exact ⟨⟨by simp [Objects, Arrived], fun _ => rfl⟩, allVisible_cons htext allVisible_nil⟩

end Client

/-! ## Publications -/

namespace Form

theorem verdict_eq_error_cases {x : Except Failure Receipt} {failure : PublishFailure}
    (h : verdict x = .error failure) :
    failure = .notAccepted ∨ ∃ why, x = .error why ∧ failure = .failed why := by
  cases x with
  | error why =>
      cases h
      exact .inr ⟨why, rfl, rfl⟩
  | ok receipt =>
      rw [verdict] at h
      split_ifs at h
      cases h
      exact .inl rfl

theorem told_publish {f : Form} {a : Account} {c : Client} {reply : Reply}
    {failure : PublishFailure} (h : (f.publish a c reply).result = .error failure) :
    isBlank failure.userMessage = false ∧
      ∀ why, failure = .failed why → Told (f.publish a c reply).exchanges failure.userMessage := by
  cases hvalid : f.validate a with
  | error flaw =>
      rw [publish_of_flaw hvalid] at h
      cases h
      exact ⟨flaw.visible_message, by simp⟩
  | ok p =>
      obtain ⟨token, htoken⟩ := exists_token_of_validate hvalid
      rw [publish_of_valid hvalid htoken] at h ⊢
      rcases verdict_eq_error_cases h with rfl | ⟨why, hfail, rfl⟩
      · exact ⟨Text.visible_ofList rfl _, by simp⟩
      · have htold := (Client.told_attempt (.submit p token)
          (Client.error?_eq_some_iff.mpr hfail)).1
        exact ⟨htold.visible, fun _ _ => htold⟩

end Form

/-! ## Logins -/

namespace LoginAnswer

/-- An answer that grants no account, and the reason that is given for it: that of the registry
unless it is missing or blank. -/
structure Refuses (answer : LoginAnswer) (reason : String) : Prop where
  denied : answer.success = false ∨ answer.data = none
  quoted : ∀ text, answer.error = some text → isBlank text = false → reason = text
  fallback : (∀ text, answer.error = some text → isBlank text = true) →
    reason = "Authentication failed"

theorem Refuses.visible {answer : LoginAnswer} {reason : String} (h : Refuses answer reason) :
    isBlank reason = false := by
  by_cases hquoted : ∃ text, answer.error = some text ∧ isBlank text = false
  · obtain ⟨text, htext, hvisible⟩ := hquoted
    rw [h.quoted text htext hvisible]
    exact hvisible
  · have hblank : ∀ text, answer.error = some text → isBlank text = true := by
      simpa using hquoted
    rw [h.fallback hblank]
    exact Text.visible_ofList rfl _

/-- The reason that is given for an answer without an account. -/
def reason (answer : LoginAnswer) : String :=
  match answer.error with
  | some text => if isBlank text then "Authentication failed" else text
  | none => "Authentication failed"

theorem refuses_iff {answer : LoginAnswer} {reason : String} :
    Refuses answer reason ↔
      (answer.success = false ∨ answer.data = none) ∧ reason = answer.reason := by
  unfold LoginAnswer.reason
  constructor
  · rintro ⟨hdenied, hquoted, hfallback⟩
    refine ⟨hdenied, ?_⟩
    split
    · rename_i text htext
      by_cases hblank : isBlank text = true
      · rw [if_pos hblank]
        exact hfallback (by simp [htext, hblank])
      · rw [if_neg hblank]
        exact hquoted text htext (by simpa using hblank)
    · rename_i hnone
      exact hfallback (by simp [hnone])
  · rintro ⟨hdenied, rfl⟩
    refine ⟨hdenied, ?_, ?_⟩
    · intro text htext hvisible
      simp [htext, hvisible]
    · intro hblank
      split
      · rename_i text htext
        exact if_pos (hblank text htext)
      · rfl

/-- An answer grants nothing just when it refuses, and then gives its reason. -/
theorem account_eq_error_iff {answer : LoginAnswer} {failure : LoginFailure} :
    answer.account = .error failure ↔
      ∃ reason, Refuses answer reason ∧ failure = .rejected reason := by
  have hdenied : answer.success = false ∨ answer.data = none →
      answer.account = .error (.rejected answer.reason) := by
    obtain ⟨success, data, error⟩ := answer
    rintro (rfl | rfl)
    · cases error <;> rfl
    · cases success <;> cases error <;> rfl
  constructor
  · intro h
    have hrefused : answer.success = false ∨ answer.data = none := by
      by_contra hgranted
      obtain ⟨hsuccess, hdata⟩ := not_or.mp hgranted
      obtain ⟨⟨token, user⟩, hdata⟩ := Option.ne_none_iff_exists'.mp hdata
      rw [Bool.not_eq_false] at hsuccess
      cases h.symm.trans (account_eq_ok_iff.mpr ⟨token, user, hsuccess, hdata, rfl⟩)
    refine ⟨answer.reason, refuses_iff.mpr ⟨hrefused, rfl⟩, ?_⟩
    exact Except.error.inj (h.symm.trans (hdenied hrefused))
  · rintro ⟨reason, hrefuses, rfl⟩
    obtain ⟨hrefused, rfl⟩ := refuses_iff.mp hrefuses
    exact hdenied hrefused

end LoginAnswer

theorem LoginFailure.allVisible_of_invalidUrl {what : String} (flaw : Url.Flaw) :
    AllVisible (invalidUrl what flaw).chain :=
  allVisible_cons
    (Text.visible_append (Text.visible_append (Text.visible_append (Text.visible_ofList rfl _) _) _)
      _)
    (allVisible_cons flaw.visible_message allVisible_nil)

/-- A login that cannot be started says why. -/
theorem Provider.allVisible_of_authorization {p : Provider} {state : String}
    {failure : LoginFailure} (h : p.authorization state = .error failure) :
    AllVisible failure.chain := by
  unfold authorization at h
  split_ifs at h with hblank
  · cases h
    exact allVisible_cons (Text.visible_ofList rfl _) allVisible_nil
  · simp only [Results.pure_eq_ok, Results.bind_eq_error_iff,
      Results.mapError_eq_error_iff, reduceCtorEq, and_false, exists_false, or_false] at h
    obtain ⟨flaw, -, rfl⟩ | ⟨_, -, flaw, -, rfl⟩ := h
    · exact LoginFailure.allVisible_of_invalidUrl flaw
    · exact LoginFailure.allVisible_of_invalidUrl flaw

namespace Callback

theorem allVisible_of_parameter {ps : List (String × String)} {name : String}
    {failure : LoginFailure} (h : parameter ps name = .error failure) :
    AllVisible failure.chain := by
  have hmissing : AllVisible (LoginFailure.missingParameter name).chain :=
    allVisible_cons (Text.visible_append (Text.visible_append (Text.visible_ofList rfl _) _) _)
      allVisible_nil
  unfold parameter at h
  split at h
  · cases h
    exact hmissing
  · cases h
    exact hmissing
  · cases h

theorem allVisible_of_ofPairs {ps : List (String × String)} {failure : LoginFailure}
    (h : ofPairs ps = .error failure) : AllVisible failure.chain := by
  simp only [ofPairs, Results.bind_eq_error_iff, Results.pure_eq_ok, reduceCtorEq, and_false,
    exists_false, or_false] at h
  obtain hcode | ⟨_, -, hstate⟩ := h
  · exact allVisible_of_parameter hcode
  · exact allVisible_of_parameter hstate

/-- Words that are no callback are turned down with a reason. -/
theorem allVisible_of_parse {input : String} {failure : LoginFailure}
    (h : parse input = .error failure) : AllVisible failure.chain := by
  simp only [parse] at h
  split at h
  · exact allVisible_of_ofPairs h
  · split at h
    · exact allVisible_of_ofPairs h
    · cases h
      exact LoginFailure.allVisible_of_invalidUrl _

/-- An answer that cannot be kept is a failure to get one, a refusal, or a fault of the store. -/
theorem keep_eq_error_cases {store : Store} {r : Except Failure LoginAnswer}
    {failure : LoginFailure} (h : (keep store r).1 = .error failure) :
    (∃ why, r = .error why ∧ failure = .failed why) ∨
      (∃ answer, r = .ok answer ∧ answer.account = .error failure) ∨
      ∃ fault, failure = .notStored fault := by
  unfold keep at h
  split at h
  · rename_i why
    cases h
    exact .inl ⟨why, rfl, rfl⟩
  · rename_i answer
    split at h
    · rename_i refusal haccount
      cases h
      exact .inr (.inl ⟨answer, rfl, haccount⟩)
    · split at h
      · cases h
        exact .inr (.inr ⟨_, rfl⟩)
      · cases h

/-- A login is turned down with the reason of an answer that refuses it. -/
theorem keep_eq_rejected_iff {store : Store} {r : Except Failure LoginAnswer} {reason : String} :
    (keep store r).1 = .error (.rejected reason) ↔
      ∃ answer, r = .ok answer ∧ LoginAnswer.Refuses answer reason := by
  constructor
  · intro h
    rcases keep_eq_error_cases h with ⟨why, -, hwhy⟩ | ⟨answer, rfl, haccount⟩ | ⟨fault, hfault⟩
    · cases hwhy
    · obtain ⟨_, hrefuses, heq⟩ := LoginAnswer.account_eq_error_iff.mp haccount
      cases heq
      exact ⟨answer, rfl, hrefuses⟩
    · cases hfault
  · rintro ⟨answer, rfl, hrefuses⟩
    have haccount := LoginAnswer.account_eq_error_iff.mpr ⟨reason, hrefuses, rfl⟩
    simp only [keep, haccount]

theorem complete_of_match {callback : Callback} {expected : String}
    (h : callback.state = expected) (c : Client) (reply : Reply) (store : Store) :
    callback.complete expected c reply store = (c.exchange callback reply).map (keep store) :=
  if_neg (not_not.mpr h)

/-- What is told about a failed login. -/
theorem told_complete {callback : Callback} {expected : String} {c : Client} {reply : Reply}
    {store : Store} {failure : LoginFailure}
    (h : (callback.complete expected c reply store).result.1 = .error failure) :
    AllVisible failure.chain ∧ ∀ why, failure = .failed why →
      Told (callback.complete expected c reply store).exchanges why.userMessage := by
  by_cases hstate : callback.state = expected
  · rw [complete_of_match hstate] at h ⊢
    rcases keep_eq_error_cases h with ⟨why, hfail, rfl⟩ | ⟨answer, -, haccount⟩ | ⟨fault, rfl⟩
    · obtain ⟨htold, hvisible⟩ := Client.told_attempt (.exchange callback)
        (Client.error?_eq_some_iff.mpr hfail)
      refine ⟨hvisible, fun _ heq => ?_⟩
      cases heq
      exact htold
    · obtain ⟨reason, hrefuses, rfl⟩ := LoginAnswer.account_eq_error_iff.mp haccount
      exact ⟨allVisible_cons hrefuses.visible allVisible_nil, by simp⟩
    · exact ⟨allVisible_cons (Text.visible_ofList rfl _) fault.allVisible_chain, by simp⟩
  · rw [complete, if_pos hstate] at h
    cases h
    exact ⟨allVisible_cons (Text.visible_ofList rfl _) allVisible_nil, by simp⟩

/-- A login is turned down in the words of an answer that arrived and refuses it. -/
theorem rejected_iff {callback : Callback} {expected : String} {c : Client} {reply : Reply}
    {store : Store} {reason : String} :
    (callback.complete expected c reply store).result.1 = .error (.rejected reason) ↔
      callback.state = expected ∧ ∃ status body answer,
        Arrived (callback.complete expected c reply store).exchanges status body ∧
        (200 ≤ status ∧ status ≤ 299) ∧ Client.readBody LoginAnswer.ofJson body = .ok answer ∧
        LoginAnswer.Refuses answer reason := by
  by_cases hstate : callback.state = expected
  · have hposted := c.posted_post "api-auth-callback"
      (.record [("code", .string callback.code), ("state", .string callback.state)]) none reply
    rw [complete_of_match hstate, and_iff_right hstate]
    refine keep_eq_rejected_iff.trans ?_
    constructor
    · rintro ⟨answer, hanswer, hrefuses⟩
      obtain ⟨body, hbody, hread⟩ := Results.bind_eq_ok_iff.mp hanswer
      obtain ⟨status, harrived, hstatus⟩ := hposted.result_eq_ok_iff.mp hbody
      exact ⟨status, body, answer, harrived, hstatus, hread, hrefuses⟩
    · rintro ⟨status, body, answer, harrived, hstatus, hread, hrefuses⟩
      have hbody := hposted.result_eq_ok_iff.mpr ⟨status, harrived, hstatus⟩
      exact ⟨answer, Results.bind_eq_ok_iff.mpr ⟨body, hbody, hread⟩, hrefuses⟩
  · simp [complete, Traffic.silent, hstate]

end Callback

/-! ## Whatever fails -/

/-- What users of a client are told where this reply does not get them what they asked for. -/
structure ToldWhy (c : Client) (reply : Reply) : Prop where
  operations : ∀ op failure, (c.attempt reply op).result = some failure →
    Told (c.attempt reply op).exchanges failure.userMessage ∧ AllVisible failure.chain
  publications : ∀ (f : Form) a failure, (f.publish a c reply).result = .error failure →
    isBlank failure.userMessage = false ∧
      ∀ why, failure = .failed why → Told (f.publish a c reply).exchanges failure.userMessage
  logins : ∀ (callback : Callback) expected store failure,
    (callback.complete expected c reply store).result.1 = .error failure →
      AllVisible failure.chain ∧ ∀ why, failure = .failed why →
        Told (callback.complete expected c reply store).exchanges why.userMessage
  refusals : ∀ (callback : Callback) expected store reason,
    (callback.complete expected c reply store).result.1 = .error (.rejected reason) ↔
      callback.state = expected ∧ ∃ status body answer,
        Arrived (callback.complete expected c reply store).exchanges status body ∧
        (200 ≤ status ∧ status ≤ 299) ∧ Client.readBody LoginAnswer.ofJson body = .ok answer ∧
        LoginAnswer.Refuses answer reason

/-- Users are told in the words of the registry why it refused a request, if it has any, and never
in blanks. Where nothing is asked of the registry, the words are our own. -/
theorem users_are_told_why :
    (∀ c reply, ToldWhy c reply) ∧
      (∀ o failure, Client.make o = .error failure →
        Told [] failure.userMessage ∧ AllVisible failure.chain) ∧
      (∀ (p : Provider) state failure, p.authorization state = .error failure →
        AllVisible failure.chain) ∧
      ∀ input failure, Callback.parse input = .error failure → AllVisible failure.chain := by
  refine ⟨fun c reply => ?_, fun o failure => Client.told_make,
    fun p state failure => p.allVisible_of_authorization,
    fun input failure => Callback.allVisible_of_parse⟩
  exact {
    operations := fun op failure => Client.told_attempt op
    publications := fun f a failure => Form.told_publish
    logins := fun callback expected store failure => Callback.told_complete
    refusals := fun callback expected store reason => Callback.rejected_iff }

/-! ### A registry that is full -/

/-- A refusal with its reason. -/
def refusal : Value := .object [("error", .string "full")]

theorem explains_refusal : Explains (Text.Utf8.encode refusal.pretty) "full" := by
  have hplain : refusal.Plain := by simp [refusal, Value.Plain, Value.PlainFields]
  refine ⟨Raw.ofFields [("error", .string "full")], Json.marks "full",
    ⟨?_, _, Json.toValue_ofValue refusal _ hplain (by decide)⟩, ?_, Json.markText_marks "full",
    Text.visible_ofList rfl _⟩
  · rw [Text.Utf8.decode_encode, Json.Reader.document_pretty hplain]
    rfl
  · rw [Listing.member?_ofFields]
    rfl

/-- Its words reach the user. -/
theorem full_registry_is_quoted :
    ∃ c failure, Client.make { baseUrl := "http://h" } = .ok c ∧
      (c.attempt (.response 503 (Text.Utf8.encode refusal.pretty)) (.list {})).result =
        some failure ∧ failure.userMessage = "full" := by
  obtain ⟨c, hmake, hscheme, -⟩ :=
    Form.exists_client { baseUrl := "http://h" } "http" none (by decide +kernel)
  -- For any body first: the rejection is not to be computed while the request is.
  have hrejected : ∀ body, Arrived (c.attempt (.response 503 body) (.list {})).exchanges 503 body ∧
      (c.attempt (.response 503 body) (.list {})).result =
        some (.rejection 503 (rejectionDetail body)) := by
    intro body
    obtain ⟨r, -, -, hpost⟩ := Client.post_of_reaches (.inl hscheme) "api-list-packages"
      (Filters.payload {}) (.response 503 body)
    rw [Client.attempt, Client.list, hpost]
    exact ⟨Http.arrived_singleton_iff.mpr rfl, rfl⟩
  obtain ⟨harrived, hresult⟩ := hrejected (Text.Utf8.encode refusal.pretty)
  have htold := ((users_are_told_why.1 c _).operations (.list {}) _ hresult).1
  exact ⟨c, _, hmake, hresult,
    htold.quoted "full" ⟨503, _, harrived, by decide, explains_refusal⟩⟩

end PackageRegistry
