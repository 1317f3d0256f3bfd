import PackageRegistry.Login
import PackageRegistry.Proofs.Client
import PackageRegistry.Proofs.Store

/-! # Logging in

A login is all or nothing. Nobody is asked unless the state that came back is the one that was sent,
and nothing is kept unless the registry granted an account.
-/

namespace PackageRegistry

open Http (Reply Request Traffic)

/-! ## What a store holds -/

namespace Store

/-- The account in memory, or the bytes of the file if there is one. -/
def held : Store → Option (Account ⊕ List UInt8)
  | .memory a => some (.inl a)
  | .file l d => (d.read l).toOption.map .inr

theorem load_file (l : Location) (d : Disk) : load (.file l d) = AccountFile.load l d := by
  rw [load]

theorem save_file (a : Account) (l : Location) (d : Disk) :
    save a (.file l d) = ((AccountFile.save l a d).1, .file l (AccountFile.save l a d).2) := by
  rw [save]

theorem load_save {store : Store} {a : Account} (h : (store.save a).1 = .ok ()) :
    (store.save a).2.load = .ok a := by
  cases store with
  | memory _ => rfl
  | file l d =>
      simp only [save_file, load_file] at h ⊢
      exact AccountFile.load_save h

/-- A store that has an account, or a file that cannot be read as one; or whose missing file has a
place: nothing else is there, and the data directory can be made and does not lead through it. -/
def Sheltered : Store → Prop
  | .memory _ => True
  | .file l d => d.read l = .error .notFound →
      ∃ directory, l = AccountFile.location directory ∧ d.Whole ∧
        AccountFile.found directory d = none ∧ (d.makeParent l).1 = .ok () ∧
        ¬ d.LeadsThrough directory (d.pathOf l)

example : Sheltered (.file (AccountFile.location "/d/rads/.") {}) :=
  fun _ => ⟨"/d/rads/.", rfl, Disk.whole_empty, by decide +kernel, by decide +kernel,
    by decide +kernel⟩

/-- What an account that could not be kept leaves behind: what the store held, loaded as it was
unless a missing file has become one that cannot be reached. -/
structure Spared (before after : Store) : Prop where
  held : after.held = before.held
  load : after.load = before.load ∨
    before.held = none ∧ before.load = .ok {} ∧ ∃ fault, after.load = .error fault
  sheltered : before.Sheltered → after.load = before.load

theorem Spared.refl (store : Store) : Spared store store := ⟨rfl, .inl rfl, fun _ => rfl⟩

theorem spared_of_read {l : Location} {d e : Disk} (h : e.read l = d.read l) :
    Spared (.file l d) (.file l e) := by
  have hload : load (.file l e) = load (.file l d) := by
    rw [load_file, load_file, AccountFile.load_congr h]
  exact ⟨by simp only [Store.held, h], .inl hload, fun _ => hload⟩

/-- A missing file that still cannot be read is loaded as it was, or it cannot be reached now. -/
theorem spared_of_missing {l : Location} {d e : Disk} (hmissing : d.read l = .error .notFound)
    (hunread : ∀ bytes, e.read l ≠ .ok bytes) (hsheltered : ¬ Sheltered (.file l d)) :
    Spared (.file l d) (.file l e) := by
  have hload : load (.file l d) = .ok {} := by
    rw [load_file, AccountFile.load_of_notFound hmissing]
  cases hread : e.read l with
  | ok bytes => exact absurd hread (hunread bytes)
  | error fault =>
      refine ⟨by simp only [held, hread, hmissing]; rfl, ?_, fun h => absurd h hsheltered⟩
      by_cases hstill : fault = .notFound
      · subst hstill
        left
        rw [hload, load_file, AccountFile.load_of_notFound hread]
      · refine .inr ⟨by simp only [held, hmissing]; rfl, hload, .read l fault, ?_⟩
        rw [load_file, AccountFile.load_of_error hread hstill]

/-- A missing file that is sheltered can be written. -/
theorem not_sheltered_of_save_error {l : Location} {d : Disk} {a : Account} {fault : StoreFault}
    (hmissing : d.read l = .error .notFound) (h : (AccountFile.save l a d).1 = .error fault) :
    ¬ Sheltered (.file l d) := by
  intro hsheltered
  obtain ⟨directory, rfl, hdisk, hnone, hmade, hdata⟩ := hsheltered hmissing
  have hkept := AccountFile.save_of_found_none hdisk hmissing hnone hmade hdata a
  simp [h] at hkept

theorem spared_save {store : Store} {a : Account} {fault : StoreFault}
    (h : (store.save a).1 = .error fault) : Spared store (store.save a).2 := by
  cases store with
  | memory _ => cases h
  | file l d =>
      simp only [save_file] at h ⊢
      have hgrown : Disk.Grown d (d.makeParent l).2 := Disk.grown_makeParent d l
      rcases AccountFile.save_cases l a d with ⟨other, hsave, hwhole⟩ | ⟨hsave, -⟩
      · by_cases hmissing : d.read l = .error .notFound
        · have hsheltered := not_sheltered_of_save_error hmissing h
          simp only [hsave]
          rcases hwhole with hsame | hunread
          · rw [hsame]
            exact .refl _
          · exact spared_of_missing hmissing hunread hsheltered
        · simp only [hsave]
          exact spared_of_read (hgrown.read_eq hmissing)
      · simp only [hsave, reduceCtorEq] at h

end Store

/-! ## The exchange with the registry -/

namespace Client

/-- The one request of a login, with the code and the state in it. -/
theorem exchange_of_reaches {c : Client} (h : c.Reaches) (callback : Callback) (reply : Reply) :
    ∃ r : Request, r.url = c.endpoint ∧
      r.body = .record [
        ("event_type", .string "api-auth-callback"),
        ("client_payload", .record [
          ("code", .string callback.code), ("state", .string callback.state)])] ∧
      c.exchange callback reply =
        ⟨[(r, reply)], (bodyOf c.address reply).bind (readBody LoginAnswer.ofJson)⟩ := by
  obtain ⟨r, hurl, hbody, hpost⟩ := post_of_reaches h "api-auth-callback"
    (.record [("code", .string callback.code), ("state", .string callback.state)]) reply
  refine ⟨r, hurl, hbody, ?_⟩
  rw [exchange, hpost]
  rfl

theorem exchange_of_not_reaches {c : Client} (h : ¬ c.Reaches) (callback : Callback)
    (reply : Reply) :
    c.exchange callback reply = .silent (.error (.transport c.address .unsupportedScheme)) := by
  rw [exchange, post_of_not_reaches h]
  rfl

end Client

namespace LoginAnswer

/-- A reply that grants an account: its status is a success, and its body says that the login was
one and gives a token and a user. -/
def Grants (reply : Reply) (token : String) (user : Profile) : Prop :=
  ∃ status body answer, reply = .response status body ∧ Http.isSuccess status = true ∧
    Client.readBody LoginAnswer.ofJson body = .ok answer ∧
    answer.success = true ∧ answer.data = some (token, user)

theorem account_eq_ok_iff {answer : LoginAnswer} {a : Account} :
    answer.account = .ok a ↔ ∃ token user, answer.success = true ∧
      answer.data = some (token, user) ∧ a = ⟨some token, some user⟩ := by
  unfold account
  split
  · rename_i token user hsuccess hdata
    constructor
    · intro h
      exact ⟨token, user, hsuccess, hdata, (Except.ok.inj h).symm⟩
    · rintro ⟨token', user', -, hdata', rfl⟩
      cases hdata.symm.trans hdata'
      rfl
  · rename_i hother
    constructor
    · intro h
      split at h <;> cases h
    · rintro ⟨token, user, hsuccess, hdata, -⟩
      exact absurd hdata (hother token user hsuccess)

/-- A reply is read as an answer with an account just when it grants that account. -/
theorem read_account_iff (reply : Reply) (url : String) (a : Account) :
    (∃ answer, (Client.bodyOf url reply).bind (Client.readBody LoginAnswer.ofJson) = .ok answer ∧
      answer.account = .ok a) ↔ ∃ token user, Grants reply token user ∧
        a = ⟨some token, some user⟩ := by
  constructor
  · rintro ⟨answer, hread, haccount⟩
    obtain ⟨token, user, hsuccess, hdata, rfl⟩ := account_eq_ok_iff.mp haccount
    obtain ⟨body, hbody, hanswer⟩ := Results.bind_eq_ok_iff.mp hread
    cases reply with
    | interrupted cause => cases hbody
    | response status bytes =>
        rw [Client.bodyOf] at hbody
        split_ifs at hbody with hstatus
        obtain rfl := Except.ok.inj hbody
        exact ⟨token, user, ⟨status, bytes, answer, rfl, hstatus, hanswer, hsuccess, hdata⟩, rfl⟩
  · rintro ⟨token, user, ⟨status, body, answer, rfl, hstatus, hread, hsuccess, hdata⟩, rfl⟩
    refine ⟨answer, ?_, account_eq_ok_iff.mpr ⟨token, user, hsuccess, hdata, rfl⟩⟩
    rw [Client.bodyOf, if_pos hstatus]
    exact hread

end LoginAnswer

/-! ## Completing a login -/

namespace Callback

/-- An answer without an account changes nothing; an account is kept, or it could not be. -/
theorem keep_cases (store : Store) (r : Except Failure LoginAnswer) :
    (∃ failure, keep store r = (.error failure, store) ∧
      ∀ answer a, r = .ok answer → answer.account ≠ .ok a) ∨
    ∃ answer a, r = .ok answer ∧ answer.account = .ok a ∧
      ((∃ fault, (store.save a).1 = .error fault ∧
          keep store r = (.error (.notStored fault), (store.save a).2)) ∨
        ((store.save a).1 = .ok () ∧ keep store r = (.ok a, (store.save a).2))) := by
  unfold keep
  cases r with
  | error failure => exact .inl ⟨.failed failure, rfl, by simp⟩
  | ok answer =>
      cases haccount : answer.account with
      | error refusal =>
          refine .inl ⟨refusal, by simp only [haccount], ?_⟩
          rintro answer' a ⟨⟩
          simp [haccount]
      | ok a =>
          refine .inr ⟨answer, a, rfl, haccount, ?_⟩
          rcases hsave : store.save a with ⟨result, after⟩
          cases result with
          | error fault => exact .inl ⟨fault, rfl, by simp only [haccount, hsave]⟩
          | ok _ => exact .inr ⟨rfl, by simp only [haccount, hsave]⟩

/-- An account is kept just when the answer has it and the store takes it. -/
theorem keep_eq_ok_iff {store : Store} {r : Except Failure LoginAnswer} {a : Account} :
    (keep store r).1 = .ok a ↔
      (∃ answer, r = .ok answer ∧ answer.account = .ok a) ∧ (store.save a).1 = .ok () := by
  rcases keep_cases store r with ⟨failure, hkeep, hnone⟩ | ⟨answer, b, rfl, haccount, hkept⟩
  · constructor
    · intro hok
      simp [hkeep] at hok
    · rintro ⟨⟨answer, hread, haccount⟩, -⟩
      exact absurd haccount (hnone answer a hread)
  · constructor
    · intro hok
      rcases hkept with ⟨fault, -, hkeep⟩ | ⟨hsave, hkeep⟩
      · simp [hkeep] at hok
      · obtain rfl : b = a := by simpa [hkeep] using hok
        exact ⟨⟨answer, rfl, haccount⟩, hsave⟩
    · rintro ⟨⟨answer', hread, haccount'⟩, hsave⟩
      obtain rfl := Except.ok.inj hread
      obtain rfl : b = a := Except.ok.inj (haccount.symm.trans haccount')
      rcases hkept with ⟨fault, hfault, -⟩ | ⟨-, hkeep⟩
      · simp [hsave] at hfault
      · rw [hkeep]

theorem load_keep {store : Store} {r : Except Failure LoginAnswer} {a : Account}
    (h : (keep store r).1 = .ok a) : (keep store r).2.load = .ok a := by
  rcases keep_cases store r with ⟨failure, hkeep, -⟩ |
    ⟨answer, b, -, -, ⟨fault, -, hkeep⟩ | ⟨hsave, hkeep⟩⟩
  · simp [hkeep] at h
  · simp [hkeep] at h
  · obtain rfl : b = a := by simpa [hkeep] using h
    rw [hkeep]
    exact Store.load_save hsave

/-- Unless an account could not be kept, the store is the same. -/
theorem keep_eq_of_error {store : Store} {r : Except Failure LoginAnswer} {failure : LoginFailure}
    (h : (keep store r).1 = .error failure) (hstored : ∀ fault, failure ≠ .notStored fault) :
    (keep store r).2 = store := by
  rcases keep_cases store r with ⟨other, hkeep, -⟩ |
    ⟨answer, b, -, -, ⟨fault, -, hkeep⟩ | ⟨-, hkeep⟩⟩
  · rw [hkeep]
  · rw [hkeep] at h
    exact absurd (Except.error.inj h).symm (hstored fault)
  · simp [hkeep] at h

theorem spared_keep {store : Store} {r : Except Failure LoginAnswer} {failure : LoginFailure}
    (h : (keep store r).1 = .error failure) : store.Spared (keep store r).2 := by
  rcases keep_cases store r with ⟨failure, hkeep, -⟩ |
    ⟨answer, b, -, -, ⟨fault, hsave, hkeep⟩ | ⟨-, hkeep⟩⟩
  · rw [hkeep]
    exact .refl store
  · rw [hkeep]
    exact Store.spared_save hsave
  · simp [hkeep] at h

/-- A login fails before anything is kept, or it gets as far as keeping what was granted. -/
theorem complete_cases (callback : Callback) (expected : String) (c : Client) (reply : Reply)
    (store : Store) :
    (∃ failure, (callback.complete expected c reply store).result = (.error failure, store)) ∨
    ∃ token user, LoginAnswer.Grants reply token user ∧
      ((∃ fault, (store.save ⟨some token, some user⟩).1 = .error fault ∧
          (callback.complete expected c reply store).result =
            (.error (.notStored fault), (store.save ⟨some token, some user⟩).2)) ∨
        ((store.save ⟨some token, some user⟩).1 = .ok () ∧
          (callback.complete expected c reply store).result =
            (.ok ⟨some token, some user⟩, (store.save ⟨some token, some user⟩).2))) := by
  unfold complete
  split_ifs with hstate
  · exact .inl ⟨_, rfl⟩
  · by_cases hreaches : c.Reaches
    · obtain ⟨r, -, -, hexchange⟩ := Client.exchange_of_reaches hreaches callback reply
      rw [hexchange]
      rcases keep_cases store
          ((Client.bodyOf c.address reply).bind (Client.readBody LoginAnswer.ofJson)) with
        ⟨failure, hkeep, -⟩ | ⟨answer, a, hread, haccount, hkept⟩
      · exact .inl ⟨failure, hkeep⟩
      · obtain ⟨token, user, hgrants, rfl⟩ :=
          (LoginAnswer.read_account_iff _ _ _).mp ⟨answer, hread, haccount⟩
        exact .inr ⟨token, user, hgrants, hkept⟩
    · rw [Client.exchange_of_not_reaches hreaches]
      exact .inl ⟨_, rfl⟩

/-- What there is to say about the end of a login. -/
structure Completed (callback : Callback) (expected : String) (c : Client) (reply : Reply)
    (store : Store) (t : Traffic (Except LoginFailure Account × Store)) : Prop where
  /-- Another state than the expected one is turned away before anything is sent. -/
  guarded : callback.state ≠ expected →
    t.exchanges = [] ∧ t.result = (.error .stateMismatch, store)
  /-- With the expected state there is one request, with the code and the state in it. -/
  asks : callback.state = expected → c.Reaches →
    ∃ r : Request, t.exchanges = [(r, reply)] ∧ r.url = c.endpoint ∧
      r.body = .record [
        ("event_type", .string "api-auth-callback"),
        ("client_payload", .record [
          ("code", .string callback.code), ("state", .string callback.state)])]
  /-- A client that can make no requests fails as if the registry were out of reach. -/
  cutOff : callback.state = expected → ¬ c.Reaches →
    t.exchanges = [] ∧ t.result = (.error (.failed (.transport c.address .unsupportedScheme)), store)
  /-- A login comes about just when the registry grants an account that can be kept. -/
  succeeds : ∀ a, t.result.1 = .ok a ↔
    callback.state = expected ∧ c.Reaches ∧
      (∃ token user, LoginAnswer.Grants reply token user ∧ a = ⟨some token, some user⟩) ∧
      (store.save a).1 = .ok ()
  kept : ∀ a, t.result.1 = .ok a → t.result.2.load = .ok a
  /-- Only an account that could not be kept leaves anything behind. -/
  untouched : ∀ failure, t.result.1 = .error failure →
    (∀ fault, failure ≠ .notStored fault) → t.result.2 = store
  /-- Every failure leaves the store with what it held. -/
  restored : ∀ failure, t.result.1 = .error failure → store.Spared t.result.2

theorem completed_of_mismatch {callback : Callback} {expected : String} (c : Client)
    (reply : Reply) (store : Store) (h : callback.state ≠ expected) :
    Completed callback expected c reply store (.silent (.error .stateMismatch, store)) where
  guarded _ := ⟨rfl, rfl⟩
  asks heq := absurd heq h
  cutOff heq := absurd heq h
  succeeds a := by
    constructor
    · intro hok
      cases hok
    · rintro ⟨heq, -⟩
      exact absurd heq h
  kept a hok := by cases hok
  untouched _ _ _ := rfl
  restored _ _ := .refl store

theorem completed_of_cutOff {callback : Callback} {expected : String} {c : Client} (reply : Reply)
    (store : Store) (heq : callback.state = expected) (h : ¬ c.Reaches) :
    Completed callback expected c reply store
      (.silent (.error (.failed (.transport c.address .unsupportedScheme)), store)) where
  guarded hne := absurd heq hne
  asks _ hreaches := absurd hreaches h
  cutOff _ _ := ⟨rfl, rfl⟩
  succeeds a := by
    constructor
    · intro hok
      cases hok
    · rintro ⟨-, hreaches, -⟩
      exact absurd hreaches h
  kept a hok := by cases hok
  untouched _ _ _ := rfl
  restored _ _ := .refl store

theorem completed_of_answer {callback : Callback} {expected : String} {c : Client}
    {reply : Reply} {store : Store} {r : Request} (heq : callback.state = expected)
    (hreaches : c.Reaches) (hurl : r.url = c.endpoint)
    (hbody : r.body = .record [
      ("event_type", .string "api-auth-callback"),
      ("client_payload", .record [
        ("code", .string callback.code), ("state", .string callback.state)])]) :
    Completed callback expected c reply store
      ⟨[(r, reply)], keep store
        ((Client.bodyOf c.address reply).bind (Client.readBody LoginAnswer.ofJson))⟩ := by
  refine ⟨fun hne => absurd heq hne, fun _ _ => ⟨r, rfl, hurl, hbody⟩,
    fun _ h => absurd hreaches h, ?_, fun _ => load_keep, fun _ => keep_eq_of_error,
    fun _ => spared_keep⟩
  intro a
  rw [keep_eq_ok_iff, LoginAnswer.read_account_iff]
  constructor
  · rintro ⟨hgrants, hsave⟩
    exact ⟨heq, hreaches, hgrants, hsave⟩
  · rintro ⟨-, -, hgrants, hsave⟩
    exact ⟨hgrants, hsave⟩

/-- A registry that grants an account to a login. -/
def granting : Reply :=
  .response 200 (Text.Utf8.encode
    "\x7b\"success\":true,\"data\":\x7b\"token\":\"t\",\"user\":\x7b\"login\":\"u\"\x7d\x7d\x7d")

end Callback

end PackageRegistry
