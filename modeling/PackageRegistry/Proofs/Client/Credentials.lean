import PackageRegistry.Proofs.Client.Operations

/-! # As whom requests are made

The options of a client become header fields one after the other, and the last one under a name
counts. A request has them as defaults behind what it sets itself, so what it says about who makes
it comes from one place: the operation and the endpoint, or else the options.
-/

namespace PackageRegistry

open Http (Headers Reply Request)

/-! ## Texts that can be sent -/

namespace Http

/-- A text with a control in it, other than a tab. -/
def Controlled (s : String) : Prop :=
  ∃ ch ∈ s.toList, ch.toNat < 0x20 ∧ ch ≠ '\t' ∨ ch.toNat = 0x7F

theorem isValueChar_iff {ch : Char} :
    isValueChar ch = true ↔ ¬ (ch.toNat < 0x20 ∧ ch ≠ '\t' ∨ ch.toNat = 0x7F) := by
  have htab : '\t'.toNat = 9 := rfl
  by_cases h : ch = '\t'
  · simp [isValueChar, h, htab]
  · simp [isValueChar, h]

theorem isValue_iff {s : String} : isValue s = true ↔ ¬ Controlled s := by
  simp only [isValue, List.all_eq_true, isValueChar_iff, Controlled, not_exists, not_and]

end Http

theorem Text.Base64.isValueChar_digit (n : Nat) : Http.isValueChar (digit n) = true := by
  have hsmall : ∀ n : Fin 63, Http.isValueChar (digit n) = true := by decide
  by_cases h : n < 63
  · exact hsmall ⟨n, h⟩
  · have hlast : digit n = '_' := by
      simp only [digit, if_neg (show ¬ n < 26 by omega), if_neg (show ¬ n < 52 by omega),
        if_neg (show ¬ n < 62 by omega), if_neg (show n ≠ 62 by omega)]
    rw [hlast]
    decide

theorem Text.Base64.isValueChar_of_mem_encodeChars {bytes : List UInt8} {ch : Char}
    (h : ch ∈ encodeChars bytes) : Http.isValueChar ch = true := by
  fun_induction encodeChars bytes <;> grind [isValueChar_digit]

theorem Http.isValue_basic (login : String × String) : isValue (Client.basic login) = true := by
  have hbasic : "Basic ".toList.all isValueChar = true := by decide
  rw [isValue, Client.basic, String.toList_append, List.all_append, hbasic, Bool.true_and,
    Text.Base64.encodePadded, String.toList_ofList, List.all_append, Bool.and_eq_true]
  constructor
  · rw [List.all_eq_true]
    intro ch hch
    obtain ⟨digit, hdigit, rfl⟩ := List.mem_map.mp hch
    have hvalue := Text.Base64.isValueChar_of_mem_encodeChars hdigit
    split_ifs
    · decide
    · decide
    · exact hvalue
  · rw [List.all_eq_true]
    intro ch hch
    rw [List.eq_of_mem_replicate hch]
    decide

/-! ## Entries under one key -/

namespace Keyed

variable {α : Type} {entries : List (String × α)} {key : String} {value : α}

/-- Where each key comes once, the first entry under a key is the only one. -/
theorem filter_eq_find? (hkeys : (entries.map Prod.fst).Nodup) (key : String) :
    (entries.filter fun e => e.1 == key).map Prod.snd = (find? key entries).toList := by
  induction entries with
  | nil => rfl
  | cons e entries ih =>
      obtain ⟨hfresh, hrest⟩ := List.nodup_cons.mp hkeys
      by_cases hk : e.1 = key
      · have hnone : entries.filter (fun e => e.1 == key) = [] := by
          rw [List.filter_eq_nil_iff]
          intro e' he' heq
          apply hfresh
          rw [List.mem_map]
          exact ⟨e', he', (beq_iff_eq.mp heq).trans hk.symm⟩
        simp [find?, hk, hnone]
      · simp [find?, hk, ih hrest]

theorem filter_insert_self (h : entries.filter (fun e => e.1 == key) = []) (value : α) :
    (insert key value entries).filter (fun e => e.1 == key) = [(key, value)] := by
  induction entries with
  | nil => simp [insert]
  | cons e entries ih =>
      rw [List.filter_cons] at h
      split_ifs at h with hk
      have hne : key ≠ e.1 := fun heq => hk (by simp [heq])
      unfold insert
      split_ifs with hlt
      · rw [List.filter_cons, if_pos (by simp), List.filter_cons, if_neg hk, h]
      · rw [List.filter_cons, if_neg hk, ih h]

theorem find?_map_key (f : String → String) (key : String) (entries : List (String × α)) :
    find? key (entries.map fun e => (f e.1, e.2)) =
      (entries.find? fun e => f e.1 == key).map Prod.snd := by
  induction entries with
  | nil => rfl
  | cons e entries ih =>
      by_cases hk : f e.1 = key
      · simp [find?, hk]
      · simp [find?, hk, ih]

end Keyed

/-! ## Setting fields one after the other -/

namespace Http.Headers

variable {hs hs' own defaults : Headers}

theorem set_eq_ok_iff {name value : String} :
    hs.set name value = .ok hs' ↔
      isName name = true ∧ isValue value = true ∧ hs' = Keyed.insert (lowerName name) value hs := by
  unfold set
  by_cases hname : isName name = true
  · by_cases hvalue : isValue value = true
    · simp [hname, hvalue, eq_comm]
    · simp [hname, hvalue]
  · simp [hname]

/-- Fields are set if all of them can be sent, and then the last one under a name counts. -/
theorem setAll_eq_ok_iff {fields : List (String × String)} :
    hs.setAll fields = .ok hs' ↔
      (∀ f ∈ fields, isName f.1 = true ∧ isValue f.2 = true) ∧
        hs' = Keyed.insertAll hs (fields.map fun f => (lowerName f.1, f.2)) := by
  induction fields generalizing hs with
  | nil => simpa [setAll, Keyed.insertAll] using eq_comm
  | cons f fields ih =>
      rw [setAll, Results.bind_eq_ok_iff]
      simp only [set_eq_ok_iff, ih, List.forall_mem_cons]
      constructor
      · rintro ⟨_, ⟨hname, hvalue, rfl⟩, hrest, rfl⟩
        exact ⟨⟨⟨hname, hvalue⟩, hrest⟩, rfl⟩
      · rintro ⟨⟨⟨hname, hvalue⟩, hrest⟩, rfl⟩
        exact ⟨_, ⟨hname, hvalue, rfl⟩, hrest, rfl⟩

theorem setAll_append (hs : Headers) (fields fields' : List (String × String)) :
    hs.setAll (fields ++ fields') = hs.setAll fields >>= fun hs => hs.setAll fields' := by
  induction fields generalizing hs with
  | nil => rfl
  | cons f fields ih =>
      rw [List.cons_append, setAll, setAll]
      cases hs.set f.1 f.2 with
      | error flaw => rfl
      | ok hs => exact ih hs

/-- Under a name that a request does not set itself, the defaults are sent. -/
theorem values_withDefaults_of_nil (hkeys : (defaults.map Prod.fst).Nodup) {name : String}
    (h : own.values name = []) :
    (withDefaults own defaults).values name = defaults.values name := by
  induction defaults generalizing own with
  | nil => exact h
  | cons field defaults ih =>
      obtain ⟨hfresh, hrest⟩ := List.nodup_cons.mp hkeys
      have hnone : own.filter (fun o => o.1 == name) = [] := List.map_eq_nil_iff.mp h
      rw [withDefaults, List.foldl_cons]
      by_cases hname : field.1 = name
      · subst hname
        have hset : ¬ own.any (fun o => o.1 == field.1) = true := by
          rw [List.any_eq_true]
          rintro ⟨o, ho, heq⟩
          exact List.filter_eq_nil_iff.mp hnone o ho heq
        have hown : values (Keyed.insert field.1 field.2 own) field.1 = [field.2] := by
          rw [values, Keyed.filter_insert_self hnone]
          rfl
        have hdefaults : values defaults field.1 = [] := by
          rw [values, Keyed.filter_eq_find? hrest, Keyed.find?_eq_none_iff.mpr hfresh]
          rfl
        rw [if_neg hset]
        refine (values_withDefaults defaults (by rw [hown]; simp)).trans ?_
        rw [hown]
        simpa [values] using hdefaults
      · have hdefaults : values (field :: defaults) name = values defaults name := by
          simp [values, hname]
        rw [hdefaults]
        apply ih hrest
        split_ifs
        · exact h
        · rw [values, Keyed.filter_insert_of_ne hname, hnone]
          rfl

theorem mem_withDefaults {field : String × String} (h : field ∈ withDefaults own defaults) :
    field ∈ own ∨ field ∈ defaults := by
  induction defaults generalizing own with
  | nil => exact .inl h
  | cons d defaults ih =>
      rw [withDefaults, List.foldl_cons] at h
      rcases ih h with hown | hmem
      · split_ifs at hown
        · exact .inl hown
        · rcases Keyed.mem_insert hown with rfl | hown
          · exact .inr (by simp)
          · exact .inl hown
      · exact .inr (List.mem_cons_of_mem _ hmem)

end Http.Headers

/-! ## The fields of a client -/

namespace ClientOptions

/-- The header fields that the options ask for, in the order in which they are set. -/
def fields (o : ClientOptions) : List (String × String) :=
  (o.account.token.map fun token => ("authorization", Client.bearer token)).toList ++
    o.extraHeaders ++ (o.userAgent.map fun agent => ("user-agent", agent)).toList

/-- Nothing that the options ask for has a control in it. -/
structure Clean (o : ClientOptions) : Prop where
  token : ∀ token ∈ o.account.token, ¬ Http.Controlled token
  extra : ∀ field ∈ o.extraHeaders, ¬ Http.Controlled field.2
  agent : ∀ agent ∈ o.userAgent, ¬ Http.Controlled agent

/-- How the options say who makes a request: by the last extra field for it, in whatever letters its
name is written, or else by the token of the account. -/
def authorization? (o : ClientOptions) : Option String :=
  ((o.extraHeaders.reverse.find? fun h => Http.lowerName h.1 == "authorization").map Prod.snd).or
    (o.account.token.map Client.bearer)

variable {o : ClientOptions}

theorem find?_fields (o : ClientOptions) :
    Keyed.find? "authorization" (o.fields.map fun f => (Http.lowerName f.1, f.2)).reverse =
      o.authorization? := by
  have htoken : Http.lowerName "authorization" = "authorization" := by decide
  have hagent : Http.lowerName "user-agent" ≠ "authorization" := by decide
  rw [← List.map_reverse, Keyed.find?_map_key, fields, authorization?, List.reverse_append,
    List.reverse_append, List.find?_append, List.find?_append, Option.map_or, Option.map_or]
  cases o.account.token <;> cases o.userAgent <;> simp [htoken, hagent]

theorem clean_of_fields (h : ∀ f ∈ o.fields, Http.isValue f.2 = true) : o.Clean where
  token token htoken := by
    rw [Option.mem_def] at htoken
    rw [← Http.isValue_iff, ← Client.isValue_bearer_iff]
    exact h ("authorization", Client.bearer token) (by simp [fields, htoken])
  extra field hfield := by
    rw [← Http.isValue_iff]
    exact h field (by simp [fields, hfield])
  agent agent hagent := by
    rw [Option.mem_def] at hagent
    rw [← Http.isValue_iff]
    exact h ("user-agent", agent) (by simp [fields, hagent])

end ClientOptions

namespace Client

variable {o : ClientOptions} {c : Client}

/-- The fields that are set first, whoever makes the requests. -/
def accepts : Headers := [("accept", "application/json")]

theorem defaultHeaders_eq (o : ClientOptions) :
    defaultHeaders o = accepts.setAll
      ((o.account.token.map fun token => ("authorization", bearer token)).toList ++
        o.extraHeaders) := by
  rw [Headers.setAll_append, defaultHeaders]
  cases o.account.token with
  | none => rfl
  | some token =>
      have hset : accepts.setAll [("authorization", bearer token)] =
          accepts.set "authorization" (bearer token) := by
        rw [Headers.setAll]
        cases accepts.set "authorization" (bearer token) <;> rfl
      rw [Option.map_some, Option.toList_some, hset]
      rfl

/-- A client has the fields that its options ask for, and all of them can be sent. -/
theorem defaults_of_make (h : make o = .ok c) :
    (∀ f ∈ o.fields, Http.isValue f.2 = true) ∧
      c.defaults = Keyed.insertAll accepts (o.fields.map fun f => (Http.lowerName f.1, f.2)) := by
  obtain ⟨endpoint, -, h⟩ := Results.bind_eq_ok_iff.mp h
  obtain ⟨hs, hheaders, h⟩ := Results.bind_eq_ok_iff.mp h
  obtain ⟨defaults, hagent, h⟩ := Results.bind_eq_ok_iff.mp h
  rw [Results.mapError_eq_ok_iff, defaultHeaders_eq] at hheaders
  have hall : accepts.setAll o.fields = .ok defaults := by
    rw [ClientOptions.fields, Headers.setAll_append, hheaders, Results.ok_bind]
    cases huser : o.userAgent with
    | none => simpa [withUserAgent, huser, Headers.setAll] using hagent
    | some agent =>
        rw [huser, withUserAgent, Results.mapError_eq_ok_iff] at hagent
        simp [Headers.setAll, hagent]
  obtain ⟨hfields, hdefaults⟩ := Headers.setAll_eq_ok_iff.mp hall
  cases h
  exact ⟨fun f hf => (hfields f hf).2, hdefaults⟩

theorem ordered_defaults (h : make o = .ok c) : Keyed.Ordered c.defaults := by
  rw [(defaults_of_make h).2]
  exact Keyed.ordered_insertAll (List.pairwise_singleton _ _) _

theorem values_defaults (h : make o = .ok c) :
    c.defaults.values "authorization" = o.authorization?.toList := by
  rw [Headers.values, Keyed.filter_eq_find? (ordered_defaults h).nodup, (defaults_of_make h).2,
    Keyed.find?_insertAll, o.find?_fields]
  simp [accepts, Keyed.find?]

theorem isValue_of_mem_defaults (h : make o = .ok c) {field : String × String}
    (hfield : field ∈ c.defaults) : Http.isValue field.2 = true := by
  obtain ⟨hvalues, hdefaults⟩ := defaults_of_make h
  rw [hdefaults] at hfield
  rcases Keyed.mem_insertAll hfield with hfirst | hmem
  · rw [List.mem_singleton.mp hfirst]
    decide
  · obtain ⟨f, hf, rfl⟩ := List.mem_map.mp hmem
    exact hvalues f hf

/-! ## Who makes a request -/

/-- Who makes a request: whoever the URL names, then whoever the operation names, and if neither
does, whoever the options name. -/
structure MadeAs (o : ClientOptions) (credential : Option String) (r : Request) : Prop where
  /-- Without a name in the URL, there is at most one. -/
  single : r.url.login? = none → r.headers.values "authorization" =
    ((credential.map bearer).or o.authorization?).toList
  named : ∀ login, r.url.login? = some login → r.headers.values "authorization" =
    basic login :: (credential.map bearer).toList
  clean : ∀ field ∈ r.headers, ¬ Http.Controlled field.2

theorem values_own (c : Client) (credential : Option String) :
    (c.loginFields ++ ownFields credential).values "authorization" =
      (c.endpoint.login?.map basic).toList ++ (credential.map bearer).toList := by
  cases hlogin : c.endpoint.login? <;> cases credential <;>
    simp [Headers.values, loginFields, ownFields, hlogin]

theorem isValue_of_mem_own {credential : Option String}
    (hcredential : ∀ token ∈ credential, Http.isValue token = true) {field : String × String}
    (h : field ∈ c.loginFields ++ ownFields credential) : Http.isValue field.2 = true := by
  have htype : Http.isValue "application/json" = true := by decide
  rcases List.mem_append.mp h with hlogin | hown
  · obtain ⟨login, -, rfl⟩ : ∃ login, c.endpoint.login? = some login ∧
        ("authorization", basic login) = field := by simpa [loginFields] using hlogin
    exact Http.isValue_basic login
  · cases credential with
    | none =>
        rw [List.mem_singleton.mp hown]
        exact htype
    | some token =>
        rcases List.mem_cons.mp hown with rfl | hown
        · exact Http.isValue_bearer (hcredential token rfl)
        · rw [List.mem_singleton.mp hown]
          exact htype

theorem madeAs_requestWith (h : make o = .ok c) {credential : Option String}
    (hcredential : ∀ token ∈ credential, Http.isValue token = true) (event : String)
    (payload : Json.Value) :
    MadeAs o credential (c.requestWith (ownFields credential) event payload) where
  single hlogin := by
    change c.endpoint.login? = none at hlogin
    have hown := c.values_own credential
    rw [hlogin] at hown
    cases credential with
    | none =>
        exact (Headers.values_withDefaults_of_nil (ordered_defaults h).nodup hown).trans
          (values_defaults h)
    | some token =>
        exact (Headers.values_withDefaults c.defaults (by rw [hown]; simp)).trans hown
  named login hlogin := by
    change c.endpoint.login? = some login at hlogin
    have hown := c.values_own credential
    rw [hlogin] at hown
    exact (Headers.values_withDefaults c.defaults (by rw [hown]; simp)).trans hown
  clean field hfield := by
    rw [← Http.isValue_iff]
    rcases Headers.mem_withDefaults hfield with hown | hdefault
    · exact isValue_of_mem_own hcredential hown
    · exact isValue_of_mem_defaults h hdefault

/-- The options decide who makes the requests of an operation without a credential, and every
request can be sent. -/
theorem madeAs_of_mem_requests (h : make o = .ok c) {reply : Reply} {op : Operation} {r : Request}
    (hr : r ∈ c.requests reply op) : MadeAs o op.credential? r := by
  obtain ⟨-, hcredential, rfl⟩ := mem_requests_iff.mp hr
  exact madeAs_requestWith h hcredential op.event op.payload

/-- An operation makes one request or none. -/
theorem exists_requests_iff {reply : Reply} {op : Operation} :
    (∃ r, c.requests reply op = [r]) ↔
      c.Reaches ∧ ∀ token ∈ op.credential?, ¬ Http.Controlled token := by
  simp only [← Http.isValue_iff]
  constructor
  · rintro ⟨r, hr⟩
    have hmem : r ∈ c.requests reply op := by simp [hr]
    exact ⟨(mem_requests_iff.mp hmem).1, (mem_requests_iff.mp hmem).2.1⟩
  · rintro ⟨hreaches, hcredential⟩
    have hrequest : c.request op.event op.payload op.credential? = .ok _ :=
      request_eq_ok_iff.mpr ⟨hreaches, hcredential, rfl⟩
    rw [requests_eq, hrequest]
    exact ⟨_, rfl⟩

end Client

end PackageRegistry
