import PackageRegistry.Proofs.Disk.Likeness
import PackageRegistry.Proofs.Program.Changes
import PackageRegistry.Proofs.Search.Halts

/-! # The token never shows

Two runs with accounts that differ in the text of their tokens look the same. The proof follows both
runs side by side: their disks are alike but for one file, their clients are alike but for one
header field, and whatever is printed is made from the rest.
-/

namespace PackageRegistry

open Http (Headers Reply Traffic)
open Results (Alike)

/-! ## Clients with different tokens -/

namespace Http.Headers

/-- Whether a field can be set is not up to the other fields. -/
theorem alike_set (hs hs' : Headers) (name value : String) :
    Alike (fun _ _ => True) (hs.set name value) (hs'.set name value) := by
  unfold set
  split_ifs
  · exact .error _
  · exact .error _
  · exact .ok trivial

theorem alike_setAll (hs hs' : Headers) (fields : List (String × String)) :
    Alike (fun _ _ => True) (hs.setAll fields) (hs'.setAll fields) := by
  induction fields generalizing hs hs' with
  | nil => exact .ok trivial
  | cons field fields ih => exact (alike_set hs hs' field.1 field.2).bind fun _ _ _ => ih _ _

theorem set_authorization (hs : Headers) {token : String} (h : Http.isValue token = true) :
    ∃ hs', hs.set "authorization" (Client.bearer token) = .ok hs' := by
  have hname : Http.isName "authorization" = true := by decide
  simp [set, hname, Http.isValue_bearer h]

end Http.Headers

/-- Options for the same registry, with accounts that differ in the text of the token. -/
def ClientOptions.withToken (o : ClientOptions) (token : String) (user : Option Profile) :
    ClientOptions :=
  { o with account := ⟨some token, user⟩ }

namespace Client

variable {c c' : Client}

/-- Clients of one endpoint that are both authenticated or both not. -/
structure LooksLike (c c' : Client) : Prop where
  endpoint : c'.endpoint = c.endpoint
  authenticated : c'.authenticated = c.authenticated

theorem LooksLike.describe_eq (h : LooksLike c c') : c'.describe = c.describe := by
  unfold describe
  simp only [h.endpoint, h.authenticated]

theorem alike_defaultHeaders (o : ClientOptions) (user : Option Profile) {t t' : String}
    (ht : Http.isValue t = true) (ht' : Http.isValue t' = true) :
    Alike (fun _ _ => True) (defaultHeaders (o.withToken t user))
      (defaultHeaders (o.withToken t' user)) := by
  obtain ⟨hs, hset⟩ := Headers.set_authorization [("accept", "application/json")] ht
  obtain ⟨hs', hset'⟩ := Headers.set_authorization [("accept", "application/json")] ht'
  simp only [defaultHeaders, ClientOptions.withToken, hset, hset', Results.ok_bind]
  exact Headers.alike_setAll hs hs' _

theorem alike_withUserAgent (hs hs' : Headers) (agent : Option String) :
    Alike (fun _ _ => True) (withUserAgent hs agent) (withUserAgent hs' agent) := by
  cases agent with
  | none => exact .ok trivial
  | some agent => exact (Headers.alike_set hs hs' _ _).mapError _

/-- Other tokens make other clients of the same looks, or the same failure. -/
theorem alike_make (o : ClientOptions) (user : Option Profile) {t t' : String}
    (ht : Http.isValue t = true) (ht' : Http.isValue t' = true) :
    Alike LooksLike (make (o.withToken t user)) (make (o.withToken t' user)) := by
  unfold make
  change Alike LooksLike (endpointOf o.baseUrl >>= _) (endpointOf o.baseUrl >>= _)
  cases endpointOf o.baseUrl with
  | error failure => exact .error failure
  | ok endpoint =>
      simp only [Results.ok_bind]
      refine ((alike_defaultHeaders o user ht ht').mapError _).bind fun hs hs' _ => ?_
      refine (alike_withUserAgent hs hs' o.userAgent).bind fun _ _ _ => ?_
      exact .ok ⟨rfl, rfl⟩

/-! ## Requests of different clients -/

/-- A request is made if its credential can be sent and the endpoint can be reached. -/
theorem request_cases (c : Client) (event : String) (payload : Json.Value)
    {credential : Option String} (h : ∀ token ∈ credential, Http.isValue token = true) :
    (["http", "https"].contains c.endpoint.scheme = true ∧
      ∃ r, c.request event payload credential = .ok r) ∨
    (["http", "https"].contains c.endpoint.scheme = false ∧
      c.request event payload credential = .error .unsupportedScheme) := by
  unfold request
  cases hscheme : ["http", "https"].contains c.endpoint.scheme with
  | true =>
      refine .inl ⟨rfl, ?_⟩
      cases credential with
      | none => exact ⟨_, rfl⟩
      | some token =>
          obtain ⟨own, hset⟩ := Headers.set_authorization [("content-type", "application/json")]
            (h token rfl)
          simp [hset]
  | false =>
      refine .inr ⟨rfl, ?_⟩
      cases credential with
      | none => rfl
      | some token =>
          obtain ⟨own, hset⟩ := Headers.set_authorization [("content-type", "application/json")]
            (h token rfl)
          simp [hset]

/-- The outcome of a request is up to the endpoint and the reply alone, as long as its credential
can be sent. -/
theorem result_post (c : Client) (event : String) (payload : Json.Value) {credential : Option String}
    (h : ∀ token ∈ credential, Http.isValue token = true) (reply : Reply) :
    (c.post event payload credential reply).result =
      if ["http", "https"].contains c.endpoint.scheme then bodyOf c.address reply
      else .error (.transport c.address .unsupportedScheme) := by
  unfold post
  rcases c.request_cases event payload h with ⟨hscheme, r, hrequest⟩ | ⟨hscheme, hrequest⟩
  · rw [hrequest, hscheme]
    rfl
  · rw [hrequest, hscheme]
    rfl

theorem LooksLike.address_eq (h : LooksLike c c') : c'.address = c.address := by
  unfold address
  rw [h.endpoint]

theorem LooksLike.post_eq (h : LooksLike c c') (event : String) (payload payload' : Json.Value)
    (credential credential' : Option String)
    (hc : ∀ token ∈ credential, Http.isValue token = true)
    (hc' : ∀ token ∈ credential', Http.isValue token = true) (reply : Reply) :
    (c'.post event payload' credential' reply).result =
      (c.post event payload credential reply).result := by
  rw [result_post c' event payload' hc', result_post c event payload hc, h.endpoint, h.address_eq]

theorem LooksLike.list_eq (h : LooksLike c c') (f : Filters) (reply : Reply) :
    (c'.list f reply).result = (c.list f reply).result :=
  congrArg (Except.map Listing.ofBody)
    (h.post_eq "api-list-packages" f.payload f.payload none none (by simp) (by simp) reply)

theorem LooksLike.find_eq (h : LooksLike c c') (name : String) (reply : Reply) :
    (c'.find name reply).result = (c.find name reply).result := by
  simp only [find, Traffic.map, h.list_eq]

theorem LooksLike.submit_eq (h : LooksLike c c') (p p' : Publication) {t t' : String}
    (ht : Http.isValue t = true) (ht' : Http.isValue t' = true) (reply : Reply) :
    (c'.submit p' t' reply).result = (c.submit p t reply).result := by
  have hpost := h.post_eq "api-publish"
    (.record [("package", p.toJson.sorted), ("token", .string t)])
    (.record [("package", p'.toJson.sorted), ("token", .string t')])
    (some t) (some t') (by simpa using ht) (by simpa using ht') reply
  simp only [submit, Traffic.map, hpost]

end Client

/-! ## Forms handed in under different tokens -/

namespace Form

/-- A form is checked alike whatever the token says, and whatever a README says that is blank or
not as the other one is. -/
theorem alike_validate (f : Form) (user : Option Profile) (t t' : String) {readme : String}
    (h : Text.isBlank readme = Text.isBlank f.readme) :
    Alike (fun _ _ => True) (f.validate ⟨some t, user⟩)
      ({ f with readme }.validate ⟨some t', user⟩) := by
  have hauthor : author ⟨some t', user⟩ = author ⟨some t, user⟩ := by
    cases user <;> rfl
  have hreadme : required "readme" readme = required "readme" f.readme := by
    rw [required, required, h]
  unfold validate
  simp only [hauthor, hreadme]
  refine (Alike.refl (author ⟨some t, user⟩)).bind fun _ _ _ => ?_
  refine (Alike.refl (packageName f.name)).bind fun _ _ _ => ?_
  refine (Alike.refl (required "description" f.description)).bind fun _ _ _ => ?_
  refine (Alike.refl (required "version" f.version)).bind fun _ _ _ => ?_
  refine (Alike.refl (required "repository" f.repository)).bind fun _ _ _ => ?_
  refine (Alike.refl (required "readme" f.readme)).bind fun _ _ _ => ?_
  exact .ok trivial

/-- So it is published or not, with the same outcome. -/
theorem publish_eq (f : Form) (user : Option Profile) {t t' : String} {readme : String}
    (h : Text.isBlank readme = Text.isBlank f.readme) {c c' : Client} (hc : c.LooksLike c')
    (ht : Http.isValue t = true) (ht' : Http.isValue t' = true) (reply : Reply) :
    ({ f with readme }.publish ⟨some t', user⟩ c' reply).result =
      (f.publish ⟨some t, user⟩ c reply).result := by
  have hvalidate := alike_validate f user t t' h
  unfold publish
  generalize f.validate ⟨some t, user⟩ = checked at hvalidate ⊢
  generalize { f with readme }.validate ⟨some t', user⟩ = checked' at hvalidate ⊢
  cases hvalidate with
  | error flaw => rfl
  | @ok p p' _ => simp only [Traffic.map, hc.submit_eq p p' ht ht' reply]

end Form

/-! ## Disks with different tokens -/

namespace Settings

variable {d e : Disk} {path : List String}

/-- No configuration file is at the place of an account file. -/
theorem resolve_config_ne {directory : Location} (d : Disk) (configDir : Location) {name : String}
    (hname : name = "registry.toml" ∨ name = "registry.toml.toml") :
    d.resolve (configDir.join name) ≠ .ok (d.pathOf (AccountFile.location directory)) := by
  intro hresolve
  have hpath := Disk.eq_pathOf_of_resolve hresolve
  have hconfig : d.pathOf (configDir.join name) =
      Disk.arrive (d.origin configDir) configDir.names ++ [name] := by
    rcases hname with rfl | rfl <;>
      exact Disk.pathOf_join (c := 'l') d configDir (by decide) (by decide) (by decide)
        (by decide) (by decide) (by decide)
  rw [AccountFile.pathOf_location, hconfig] at hpath
  obtain ⟨-, hlast⟩ := List.append_inj' hpath rfl
  rcases hname with rfl | rfl <;> simp at hlast

theorem fileLayer_eq {directory : Location}
    (h : Disk.Alike (d.pathOf (AccountFile.location directory)) d e) (lib : Library)
    (configDir : Location) : fileLayer lib configDir e = fileLayer lib configDir d := by
  have hfile : configFile? configDir e = configFile? configDir d := by
    simp only [configFile?, List.findSome?_cons, List.findSome?_nil,
      h.entry?_eq (resolve_config_ne d configDir (.inl rfl)),
      h.entry?_eq (resolve_config_ne d configDir (.inr rfl))]
  rw [fileLayer, fileLayer, written, written, hfile]

/-- The settings are the same, and the disks stay alike. -/
theorem load_alike {directory : Location}
    (h : Disk.Alike (d.pathOf (AccountFile.location directory)) d e) (lib : Library)
    (env : Environment) :
    (load lib env e).1 = (load lib env d).1 ∧
      Disk.Alike (d.pathOf (AccountFile.location directory)) (load lib env d).2
        (load lib env e).2 := by
  have hhome : homeDir? env e = homeDir? env d := by
    rw [homeDir?, homeDir?, h.home]
  have hbase : ∀ var below, baseDir? env e var below = baseDir? env d var below := by
    intro var below
    rw [baseDir?, baseDir?, hhome]
  have hconfig : configDirOf env e = configDirOf env d := by
    rw [configDirOf, configDirOf, hbase]
  have hdata : dataDirOf env e = dataDirOf env d := by
    rw [dataDirOf, dataDirOf, hbase]
  unfold load
  rw [hconfig, hdata]
  cases configDirOf env d with
  | error fault => exact ⟨rfl, h⟩
  | ok configDir =>
      cases dataDirOf env d with
      | error fault => exact ⟨rfl, h⟩
      | ok dataDir =>
          obtain ⟨hsame, halike⟩ := h.makeDirectory configDir
          have hcurrent := (Disk.grown_makeDirectory d configDir).current
          rcases hd : d.makeDirectory configDir with ⟨result, d'⟩
          rcases he : e.makeDirectory configDir with ⟨result', e'⟩
          simp only [hd, he] at hsame halike hcurrent
          subst hsame
          cases result' with
          | error fault =>
              simp only [hd, he]
              exact ⟨trivial, halike⟩
          | ok _ =>
              simp only [hd, he]
              refine ⟨?_, halike⟩
              rw [← Disk.pathOf_congr hcurrent] at halike
              simp only [read, fileLayer_eq halike lib]

end Settings

/-! ## Effects that look the same -/

/-- The same text is printed, the same messages are given, and the same causes of failure; and both
are aborted or neither. -/
structure Effect.LooksLike (e e' : Effect) : Prop where
  output : e'.output = e.output
  messages : e'.messages = e.messages
  failure : e'.failure = e.failure
  aborted : e'.aborted = e.aborted

namespace AccountFile

/-- Two disks with accounts that differ in the text of the token only. -/
structure Twins (directory : Location) (user : Option Profile) (t t' : String) (d e : Disk) :
    Prop where
  alike : Disk.Alike (d.pathOf (location directory)) d e
  load : load (location directory) d = .ok ⟨some t, user⟩
  otherLoad : AccountFile.load (location directory) e = .ok ⟨some t', user⟩
  value : Http.isValue t = true
  otherValue : Http.isValue t' = true

variable {directory : Location} {user : Option Profile} {t t' : String} {d e : Disk}

/-- Whoever reads the account file itself reads something that is not blank. -/
theorem not_blank_of_resolve {a : Account} (hload : load (location directory) d = .ok a)
    (hne : a ≠ {}) {l : Location} (hl : d.resolve l = .ok (d.pathOf (location directory)))
    {bytes : List UInt8} (hread : d.read l = .ok bytes) :
    ∃ text, Text.Utf8.text? bytes = some text ∧ Text.isBlank text = false := by
  obtain ⟨bytes', hfile, hholds⟩ := exists_file_of_load hload hne
  rw [Disk.read_of_resolve hl, hfile] at hread
  obtain rfl := Except.ok.inj hread
  obtain ⟨text, htext, -⟩ := id hholds
  exact ⟨text, htext, hholds.isBlank_eq_false htext⟩

/-- Any text is read alike, and either both times blank or both times not. -/
theorem Twins.alike_readText (h : Twins directory user t t' d e) (l : Location) :
    Alike (fun text text' => Text.isBlank text' = Text.isBlank text) (d.readText l)
      (e.readText l) := by
  rcases h.alike.read_cases l with hsame | ⟨hl, ⟨bytes, hread⟩, ⟨bytes', hread'⟩⟩
  · have hread : e.readText l = d.readText l := by
      rw [Disk.readText, Disk.readText, hsame]
    rw [hread]
    cases d.readText l with
    | error fault => exact .error fault
    | ok text => exact .ok rfl
  · have hl' : e.resolve l = .ok (e.pathOf (location directory)) := by
      rw [h.alike.resolve_eq, hl, Disk.pathOf_congr h.alike.current]
    obtain ⟨text, htext, hblank⟩ := not_blank_of_resolve h.load (by simp) hl hread
    obtain ⟨text', htext', hblank'⟩ := not_blank_of_resolve h.otherLoad (by simp) hl' hread'
    rw [readText_eq_ok_iff.mpr ⟨bytes, hread, htext⟩, readText_eq_ok_iff.mpr ⟨bytes', hread', htext'⟩]
    exact .ok (hblank'.trans hblank.symm)

/-- Keeping an account ends in the same way. -/
theorem save_fst_eq {path : List String} (h : Disk.Alike path d e) (l : Location) (a : Account) :
    (save l a e).1 = (save l a d).1 := by
  obtain ⟨hsame, halike⟩ := h.makeDirectory l.parent
  unfold save Disk.makeParent
  rcases hd : d.makeDirectory l.parent with ⟨result, d'⟩
  rcases he : e.makeDirectory l.parent with ⟨result', e'⟩
  simp only [hd, he] at hsame halike
  subst hsame
  cases result' with
  | error fault => rfl
  | ok _ =>
      have hwrite := halike.write_fst l (content a)
      rcases hd' : d'.write l (content a) with ⟨result, _⟩
      rcases he' : e'.write l (content a) with ⟨result', _⟩
      simp only [hd', he'] at hwrite
      subst hwrite
      cases result' <;> simp only [hd', he']

/-- So does forgetting it. -/
theorem clear_fst_eq {path : List String} (h : Disk.Alike path d e) (l : Location) :
    (clear l e).1 = (clear l d).1 := by
  have hremove := h.remove_fst l
  unfold clear
  rcases hd : d.remove l with ⟨result, d'⟩
  rcases he : e.remove l with ⟨result', e'⟩
  simp only [hd, he] at hremove
  subst hremove
  cases result' with
  | ok _ => rfl
  | error fault => cases fault <;> rfl

end AccountFile

theorem Callback.keep_fst_eq {store store' : Store}
    (h : ∀ a, (store'.save a).1 = (store.save a).1) (r : Except Failure LoginAnswer) :
    (keep store' r).1 = (keep store r).1 := by
  cases r with
  | error failure => rfl
  | ok answer =>
      unfold keep
      cases haccount : answer.account with
      | error refusal => simp only [haccount]
      | ok a =>
          have hsave := h a
          rcases hstore : store.save a with ⟨result, _⟩
          rcases hstore' : store'.save a with ⟨result', _⟩
          simp only [hstore, hstore'] at hsave
          subst hsave
          cases result' <;> simp only [haccount, hstore, hstore']

theorem Callback.complete_fst_eq (callback : Callback) (expected : String) (c : Client)
    (reply : Reply) {store store' : Store} (h : ∀ a, (store'.save a).1 = (store.save a).1) :
    (callback.complete expected c reply store').result.1 =
      (callback.complete expected c reply store).result.1 := by
  unfold complete
  split_ifs
  · rfl
  · exact keep_fst_eq h _

theorem Store.save_fst_eq {path : List String} {d e : Disk} (h : Disk.Alike path d e)
    (l : Location) (a : Account) :
    ((Store.file l e).save a).1 = ((Store.file l d).save a).1 := by
  simp only [Store.save_file]
  exact AccountFile.save_fst_eq h l a

namespace Program

open AccountFile (Twins)

variable {s : Settings} {w : World} {d e : Disk} {user : Option Profile} {t t' : String}

theorem alike_makeClient (s : Settings) (w : World) (h : Twins s.dataDir user t t' d e) :
    Alike Client.LooksLike (makeClient s { w with disk := d } ⟨some t, user⟩)
      (makeClient s { w with disk := e } ⟨some t', user⟩) :=
  (Client.alike_make (clientOptions s w.environment {}) user h.value h.otherValue).mapError _

/-- Commands that go on with a client look the same if they do so from there. -/
theorem looksLike_withClient (h : Twins s.dataDir user t t' d e)
    {go go' : Account → Client → Effect}
    (hgo : ∀ c c', Client.LooksLike c c' →
      Effect.LooksLike (go ⟨some t, user⟩ c) (go' ⟨some t', user⟩ c')) :
    Effect.LooksLike (withClient s { w with disk := d } go)
      (withClient s { w with disk := e } go') := by
  have hd := loadAccount_eq_ok_iff.mpr h.load
  have he := loadAccount_eq_ok_iff.mpr h.otherLoad
  have hclient := alike_makeClient s w h
  unfold withClient
  simp only [hd, he]
  generalize makeClient s { w with disk := d } ⟨some t, user⟩ = made at hclient ⊢
  generalize makeClient s { w with disk := e } ⟨some t', user⟩ = made' at hclient ⊢
  cases hclient with
  | error causes => exact ⟨rfl, rfl, rfl, rfl⟩
  | ok h => exact hgo _ _ h

theorem looksLike_printPage (f : Filters) (json : Bool) (d e : Disk) (page : Listing) :
    Effect.LooksLike (printPage f json d page) (printPage f json e page) := by
  unfold printPage
  dsimp only
  split
  · exact ⟨rfl, rfl, rfl, rfl⟩
  · split
    · exact ⟨rfl, rfl, rfl, rfl⟩
    · split <;> exact ⟨rfl, rfl, rfl, rfl⟩

theorem looksLike_search (h : Twins s.dataDir user t t' d e) (f : Filters) (json : Bool) :
    Effect.LooksLike (search f json s { w with disk := d }) (search f json s { w with disk := e }) := by
  refine looksLike_withClient h fun c c' hc => ?_
  dsimp only
  rw [hc.list_eq]
  split
  · exact ⟨rfl, rfl, rfl, rfl⟩
  · have hpage := looksLike_printPage f json d e
    exact ⟨(hpage _).output, (hpage _).messages, (hpage _).failure, (hpage _).aborted⟩

theorem looksLike_lookup (h : Twins s.dataDir user t t' d e) (name : String)
    {go go' : Package → Effect} (hgo : ∀ p, Effect.LooksLike (go p) (go' p)) :
    Effect.LooksLike (lookup name s { w with disk := d } go)
      (lookup name s { w with disk := e } go') := by
  refine looksLike_withClient h fun c c' hc => ?_
  dsimp only
  rw [hc.find_eq]
  split
  · exact ⟨(hgo _).output, (hgo _).messages, (hgo _).failure, (hgo _).aborted⟩
  · exact ⟨rfl, rfl, rfl, rfl⟩
  · exact ⟨rfl, rfl, rfl, rfl⟩

/-- A browsing run, as far as its results go. -/
theorem run_map_result (f : Filters) (s : Settings) (w : World) (c : Client) :
    (Search.View.map Traffic.result).run ((browsePlan f s w c).runUnless broken) =
      ((browsePlan f s w c).map Traffic.result).runUnless (Search.Run.shows aborts) := by
  have hbroken : broken = fun r : Search.Run (Traffic (Except Failure Listing)) =>
      ((Search.View.map Traffic.result).run r).shows aborts := by
    funext r
    rw [Search.Run.shows_map]
    rfl
  rw [Search.Plan.runUnless, hbroken]
  exact Search.View.run_finishUnless_map Traffic.result (Search.Run.shows aborts) _ _

/-- The searches of clients that look alike come to the same results. -/
theorem map_result_browsePlan (f : Filters) (s : Settings) (w : World) {c c' : Client}
    (hc : Client.LooksLike c c') :
    (browsePlan f s { w with disk := e } c').map Traffic.result =
      (browsePlan f s { w with disk := d } c).map Traffic.result := by
  have hanswers : (fun n g => (c'.list g (w.replies n)).result) =
      fun n g => (c.list g (w.replies n)).result := by
    funext n g
    exact hc.list_eq g (w.replies n)
  simp only [Search.Plan.map, browsePlan, hanswers]

theorem looksLike_browse (h : Twins s.dataDir user t t' d e) (f : Filters) :
    Effect.LooksLike (browse f s { w with disk := d }) (browse f s { w with disk := e }) := by
  refine looksLike_withClient h fun c c' hc => ?_
  have hrun := run_map_result f s { w with disk := e } c'
  rw [map_result_browsePlan (d := d) f s w hc, ← run_map_result] at hrun
  have hscreen := congrArg Search.Run.screen hrun
  have hbroken := congrArg (Search.Run.shows aborts) hrun
  rw [Search.Run.shows_map, Search.Run.shows_map] at hbroken
  simp only [Search.View.run, Search.View.map] at hscreen
  have hshown := congrArg (List.map showEntry) hscreen
  rw [List.map_map, List.map_map] at hshown
  refine ⟨?_, ?_, rfl, hbroken⟩
  · exact congrArg (fun shown : List (String × List String) => String.join (shown.map Prod.fst))
      hshown
  · exact congrArg (fun shown : List (String × List String) =>
      Browse.help ++ shown.flatMap Prod.snd) hshown

theorem looksLike_publish (h : Twins s.dataDir user t t' d e) (o : Arguments.PublishOptions) :
    Effect.LooksLike (publish o s { w with disk := d }) (publish o s { w with disk := e }) := by
  refine looksLike_withClient h fun c c' hc => ?_
  have hreadme := h.alike_readText o.readme
  dsimp only
  generalize d.readText o.readme = text at hreadme ⊢
  generalize e.readText o.readme = text' at hreadme ⊢
  cases hreadme with
  | error fault => exact ⟨rfl, rfl, rfl, rfl⟩
  | @ok readme readme' hblank =>
      have hpublish := (formOf o readme).publish_eq user hblank hc h.value h.otherValue
        (w.replies 0)
      dsimp only
      have hform : formOf o readme' = { formOf o readme with readme := readme' } := rfl
      rw [hform, hpublish]
      split <;> exact ⟨rfl, rfl, rfl, rfl⟩

theorem looksLike_finishLogin (h : Twins s.dataDir user t t' d e) :
    Effect.LooksLike (finishLogin s { w with disk := d }) (finishLogin s { w with disk := e }) := by
  unfold finishLogin
  -- the callback and the client come from elsewhere
  have hpasted : pasted { w with disk := e } = pasted { w with disk := d } := rfl
  have hclient : makeClient s { w with disk := e } {} = makeClient s { w with disk := d } {} := rfl
  rw [hpasted, hclient]
  cases pasted { w with disk := d } with
  | error causes => exact ⟨rfl, rfl, rfl, rfl⟩
  | ok callback =>
      cases makeClient s { w with disk := d } {} with
      | error causes => exact ⟨rfl, rfl, rfl, rfl⟩
      | ok c =>
          dsimp only
          have hresult := callback.complete_fst_eq w.loginState c (w.replies 0)
            (Store.save_fst_eq h.alike (accountLocation s))
          rw [hresult]
          split <;> exact ⟨rfl, rfl, rfl, rfl⟩

theorem looksLike_login (h : Twins s.dataDir user t t' d e) :
    Effect.LooksLike (login s { w with disk := d }) (login s { w with disk := e }) := by
  have hfinish := looksLike_finishLogin (w := w) h
  unfold login
  dsimp only
  split
  · exact ⟨rfl, rfl, rfl, rfl⟩
  · exact ⟨hfinish.output, congrArg (invitation _ ++ ·) hfinish.messages, hfinish.failure,
      hfinish.aborted⟩

theorem looksLike_logout (h : Twins s.dataDir user t t' d e) :
    Effect.LooksLike (logout s { w with disk := d }) (logout s { w with disk := e }) := by
  have hd := loadAccount_eq_ok_iff.mpr h.load
  have he := loadAccount_eq_ok_iff.mpr h.otherLoad
  have hclear := AccountFile.clear_fst_eq h.alike (accountLocation s)
  unfold logout
  simp only [hd, he, Account.isAuthenticated, Option.isSome_some, if_true]
  rcases hcd : AccountFile.clear (accountLocation s) d with ⟨result, d'⟩
  rcases hce : AccountFile.clear (accountLocation s) e with ⟨result', e'⟩
  simp only [hcd, hce] at hclear
  subst hclear
  cases result' <;> exact ⟨rfl, rfl, rfl, rfl⟩

theorem looksLike_status (h : Twins s.dataDir user t t' d e) :
    Effect.LooksLike (status s { w with disk := d }) (status s { w with disk := e }) := by
  have hd := loadAccount_eq_ok_iff.mpr h.load
  have he := loadAccount_eq_ok_iff.mpr h.otherLoad
  unfold status
  simp only [hd, he]
  cases user <;> exact ⟨rfl, rfl, rfl, rfl⟩

/-- Every command looks the same. -/
theorem looksLike_perform (h : Twins s.dataDir user t t' d e) (c : Arguments.Command) :
    Effect.LooksLike (perform c s { w with disk := d }) (perform c s { w with disk := e }) := by
  cases c with
  | search json options term =>
      rw [perform, perform]
      exact looksLike_search h _ _
  | browse options term =>
      rw [perform, perform]
      exact looksLike_browse h _
  | «show» json name =>
      rw [perform, perform, showPackage, showPackage]
      exact looksLike_lookup h _ fun _ => ⟨rfl, rfl, rfl, rfl⟩
  | stats name =>
      rw [perform, perform, stats, stats]
      exact looksLike_lookup h _ fun _ => ⟨rfl, rfl, rfl, rfl⟩
  | publish options =>
      rw [perform, perform]
      exact looksLike_publish h _
  | login =>
      rw [perform, perform]
      exact looksLike_login h
  | logout =>
      rw [perform, perform]
      exact looksLike_logout h
  | status =>
      rw [perform, perform]
      exact looksLike_status h

/-! ## Whole runs -/

theorem looksLike_run {directory : Location} (h : Twins directory user t t' d e)
    (hdata : ∀ s, (Settings.load w.library w.environment d).1 = .ok s → s.dataDir = directory)
    (c : Arguments.Command) :
    Effect.LooksLike (run c { w with disk := d }) (run c { w with disk := e }) := by
  obtain ⟨hsettings, halike⟩ := Settings.load_alike h.alike w.library w.environment
  have hgrown := Settings.grown_load w.library w.environment d
  have hgrown' := Settings.grown_load w.library w.environment e
  have htwins : Twins directory user t t' (Settings.load w.library w.environment d).2
      (Settings.load w.library w.environment e).2 := by
    refine ⟨?_, ?_, ?_, h.value, h.otherValue⟩
    · rw [Disk.pathOf_congr hgrown.current]
      exact halike
    · exact AccountFile.load_grown hgrown h.load (by simp)
    · exact AccountFile.load_grown hgrown' h.otherLoad (by simp)
  unfold run
  dsimp only
  rcases hd : Settings.load w.library w.environment d with ⟨result, d'⟩
  rcases he : Settings.load w.library w.environment e with ⟨result', e'⟩
  simp only [hd, he] at hsettings htwins hdata
  subst hsettings
  cases result' with
  | error fault => exact ⟨rfl, rfl, rfl, rfl⟩
  | ok s =>
      obtain rfl := hdata s rfl
      exact looksLike_perform htwins c

/-- Two accounts that differ in the text of their tokens, stored on disks that are else the same,
make every command print the same and end alike, and what is said of them and of their clients is
the same. -/
theorem token_never_shows {directory : Location}
    (hdata : ∀ s, (Settings.load w.library w.environment d).1 = .ok s → s.dataDir = directory)
    (hload : AccountFile.load (AccountFile.location directory) d = .ok ⟨some t, user⟩)
    (hload' : AccountFile.load (AccountFile.location directory) e = .ok ⟨some t', user⟩)
    (hsame : Disk.SameBut (d.pathOf (AccountFile.location directory)) d e)
    (ht : Http.isValue t = true) (ht' : Http.isValue t' = true) :
    (∀ c, (run c { w with disk := e }).output = (run c { w with disk := d }).output ∧
      (run c { w with disk := e }).allMessages = (run c { w with disk := d }).allMessages ∧
      (run c { w with disk := e }).exitCode = (run c { w with disk := d }).exitCode) ∧
    Account.describe ⟨some t', user⟩ = Account.describe ⟨some t, user⟩ ∧
    ∀ o : ClientOptions, (Client.make (o.withToken t' user)).map Client.describe =
      (Client.make (o.withToken t user)).map Client.describe := by
  have hfile := AccountFile.exists_file_of_load hload (by simp)
  have hfile' := AccountFile.exists_file_of_load hload' (by simp)
  rw [Disk.pathOf_congr hsame.current] at hfile'
  have htwins : Twins directory user t t' d e :=
    ⟨⟨hsame, hfile.imp fun _ h => h.1, hfile'.imp fun _ h => h.1⟩, hload, hload', ht, ht'⟩
  refine ⟨?_, rfl, ?_⟩
  · intro c
    obtain ⟨houtput, hmessages, hfailure, haborted⟩ := looksLike_run htwins hdata c
    refine ⟨houtput, ?_, ?_⟩
    · rw [Effect.allMessages, Effect.allMessages, hmessages, hfailure]
    · rw [Effect.exitCode, Effect.exitCode, hfailure, haborted]
  · intro o
    exact (Client.alike_make o user ht ht').map_eq fun _ _ h => h.describe_eq

/-- A disk with a data directory and an account in it. -/
def diskWith (token : String) : Disk :=
  Disk.put { entries := [(["d"], .directory), (["d", "rads"], .directory)] }
    ["d", "rads", "session.json"] (.file (AccountFile.content ⟨some token, none⟩))

/-- A world with such a disk, where the registry is out of reach. -/
def worldWith (token : String) : World where
  environment := [("XDG_CONFIG_HOME", "/c"), ("XDG_DATA_HOME", "/d")]
  disk := diskWith token
  input := []
  replies := fun _ => .interrupted .unreachable
  loginState := "s"

theorem load_diskWith (token : String) :
    AccountFile.load (AccountFile.location "/d/rads") (diskWith token) =
      .ok ⟨some token, none⟩ := by
  refine AccountFile.load_of_holds ?_ (AccountFile.holds_content _)
  exact Disk.read_put _ (by decide +kernel) (by decide)

theorem status_of_other_token_looks_the_same :
    (run .status (worldWith "b")).output = (run .status (worldWith "a")).output ∧
      (run .status (worldWith "b")).allMessages = (run .status (worldWith "a")).allMessages ∧
      (run .status (worldWith "b")).exitCode = (run .status (worldWith "a")).exitCode := by
  have hdata : ∀ s, (Settings.load (worldWith "a").library (worldWith "a").environment
      (diskWith "a")).1 = .ok s → s.dataDir = "/d/rads" := by
    have hsettings : (Settings.load (worldWith "a").library (worldWith "a").environment
        (diskWith "a")).1.toOption.map Settings.dataDir = some "/d/rads" := by decide +kernel
    intro s hs
    simpa [hs, Except.toOption] using hsettings
  have hpath : (diskWith "a").pathOf (AccountFile.location "/d/rads") =
      ["d", "rads", "session.json"] := by decide +kernel
  have hsame : Disk.SameBut ((diskWith "a").pathOf (AccountFile.location "/d/rads"))
      (diskWith "a") (diskWith "b") := by
    rw [hpath]
    exact Disk.sameBut_put _ _ _ _
  exact (token_never_shows (w := worldWith "a") hdata (load_diskWith "a") (load_diskWith "b") hsame
    (by decide) (by decide)).1 .status

end Program

end PackageRegistry
