import PackageRegistry.Proofs.Program.Changes

/-! # The account file over many runs

Whoever runs the program with the same two directories again and again finds the account file
missing or whole. So the two checks for a login, one of the token alone and one of the token and the
user, agree, though neither knows of the other.
-/

namespace PackageRegistry

open Arguments (Command)

/-! ## The place of the account file -/

namespace AccountFile

variable {d e : Disk} {directory : Location}

/-- The account file is missing, or it gives an account with a token and a user. -/
def Sound (directory : Location) (d : Disk) : Prop :=
  found directory d = none ∨
    ∃ token user, load (location directory) d = .ok ⟨some token, some user⟩

/-- New directories elsewhere do no harm. -/
theorem Sound.grown (h : Sound directory d) (hgrown : Disk.Grown d e)
    (hfound : found directory e = found directory d) : Sound directory e := by
  rcases h with hnone | ⟨token, user, hload⟩
  · exact .inl (hfound.trans hnone)
  · exact .inr ⟨token, user, load_grown hgrown hload (by simp)⟩

/-- What can be loaded at all has both a token and a user, or neither. -/
theorem Sound.loaded (h : Sound directory d) {a : Account}
    (hload : load (location directory) d = .ok a) :
    a = {} ∨ ∃ token user, a = ⟨some token, some user⟩ := by
  rcases h with hnone | ⟨token, user, hboth⟩
  · left
    by_contra hne
    obtain ⟨bytes, hfile, -⟩ := exists_file_of_load hload hne
    simp [found, hfile] at hnone
  · exact .inr ⟨token, user, Except.ok.inj (hload.symm.trans hboth)⟩

theorem not_sound_of_directory (h : found directory d = some .directory) :
    ¬ Sound directory d := by
  rintro (hnone | ⟨token, user, hload⟩)
  · simp [h] at hnone
  · obtain ⟨bytes, hfile, -⟩ := exists_file_of_load hload (by simp)
    simp [found, hfile] at h

/-- Neither of two directories is at the place of the account file or on a way through it. -/
structure Apart (configDir dataDir : Location) (d : Disk) : Prop where
  config : ¬ d.LeadsThrough configDir (d.pathOf (location dataDir))
  data : ¬ d.LeadsThrough dataDir (d.pathOf (location dataDir))

theorem Apart.congr {configDir dataDir : Location} (hcurrent : e.current = d.current)
    (h : Apart configDir dataDir d) : Apart configDir dataDir e := by
  refine ⟨?_, ?_⟩
  · rw [Disk.LeadsThrough, Disk.pathOf_congr hcurrent, Disk.origin_congr hcurrent]
    exact h.config
  · rw [Disk.LeadsThrough, Disk.pathOf_congr hcurrent, Disk.origin_congr hcurrent]
    exact h.data

theorem sound_clear (h : Sound directory d)
    (hclear : (clear (location directory) d).1 = .ok ()) :
    (clear (location directory) d).2.current = d.current ∧
      Sound directory (clear (location directory) d).2 := by
  rcases clear_cases (location directory) d with ⟨fault, heq⟩ | ⟨heq, -⟩ | ⟨heq, -⟩
  · simp [heq] at hclear
  · rw [heq]
    exact ⟨rfl, h⟩
  · rw [heq]
    refine ⟨Disk.current_erase d _, .inl ?_⟩
    exact Disk.get?_erase_self d (by simp [pathOf_location])

end AccountFile

namespace Program

open AccountFile (Apart Sound found not_sound_of_directory)

variable {configDir dataDir : Location} {c : Command} {w : World}

/-! ## One run -/

/-- A run with these directories, as far as it comes to know of any. -/
structure KeepsTo (configDir dataDir : Location) (w : World) : Prop where
  config : ∀ l, Settings.configDirOf w.environment w.disk = .ok l → l = configDir
  data : ∀ s, (Settings.load w.library w.environment w.disk).1 = .ok s → s.dataDir = dataDir

/-- What a run makes of the account file. -/
structure Handles (dataDir : Location) (c : Command) (w : World) (e : Effect) : Prop where
  /-- Nobody but a login or a logout that comes about changes the file. -/
  changes : found dataDir e.disk ≠ found dataDir w.disk →
    (c = .login ∨ c = .logout) ∧ e.exitCode = 0
  /-- After a login the file gives what the registry granted. -/
  login : c = .login → e.exitCode = 0 →
    ∃ token user, LoginAnswer.Grants (w.replies 0) token user ∧
      AccountFile.load (AccountFile.location dataDir) e.disk = .ok ⟨some token, some user⟩
  /-- After a logout nobody is logged in. -/
  logout : c = .logout → e.exitCode = 0 →
    ∃ a, AccountFile.load (AccountFile.location dataDir) e.disk = .ok a ∧
      a.isAuthenticated = false
  /-- A failure leaves the file as it was. -/
  failure : e.exitCode = 1 → found dataDir e.disk = found dataDir w.disk

/-- A run that fails and leaves the file alone. -/
theorem Handles.of_failure {e : Effect} (hexit : e.exitCode = 1)
    (hfound : found dataDir e.disk = found dataDir w.disk) : Handles dataDir c w e := by
  refine ⟨fun hne => absurd hfound hne, ?_, ?_, fun _ => hfound⟩
  · intro _ hzero
    simp [hexit] at hzero
  · intro _ hzero
    simp [hexit] at hzero

/-- Reading the settings leaves the account file alone. -/
theorem found_load (hkeeps : KeepsTo configDir dataDir w)
    (hapart : Apart configDir dataDir w.disk) :
    found dataDir (Settings.load w.library w.environment w.disk).2 = found dataDir w.disk := by
  rcases Settings.disk_load w.library w.environment w.disk with hsame | ⟨l, hconfig, hmade⟩
  · rw [hsame]
  · obtain rfl := hkeeps.config l hconfig
    rw [hmade]
    refine AccountFile.found_congr (Disk.grown_makeDirectory _ _).current ?_
    exact Disk.get?_makeDirectory hapart.config

/-- A command keeps the account file sound. -/
theorem Touches.handles {s : Settings} {e : Effect} {d : Disk}
    (h : Touches s { w with disk := d } e c) (hdata : s.dataDir = dataDir)
    (hapart : Apart configDir dataDir d) (hsound : Sound dataDir d)
    (hfound : found dataDir d = found dataDir w.disk) :
    e.disk.current = d.current ∧ Sound dataDir e.disk ∧ Handles dataDir c w e := by
  subst hdata
  have hsame : ∀ disk, disk = d → found s.dataDir disk = found s.dataDir w.disk := by
    rintro disk rfl
    exact hfound
  cases h with
  | nothing c hlogin hlogout hdisk =>
      replace hdisk : e.disk = d := hdisk
      refine ⟨by rw [hdisk], by rwa [hdisk], ?_⟩
      exact ⟨fun hne => absurd (hsame _ hdisk) hne, fun h => absurd h hlogin,
        fun h => absurd h hlogout, fun _ => hsame _ hdisk⟩
  | loginFails hfails hdisk =>
      replace hdisk : e.disk = d := hdisk
      exact ⟨by rw [hdisk], by rwa [hdisk], .of_failure hfails (hsame _ hdisk)⟩
  | loginUnkept a fault hfails hsave hdisk =>
      obtain ⟨hgrown, hplace⟩ := AccountFile.found_save_error hsave hapart.data
      replace hdisk : e.disk = (AccountFile.save (AccountFile.location s.dataDir) a d).2 := hdisk
      rw [← hdisk] at hgrown hplace
      exact ⟨hgrown.current, hsound.grown hgrown hplace,
        .of_failure hfails (hplace.trans hfound)⟩
  | login token user hends hgrants hsave hdisk =>
      have hload := AccountFile.load_save hsave
      rw [← hdisk] at hload
      refine ⟨?_, .inr ⟨token, user, hload⟩, ?_⟩
      · rw [hdisk, AccountFile.current_save]
      · refine ⟨fun _ => ⟨.inl rfl, hends⟩, fun _ _ => ⟨token, user, hgrants, hload⟩, nofun, ?_⟩
        intro hone
        simp [hends] at hone
  | logoutFails hfails hdisk =>
      replace hdisk : e.disk = d := hdisk
      exact ⟨by rw [hdisk], by rwa [hdisk], .of_failure hfails (hsame _ hdisk)⟩
  | loggedOut a hends hload hnobody hdisk =>
      replace hdisk : e.disk = d := hdisk
      refine ⟨by rw [hdisk], by rwa [hdisk], ?_⟩
      refine ⟨fun hne => absurd (hsame _ hdisk) hne, nofun, fun _ _ => ⟨a, ?_, hnobody⟩,
        fun _ => hsame _ hdisk⟩
      rw [hdisk]
      exact hload
  | logout hends hclear hdisk =>
      obtain ⟨hcurrent, hafter⟩ := AccountFile.sound_clear hsound hclear
      have hload := AccountFile.load_clear hclear
      rw [← hdisk] at hload
      replace hdisk : e.disk = (AccountFile.clear (AccountFile.location s.dataDir) d).2 := hdisk
      refine ⟨by rw [hdisk, hcurrent], by rwa [hdisk], ?_⟩
      refine ⟨fun _ => ⟨.inr rfl, hends⟩, nofun, fun _ _ => ⟨{}, hload, rfl⟩, ?_⟩
      intro hone
      simp [hends] at hone

/-- One run keeps the account file sound. -/
theorem run_handles (c : Command) (hkeeps : KeepsTo configDir dataDir w)
    (hapart : Apart configDir dataDir w.disk) (hsound : Sound dataDir w.disk) :
    (run c w).disk.current = w.disk.current ∧ Sound dataDir (run c w).disk ∧
      Handles dataDir c w (run c w) := by
  have hgrown := Settings.grown_load w.library w.environment w.disk
  have hfound := found_load hkeeps hapart
  have hmid := hsound.grown hgrown hfound
  rcases run_cases c w with ⟨fault, -, hrun⟩ | ⟨s, hs, hrun⟩
  · rw [hrun]
    exact ⟨hgrown.current, hmid, .of_failure rfl hfound⟩
  · rw [hrun]
    obtain ⟨hcurrent, hafter, hhandles⟩ :=
      (touches_perform c s { w with disk := (Settings.load w.library w.environment w.disk).2 }).handles
        (hkeeps.data s hs) (hapart.congr hgrown.current) hmid hfound
    exact ⟨hcurrent.trans hgrown.current, hafter, hhandles⟩

/-! ## Many runs -/

/-- The disks that run after run with the same directories leads to. -/
inductive Reached (configDir dataDir : Location) (start : Disk) : Disk → Prop where
  | start : Reached configDir dataDir start start
  | run (c : Command) (w : World) (hbefore : Reached configDir dataDir start w.disk)
      (hkeeps : KeepsTo configDir dataDir w) :
      Reached configDir dataDir start (Program.run c w).disk

theorem Reached.sound {start d : Disk} (h : Reached configDir dataDir start d)
    (hapart : Apart configDir dataDir start) (hstart : found dataDir start = none) :
    Apart configDir dataDir d ∧ Sound dataDir d := by
  induction h with
  | start => exact ⟨hapart, .inl hstart⟩
  | run c w _ hkeeps ih =>
      obtain ⟨hcurrent, hsound, -⟩ := run_handles c hkeeps ih.1 ih.2
      exact ⟨ih.1.congr hcurrent, hsound⟩

/-! ## The two checks for a login -/

/-- The status tells of a login. -/
def ReportsLogin (w : World) : Prop :=
  (run .status w).exitCode = 0 ∧
    (run .status w).messages ≠ ["You are not currently logged in to the registry."]

/-- The stored account is one that no form is turned away for. -/
def PassesLoginCheck (w : World) : Prop :=
  ∃ s a, (Settings.load w.library w.environment w.disk).1 = .ok s ∧
    AccountFile.load (accountLocation s) (Settings.load w.library w.environment w.disk).2 = .ok a ∧
    ∀ f : Form, f.validate a ≠ .error .notLoggedIn

/-- A publication is turned away because nobody is logged in. -/
def TurnedAway (e : Effect) : Prop :=
  e.failure = some ["Publish failed", FormFlaw.notLoggedIn.message] ∧ e.exchanges = []

theorem statusLine_eq_iff {a : Account} {url : String} :
    statusLine a url = "You are not currently logged in to the registry." ↔ a.token = none := by
  obtain ⟨token, user⟩ := a
  cases token with
  | none => simp [statusLine]
  | some token =>
      simp only [reduceCtorEq, iff_false]
      intro h
      -- the two sentences part at their ninth character
      have hstart := congrArg (fun line => line.toList.take 9) h
      unfold statusLine at hstart
      dsimp only at hstart
      split at hstart
      · split at hstart <;> simp at hstart
      · simp at hstart
      · simp_all

theorem validate_of_complete (f : Form) (token : String) (user : Profile) :
    f.validate ⟨some token, some user⟩ ≠ .error .notLoggedIn := by
  have hname : ∀ name, Form.packageName name ≠ .error .notLoggedIn := by
    intro name
    unfold Form.packageName
    split
    · simp
    · split_ifs <;> simp
  have hrequired : ∀ field text, Form.required field text ≠ .error .notLoggedIn := by
    intro field text
    unfold Form.required
    split_ifs <;> simp
  unfold Form.validate
  simp [Results.bind_eq_error_iff, hname, hrequired, Form.author]

/-- The first check of a form is for a token and a user. -/
theorem validate_eq_notLoggedIn_iff {f : Form} {a : Account} :
    f.validate a = .error .notLoggedIn ↔ ¬ ∃ token user, a = ⟨some token, some user⟩ := by
  obtain ⟨token, user⟩ := a
  cases token with
  | none => simp [Form.validate, Form.author]
  | some token =>
      cases user with
      | none => simp [Form.validate, Form.author]
      | some user => simpa using validate_of_complete f token user

/-- The status reads the token of the stored account. -/
theorem reportsLogin_iff :
    ReportsLogin w ↔ ∃ s a, (Settings.load w.library w.environment w.disk).1 = .ok s ∧
      AccountFile.load (accountLocation s) (Settings.load w.library w.environment w.disk).2 = .ok a ∧
      a.token ≠ none := by
  rcases run_cases .status w with ⟨fault, hload, hrun⟩ | ⟨s, hs, hrun⟩
  · simp [ReportsLogin, hrun, hload, Effect.exitCode, Effect.fail]
  · simp only [perform] at hrun
    unfold status at hrun
    cases haccount : loadAccount s (Settings.load w.library w.environment w.disk).2 with
    | error causes =>
        have hnone : ∀ a, AccountFile.load (accountLocation s)
            (Settings.load w.library w.environment w.disk).2 ≠ .ok a := by
          intro a ha
          simp [loadAccount_eq_ok_iff.mpr ha] at haccount
        simp [ReportsLogin, hrun, haccount, hs, hnone, Effect.exitCode, Effect.fail]
    | ok a =>
        have hload := loadAccount_eq_ok_iff.mp haccount
        simp [ReportsLogin, hrun, haccount, hs, hload, Effect.exitCode, statusLine_eq_iff]

theorem passesLoginCheck_iff :
    PassesLoginCheck w ↔ ∃ s token user, (Settings.load w.library w.environment w.disk).1 = .ok s ∧
      AccountFile.load (accountLocation s) (Settings.load w.library w.environment w.disk).2 =
        .ok ⟨some token, some user⟩ := by
  constructor
  · rintro ⟨s, a, hs, hload, hforms⟩
    obtain ⟨token, user, rfl⟩ := not_not.mp (mt validate_eq_notLoggedIn_iff.mpr (hforms {}))
    exact ⟨s, token, user, hs, hload⟩
  · rintro ⟨s, token, user, hs, hload⟩
    exact ⟨s, _, hs, hload, fun f => validate_of_complete f token user⟩

/-- With a sound account file the two checks agree. -/
theorem reportsLogin_iff_passesLoginCheck (hkeeps : KeepsTo configDir dataDir w)
    (hsound : Sound dataDir (Settings.load w.library w.environment w.disk).2) :
    ReportsLogin w ↔ PassesLoginCheck w := by
  rw [reportsLogin_iff, passesLoginCheck_iff]
  constructor
  · rintro ⟨s, a, hs, hload, htoken⟩
    obtain rfl := hkeeps.data s hs
    rcases hsound.loaded hload with rfl | ⟨token, user, rfl⟩
    · exact absurd rfl htoken
    · exact ⟨s, token, user, hs, hload⟩
  · rintro ⟨s, token, user, hs, hload⟩
    exact ⟨s, _, hs, hload, by simp⟩

theorem message_ne_notLoggedIn {flaw : FormFlaw} (h : flaw ≠ .notLoggedIn) :
    flaw.message ≠ FormFlaw.notLoggedIn.message := by
  intro heq
  have hstart := congrArg (fun text => text.toList.head?) heq
  unfold FormFlaw.message at hstart
  cases flaw with
  | notLoggedIn => exact h rfl
  | missing field => simp at hstart
  | invalidName name => simp at hstart

/-- A form that passes the check fails in other words, unless the registry itself has spoken. -/
theorem publish_userMessage {f : Form} {a : Account} {client : Client} {reply : Http.Reply}
    {failure : PublishFailure} (hpasses : f.validate a ≠ .error .notLoggedIn)
    (hresult : (f.publish a client reply).result = .error failure)
    (hsilent : (f.publish a client reply).exchanges = []) :
    failure.userMessage ≠ FormFlaw.notLoggedIn.message := by
  cases hvalid : f.validate a with
  | error flaw =>
      simp only [Form.publish, hvalid, Http.Traffic.silent, Except.error.injEq] at hresult
      subst hresult
      refine message_ne_notLoggedIn ?_
      rintro rfl
      exact hpasses hvalid
  | ok p =>
      cases htoken : a.token with
      | none => simp [Form.validate, Form.author, htoken] at hvalid
      | some token =>
          simp only [Form.publish, hvalid, htoken, Client.submit, Client.post] at hresult hsilent
          split at hresult
          · simp only [Http.Traffic.silent, Http.Traffic.map, Except.bind,
              Except.error.injEq] at hresult
            subst hresult
            exact (by decide : genericFailure ≠ FormFlaw.notLoggedIn.message)
          · rename_i hrequest
            simp [hrequest, Http.Traffic.map] at hsilent

/-- With an account loaded, a publication fails before the form is looked at, or ends with it. -/
theorem publish_cases (o : Arguments.PublishOptions) {s : Settings} {a : Account}
    (haccount : loadAccount s w.disk = .ok a) :
    (∃ heading causes, heading ≠ "Publish failed" ∧
      publish o s w = .fail w.disk (heading :: causes)) ∨
    ∃ readme client, (publish o s w).exchanges =
        ((formOf o readme).publish a client (w.replies 0)).exchanges ∧
      (publish o s w).aborted = false ∧ (publish o s w).failure =
        match ((formOf o readme).publish a client (w.replies 0)).result with
        | .error failure => some ["Publish failed", failure.userMessage]
        | .ok _ => none := by
  unfold publish withClient
  simp only [haccount]
  cases hclient : makeClient s w a with
  | error causes =>
      obtain ⟨failure, rfl⟩ : ∃ failure : Failure,
          under "Could not create registry client" failure.chain = causes := by
        rw [makeClient] at hclient
        cases hmake : Client.make (clientOptions s w.environment a) with
        | ok client => simp [hmake] at hclient
        | error failure => exact ⟨failure, by simpa [hmake] using hclient⟩
      exact .inl ⟨_, _, by decide, rfl⟩
  | ok client =>
      cases hreadme : w.disk.readText o.readme with
      | error fault =>
          refine .inl ⟨_, _, ?_, rfl⟩
          intro heq
          have hstart := congrArg (fun text => text.toList.head?) heq
          simp at hstart
      | ok readme =>
          refine .inr ⟨readme, client, rfl, ?_⟩
          cases hresult : ((formOf o readme).publish a client (w.replies 0)).result with
          | error failure =>
              simp only [hresult]
              exact ⟨rfl, rfl⟩
          | ok receipt => simp only [hresult, and_self]

/-- Whoever passes the check is not turned away for want of a login. -/
theorem not_turnedAway_of_passes (o : Arguments.PublishOptions) (h : PassesLoginCheck w) :
    ¬ TurnedAway (run (.publish o) w) := by
  obtain ⟨s, a, hs, hload, hforms⟩ := h
  rintro ⟨hfailure, hsilent⟩
  rcases run_cases (.publish o) w with ⟨fault, hfault, -⟩ | ⟨s', hs', hrun⟩
  · simp [hs] at hfault
  · obtain rfl : s = s' := Except.ok.inj (hs.symm.trans hs')
    simp only [hrun, perform] at hfailure hsilent
    rcases publish_cases (w := { w with disk := (Settings.load w.library w.environment w.disk).2 }) o
        (loadAccount_eq_ok_iff.mpr hload) with
      ⟨heading, causes, hheading, heq⟩ | ⟨readme, client, hexchanges, -, hends⟩
    · simp [heq, Effect.fail, hheading] at hfailure
    · rw [hends] at hfailure
      rw [hexchanges] at hsilent
      split at hfailure
      · rename_i failure hresult
        have hmessage := publish_userMessage (hforms _) hresult hsilent
        simp [hmessage] at hfailure
      · cases hfailure

/-- Whoever does not pass it publishes nothing and is told so. -/
theorem publish_of_not_passes (o : Arguments.PublishOptions) (h : ¬ PassesLoginCheck w) :
    (run (.publish o) w).exitCode = 1 ∧ (run (.publish o) w).exchanges = [] := by
  rw [passesLoginCheck_iff] at h
  rcases run_cases (.publish o) w with ⟨fault, hfault, hrun⟩ | ⟨s, hs, hrun⟩
  · rw [hrun]
    exact ⟨rfl, rfl⟩
  · rw [hrun, perform]
    cases haccount : loadAccount s (Settings.load w.library w.environment w.disk).2 with
    | error causes =>
        unfold publish withClient
        simp only [haccount]
        exact ⟨rfl, rfl⟩
    | ok a =>
        have hcheck : ∀ f : Form, f.validate a = .error .notLoggedIn := by
          intro f
          refine validate_eq_notLoggedIn_iff.mpr ?_
          rintro ⟨token, user, rfl⟩
          exact h ⟨s, token, user, hs, loadAccount_eq_ok_iff.mp haccount⟩
        rcases publish_cases (w := { w with disk := (Settings.load w.library w.environment w.disk).2 }) o
            haccount with
          ⟨heading, causes, -, heq⟩ | ⟨readme, client, hexchanges, haborted, hends⟩
        · rw [heq]
          exact ⟨rfl, rfl⟩
        · simp [Form.publish, hcheck, Http.Traffic.silent] at hexchanges hends
          exact ⟨by simp [Effect.exitCode, haborted, hends], hexchanges⟩

/-! ## Histories -/

/-- A world with nothing on the disk, where a login is pasted and granted. -/
def firstLogin (configHome dataHome : Location) : World where
  environment := [
    ("RADS_OAUTH__CLIENT_ID", "c"), ("XDG_CONFIG_HOME", configHome), ("XDG_DATA_HOME", dataHome)]
  disk := {}
  input := [{ text := "code=a&state=b" }]
  replies := fun _ => .response 200 (Text.Utf8.encode
    "\x7b\"success\":true,\"data\":\x7b\"token\":\"t\",\"user\":\x7b\"login\":\"u\"\x7d\x7d\x7d")
  loginState := "b"

theorem keepsTo_of_eq (hconfig : Settings.configDirOf w.environment w.disk = .ok configDir)
    (hdata : (Settings.load w.library w.environment w.disk).1.toOption.map Settings.dataDir =
      some dataDir) : KeepsTo configDir dataDir w := by
  refine ⟨?_, ?_⟩
  · intro l hl
    exact Except.ok.inj (hl.symm.trans hconfig)
  · intro s hs
    simpa [hs, Except.toOption] using hdata

theorem keepsTo_firstLogin : KeepsTo "/c/rads" "/d/rads" (firstLogin "/c" "/d") :=
  keepsTo_of_eq rfl (by decide +kernel)

end Program

end PackageRegistry
