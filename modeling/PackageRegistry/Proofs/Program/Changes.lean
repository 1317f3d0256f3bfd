import PackageRegistry.Program
import PackageRegistry.Proofs.Login

/-! # What a run does to the disk

Every run may make its configuration directory. Beyond that only a login and a logout change the
disk, and only at the account file and above it.
-/

namespace PackageRegistry

open Arguments (Command)

/-! ## Reading the settings -/

namespace Settings

/-- At most the configuration directory is made. -/
theorem disk_load (lib : Library) (env : Environment) (d : Disk) :
    (load lib env d).2 = d ∨
      ∃ l, configDirOf env d = .ok l ∧ (load lib env d).2 = (d.makeDirectory l).2 := by
  unfold load
  cases hconfig : configDirOf env d with
  | error fault => exact .inl rfl
  | ok configDir =>
      cases hdata : dataDirOf env d with
      | error fault => exact .inl rfl
      | ok dataDir =>
          right
          refine ⟨configDir, rfl, ?_⟩
          rcases hmake : d.makeDirectory configDir with ⟨result, e⟩
          cases result <;> simp only [hmake]

theorem grown_load (lib : Library) (env : Environment) (d : Disk) :
    Disk.Grown d (load lib env d).2 := by
  rcases disk_load lib env d with hsame | ⟨l, -, hmade⟩
  · rw [hsame]
    exact .refl d
  · rw [hmade]
    exact Disk.grown_makeDirectory d l

end Settings

namespace Program

variable {s : Settings} {w : World}

/-! ## Commands that leave the disk alone -/

theorem disk_withClient {go : Account → Client → Effect}
    (h : ∀ a c, (go a c).disk = w.disk) : (withClient s w go).disk = w.disk := by
  unfold withClient
  split
  · rfl
  · split
    · rfl
    · exact h _ _

theorem disk_printPage (f : Filters) (json : Bool) (d : Disk) (page : Listing) :
    (printPage f json d page).disk = d := by
  unfold printPage
  dsimp only
  split
  · rfl
  · split
    · rfl
    · split <;> rfl

theorem disk_search (f : Filters) (json : Bool) (s : Settings) (w : World) :
    (search f json s w).disk = w.disk := by
  refine disk_withClient fun _ c => ?_
  dsimp only
  split
  · rfl
  · exact disk_printPage _ _ _ _

theorem disk_lookup {go : Package → Effect} (name : String)
    (h : ∀ p, (go p).disk = w.disk) : (lookup name s w go).disk = w.disk := by
  refine disk_withClient fun _ c => ?_
  dsimp only
  split
  · exact h _
  · rfl
  · rfl

theorem disk_browse (f : Filters) (s : Settings) (w : World) : (browse f s w).disk = w.disk :=
  disk_withClient fun _ _ => rfl

theorem disk_publish (o : Arguments.PublishOptions) (s : Settings) (w : World) :
    (publish o s w).disk = w.disk := by
  refine disk_withClient fun a c => ?_
  split
  · rfl
  · dsimp only
    split <;> rfl

theorem disk_status (s : Settings) (w : World) : (status s w).disk = w.disk := by
  unfold status
  split <;> rfl

/-! ## What a command can do -/

/-- All that a command can do to the disk, with how it ends. -/
inductive Touches (s : Settings) (w : World) (e : Effect) : Command → Prop where
  | nothing (c : Command) (hlogin : c ≠ .login) (hlogout : c ≠ .logout) (hdisk : e.disk = w.disk) :
      Touches s w e c
  | loginFails (hfails : e.exitCode = 1) (hdisk : e.disk = w.disk) : Touches s w e .login
  | loginUnkept (a : Account) (fault : StoreFault) (hfails : e.exitCode = 1)
      (hsave : (AccountFile.save (accountLocation s) a w.disk).1 = .error fault)
      (hdisk : e.disk = (AccountFile.save (accountLocation s) a w.disk).2) : Touches s w e .login
  | login (token : String) (user : Profile) (hends : e.exitCode = 0)
      (hgrants : LoginAnswer.Grants (w.replies 0) token user)
      (hsave : (AccountFile.save (accountLocation s) ⟨some token, some user⟩ w.disk).1 = .ok ())
      (hdisk : e.disk = (AccountFile.save (accountLocation s) ⟨some token, some user⟩ w.disk).2) :
      Touches s w e .login
  | logoutFails (hfails : e.exitCode = 1) (hdisk : e.disk = w.disk) : Touches s w e .logout
  | loggedOut (a : Account) (hends : e.exitCode = 0)
      (hload : AccountFile.load (accountLocation s) w.disk = .ok a)
      (hnobody : a.isAuthenticated = false) (hdisk : e.disk = w.disk) : Touches s w e .logout
  | logout (hends : e.exitCode = 0)
      (hclear : (AccountFile.clear (accountLocation s) w.disk).1 = .ok ())
      (hdisk : e.disk = (AccountFile.clear (accountLocation s) w.disk).2) : Touches s w e .logout

/-- Messages in front of an effect are no matter for the disk. -/
theorem Touches.congr {e e' : Effect} {c : Command} (hdisk : e'.disk = e.disk)
    (hexit : e'.exitCode = e.exitCode) (h : Touches s w e c) : Touches s w e' c := by
  cases h with
  | nothing c hlogin hlogout h => exact .nothing c hlogin hlogout (hdisk.trans h)
  | loginFails hfails h => exact .loginFails (hexit.trans hfails) (hdisk.trans h)
  | loginUnkept a fault hfails hsave h =>
      exact .loginUnkept a fault (hexit.trans hfails) hsave (hdisk.trans h)
  | login token user hends hgrants hsave h =>
      exact .login token user (hexit.trans hends) hgrants hsave (hdisk.trans h)
  | logoutFails hfails h => exact .logoutFails (hexit.trans hfails) (hdisk.trans h)
  | loggedOut a hends hload hnobody h =>
      exact .loggedOut a (hexit.trans hends) hload hnobody (hdisk.trans h)
  | logout hends hclear h => exact .logout (hexit.trans hends) hclear (hdisk.trans h)

theorem touches_finishLogin (s : Settings) (w : World) : Touches s w (finishLogin s w) .login := by
  unfold finishLogin
  split
  · exact .loginFails rfl rfl
  · exact .loginFails rfl rfl
  · rename_i callback c _ _
    rcases callback.complete_cases w.loginState c (w.replies 0)
        (.file (accountLocation s) w.disk) with
      ⟨failure, hresult⟩ | ⟨token, user, hgrants, ⟨fault, hsave, hresult⟩ | ⟨hsave, hresult⟩⟩
    · simp only [hresult]
      exact .loginFails rfl rfl
    · simp only [Store.save_file] at hsave hresult
      simp only [hresult, Store.diskOr, Effect.fail]
      exact .loginUnkept ⟨some token, some user⟩ fault rfl hsave (by simp only)
    · simp only [Store.save_file] at hsave hresult
      simp only [hresult, Store.diskOr]
      exact .login token user rfl hgrants hsave (by simp only)

theorem touches_login (s : Settings) (w : World) : Touches s w (login s w) .login := by
  unfold login
  split
  · exact .loginFails rfl rfl
  · exact Touches.congr (e := finishLogin s w) rfl rfl (touches_finishLogin s w)

theorem loadAccount_eq_ok_iff {d : Disk} {a : Account} :
    loadAccount s d = .ok a ↔ AccountFile.load (accountLocation s) d = .ok a :=
  Results.mapError_eq_ok_iff

theorem touches_logout (s : Settings) (w : World) : Touches s w (logout s w) .logout := by
  unfold logout
  split
  · exact .logoutFails rfl rfl
  · rename_i a hload
    split_ifs with hsomebody
    · split
      · rename_i fault d hclear
        rcases AccountFile.clear_cases (accountLocation s) w.disk with
          ⟨fault', hfail⟩ | ⟨hok, -⟩ | ⟨hok, -⟩
        · obtain ⟨-, rfl⟩ := Prod.mk.inj (hclear.symm.trans hfail)
          exact .logoutFails rfl rfl
        · simp [hok] at hclear
        · simp [hok] at hclear
      · rename_i d hclear
        exact .logout rfl (by rw [hclear]) (by rw [hclear])
    · exact .loggedOut a rfl (loadAccount_eq_ok_iff.mp hload) (by simpa using hsomebody) rfl

theorem touches_perform (c : Command) (s : Settings) (w : World) :
    Touches s w (perform c s w) c := by
  cases c with
  | search json options term =>
      rw [perform]
      exact .nothing _ nofun nofun (disk_search _ _ _ _)
  | browse options term =>
      rw [perform]
      exact .nothing _ nofun nofun (disk_browse _ _ _)
  | «show» json name =>
      rw [perform, showPackage]
      exact .nothing _ nofun nofun (disk_lookup _ fun _ => rfl)
  | stats name =>
      rw [perform, stats]
      exact .nothing _ nofun nofun (disk_lookup _ fun _ => rfl)
  | publish options =>
      rw [perform]
      exact .nothing _ nofun nofun (disk_publish _ _ _)
  | login =>
      rw [perform]
      exact touches_login s w
  | logout =>
      rw [perform]
      exact touches_logout s w
  | status =>
      rw [perform]
      exact .nothing _ nofun nofun (disk_status _ _)

/-- A run without settings fails; with settings it performs its command. -/
theorem run_cases (c : Command) (w : World) :
    (∃ fault, (Settings.load w.library w.environment w.disk).1 = .error fault ∧
      run c w = .fail (Settings.load w.library w.environment w.disk).2 fault.chain) ∨
    ∃ s, (Settings.load w.library w.environment w.disk).1 = .ok s ∧
      run c w = perform c s { w with disk := (Settings.load w.library w.environment w.disk).2 } := by
  unfold run
  rcases Settings.load w.library w.environment w.disk with ⟨result, d⟩
  cases result with
  | error fault => exact .inl ⟨fault, rfl, rfl⟩
  | ok s => exact .inr ⟨s, rfl, rfl⟩

end Program

end PackageRegistry
