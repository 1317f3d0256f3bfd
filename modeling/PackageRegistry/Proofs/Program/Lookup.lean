import PackageRegistry.Proofs.Program.Browsing
import PackageRegistry.Proofs.Program.Output

/-! # Looking packages up

A package is looked up in the listing of all packages. What that listing comes to decides what the
look-up comes to, and a page that degraded, which a search shows as an empty one, is a failure here.
-/

namespace PackageRegistry

open Http (Arrived Reply)

/-! ## The first package of a name -/

namespace Client

/-- A package is the first one under a name. -/
structure FirstNamed (name : String) (items : List Package) (p : Package) : Prop where
  named : p.name = name
  first : ∃ before after, items = before ++ p :: after ∧ ∀ q ∈ before, q.name ≠ name

theorem find?_eq_some_iff_firstNamed {name : String} {items : List Package} {p : Package} :
    items.find? (fun p => p.name == name) = some p ↔ FirstNamed name items p := by
  rw [List.find?_eq_some_iff_append]
  constructor
  · rintro ⟨hnamed, before, after, hitems, hbefore⟩
    exact ⟨by simpa using hnamed, before, after, hitems, by simpa using hbefore⟩
  · rintro ⟨hnamed, before, after, hitems, hbefore⟩
    exact ⟨by simpa using hnamed, before, after, hitems, by simpa using hbefore⟩

theorem exists_firstNamed_iff {name : String} {items : List Package} :
    (∃ p, FirstNamed name items p) ↔ ∃ p ∈ items, p.name = name := by
  simp only [← find?_eq_some_iff_firstNamed, ← Option.isSome_iff_exists, List.find?_isSome,
    beq_iff_eq]

/-! ## What a look-up comes to -/

/-- What a look-up comes to, given what the listing of all packages comes to. -/
structure LookupOutcome (name : String) (listed : Except Failure Listing)
    (found : Except LookupFailure Package) : Prop where
  package : ∀ p, found = .ok p ↔
    ∃ page, listed = .ok page ∧ page.problem = none ∧ FirstNamed name page.items p
  missing : ∀ n, found = .error (.notFound n) ↔
    n = name ∧ ∃ page, listed = .ok page ∧ page.problem = none ∧ ∀ p ∈ page.items, p.name ≠ name
  degraded : ∀ problem, found = .error (.failed (.malformed problem)) ↔
    ∃ page, listed = .ok page ∧ page.problem = some problem
  failed : ∀ failure, listed = .error failure ↔
    found = .error (.failed failure) ∧ ∀ problem, failure ≠ .malformed problem

variable {name : String}

theorem outcome_of_failure {failure : Failure} (h : ∀ problem, failure ≠ .malformed problem) :
    LookupOutcome name (.error failure) (.error (.failed failure)) := by
  constructor <;> grind

theorem outcome_of_page (page : Listing) : LookupOutcome name (.ok page) (pick name page) := by
  cases hproblem : page.problem with
  | some problem =>
      have hpick : pick name page = .error (.failed (.malformed problem)) := by
        simp [pick, hproblem]
      rw [hpick]
      constructor <;> simp [hproblem, eq_comm]
  | none =>
      cases hfind : page.items.find? fun p => p.name == name with
      | some p =>
          have hpick : pick name page = .ok p := by simp [pick, hproblem, hfind]
          have hfirst := find?_eq_some_iff_firstNamed.mp hfind
          have hitem : p ∈ page.items ∧ p.name = name := pick_eq_ok hpick
          rw [hpick]
          refine ⟨?_, ?_, by simp [hproblem], by simp⟩
          · intro q
            simp only [Except.ok.injEq, exists_eq_left', hproblem, true_and]
            rw [← find?_eq_some_iff_firstNamed, hfind, Option.some.injEq]
          · simp only [reduceCtorEq, Except.ok.injEq, exists_eq_left', hproblem, true_and,
              false_iff, not_and]
            exact fun n _ hnone => hnone p hitem.1 hitem.2
      | none =>
          have hpick : pick name page = .error (.notFound name) := by
            simp [pick, hproblem, hfind]
          have hnone : ∀ p ∈ page.items, p.name ≠ name := by simpa using hfind
          rw [hpick]
          refine ⟨?_, ?_, by simp [hproblem], by simp⟩
          · intro p
            simp [hproblem, ← find?_eq_some_iff_firstNamed, hfind]
          · intro n
            simpa [hproblem, eq_comm] using fun _ => hnone

/-- No body makes a listing fail. -/
theorem result_list_ne_malformed (c : Client) (f : Filters) (reply : Reply) (problem : Problem) :
    (c.list f reply).result ≠ .error (.malformed problem) := by
  by_cases hreaches : c.Reaches
  · obtain ⟨r, -, hlist⟩ := list_of_reaches hreaches f reply
    rw [hlist]
    cases reply with
    | interrupted cause => simp [bodyOf]
    | response status body =>
        by_cases hsuccess : Http.isSuccess status = true <;> simp [bodyOf, hsuccess]
  · rw [list_of_not_reaches hreaches]
    simp [Http.Traffic.silent]

theorem exchanges_find (c : Client) (name : String) (reply : Reply) :
    (c.find name reply).exchanges = (c.list {} reply).exchanges := rfl

theorem outcome_find (c : Client) (name : String) (reply : Reply) :
    LookupOutcome name (c.list {} reply).result (c.find name reply).result := by
  cases hlist : (c.list {} reply).result with
  | ok page =>
      have hfind : (c.find name reply).result = pick name page := by
        simp only [find, Http.Traffic.map, hlist]
      rw [hfind]
      exact outcome_of_page page
  | error failure =>
      have hfind : (c.find name reply).result = .error (.failed failure) := by
        simp only [find, Http.Traffic.map, hlist]
      rw [hfind]
      apply outcome_of_failure
      rintro problem rfl
      exact c.result_list_ne_malformed {} reply problem hlist

/-! ## Packages that are listed -/

/-- The packages that a listing gives, none if it fails. -/
def items (c : Client) (f : Filters) (reply : Reply) : List Package :=
  match (c.list f reply).result with
  | .ok page => page.items
  | .error _ => []

/-- A listing gives a page that can be printed and read back, and a degraded one is empty. -/
theorem page_of_list {c : Client} {f : Filters} {reply : Reply} {page : Listing}
    (h : (c.list f reply).result = .ok page) :
    page.Counted ∧ (page.problem ≠ none → page.items = []) := by
  obtain ⟨status, body, -, -, rfl⟩ := list_eq_ok_iff.mp h
  have hshows := Listing.shows_ofBody body
  exact ⟨hshows.counted, fun hproblem => (hshows.empty hproblem).1⟩

/-- A package is found just when the listing of all packages has one of that name. -/
theorem exists_find_iff (c : Client) (name : String) (reply : Reply) :
    (∃ p, (c.find name reply).result = .ok p) ↔ ∃ p ∈ c.items {} reply, p.name = name := by
  simp only [(c.outcome_find name reply).package, items]
  cases hlist : (c.list {} reply).result with
  | error failure => simp
  | ok page =>
      by_cases hproblem : page.problem = none
      · simp only [Except.ok.injEq, exists_eq_left', hproblem, true_and, exists_firstNamed_iff]
      · simp [hproblem, (page_of_list hlist).2 hproblem]

end Client

/-! ## What searching and looking up print -/

namespace Program

open Client (LookupOutcome)

/-- The table that a search prints of packages; nothing for none. -/
def tableOf (items : List Package) : String :=
  if items.isEmpty then "" else Display.table { items, total := items.length } ++ "\n"

/-- The packages that a text lists when it is read as the body of a reply. -/
def itemsIn (text : String) : List Package :=
  (Listing.ofBody (Text.Utf8.encode text)).items

theorem itemsIn_empty : itemsIn "" = [] := by decide +kernel

theorem itemsIn_render {page : Listing} (h : page.Counted) (f : Filters) :
    itemsIn (page.render f ++ "\n") = page.items := by
  have hdocument := Json.document_pretty_line (Listing.plain_toJson h f)
  rw [itemsIn, Listing.render, Listing.ofBody_of_document h f hdocument]

/-- What a plain search comes to when it has these packages: their table, or an abort that prints
nothing if one of their names is overlong. -/
structure Tabulates (items : List Package) (e : Effect) : Prop where
  printed : e.aborted = false → e.output = tableOf items
  aborted : e.aborted = true ↔ ∃ p ∈ items, Display.greatestWidth < p.name.utf8ByteSize
  silent : e.aborted = true → e.output = "" ∧ e.exitCode = 101

theorem tabulates_printPage (f : Filters) (d : Disk) (page : Listing) :
    Tabulates page.items (printPage f false d page) := by
  refine ⟨?_, ?_, ?_⟩
  · unfold printPage tableOf
    cases hprinted : Display.printed? page with
    | none => by_cases hempty : page.items.isEmpty = true <;> simp [hempty]
    | some table =>
        obtain rfl := Display.eq_table_of_printed? hprinted
        by_cases hempty : page.items.isEmpty = true <;> simp [hempty, Display.table]
  · simpa using @aborted_printPage_iff f false d page
  · unfold printPage
    cases Display.printed? page with
    | none => by_cases hempty : page.items.isEmpty = true <;> simp [hempty, Effect.exitCode]
    | some table => by_cases hempty : page.items.isEmpty = true <;> simp [hempty]

/-- A command that fails before it has anything to print. -/
theorem tabulates_fail (d : Disk) (causes : List String) : Tabulates [] (.fail d causes) :=
  ⟨fun _ => rfl, by simp [Effect.fail], by simp [Effect.fail]⟩

/-- The commands that need a client have the same one, or all fail for want of it. -/
theorem withClient_same (s : Settings) (w : World) :
    (∃ a c, ∀ go, withClient s w go = go a c) ∨
      ∃ causes, ∀ go, withClient s w go = .fail w.disk causes := by
  unfold withClient
  cases loadAccount s w.disk with
  | error causes => exact .inr ⟨causes, fun _ => rfl⟩
  | ok a =>
      dsimp only
      cases makeClient s w a with
      | error causes => exact .inr ⟨causes, fun _ => rfl⟩
      | ok c => exact .inl ⟨a, c, fun _ => rfl⟩

/-- All commands have the same settings, or fail alike. -/
theorem run_same (w : World) :
    (∃ d causes, ∀ command, run command w = .fail d causes) ∨
      ∃ s d, ∀ command, run command w = perform command s { w with disk := d } := by
  unfold run
  rcases Settings.load w.library w.environment w.disk with ⟨result, d⟩
  cases result with
  | error fault => exact .inl ⟨d, fault.chain, fun _ => rfl⟩
  | ok s => exact .inr ⟨s, d, fun _ => rfl⟩

section Clients

variable {s : Settings} {w : World} {a : Account} {c : Client}

/-- A search prints the packages that the client lists, as a document. -/
theorem itemsIn_output_search (h : ∀ go, withClient s w go = go a c) (f : Filters) :
    itemsIn (search f true s w).output = c.items f (w.replies 0) := by
  rw [search, h, Client.items]
  cases hlist : (c.list f (w.replies 0)).result with
  | error failure =>
      simp only [hlist]
      exact itemsIn_empty
  | ok page =>
      simp only [hlist, printPage, if_true]
      exact itemsIn_render (Client.page_of_list hlist).1 f

/-- A search prints the packages that the client lists, as a table. -/
theorem tabulates_search (h : ∀ go, withClient s w go = go a c) (f : Filters) :
    Tabulates (c.items f (w.replies 0)) (search f false s w) := by
  rw [search, h, Client.items]
  cases hlist : (c.list f (w.replies 0)).result with
  | error failure =>
      simp only [hlist]
      have hfail := tabulates_fail w.disk (under "Could not search the registry" failure.chain)
      exact ⟨hfail.printed, hfail.aborted, hfail.silent⟩
  | ok page =>
      simp only [hlist]
      have hpage := tabulates_printPage f w.disk page
      exact ⟨hpage.printed, hpage.aborted, hpage.silent⟩

/-- A look-up succeeds when the client finds the package. -/
theorem exitCode_lookup_eq_zero_iff (h : ∀ go, withClient s w go = go a c) (name : String)
    {go : Package → Effect} (hgo : ∀ p, (go p).exitCode = 0) :
    (lookup name s w go).exitCode = 0 ↔ ∃ p, (c.find name (w.replies 0)).result = .ok p := by
  rw [lookup, h]
  cases hfind : (c.find name (w.replies 0)).result with
  | ok p => simpa [hfind, Effect.exitCode] using hgo p
  | error failure => cases failure <;> simp [hfind, Effect.fail, Effect.exitCode]

end Clients

/-- A package is shown just when a search for nothing in particular lists one of that name, and both
make the same request. -/
theorem lookup_search_agree (name : String) (s : Settings) (w : World) {go : Package → Effect}
    (hgo : ∀ p, (go p).exitCode = 0) :
    ((lookup name s w go).exitCode = 0 ↔
      ∃ p ∈ itemsIn (search {} true s w).output, p.name = name) ∧
    Tabulates (itemsIn (search {} true s w).output) (search {} false s w) ∧
    ∀ json, (lookup name s w go).exchanges = (search {} json s w).exchanges := by
  rcases withClient_same s w with ⟨a, c, hclient⟩ | ⟨causes, hclient⟩
  · rw [exitCode_lookup_eq_zero_iff hclient name hgo, itemsIn_output_search hclient,
      c.exists_find_iff]
    refine ⟨Iff.rfl, tabulates_search hclient {}, ?_⟩
    intro json
    rw [lookup, search, hclient, hclient]
    exact c.exchanges_find name (w.replies 0)
  · have hfail := tabulates_fail w.disk causes
    simpa [lookup, search, hclient, Effect.fail, Effect.exitCode, itemsIn_empty] using hfail

/-- A command that looks a package up, and does not fail once it is found. -/
def LooksUp (command : Arguments.Command) (name : String) : Prop :=
  ∀ s w, ∃ go, (∀ p, (go p).exitCode = 0) ∧ perform command s w = lookup name s w go

theorem looksUp_show (json : Bool) (name : String) : LooksUp (.show json name) name := by
  intro s w
  rw [perform, showPackage]
  exact ⟨_, fun _ => rfl, rfl⟩

theorem looksUp_stats (name : String) : LooksUp (.stats name) name := by
  intro s w
  rw [perform, stats]
  exact ⟨_, fun _ => rfl, rfl⟩

/-- A run of a look-up and the runs of searches for nothing in particular in the same world. -/
theorem run_lookup_search_agree {command : Arguments.Command} {name : String}
    (hcommand : LooksUp command name) {options : Arguments.FilterOptions} {term : Option String}
    (hfilters : options.filters term = {}) (w : World) :
    ((run command w).exitCode = 0 ↔
      ∃ p ∈ itemsIn (run (.search true options term) w).output, p.name = name) ∧
    Tabulates (itemsIn (run (.search true options term) w).output)
      (run (.search false options term) w) ∧
    ∀ json, (run command w).exchanges = (run (.search json options term) w).exchanges := by
  rcases run_same w with ⟨d, causes, hrun⟩ | ⟨s, d, hrun⟩
  · have hfail := tabulates_fail d causes
    simpa [hrun, Effect.fail, Effect.exitCode, itemsIn_empty] using hfail
  · have hsearch : ∀ json, run (.search json options term) w =
        search {} json s { w with disk := d } := by
      intro json
      rw [hrun, perform, hfilters]
    obtain ⟨go, hgo, hlookup⟩ := hcommand s { w with disk := d }
    simp only [hsearch, hrun command, hlookup]
    exact lookup_search_agree name s { w with disk := d } hgo

/-- A package is looked up with the request of a listing of all packages: it is the first of its
name in a page that is whole, it is missing from such a page, or the listing has degraded or failed.
So what can be shown is what any search lists that asks for nothing in particular; but a plain
search lists nothing where one of the names is overlong. -/
theorem lookup_agrees_with_listing (name : String) :
    (∀ (c : Client) (reply : Reply),
      (c.find name reply).exchanges = (c.list {} reply).exchanges ∧
      LookupOutcome name (c.list {} reply).result (c.find name reply).result) ∧
    ∀ (options : Arguments.FilterOptions) (term : Option String) (w : World),
      options.filters term = {} →
      let listed := itemsIn (run (.search true options term) w).output
      Tabulates listed (run (.search false options term) w) ∧
      ∀ json,
        ((run (.show json name) w).exitCode = 0 ↔ ∃ p ∈ listed, p.name = name) ∧
        ((run (.stats name) w).exitCode = 0 ↔ ∃ p ∈ listed, p.name = name) ∧
        (run (.show json name) w).exchanges = (run (.search json options term) w).exchanges ∧
        (run (.stats name) w).exchanges = (run (.search json options term) w).exchanges := by
  refine ⟨fun c reply => ⟨c.exchanges_find name reply, c.outcome_find name reply⟩, ?_⟩
  intro options term w hfilters
  have hstats := run_lookup_search_agree (looksUp_stats name) hfilters w
  refine ⟨hstats.2.1, ?_⟩
  intro json
  have hshow := run_lookup_search_agree (looksUp_show json name) hfilters w
  exact ⟨hshow.1, hstats.1, hshow.2.2 json, hstats.2.2 json⟩

/-- Blanks and the usual order ask for nothing in particular; and a name is found in the letters it
is listed in, and in no others. -/
theorem starred_is_shown_as_listed :
    let listed := itemsIn
      (run (.search true { sort := some .relevance } (some " ")) starredWorld).output
    Arguments.FilterOptions.filters { sort := some .relevance } (some " ") = {} ∧
      (∃ p ∈ listed, p.name = "é\n") ∧ ¬ ∃ p ∈ listed, p.name = "É\n" := by
  have hfilters :
      Arguments.FilterOptions.filters { sort := some .relevance } (some " ") = {} := by
    decide +kernel
  have hfound := ((lookup_agrees_with_listing "é\n").2 _ _ starredWorld hfilters).2 false
  have hmissing := ((lookup_agrees_with_listing "É\n").2 _ _ starredWorld hfilters).2 false
  refine ⟨hfilters, hfound.1.mp (by decide +kernel), ?_⟩
  exact mt hmissing.2.1.mpr (by decide +kernel)

/-- Where one search asks, so does another one at the same place, and it gets its first reply. -/
theorem reply_mem_of_asked {w v : World} (h : w.SamePlace v) {json : Bool}
    {options : Arguments.FilterOptions} {term : Option String}
    (hasked : (run (.search json options term) v).exchanges ≠ []) :
    w.replies 0 ∈ (run (.search json options term) w).exchanges.map Prod.snd := by
  rcases run_cases_of_samePlace h (.search json options term) (.search json options term) with
    ⟨d, causes, -, hv⟩ | ⟨s, d, hw, hv⟩
  · exact absurd (congrArg Effect.exchanges hv) hasked
  · have hplace : World.SamePlace { w with disk := d } { v with disk := d } :=
      ⟨h.environment, rfl, h.library⟩
    rw [hv, perform, search] at hasked
    rw [hw, perform, search]
    rcases withClient_cases_of_samePlace hplace s _ _ with
      ⟨a, c, hclient, hclient'⟩ | ⟨causes, -, hclient'⟩
    · rw [hclient'] at hasked
      rw [hclient]
      by_cases hreaches : c.Reaches
      · obtain ⟨q, -, hlist⟩ := Client.list_of_reaches hreaches (options.filters term) (w.replies 0)
        simp [hlist]
      · rw [Client.list_of_not_reaches hreaches] at hasked
        exact absurd rfl hasked
    · rw [hclient'] at hasked
      exact absurd rfl hasked

/-- A page with a plain package in front of one with a name of 65536 letters. -/
def laden : Listing := { items := { name := "x" } :: (Display.longNamed 65536).items, total := 2 }

theorem counted_laden : laden.Counted := by
  refine ⟨by decide, ?_⟩
  intro p hp
  rcases List.mem_cons.mp hp with rfl | hp
  · exact ⟨by decide, by decide⟩
  · exact (counted_longNamed 65536).2 p hp

/-- A world where the registry lists it. -/
def ladenWorld : World :=
  { starredWorld with replies := fun _ => .response 200 (Text.Utf8.encode (laden.render {})) }

/-- The plain package is found, and a plain search does not list it. -/
theorem found_package_is_not_listed :
    (run (.stats "x") ladenWorld).exitCode = 0 ∧
      (run (.search false {} none) ladenWorld).exitCode = 101 ∧
      (run (.search false {} none) ladenWorld).output = "" := by
  have hplace : ladenWorld.SamePlace starredWorld := ⟨rfl, rfl, rfl⟩
  have hasked : (run (.search true {} none) starredWorld).exchanges ≠ [] := by decide +kernel
  have hdocument := Json.Reader.document_pretty (Listing.plain_toJson counted_laden {})
  have hlisted : itemsIn (run (.search true {} none) ladenWorld).output = laden.items := by
    have hpage := (ofBody_output_search (reply_mem_of_asked hplace hasked) (by decide)).2
    rw [itemsIn, hpage, Listing.render, Listing.ofBody_of_document counted_laden {} hdocument]
  obtain ⟨hfound, htable, -⟩ :=
    run_lookup_search_agree (looksUp_stats "x")
      (show Arguments.FilterOptions.filters {} none = {} from rfl) ladenWorld
  rw [hlisted] at hfound htable
  have hlong : ∃ p ∈ laden.items, Display.greatestWidth < p.name.utf8ByteSize := by
    obtain ⟨p, hp, hname⟩ :=
      Display.printed?_eq_none_iff.mp (Display.printed?_longNamed (n := 65536) (by decide))
    exact ⟨p, List.mem_cons_of_mem _ hp, hname⟩
  obtain ⟨houtput, hexit⟩ := htable.silent (htable.aborted.mpr hlong)
  exact ⟨hfound.mpr ⟨_, List.mem_cons_self, rfl⟩, hexit, houtput⟩

end Program

end PackageRegistry
