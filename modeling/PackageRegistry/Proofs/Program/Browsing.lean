import PackageRegistry.Proofs.Filter.Payload
import PackageRegistry.Proofs.Program.Aborts
import PackageRegistry.Proofs.Search.Delivery
import PackageRegistry.Proofs.Search.Halts

/-! # Browsing

A browsing user is first shown what a search would find, and in the end what all the lines together
ask for, however fast they were typed; unless a page comes that aborts the program, which is the
last one then.
-/

namespace PackageRegistry

open Http (Reply Request Traffic)

/-! ## The first search and the last -/

namespace Search.Run

variable {α : Type} {p : Plan α} {r s : Run α} {rest : List Command}

/-- Nothing is taken and nothing waits before the first search, which is that of the initial
filters. -/
structure Opened (p : Plan α) (r : Run α) : Prop where
  fresh : r.calls = [] → r.taken = [] ∧ r.session.deadline = none
  first : ∀ c, r.calls.head? = some c → c.filters = p.initial

theorem opened_start (p : Plan α) : Opened p (.start p) :=
  ⟨fun _ => ⟨rfl, rfl⟩, fun _ hc => nomatch hc⟩

/-- Later searches leave the first one as it is. -/
theorem Opened.of_calls_append (h : Opened p r) (hne : r.calls ≠ []) {more : List Call}
    (hcalls : s.calls = r.calls ++ more) : Opened p s := by
  refine ⟨?_, ?_⟩
  · intro hnil
    rw [hcalls, List.append_eq_nil_iff] at hnil
    exact (hne hnil.1).elim
  · intro c hc
    rw [hcalls, List.head?_append_of_ne_nil _ hne] at hc
    exact h.first c hc

/-- The first command is a bare submission, and searches the initial filters. -/
theorem Opened.take (h : Opened p r) (haccounted : Accounted p r)
    (hopens : commands p.script = .submit .empty :: rest) {c : Command} {queue : List Command}
    (hqueue : r.queue = c :: queue) : Opened p (r.take c queue) := by
  by_cases hnil : r.calls = []
  · obtain ⟨htaken, _⟩ := h.fresh hnil
    have hfilters : r.session.filters = p.initial := by
      simpa [patches, htaken] using haccounted.filters
    obtain rfl : c = .submit .empty := by
      have horder := haccounted.order
      rw [hopens, htaken, hqueue] at horder
      exact (List.cons.inj horder).1
    have hcalls : (r.take (.submit .empty) queue).calls = [⟨r.clock, p.initial⟩] := by
      simp [Run.take, hnil, Command.event, Session.step, Session.submit, Session.dispatch, hfilters]
    refine ⟨fun hcontra => ?_, fun c hc => ?_⟩
    · simp [hcalls] at hcontra
    · rw [hcalls] at hc
      exact Option.some.inj hc ▸ rfl
  · exact h.of_calls_append hnil (follow_calls _ _)

theorem Opened.fire (h : Opened p r) (hdue : r.expired = true) : Opened p r.fire := by
  by_cases hnil : r.calls = []
  · obtain ⟨d, hdeadline, _⟩ := expired_iff.mp hdue
    rw [(h.fresh hnil).2] at hdeadline
    cases hdeadline
  · exact h.of_calls_append hnil (follow_calls _ _)

theorem Opened.act (h : Opened p r) (haccounted : Accounted p r)
    (hopens : commands p.script = .submit .empty :: rest) (hact : Act p r s) : Opened p s := by
  cases hact with
  | sleep d => exact ⟨h.fresh, h.first⟩
  | send c => exact ⟨h.fresh, h.first⟩
  | note text => exact ⟨h.fresh, h.first⟩
  | take c queue _ hqueue => exact h.take haccounted hopens hqueue
  | fire _ hdue => exact h.fire hdue
  | complete c =>
      refine ⟨fun hnil => ?_, h.first⟩
      obtain ⟨htaken, hdeadline⟩ := h.fresh hnil
      exact ⟨htaken, (deadline_completed r.session).trans hdeadline⟩
  | advance later _ _ hlater =>
      obtain ⟨t, rfl, _⟩ := advance_cases hlater
      exact ⟨h.fresh, h.first⟩

theorem Opened.move (h : Opened p r) (haccounted : Accounted p r)
    (hopens : commands p.script = .submit .empty :: rest) (hmove : Move p r s) : Opened p s := by
  cases hmove with
  | act hact => exact h.act haccounted hopens hact
  | read u unread => exact ⟨h.fresh, h.first⟩

theorem Reachable.opened (h : Reachable p r)
    (hopens : commands p.script = .submit .empty :: rest) : Opened p r := by
  induction h with
  | refl => exact opened_start p
  | tail hreach hmove ih => exact ih.move (Reachable.accounted hreach) hopens hmove

/-- A run searches from one filters to others: the first search is that of `f`, and the last one
that of `g`. -/
structure SearchesFromTo (f g : Filters) (calls : List Call) : Prop where
  first : calls.head?.map Call.filters = some f
  last : calls.getLast?.map Call.filters = some g

/-- A run that opens with a bare submission searches from its initial filters to its last ones. -/
theorem searchesFromTo_of_settled (hreach : Reachable p r) (hsettled : r.Settled)
    (hopens : commands p.script = .submit .empty :: rest) :
    SearchesFromTo p.initial (p.initial.mergeAll ((commands p.script).map Command.patch))
      r.calls := by
  have hopened := hreach.opened hopens
  have hdelivered := hreach.accounted.delivered hsettled
  have hne : r.calls ≠ [] := by
    intro hnil
    have htaken := hdelivered.taken
    rw [(hopened.fresh hnil).1, hopens] at htaken
    cases htaken
  refine ⟨?_, ?_⟩
  · have hhead := List.head?_eq_some_head hne
    rw [hhead, Option.map_some, hopened.first _ hhead]
  · have hlast := List.getLast?_eq_some_getLast hne
    rw [hlast, Option.map_some, hdelivered.searched _ hlast, hdelivered.filters]

end Search.Run

/-! ## Lines -/

namespace Browse

/-- Whether a line ends the input. -/
def Line.quits (l : Line) : Bool :=
  match read l.text with
  | .ok .quit => true
  | _ => false

/-- The change that a line makes; a demand to search and a line that means nothing make none. -/
def Line.patch? (l : Line) : Option Patch :=
  match read l.text with
  | .ok (.edit p) => some p
  | _ => none

/-- The changes of the lines before the first that quits, in order. -/
def patches (lines : List Line) : List Patch :=
  (lines.takeWhile fun l => !l.quits).filterMap Line.patch?

/-- What the typist sends has the effect of the lines. -/
theorem mergeAll_commands_script (f : Filters) (lines : List Line) :
    f.mergeAll ((Search.commands (script lines)).map Search.Command.patch) =
      f.mergeAll (patches lines) := by
  induction lines generalizing f with
  | nil => rfl
  | cons l lines ih =>
      cases hread : read l.text with
      | error complaint => simpa [script, patches, Line.quits, Line.patch?, hread] using ih f
      | ok input =>
          cases input with
          | edit p =>
              simpa [script, patches, Line.quits, Line.patch?, hread, Search.Command.patch] using
                ih (f.merge p)
          | submit =>
              simpa [script, patches, Line.quits, Line.patch?, hread, Search.Command.patch]
                using ih f
          | quit => simp [script, patches, Line.quits, hread, Search.commands]

end Browse

/-! ## Requests -/

/-- Two worlds with the same variables and the same disk, where settings are put together alike. -/
structure World.SamePlace (w v : World) : Prop where
  environment : v.environment = w.environment
  disk : v.disk = w.disk
  library : v.library = w.library

/-- The requests of a command, oldest first. -/
def Effect.requests (e : Effect) : List Request := e.exchanges.map Prod.fst

namespace Client

/-- The body of the request for the packages that match filters. -/
def listingBody (f : Filters) : Json.Value :=
  .record [("event_type", .string "api-list-packages"), ("client_payload", f.payload)]

theorem get?_listingBody (f : Filters) :
    (listingBody f).get? "client_payload" = some f.payload := by
  simp [listingBody, Json.Value.record, Json.Value.get?, Keyed.find?_sort_of_nodup, Keyed.find?]

/-- The one request for the packages that match filters, if it can be made. -/
def asks (c : Client) (f : Filters) : Option Request :=
  (c.request "api-list-packages" f.payload none).toOption

theorem map_fst_exchanges_list (c : Client) (f : Filters) (reply : Reply) :
    (c.list f reply).exchanges.map Prod.fst = (c.asks f).toList := by
  unfold list post asks
  cases c.request "api-list-packages" f.payload none <;> rfl

/-- Requests for different filters differ in their bodies only. -/
theorem asks_of_reaches {c : Client} (h : c.Reaches) :
    ∃ headers, ∀ f, c.asks f = some ⟨c.endpoint, headers, listingBody f⟩ := by
  have hscheme := c.contains_scheme_iff.mpr h
  refine ⟨Http.Headers.withDefaults (c.loginFields ++ [("content-type", "application/json")])
    c.defaults, fun f => ?_⟩
  simp only [asks, request, Results.ok_bind, hscheme, if_true, Results.pure_eq_ok]
  rfl

theorem asks_of_not_reaches {c : Client} (h : ¬ c.Reaches) (f : Filters) : c.asks f = none := by
  have hscheme := mt c.contains_scheme_iff.mp h
  simp only [asks, request, Results.ok_bind, hscheme]
  rfl

theorem body_of_asks {c : Client} {f : Filters} {q : Request} (h : c.asks f = some q) :
    q.body = listingBody f := by
  by_cases hreaches : c.Reaches
  · obtain ⟨headers, hasks⟩ := asks_of_reaches hreaches
    rw [hasks] at h
    exact Option.some.inj h ▸ rfl
  · rw [asks_of_not_reaches hreaches] at h
    cases h

/-- The first and the last request of a series of searches. -/
theorem requests_of_searchesFromTo (c : Client) {f g : Filters} {calls : List Search.Call}
    (h : Search.Run.SearchesFromTo f g calls) :
    (calls.filterMap fun call => c.asks call.filters).head? = c.asks f ∧
      (calls.filterMap fun call => c.asks call.filters).getLast? = c.asks g := by
  by_cases hreaches : c.Reaches
  · obtain ⟨headers, hasks⟩ := asks_of_reaches hreaches
    obtain ⟨first, hfirst, rfl⟩ := Option.map_eq_some_iff.mp h.first
    obtain ⟨last, hlast, rfl⟩ := Option.map_eq_some_iff.mp h.last
    simp only [hasks, List.filterMap_eq_map']
    exact ⟨by rw [List.head?_map, hfirst]; rfl, by rw [List.getLast?_map, hlast]; rfl⟩
  · simp [asks_of_not_reaches hreaches]

theorem length_exchanges_list_le (c : Client) (f : Filters) (reply : Reply) :
    (c.list f reply).exchanges.length ≤ 1 := by
  rw [← List.length_map Prod.fst, map_fst_exchanges_list]
  exact Option.length_toList_le

theorem reply_of_mem_exchanges_list {c : Client} {f : Filters} {reply : Reply}
    {e : Request × Reply} (h : e ∈ (c.list f reply).exchanges) : e.2 = reply := by
  by_cases hreaches : c.Reaches
  · obtain ⟨q, -, hlist⟩ := list_of_reaches hreaches f reply
    rw [hlist] at h
    rw [List.mem_singleton.mp h]
  · rw [list_of_not_reaches hreaches] at h
    cases h

end Client

/-- One item at most for each entry of a list, whatever its position. -/
theorem flatMap_mapIdx_eq_filterMap {β γ δ : Type} {g : Nat → β → γ} {h : γ → List δ}
    {k : β → Option δ} (heach : ∀ i b, h (g i b) = (k b).toList) (bs : List β) :
    (bs.mapIdx g).flatMap h = bs.filterMap k := by
  induction bs generalizing g with
  | nil => rfl
  | cons b bs ih =>
      rw [List.mapIdx_cons, List.flatMap_cons, heach, ih fun i => heach (i + 1)]
      cases hb : k b <;> simp [hb]

/-- What is in front of the last item comes from what is in front of the last entry. -/
theorem exists_mem_dropLast_of_flatMap {γ δ : Type} {h : γ → List δ} {us : List γ}
    (heach : ∀ u ∈ us, (h u).length ≤ 1) {e : δ} (he : e ∈ (us.flatMap h).dropLast) :
    ∃ u ∈ us.dropLast, e ∈ h u := by
  induction us using List.reverseRecOn with
  | nil => cases he
  | append_singleton us u _ =>
      rw [List.flatMap_append, List.flatMap_singleton] at he
      have hmem := Search.Run.mem_of_mem_dropLast_append (heach u (by simp)) he
      rw [List.dropLast_concat]
      exact List.mem_flatMap.mp hmem

namespace Program

open Search.Run (Reachable Ended SearchesFromTo)

variable {f : Filters} {s : Settings} {w v : World} {c : Client}

/-- A browsing user opens with the first search. -/
theorem commands_browsePlan (f : Filters) (s : Settings) (w : World) (c : Client) :
    Search.commands (browsePlan f s w c).script =
      .submit .empty :: Search.commands (Browse.script w.input) := rfl

/-- A browsing user searches from the filters at the start to those of all lines. -/
theorem browse_searchesFromTo {r : Search.Run (Traffic (Except Failure Listing))}
    (hreach : Reachable (browsePlan f s w c) r) (hsettled : r.Settled) :
    SearchesFromTo f (f.mergeAll (Browse.patches w.input)) r.calls := by
  have hopens := commands_browsePlan f s w c
  have hsearches := Search.Run.searchesFromTo_of_settled hreach hsettled hopens
  rw [hopens, List.map_cons, Filters.mergeAll_cons] at hsearches
  rw [← Browse.mergeAll_commands_script]
  exact hsearches

/-- The effect of a browsing user who has a client. -/
def browsed (f : Filters) (s : Settings) (w : World) (c : Client) : Effect :=
  let r := (browsePlan f s w c).runUnless broken
  let shown := r.screen.map fun entry => showEntry (entry.map Traffic.result)
  { disk := w.disk
    output := String.join (shown.map Prod.fst)
    messages := Browse.help ++ shown.flatMap Prod.snd
    exchanges := r.updates.flatMap fun u => u.outcome.exchanges
    aborted := broken r }

theorem upTo_browsed (f : Filters) (s : Settings) (w : World) (c : Client) :
    Search.Run.UpTo (fun t => aborts t.result) (browsePlan f s w c)
      ((browsePlan f s w c).runUnless broken) :=
  Search.Run.upTo_runUnless _ _

/-- The searches that were reported, and their reports. -/
theorem exists_reported (f : Filters) (s : Settings) (w : World) (c : Client) :
    ∃ past, ((browsePlan f s w c).runUnless broken).calls =
        past ++ ((browsePlan f s w c).runUnless broken).running.toList ∧
      ((browsePlan f s w c).runUnless broken).updates = (browsePlan f s w c).reports past := by
  simpa [Search.Run.Reported] using (upTo_browsed f s w c).visits.attended.reported.2

/-- Every result is what the client lists for a reply. -/
theorem exists_outcome {u : Search.Update (Traffic (Except Failure Listing))}
    (h : u ∈ ((browsePlan f s w c).runUnless broken).updates) :
    ∃ g n, u.outcome = c.list g (w.replies n) := by
  obtain ⟨past, -, hupdates⟩ := exists_reported f s w c
  rw [hupdates] at h
  obtain ⟨i, hi, rfl⟩ := List.mem_mapIdx.mp h
  exact ⟨_, i, rfl⟩

theorem reply_of_mem_exchanges_browsed {e : Request × Reply} (h : e ∈ (browsed f s w c).exchanges) :
    ∃ n, e.2 = w.replies n := by
  obtain ⟨u, hu, he⟩ := List.mem_flatMap.mp h
  obtain ⟨g, n, houtcome⟩ := exists_outcome hu
  rw [houtcome] at he
  exact ⟨n, Client.reply_of_mem_exchanges_list he⟩

/-- A browsing user is cut off by an overlong page, and by nothing else. -/
theorem aborted_browsed_iff :
    (browsed f s w c).aborted = true ↔ ∃ e ∈ (browsed f s w c).exchanges, e.2.Overlong := by
  refine (upTo_browsed f s w c).shown.trans ?_
  constructor
  · rintro ⟨u, hu, haborts⟩
    obtain ⟨g, n, houtcome⟩ := exists_outcome hu
    rw [houtcome] at haborts
    obtain ⟨e, he, hlong⟩ := (aborts_list_iff c g (w.replies n)).mp haborts
    exact ⟨e, List.mem_flatMap.mpr ⟨u, hu, houtcome ▸ he⟩, hlong⟩
  · rintro ⟨e, he, hlong⟩
    obtain ⟨u, hu, heu⟩ := List.mem_flatMap.mp he
    obtain ⟨g, n, houtcome⟩ := exists_outcome hu
    rw [houtcome] at heu
    refine ⟨u, hu, ?_⟩
    rw [houtcome]
    exact (aborts_list_iff c g (w.replies n)).mpr ⟨e, heu, hlong⟩

/-- And nothing more is asked then. -/
theorem not_overlong_of_mem_dropLast {e : Request × Reply}
    (h : e ∈ (browsed f s w c).exchanges.dropLast) : ¬ e.2.Overlong := by
  intro hlong
  have hone : ∀ u ∈ ((browsePlan f s w c).runUnless broken).updates,
      u.outcome.exchanges.length ≤ 1 := by
    intro u hu
    obtain ⟨g, n, houtcome⟩ := exists_outcome hu
    rw [houtcome]
    exact c.length_exchanges_list_le g _
  obtain ⟨u, hu, he⟩ := exists_mem_dropLast_of_flatMap hone h
  obtain ⟨g, n, houtcome⟩ := exists_outcome (List.dropLast_subset _ hu)
  have hcalm := (upTo_browsed f s w c).earlier u hu
  rw [houtcome] at he hcalm
  have haborts := (aborts_list_iff c g (w.replies n)).mpr ⟨e, he, hlong⟩
  rw [haborts] at hcalm
  cases hcalm

/-- Each reported search of a browsing user made its request. -/
theorem requests_browsed {past : List Search.Call}
    (h : ((browsePlan f s w c).runUnless broken).updates = (browsePlan f s w c).reports past) :
    (browsed f s w c).requests = past.filterMap fun call => c.asks call.filters := by
  have heach : (browsed f s w c).requests =
      ((browsePlan f s w c).reports past).flatMap fun u => u.outcome.exchanges.map Prod.fst := by
    rw [Effect.requests, ← h, ← List.map_flatMap]
    rfl
  rw [heach]
  exact flatMap_mapIdx_eq_filterMap (fun i call => c.map_fst_exchanges_list call.filters _) _

/-- Browsing begins with the first search. -/
theorem head?_requests_browsed : (browsed f s w c).requests.head? = c.asks f := by
  have hupTo := upTo_browsed f s w c
  obtain ⟨past, hcalls, hupdates⟩ := exists_reported f s w c
  rw [requests_browsed hupdates]
  by_cases hshows : broken ((browsePlan f s w c).runUnless broken) = true
  · -- the search whose result is shown is the first one or comes behind it
    have hopened := hupTo.visits.reachable.opened (commands_browsePlan f s w c)
    obtain ⟨u, hu, -⟩ := hupTo.shown.mp hshows
    obtain ⟨first, rest, rfl⟩ : ∃ first rest, past = first :: rest := by
      cases past with
      | nil => simp [hupdates, Search.Plan.reports] at hu
      | cons first rest => exact ⟨first, rest, rfl⟩
    have hfirst : first.filters = f := hopened.first first (by rw [hcalls]; rfl)
    by_cases hreaches : c.Reaches
    · obtain ⟨headers, hasks⟩ := Client.asks_of_reaches hreaches
      simp [hasks, hfirst]
    · simp [Client.asks_of_not_reaches hreaches]
  · have hdone := hupTo.done (Bool.eq_false_iff.mpr hshows)
    have hpast : ((browsePlan f s w c).runUnless broken).calls = past := by
      simpa [hdone.running] using hcalls
    have hsearches := browse_searchesFromTo hupTo.visits.reachable hdone.toSettled
    rw [hpast] at hsearches
    exact (c.requests_of_searchesFromTo hsearches).1

/-- Browsing ends on all that was typed, unless it is cut off. -/
theorem getLast?_requests_browsed (h : (browsed f s w c).aborted = false) :
    (browsed f s w c).requests.getLast? = c.asks (f.mergeAll (Browse.patches w.input)) := by
  have hupTo := upTo_browsed f s w c
  obtain ⟨past, hcalls, hupdates⟩ := exists_reported f s w c
  have hdone := hupTo.done h
  have hpast : ((browsePlan f s w c).runUnless broken).calls = past := by
    simpa [hdone.running] using hcalls
  have hsearches := browse_searchesFromTo hupTo.visits.reachable hdone.toSettled
  rw [hpast] at hsearches
  rw [requests_browsed hupdates]
  exact (c.requests_of_searchesFromTo hsearches).2

/-- Where the registry has nothing but overlong pages, the first one is the last. -/
theorem requests_browsed_of_overlong (h : ∀ n, (w.replies n).Overlong) {q : Request}
    (hasks : c.asks f = some q) :
    (browsed f s w c).aborted = true ∧ (browsed f s w c).requests = [q] := by
  have hall : ∀ e ∈ (browsed f s w c).exchanges, e.2.Overlong := by
    intro e he
    obtain ⟨n, hn⟩ := reply_of_mem_exchanges_browsed he
    exact hn ▸ h n
  have hhead : (browsed f s w c).requests.head? = some q := head?_requests_browsed.trans hasks
  have hearlier := fun e =>
    not_overlong_of_mem_dropLast (f := f) (s := s) (w := w) (c := c) (e := e)
  rw [aborted_browsed_iff]
  rw [Effect.requests] at hhead ⊢
  match hexchanges : (browsed f s w c).exchanges with
  | [] => simp [hexchanges] at hhead
  | [e] =>
      rw [hexchanges] at hhead hall
      exact ⟨⟨e, by simp, hall e (by simp)⟩, by simpa using hhead⟩
  | e :: e' :: rest =>
      rw [hexchanges] at hearlier hall
      exact (hearlier e (by simp) (hall e (by simp))).elim

/-! ## Runs at one place -/

/-- Two runs at one place have the same settings, or fail alike. -/
theorem run_cases_of_samePlace (h : w.SamePlace v) (command command' : Arguments.Command) :
    (∃ d causes, run command w = .fail d causes ∧ run command' v = .fail d causes) ∨
      ∃ s d, run command w = perform command s { w with disk := d } ∧
        run command' v = perform command' s { v with disk := d } := by
  unfold run
  rw [h.environment, h.disk, h.library]
  rcases Settings.load w.library w.environment w.disk with ⟨result, d⟩
  cases result with
  | error fault => exact .inl ⟨d, fault.chain, rfl, rfl⟩
  | ok s => exact .inr ⟨s, d, rfl, rfl⟩

/-- They have the same client, too. -/
theorem withClient_cases_of_samePlace (h : w.SamePlace v) (s : Settings)
    (go go' : Account → Client → Effect) :
    (∃ a c, withClient s w go = go a c ∧ withClient s v go' = go' a c) ∨
      ∃ causes, withClient s w go = .fail w.disk causes ∧
        withClient s v go' = .fail v.disk causes := by
  unfold withClient makeClient
  rw [h.disk, h.environment]
  split
  · exact .inr ⟨_, rfl, rfl⟩
  · split
    · exact .inr ⟨_, rfl, rfl⟩
    · exact .inl ⟨_, _, rfl, rfl⟩

/-- Browsing and searching have one client at one place, or fail alike. -/
theorem browse_search_cases (h : w.SamePlace v) (options : Arguments.FilterOptions)
    (term : Option String) (json : Bool) :
    (∃ s d c, run (.browse options term) w = browsed (options.filters term) s { w with disk := d } c ∧
      (run (.search json options term) v).requests = (c.asks (options.filters term)).toList) ∨
    ∃ d causes, run (.browse options term) w = .fail d causes ∧
      run (.search json options term) v = .fail d causes := by
  rcases run_cases_of_samePlace h (.browse options term) (.search json options term) with
    ⟨d, causes, hbrowsed, hsearched⟩ | ⟨s, d, hbrowsed, hsearched⟩
  · exact .inr ⟨d, causes, hbrowsed, hsearched⟩
  · have hplace : World.SamePlace { w with disk := d } { v with disk := d } :=
      ⟨h.environment, rfl, h.library⟩
    rw [hbrowsed, hsearched, perform, perform, browse, search]
    rcases withClient_cases_of_samePlace hplace s _ _ with
      ⟨a, c, hbrowse, hsearch⟩ | ⟨causes, hbrowse, hsearch⟩
    · rw [hbrowse, hsearch]
      exact .inl ⟨s, d, c, rfl, c.map_fst_exchanges_list _ (v.replies 0)⟩
    · rw [hbrowse, hsearch]
      exact .inr ⟨d, causes, rfl, rfl⟩

/-- Whatever lines come, at whatever times, and whatever the registry answers, browsing begins with
the one request of a search for the same filters with the same settings and account; and unless it
is aborted, its last request has the payload of the filters with the changes of all lines before the
first that quits. It is aborted by the first page with an overlong name, and asks no more. And so it
is in whatever order things of one instant happen. -/
theorem browse_begins_as_search_and_ends_on_all_lines (options : Arguments.FilterOptions)
    (term : Option String) (json : Bool) (w v : World) :
    let browsed := run (.browse options term) w
    let searched := run (.search json options term)
      { v with environment := w.environment, disk := w.disk, library := w.library }
    let wanted := (options.filters term).mergeAll (Browse.patches w.input)
    searched.requests.length ≤ 1 ∧
    browsed.requests.head? = searched.requests.head? ∧
    (browsed.aborted = false → ∀ q, browsed.requests.getLast? = some q →
      q.body = .record [("event_type", .string "api-list-packages"),
        ("client_payload", wanted.payload)]) ∧
    ((browsed.aborted = true ↔ ∃ e ∈ browsed.exchanges, e.2.Overlong) ∧
      ∀ e ∈ browsed.exchanges.dropLast, ¬ e.2.Overlong) ∧
    ∀ s c r, Reachable (browsePlan (options.filters term) s w c) r →
      (∀ call, r.calls.head? = some call → call.filters = options.filters term) ∧
      (broken r = false → Ended (browsePlan (options.filters term) s w c) r →
        SearchesFromTo (options.filters term) wanted r.calls) := by
  have hplace : w.SamePlace
      { v with environment := w.environment, disk := w.disk, library := w.library } :=
    ⟨rfl, rfl, rfl⟩
  have horders : ∀ s c r, Reachable (browsePlan (options.filters term) s w c) r →
      (∀ call, r.calls.head? = some call → call.filters = options.filters term) ∧
      (broken r = false → Ended (browsePlan (options.filters term) s w c) r →
        SearchesFromTo (options.filters term)
          ((options.filters term).mergeAll (Browse.patches w.input)) r.calls) := by
    intro s c r hreach
    refine ⟨(hreach.opened (commands_browsePlan _ s w c)).first, fun _ hended => ?_⟩
    exact browse_searchesFromTo hreach (Search.Run.ended_iff_done.mp hended).toSettled
  rcases browse_search_cases hplace options term json with
    ⟨s, d, c, hbrowsed, hsearched⟩ | ⟨d, causes, hbrowsed, hsearched⟩
  · intro browsed searched wanted
    refine ⟨?_, ?_, ?_, ⟨?_, ?_⟩, horders⟩
    · rw [hsearched]
      exact Option.length_toList_le
    · rw [hsearched, show browsed = _ from hbrowsed, head?_requests_browsed]
      cases c.asks (options.filters term) <;> rfl
    · rw [show browsed = _ from hbrowsed]
      intro hcalm q hq
      rw [getLast?_requests_browsed hcalm] at hq
      exact Client.body_of_asks hq
    · rw [show browsed = _ from hbrowsed]
      exact aborted_browsed_iff
    · rw [show browsed = _ from hbrowsed]
      exact fun e => not_overlong_of_mem_dropLast
  · intro browsed searched wanted
    rw [show browsed = _ from hbrowsed, show searched = _ from hsearched]
    refine ⟨by simp [Effect.fail, Effect.requests], rfl, ?_, ?_, horders⟩
    · simp [Effect.fail, Effect.requests]
    · simp [Effect.fail]

/-- A user refines a search and quits right behind the last words. -/
def refining : World where
  environment := [("XDG_CONFIG_HOME", "/c"), ("XDG_DATA_HOME", "/d")]
  disk := {}
  input := [{ text := "json" }, { pause := 50, text := "/category web" }, { text := "/colour red" },
    { pause := 400, text := " json parser " }, { text := "/q" }, { text := "never read" }]
  replies := fun _ => .interrupted .closed
  latency := 100
  loginState := ""

theorem words_before_quitting_are_asked_last :
    ∃ q, (run (.browse {} (some "http")) refining).requests.getLast? = some q ∧
      q.body = .record [("event_type", .string "api-list-packages"),
        ("client_payload",
          Filters.payload { query := some "json parser", category := some .web })] := by
  have hsome : (run (.browse {} (some "http")) refining).requests.getLast?.isSome := by
    decide +kernel
  have hwanted : (Arguments.FilterOptions.filters {} (some "http")).mergeAll
      (Browse.patches refining.input) = { query := some "json parser", category := some .web } := by
    decide +kernel
  have hcalm : (run (.browse {} (some "http")) refining).aborted = false := by decide +kernel
  obtain ⟨q, hq⟩ := Option.isSome_iff_exists.mp hsome
  obtain ⟨_, _, hlast, _⟩ :=
    browse_begins_as_search_and_ends_on_all_lines {} (some "http") false refining refining
  rw [← hwanted]
  exact ⟨q, hq, hlast hcalm q hq⟩

/-- The same user, while the registry lists a package with a name of 65536 letters. -/
def refiningOverlong : World :=
  { refining with
    replies := fun _ =>
      .response 200 (Text.Utf8.encode ((Display.longNamed 65536).render {})) }

/-- The first page is the last, and nothing that was typed is ever asked for. -/
theorem overlong_page_cuts_browsing_off :
    let browsed := run (.browse {} (some "http")) refiningOverlong
    let wanted := (Arguments.FilterOptions.filters {} (some "http")).mergeAll
      (Browse.patches refiningOverlong.input)
    browsed.exitCode = 101 ∧ ∃ q, browsed.requests.getLast? = some q ∧
      q.body ≠ .record [("event_type", .string "api-list-packages"),
        ("client_payload", wanted.payload)] := by
  have hplace : refiningOverlong.SamePlace refining := ⟨rfl, rfl, rfl⟩
  have hasked : (run (.search false {} (some "http")) refining).requests.isEmpty = false := by
    decide +kernel
  have hwanted : (Arguments.FilterOptions.filters {} (some "http")).normal ≠
      ((Arguments.FilterOptions.filters {} (some "http")).mergeAll
        (Browse.patches refiningOverlong.input)).normal := by
    decide +kernel
  rcases browse_search_cases hplace {} (some "http") false with
    ⟨s, d, c, hbrowsed, hsearched⟩ | ⟨d, causes, -, hsearched⟩
  · rw [hsearched] at hasked
    cases hasks : c.asks (Arguments.FilterOptions.filters {} (some "http")) with
    | none => simp [hasks] at hasked
    | some q =>
        obtain ⟨haborted, hrequests⟩ := requests_browsed_of_overlong (s := s)
          (w := { refiningOverlong with disk := d }) (fun _ => overlong_longNamed (by decide) {})
          hasks
        intro browsed wanted
        rw [show browsed = _ from hbrowsed]
        refine ⟨?_, q, ?_, ?_⟩
        · rw [Effect.exitCode, haborted]
          rfl
        · rw [hrequests]
          rfl
        · rw [Client.body_of_asks hasks]
          intro hsame
          have hpayload := congrArg (Json.Value.get? "client_payload") hsame
          rw [Client.get?_listingBody, show (Json.Value.record _).get? _ = some wanted.payload from
            Client.get?_listingBody wanted, Option.some.injEq] at hpayload
          refine hwanted ?_
          rw [← Filters.ofPayload_payload, ← Filters.ofPayload_payload, hpayload]
  · rw [hsearched] at hasked
    cases hasked

end Program

end PackageRegistry
