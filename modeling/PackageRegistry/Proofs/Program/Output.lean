import PackageRegistry.Proofs.Listing
import PackageRegistry.Proofs.Program.Changes

/-! # What is printed as JSON

A page that is printed as JSON gives the same items and the same total when it comes back as the
body of a reply, and a package that is printed is read back as it was. So the program understands
whatever it prints.
-/

namespace PackageRegistry

open Http (Arrived Reply Request)
open Json (Raw Value)
open Text (Glyph)

/-! ## Filters -/

namespace Filters

/-- The filters are sent as texts. -/
theorem exists_string_of_payloadFields (f : Filters) :
    ∀ x ∈ f.payloadFields, ∃ s, x.2 = .string s := by
  intro x hx
  simp only [payloadFields, List.mem_append, Option.mem_toList, Option.map_eq_some_iff] at hx
  rcases hx with ((⟨c, -, rfl⟩ | ⟨l, -, rfl⟩) | ⟨q, -, rfl⟩) | hsort
  · exact ⟨_, rfl⟩
  · exact ⟨_, rfl⟩
  · exact ⟨_, rfl⟩
  · split_ifs at hsort
    · cases hsort
    · cases List.mem_singleton.mp hsort
      exact ⟨_, rfl⟩

theorem plain_payload (f : Filters) : f.payload.Plain := by
  refine Value.plainFields_iff.mpr ?_
  intro x hx
  obtain ⟨s, hs⟩ := f.exists_string_of_payloadFields x hx
  rw [hs]
  trivial

theorem depth_payload_le (f : Filters) : f.payload.depth ≤ 1 := by
  refine Nat.succ_le_succ (Value.depthFields_le_iff.mpr ?_)
  intro x hx
  obtain ⟨s, hs⟩ := f.exists_string_of_payloadFields x hx
  rw [hs]
  exact le_rfl

end Filters

/-! ## Pages -/

namespace Listing

/-- The total and the counters of all packages have at most 64 bits. -/
structure Counted (l : Listing) : Prop where
  total : l.total < 2 ^ 64
  items : ∀ p ∈ l.items, p.Counted

variable {l : Listing} {body : List UInt8}

theorem plain_toJson (h : l.Counted) (f : Filters) : (l.toJson f).Plain := by
  have hitems : Value.PlainItems (l.items.map Package.toJson) := by
    refine Value.plainItems_iff.mpr ?_
    intro v hv
    obtain ⟨p, hp, rfl⟩ := List.mem_map.mp hv
    exact Package.plain_toJson (h.items p hp)
  exact Value.plain_sorted _
    ⟨f.plain_payload, Json.le_largest_iff.mpr h.total, hitems, trivial⟩

theorem depth_toJson_le (l : Listing) (f : Filters) : (l.toJson f).depth ≤ Raw.maxDepth := by
  have hitems : Value.depthItems (l.items.map Package.toJson) ≤ 3 := by
    refine Value.depthItems_le_iff.mpr ?_
    intro v hv
    obtain ⟨p, -, rfl⟩ := List.mem_map.mp hv
    exact p.depth_toJson_le
  have hfilters := f.depth_payload_le
  refine (Value.depth_sorted_le _).trans ?_
  simp only [Value.depth, Value.depthFields, Value.nat, Raw.maxDepth]
  omega

/-- The members of a printed page. -/
theorem find?_toJson (l : Listing) (f : Filters) :
    ∃ fields, l.toJson f = .object fields ∧
      Keyed.find? "total" fields = some (.nat l.total) ∧
      Keyed.find? "packages" fields =
        some (.array (l.items.map fun p => p.toJson.sorted)) := by
  refine ⟨_, Value.sorted_object _, ?_, ?_⟩
  · rw [Keyed.find?_map, Keyed.find?_sort_of_nodup (by simp)]
    rfl
  · rw [Keyed.find?_map, Keyed.find?_sort_of_nodup (by simp)]
    simp [Keyed.find?, Value.sorted, Value.sortedItems_eq_map]

/-- No package of a page is left out when it is read back. -/
theorem filterMap_sorted {items : List Package} (h : ∀ p ∈ items, p.Counted) :
    (items.map fun p => p.toJson.sorted).filterMap (fun v => (Package.ofJson v).toOption) =
      items := by
  induction items with
  | nil => rfl
  | cons p items ih =>
      have hp := Package.ofJson_toJson Json.faithful_sorted (h p (by simp))
      have hrest := ih fun q hq => h q (by simp [hq])
      rw [List.map_cons, List.filterMap_cons, hp, hrest]
      rfl

/-- A page is read back from any text of its document. -/
theorem ofBody_of_document (h : l.Counted) (f : Filters) {text : String}
    (htext : Json.Reader.document (Glyph.ofString text) = .ok (.ofValue (l.toJson f))) :
    ofBody (Text.Utf8.encode text) = ⟨l.items, l.total, none⟩ := by
  obtain ⟨fields, hfields, htotal, hpackages⟩ := l.find?_toJson f
  have hparse := Json.parse_of_document (plain_toJson h f) (l.depth_toJson_le f) htext
  have hsorted : (l.toJson f).sorted = .object fields := (Value.sorted_sorted _).trans hfields
  simp [ofBody, read, Text.Utf8.decode_encode, hparse, hsorted, readTotal, readPackages, present?,
    htotal, hpackages, filterMap_sorted h.items, Value.nat, Value.natural?]

theorem Kept.counted {entries : List Raw} {items : List Package} (h : Kept entries items) :
    ∀ p ∈ items, p.Counted := by
  induction h with
  | nil => simp
  | @keep entry p entries items hentry _ ih =>
      obtain ⟨v, hv, hp⟩ := hentry
      have hcounted := Package.counted_of_ofJson (entry.bounded_toValue hv) hp
      simpa using ⟨hcounted, ih⟩
  | skip _ _ ih => exact ih

/-- Every page that a body gives can be printed and read back. -/
theorem Shows.counted (h : Shows body l) : l.Counted := by
  by_cases hproblem : l.problem = none
  · obtain ⟨members, total, entries, hbody, ⟨m, hm, hwrites⟩, hentries⟩ := h.complete.mp hproblem
    obtain ⟨rfl, hkept⟩ := h.items members total entries hbody ⟨m, hm, hwrites⟩ hentries
    exact ⟨hwrites.bound, hkept.counted⟩
  · obtain ⟨hitems, htotal⟩ := h.empty hproblem
    exact ⟨by simp [htotal], by simp [hitems]⟩

end Listing

/-! ## Packages -/

namespace Package

/-- A text that is read as a package. -/
def ReadsAs (text : String) (p : Package) : Prop :=
  Json.parseAs Package.ofJson (Glyph.ofString text) = .ok p

theorem readsAs_of_document {p : Package} (h : p.Counted) {text : String}
    (htext : Json.Reader.document (Glyph.ofString text) = .ok (.ofValue p.toJson)) :
    ReadsAs text p := by
  simp [ReadsAs, Json.parseAs, htext, ofJson_toJson Json.faithful_ofValue h]

end Package

/-! ## The program -/

namespace Program

variable {status : Nat} {body : List UInt8}

/-- Without a client nothing is asked and the command fails. -/
theorem withClient_cases (s : Settings) (w : World) (go : Account → Client → Effect) :
    (∃ a c, withClient s w go = go a c) ∨ ∃ causes, withClient s w go = .fail w.disk causes := by
  unfold withClient
  split
  · exact .inr ⟨_, rfl⟩
  · split
    · exact .inr ⟨_, rfl⟩
    · exact .inl ⟨_, _, rfl⟩

theorem search_of_arrived {f : Filters} {s : Settings} {w : World}
    (h : Arrived (search f true s w).exchanges status body)
    (hsuccess : Http.isSuccess status = true) :
    (search f true s w).exitCode = 0 ∧
      (search f true s w).output = (Listing.ofBody body).render f ++ "\n" := by
  rcases withClient_cases s w _ with ⟨a, c, heq⟩ | ⟨causes, heq⟩
  · rw [search, heq] at h ⊢
    have hpage := Client.list_eq_ok_iff.mpr ⟨status, body, h, hsuccess, rfl⟩
    simp [hpage, printPage, Effect.exitCode]
  · rw [search, heq] at h
    simp [Arrived, Effect.fail] at h

theorem show_of_success {name : String} {s : Settings} {w : World}
    (h : (showPackage true name s w).failure = none) :
    ∃ status body p, Arrived (showPackage true name s w).exchanges status body ∧
      p ∈ (Listing.ofBody body).items ∧ p.name = name ∧
      (showPackage true name s w).output = p.toJson.pretty ++ "\n" := by
  rcases withClient_cases s w _ with ⟨a, c, heq⟩ | ⟨causes, heq⟩
  · rw [showPackage, lookup, heq] at h ⊢
    simp only at h ⊢
    split at h
    · rename_i p hp
      obtain ⟨status, body, harrived, -, hitem, hname⟩ := Client.find_eq_ok hp
      exact ⟨status, body, p, harrived, hitem, hname, rfl⟩
    · cases h
    · cases h
  · rw [showPackage, lookup, heq] at h
    cases h

theorem exitCode_eq_zero_iff {e : Effect} :
    e.exitCode = 0 ↔ e.aborted = false ∧ e.failure = none := by
  unfold Effect.exitCode
  split_ifs with haborted hfails
  · simp [haborted]
  · simpa [Option.isSome_iff_ne_none] using fun _ => hfails
  · simpa [haborted] using hfails

/-- The output of a search gives its page again when it comes back as a body. -/
theorem ofBody_output_search {options : Arguments.FilterOptions} {term : Option String} {w : World}
    (h : Arrived (run (.search true options term) w).exchanges status body)
    (hsuccess : Http.isSuccess status = true) :
    (run (.search true options term) w).exitCode = 0 ∧
      Listing.ofBody (Text.Utf8.encode (run (.search true options term) w).output) =
        ⟨(Listing.ofBody body).items, (Listing.ofBody body).total, none⟩ := by
  rcases run_cases (.search true options term) w with ⟨fault, -, hrun⟩ | ⟨s, -, hrun⟩
  · simp [hrun, Arrived, Effect.fail] at h
  · rw [hrun, perform] at h ⊢
    obtain ⟨hexit, houtput⟩ := search_of_arrived h hsuccess
    have hcounted := (Listing.shows_ofBody body).counted
    refine ⟨hexit, ?_⟩
    rw [houtput]
    exact Listing.ofBody_of_document hcounted _
      (Json.document_pretty_line (Listing.plain_toJson hcounted _))

/-- The output for a package is read as the package of the registry. -/
theorem readsAs_output_show {name : String} {w : World}
    (h : (run (.show true name) w).exitCode = 0) :
    ∃ status body p, Arrived (run (.show true name) w).exchanges status body ∧
      p ∈ (Listing.ofBody body).items ∧ p.name = name ∧
      Package.ReadsAs (run (.show true name) w).output p := by
  rcases run_cases (.show true name) w with ⟨fault, -, hrun⟩ | ⟨s, -, hrun⟩
  · rw [hrun] at h
    cases h
  · rw [hrun, perform] at h ⊢
    obtain ⟨status, body, p, harrived, hitem, hname, houtput⟩ :=
      show_of_success (exitCode_eq_zero_iff.mp h).2
    have hcounted := (Listing.shows_ofBody body).counted.items p hitem
    refine ⟨status, body, p, harrived, hitem, hname, ?_⟩
    rw [houtput]
    exact Package.readsAs_of_document hcounted
      (Json.document_pretty_line (Package.plain_toJson hcounted))

/-- Whatever is printed as JSON is read back as what it was printed for. -/
theorem json_output_reads_back :
    (∀ (f : Filters) (l : Listing), l.Counted →
      Listing.ofBody (Text.Utf8.encode (l.render f)) = ⟨l.items, l.total, none⟩) ∧
    (∀ p : Package, p.Counted → Package.ReadsAs p.toJson.pretty p) ∧
    (∀ options term w status body,
      Arrived (run (.search true options term) w).exchanges status body →
      200 ≤ status → status ≤ 299 →
      (run (.search true options term) w).exitCode = 0 ∧
        Listing.ofBody (Text.Utf8.encode (run (.search true options term) w).output) =
          ⟨(Listing.ofBody body).items, (Listing.ofBody body).total, none⟩) ∧
    ∀ name w, (run (.show true name) w).exitCode = 0 →
      ∃ status body p, Arrived (run (.show true name) w).exchanges status body ∧
        p ∈ (Listing.ofBody body).items ∧ p.name = name ∧
        Package.ReadsAs (run (.show true name) w).output p := by
  refine ⟨?_, ?_, ?_, ?_⟩
  · intro f l h
    exact Listing.ofBody_of_document h f (Json.Reader.document_pretty (Listing.plain_toJson h f))
  · intro p h
    exact Package.readsAs_of_document h (Json.Reader.document_pretty (Package.plain_toJson h))
  · intro options term w status body harrived hlow hhigh
    exact ofBody_output_search harrived (Http.isSuccess_iff.mpr ⟨hlow, hhigh⟩)
  · exact fun name w => readsAs_output_show

/-- A package with a name that has to be escaped and a counter as large as one can be. -/
def starred : Package := { name := "é\n", stats := { stars := 18446744073709551615 } }

theorem counted_starred : starred.Counted := ⟨by decide, by decide⟩

/-- A body that lists it behind an entry that is no package. -/
def starredBody : List UInt8 := Text.Utf8.encode (
  "\x7b\"total\":2,\"packages\":[7,\x7b\"name\":\"é\\n\"," ++
    "\"stats\":\x7b\"stars\":18446744073709551615\x7d\x7d]\x7d")

def starredWorld : World where
  environment := [("XDG_CONFIG_HOME", "/c"), ("XDG_DATA_HOME", "/d")]
  disk := {}
  input := []
  replies := fun _ => .response 200 starredBody
  loginState := ""

theorem starred_reads_back :
    Listing.ofBody (Text.Utf8.encode (Listing.render ⟨[starred], 2, some .notAnObject⟩ {})) =
      ⟨[starred], 2, none⟩ ∧
    Package.ReadsAs starred.toJson.pretty starred ∧
    Listing.ofBody (Text.Utf8.encode (run (.search true {} none) starredWorld).output) =
      ⟨[starred], 2, none⟩ ∧
    ∃ p, p.name = "é\n" ∧ Package.ReadsAs (run (.show true "é\n") starredWorld).output p := by
  obtain ⟨hpage, hpackage, hsearch, hshow⟩ := json_output_reads_back
  have hbody : Listing.ofBody starredBody = ⟨[starred], 2, none⟩ := by decide +kernel
  have harrived : Arrived (run (.search true {} none) starredWorld).exchanges 200 starredBody := by
    unfold Arrived
    decide +kernel
  have hfound := hsearch {} none starredWorld 200 starredBody harrived (by decide) (by decide)
  rw [hbody] at hfound
  obtain ⟨-, -, p, -, -, hname, hreads⟩ := hshow "é\n" starredWorld (by decide +kernel)
  refine ⟨hpage {} _ ⟨by decide, ?_⟩, hpackage _ counted_starred, hfound.2, p, hname, hreads⟩
  simp [counted_starred]

end Program

end PackageRegistry
