import PackageRegistry.Proofs.Client.Operations
import PackageRegistry.Proofs.Url.Extension

/-! # Where requests go

The endpoint is made of text: a slash and a word behind the URL of a registry. Requests go to the
host of the registry, at a path that ends in the word, exactly if that URL is one and ends in its
path, or if its own path ends in the word already.
-/

namespace PackageRegistry

open Http (Reply Request)

namespace Url

/-- Whether a path ends in a slash and this word. -/
def Path.EndsIn (word : String) (p : Path) : Prop := ∃ front, p.text = front ++ ("/" ++ word)

theorem Path.endsIn_concat (front : List String) (word : String) :
    Path.EndsIn word (.segments (front ++ [word])) :=
  ⟨Path.text (.segments front), by simp [Path.text, String.join_append]⟩

theorem isWord_dispatch : Parser.IsWord "dispatch".toList where
  notDouble := by decide +kernel
  notSingle := by decide +kernel
  segment := by decide +kernel
  host := by decide +kernel
  chars := by
    have hall : "dispatch".toList.all fun c =>
        !Parser.isOuter c && !Parser.dividers.contains c := by decide
    simpa using hall

end Url

namespace Client

/-- A URL on the host of a registry, at a path that ends in the word for requests. -/
def Addresses (base : String) (u : Url) : Prop :=
  (∃ b, Url.parse base = .ok b ∧ u.host = b.host) ∧ u.path.EndsIn "dispatch"

section Endpoint

variable {o : ClientOptions} {c : Client} {base : String} {u : Url}

theorem endpointOf_of_make (h : make o = .ok c) : endpointOf o.baseUrl = .ok c.endpoint := by
  obtain ⟨endpoint, hendpoint, h⟩ := Results.bind_eq_ok_iff.mp h
  obtain ⟨hs, -, h⟩ := Results.bind_eq_ok_iff.mp h
  obtain ⟨defaults, -, h⟩ := Results.bind_eq_ok_iff.mp h
  cases h
  exact hendpoint

theorem ofScheme_of_reaches (h : c.Reaches) : Url.Kind.ofScheme c.endpoint.scheme = .web := by
  rcases h with h | h <;> rw [h] <;> decide

/-- The endpoint is the registry's URL with a word behind it. -/
theorem extended_endpoint (h : make o = .ok c) (hreaches : c.Reaches) :
    Url.Extended "dispatch" o.baseUrl c.endpoint := by
  have hparse := Results.mapError_eq_ok_iff.mp (endpointOf_of_make h)
  have htext : dropSlashes o.baseUrl ++ "/dispatch" =
      String.ofList (Text.dropTail (· == '/') o.baseUrl.toList ++ '/' :: "dispatch".toList) := by
    rw [dropSlashes, String.ofList_append]
    rfl
  rw [htext] at hparse
  exact Url.extended_of_parse Url.isWord_dispatch hparse (ofScheme_of_reaches hreaches)

theorem addresses_iff (h : Url.Extended "dispatch" base u) :
    Addresses base u ↔ ∃ b, Url.parse base = .ok b ∧
      (b.query = none ∧ b.fragment = none ∨ b.path.EndsIn "dispatch") := by
  cases h with
  | path b front hparse hunmarked heq =>
      subst heq
      exact ⟨fun _ => ⟨b, hparse, .inl hunmarked⟩,
        fun _ => ⟨⟨b, hparse, rfl⟩, Url.Path.endsIn_concat front "dispatch"⟩⟩
  | mark b query fragment hparse hmarked heq =>
      subst heq
      constructor
      · rintro ⟨-, hpath⟩
        exact ⟨b, hparse, .inr hpath⟩
      · rintro ⟨b', hparse', hcases⟩
        cases hparse.symm.trans hparse'
        exact ⟨⟨b, hparse, rfl⟩, hcases.resolve_left hmarked⟩
  | host hparse heq => simp [Addresses, hparse]

end Endpoint

/-- Every request goes to the registry's URL with a word behind it. That is on the host of that URL
and at a path that ends in the word, exactly if that URL is one and ends in its path, or if its path
ends in the word already. -/
theorem requests_go_to_the_extended_url {o : ClientOptions} {c : Client} (h : make o = .ok c)
    (reply : Reply) (op : Operation) {r : Request} (hr : r ∈ c.requests reply op) :
    Url.Extended "dispatch" o.baseUrl r.url ∧
      (Addresses o.baseUrl r.url ↔ ∃ b, Url.parse o.baseUrl = .ok b ∧
        (b.query = none ∧ b.fragment = none ∨ b.path.EndsIn "dispatch")) := by
  obtain ⟨hreaches, -, rfl⟩ := mem_requests_iff.mp hr
  have hextended := extended_endpoint h hreaches
  exact ⟨hextended, addresses_iff hextended⟩

/-- The listing of packages is asked for at the endpoint. -/
theorem exists_posted (o : ClientOptions) (u : Url)
    (h : (make o).toOption.map endpoint = some u) (hscheme : u.scheme = "http" ∨ u.scheme = "https")
    (reply : Reply) :
    ∃ c r, make o = .ok c ∧ r ∈ c.requests reply (.list {}) ∧ r.url = u := by
  cases hmake : make o with
  | error failure => simp [hmake, Except.toOption] at h
  | ok c =>
      have hendpoint : c.endpoint = u := by simpa [hmake, Except.toOption] using h
      have hreaches : c.Reaches := by rwa [Reaches, hendpoint]
      exact ⟨c, _, rfl, mem_requests_iff.mpr ⟨hreaches, by simp [Operation.credential?], rfl⟩,
        hendpoint⟩

/-- Dots are resolved, and slashes at the end do not count. -/
theorem dots_and_slashes_are_extended :
    ∃ c r, make { baseUrl := "http://h/a/../b//" } = .ok c ∧
      r ∈ c.requests (.interrupted .closed) (.list {}) ∧
      r.url.text = "http://h/b/dispatch" ∧ Addresses "http://h/a/../b//" r.url := by
  obtain ⟨c, r, hmake, hr, hurl⟩ := exists_posted { baseUrl := "http://h/a/../b//" }
    { scheme := "http", host := some (.domain "h"), path := .segments ["b", "dispatch"] }
    (by decide +kernel) (.inl rfl) (.interrupted .closed)
  have hbase : Url.parse "http://h/a/../b//" =
      .ok { scheme := "http", host := some (.domain "h"), path := .segments ["b", "", ""] } := by
    decide +kernel
  refine ⟨c, r, hmake, hr, ?_, ?_⟩
  · rw [hurl]
    decide +kernel
  · exact (requests_go_to_the_extended_url hmake _ _ hr).2.mpr ⟨_, hbase, .inl ⟨rfl, rfl⟩⟩

/-- Behind a query, requests go to another path of the registry, and behind two slashes to a host
that is none of it. -/
theorem queries_and_bare_schemes_lead_elsewhere :
    (∃ c r, make { baseUrl := "https://h/?q=1" } = .ok c ∧
      r ∈ c.requests (.interrupted .closed) (.list {}) ∧
      r.url.text = "https://h/?q=1/dispatch" ∧ ¬ Addresses "https://h/?q=1" r.url) ∧
    ∃ c r, make { baseUrl := "http://" } = .ok c ∧
      r ∈ c.requests (.interrupted .closed) (.list {}) ∧
      r.url.text = "http://dispatch/" ∧ ¬ Addresses "http://" r.url := by
  constructor
  · obtain ⟨c, r, hmake, hr, hurl⟩ := exists_posted { baseUrl := "https://h/?q=1" }
      { scheme := "https", host := some (.domain "h"), path := .segments [""],
        query := some "q=1/dispatch" }
      (by decide +kernel) (.inr rfl) (.interrupted .closed)
    refine ⟨c, r, hmake, hr, by rw [hurl]; decide +kernel, ?_⟩
    rintro ⟨-, front, hpath⟩
    rw [hurl] at hpath
    have hlength := congrArg String.length hpath
    rw [String.length_append, show (Url.Path.segments [""]).text.length = 1 by decide +kernel,
      show ("/" ++ "dispatch").length = 9 by decide +kernel] at hlength
    omega
  · obtain ⟨c, r, hmake, hr, hurl⟩ := exists_posted { baseUrl := "http://" }
      { scheme := "http", host := some (.domain "dispatch"), path := .segments [""] }
      (by decide +kernel) (.inl rfl) (.interrupted .closed)
    refine ⟨c, r, hmake, hr, by rw [hurl]; decide +kernel, ?_⟩
    rintro ⟨⟨b, hbase, -⟩, -⟩
    have hempty : Url.parse "http://" = .error .emptyHost := by decide +kernel
    rw [hempty] at hbase
    cases hbase

end Client

end PackageRegistry
