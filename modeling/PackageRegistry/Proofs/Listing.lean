import PackageRegistry.Proofs.Client
import PackageRegistry.Proofs.Package

/-! # Pages of a listing

What a page shows is said about the body as it is written: the members of its object, the last one
under a repeated key, and the entries of its array. Every reply of the registry gives one of three
results, and a body that cannot be understood is none of the failures.
-/

namespace PackageRegistry

open Http (Reply Request Traffic)
open Json (Raw Value Mark)

namespace Listing

/-! ## What a body says -/

/-- A body is JSON within the limits of the reader (levels, sizes of numbers, surrogates in pairs),
and this is its document. -/
def Carries (body : List UInt8) (x : Raw) : Prop :=
  Json.Reader.document (Text.Utf8.decode body) = .ok x ∧ ∃ v, x.toValue Raw.maxDepth = .ok v

/-- A member is left out or null. -/
def Lacks (members : List (List Mark × Raw)) (key : String) : Prop :=
  Raw.member? key members = none ∨ Raw.member? key members = some .null

/-- The total is an integer of at most 64 bits. -/
def Counts (members : List (List Mark × Raw)) (total : Nat) : Prop :=
  ∃ m, Raw.member? "total" members = some (.number m) ∧ m.Writes total

/-- The packages are an array. -/
def Enumerates (members : List (List Mark × Raw)) (entries : List Raw) : Prop :=
  Raw.member? "packages" members = some (.array entries)

/-- An entry is a package. -/
def Describes (entry : Raw) (p : Package) : Prop :=
  ∃ v, entry.toValue Raw.maxDepth = .ok v ∧ Package.ofJson v = .ok p

/-- The packages among entries, in their order. -/
inductive Kept : List Raw → List Package → Prop where
  | nil : Kept [] []
  | keep {entry : Raw} {p : Package} {entries : List Raw} {items : List Package}
      (h : Describes entry p) (rest : Kept entries items) : Kept (entry :: entries) (p :: items)
  | skip {entry : Raw} {entries : List Raw} {items : List Package}
      (h : ∀ p, ¬ Describes entry p) (rest : Kept entries items) : Kept (entry :: entries) items

/-! ## Members of a value -/

section Members

variable {d : Nat} {members : List (List Mark × Raw)} {fields : List (String × Value)}

/-- Under a key there is nothing, null, or the value of the member as written. -/
theorem present?_cases (h : Raw.fieldValues d members = .ok fields) (key : String) :
    (Lacks members key ∧ present? key (Keyed.sort fields) = none) ∨
      ∃ x v, Raw.member? key members = some x ∧ x ≠ .null ∧ x.toValue d = .ok v ∧
        present? key (Keyed.sort fields) = some v := by
  have hrel := Raw.rel_member? h key
  unfold present? Lacks
  generalize Raw.member? key members = written at hrel ⊢
  generalize Keyed.find? key (Keyed.sort fields) = meant at hrel ⊢
  cases hrel with
  | none => exact .inl ⟨.inl rfl, rfl⟩
  | @some x v hvalue =>
      by_cases hnull : x = .null
      · subst hnull
        cases hvalue
        exact .inl ⟨.inr rfl, rfl⟩
      · have hv : v ≠ .null := fun hv => hnull (Raw.toValue_eq_null_iff.mp (hv ▸ hvalue))
        refine .inr ⟨x, v, rfl, hnull, hvalue, ?_⟩
        split
        · simp_all
        · rfl

theorem natural?_eq_some_iff {v : Value} {n : Nat} : v.natural? = some n ↔ v = .nat n := by
  unfold Value.natural? Value.nat
  split <;> simp_all

/-- The total is counted, left out, or something else. -/
theorem readTotal_cases (h : Raw.fieldValues d members = .ok fields) :
    (Lacks members "total" ∧ readTotal (Keyed.sort fields) = .error (.missingField "total")) ∨
      (¬ Lacks members "total" ∧ (∀ n, ¬ Counts members n) ∧
        readTotal (Keyed.sort fields) = .error (.invalidField "total")) ∨
      ∃ n, Counts members n ∧ readTotal (Keyed.sort fields) = .ok n := by
  unfold readTotal
  rcases present?_cases h "total" with ⟨hlacks, hnone⟩ | ⟨x, v, hmember, hnull, hvalue, hsome⟩
  · exact .inl ⟨hlacks, by rw [hnone]⟩
  · rw [hsome]
    cases hnatural : v.natural? with
    | some n =>
        obtain ⟨m, rfl, hwrites⟩ :=
          Raw.toValue_eq_nat_iff.mp (natural?_eq_some_iff.mp hnatural ▸ hvalue)
        exact .inr (.inr ⟨n, ⟨m, hmember, hwrites⟩, by simp only [hnatural]⟩)
    | none =>
        refine .inr (.inl ⟨by simp [Lacks, hmember, hnull], ?_, by simp only [hnatural]⟩)
        rintro n ⟨m, hm, hwrites⟩
        cases hmember.symm.trans hm
        cases hvalue.symm.trans (Raw.toValue_eq_nat_iff.mpr ⟨m, rfl, hwrites⟩)
        cases hnatural

/-! ## Entries that are packages -/

theorem kept_filterMap {entries : List Raw} {values : List Value} (hd : d ≤ Raw.maxDepth)
    (h : Raw.itemValues d entries = .ok values) :
    Kept entries (values.filterMap fun v => (Package.ofJson v).toOption) := by
  induction entries generalizing values with
  | nil =>
      cases h
      exact .nil
  | cons entry entries ih =>
      obtain ⟨v, rest, hv, hrest, rfl⟩ := Raw.itemValues_cons_eq_ok_iff.mp h
      have hvalue := Raw.toValue_mono entry hv hd
      cases hp : Package.ofJson v with
      | ok p => simpa [hp, Except.toOption] using Kept.keep ⟨v, hvalue, hp⟩ (ih hrest)
      | error defect =>
          have hskip : ∀ p, ¬ Describes entry p := by
            rintro p ⟨v', hv', hp'⟩
            cases hvalue.symm.trans hv'
            cases hp.symm.trans hp'
          simpa [hp, Except.toOption] using Kept.skip hskip (ih hrest)

/-- The packages are enumerated, left out, or something else. -/
theorem readPackages_cases (hd : d ≤ Raw.maxDepth) (h : Raw.fieldValues d members = .ok fields) :
    (Lacks members "packages" ∧
        readPackages (Keyed.sort fields) = .error (.missingField "packages")) ∨
      (¬ Lacks members "packages" ∧ (∀ entries, ¬ Enumerates members entries) ∧
        readPackages (Keyed.sort fields) = .error (.invalidField "packages")) ∨
      ∃ entries items, Enumerates members entries ∧ Kept entries items ∧
        readPackages (Keyed.sort fields) = .ok items := by
  unfold readPackages
  rcases present?_cases h "packages" with ⟨hlacks, hnone⟩ | ⟨x, v, hmember, hnull, hvalue, hsome⟩
  · exact .inl ⟨hlacks, by rw [hnone]⟩
  · rw [hsome]
    cases Raw.means_of_toValue hvalue with
    | @array d entries values hitems =>
        exact .inr (.inr ⟨entries, _, hmember, kept_filterMap (by omega) hitems, rfl⟩)
    | null => exact absurd rfl hnull
    | bool | number | string | object =>
        refine .inr (.inl ⟨by simp [Lacks, hmember], ?_, rfl⟩)
        intro entries hentries
        cases hmember.symm.trans hentries

end Members

/-! ## Every body -/

section Bodies

variable {body : List UInt8} {members : List (List Mark × Raw)}

@[grind →]
theorem Carries.unique {x y : Raw} (hx : Carries body x) (hy : Carries body y) : x = y :=
  Except.ok.inj (hx.1.symm.trans hy.1)

@[grind →]
theorem Counts.unique {m n : Nat} (hm : Counts members m) (hn : Counts members n) : m = n := by
  obtain ⟨x, hx, hwrites⟩ := hm
  obtain ⟨y, hy, hwrites'⟩ := hn
  cases hx.symm.trans hy
  exact hwrites.digits.symm.trans hwrites'.digits

@[grind →]
theorem Enumerates.unique {xs ys : List Raw} (hxs : Enumerates members xs)
    (hys : Enumerates members ys) : xs = ys := by
  cases hxs.symm.trans hys
  rfl

@[grind →]
theorem Counts.not_lacks {n : Nat} (h : Counts members n) : ¬ Lacks members "total" := by
  obtain ⟨m, hm, -⟩ := h
  simp [Lacks, hm]

@[grind →]
theorem Enumerates.not_lacks {entries : List Raw} (h : Enumerates members entries) :
    ¬ Lacks members "packages" := by
  rw [Enumerates] at h
  simp [Lacks, h]

/-- What the page of a body shows, for every body. -/
structure Shows (body : List UInt8) (page : Listing) : Prop where
  complete : page.problem = none ↔
    ∃ members total entries, Carries body (.object members) ∧ Counts members total ∧
      Enumerates members entries
  items : ∀ members total entries, Carries body (.object members) → Counts members total →
    Enumerates members entries → page.total = total ∧ Kept entries page.items
  empty : page.problem ≠ none → page.items = [] ∧ page.total = 0
  notJson : (∃ detail, page.problem = some (.invalidJson detail)) ↔ ∀ x, ¬ Carries body x
  notAnObject : page.problem = some .notAnObject ↔
    ∃ x, Carries body x ∧ ∀ members, x ≠ .object members
  missing : ∀ key, page.problem = some (.missingField key) ↔
    ∃ members, Carries body (.object members) ∧ Lacks members key ∧
      (key = "total" ∨ key = "packages" ∧ ∃ total, Counts members total)
  invalid : ∀ key, page.problem = some (.invalidField key) ↔
    ∃ members, Carries body (.object members) ∧ ¬ Lacks members key ∧
      (key = "total" ∧ (∀ total, ¬ Counts members total) ∨
        key = "packages" ∧ (∃ total, Counts members total) ∧
          ∀ entries, ¬ Enumerates members entries)

theorem shows_of_not_object {x : Raw} {v : Value} (hx : Carries body x)
    (hparse : Json.parse (Text.Utf8.decode body) = .ok v) (h : ∀ fields, v ≠ .object fields)
    (h' : ∀ members, x ≠ .object members) : Shows body (ofBody body) := by
  have hpage : ofBody body = degraded .notAnObject := by
    cases v with
    | object fields => exact absurd rfl (h fields)
    | null | bool | number | string | array => simp [ofBody, read, hparse]
  rw [hpage]
  constructor <;> grind [degraded]

theorem shows_of_object {d : Nat} {fields : List (String × Value)} (hd : d ≤ Raw.maxDepth)
    (hx : Carries body (.object members)) (hfields : Raw.fieldValues d members = .ok fields)
    (hparse : Json.parse (Text.Utf8.decode body) = .ok (.object (Keyed.sort fields))) :
    Shows body (ofBody body) := by
  rcases readTotal_cases hfields with
    ⟨hlacks, htotal⟩ | ⟨hpresent, hcounts, htotal⟩ | ⟨n, hcounts, htotal⟩
  · have hpage : ofBody body = degraded (.missingField "total") := by
      simp [ofBody, read, hparse, htotal]
    rw [hpage]
    constructor <;> grind [degraded]
  · have hpage : ofBody body = degraded (.invalidField "total") := by
      simp [ofBody, read, hparse, htotal]
    rw [hpage]
    constructor <;> grind [degraded]
  rcases readPackages_cases hd hfields with
    ⟨hlacks, hpackages⟩ | ⟨hpresent, hentries, hpackages⟩ |
      ⟨entries, items, hentries, hkept, hpackages⟩
  · have hpage : ofBody body = degraded (.missingField "packages") := by
      simp [ofBody, read, hparse, htotal, hpackages]
    rw [hpage]
    constructor <;> grind [degraded]
  · have hpage : ofBody body = degraded (.invalidField "packages") := by
      simp [ofBody, read, hparse, htotal, hpackages]
    rw [hpage]
    constructor <;> grind [degraded]
  · have hpage : ofBody body = ⟨items, n, none⟩ := by
      simp [ofBody, read, hparse, htotal, hpackages]
    rw [hpage]
    constructor <;> grind

theorem shows_ofBody (body : List UInt8) : Shows body (ofBody body) := by
  cases hparse : Json.parse (Text.Utf8.decode body) with
  | error fault =>
      have hnone : ∀ x, ¬ Carries body x := by
        rintro x ⟨hdocument, v, hvalue⟩
        cases hparse.symm.trans (Json.parse_eq_ok_iff.mpr ⟨x, hdocument, hvalue⟩)
      have hpage : ofBody body = degraded (.invalidJson fault.message) := by
        simp [ofBody, read, hparse]
      rw [hpage]
      constructor <;> grind [degraded]
  | ok v =>
      obtain ⟨x, hdocument, hvalue⟩ := Json.parse_eq_ok_iff.mp hparse
      have hx : Carries body x := ⟨hdocument, v, hvalue⟩
      generalize hmax : Raw.maxDepth = d at hvalue
      cases Raw.means_of_toValue hvalue with
      | @object d members fields hfields => exact shows_of_object (by omega) hx hfields hparse
      | null | bool | number | string | array =>
          exact shows_of_not_object hx hparse (by simp) (by simp)

end Bodies

end Listing

/-! ## The page of a reply -/

namespace Client

open Http (Arrived arrived_singleton_iff isSuccess_iff)

theorem list_of_reaches {c : Client} (h : c.Reaches) (f : Filters) (reply : Reply) :
    ∃ r : Request, r.url = c.endpoint ∧
      c.list f reply = ⟨[(r, reply)], (bodyOf c.address reply).map Listing.ofBody⟩ := by
  obtain ⟨r, hurl, -, hpost⟩ := post_of_reaches h "api-list-packages" f.payload reply
  exact ⟨r, hurl, by rw [list, hpost]; rfl⟩

theorem list_of_not_reaches {c : Client} (h : ¬ c.Reaches) (f : Filters) (reply : Reply) :
    c.list f reply = .silent (.error (.transport c.address .unsupportedScheme)) := by
  rw [list, post_of_not_reaches h]
  rfl

/-- A listing gives the page of the body that came back. -/
theorem list_eq_ok_iff {c : Client} {f : Filters} {reply : Reply} {page : Listing} :
    (c.list f reply).result = .ok page ↔
      ∃ status body, Arrived (c.list f reply).exchanges status body ∧
        Http.isSuccess status = true ∧ Listing.ofBody body = page := by
  by_cases hreaches : c.Reaches
  · obtain ⟨r, -, hlist⟩ := list_of_reaches hreaches f reply
    simp only [hlist, Http.arrived_singleton_iff]
    cases reply with
    | interrupted cause => simp [bodyOf]
    | response status body =>
        by_cases hsuccess : Http.isSuccess status = true
        · simp [bodyOf, hsuccess]
        · simp [bodyOf, hsuccess]
  · simp [list_of_not_reaches hreaches, Arrived, Http.Traffic.silent]

/-- A package is picked by its name. -/
theorem pick_eq_ok {name : String} {page : Listing} {p : Package}
    (h : pick name page = .ok p) : p ∈ page.items ∧ p.name = name := by
  unfold pick at h
  split at h
  · cases h
  · split at h
    · rename_i hfind
      cases h
      exact ⟨List.mem_of_find?_eq_some hfind, by simpa using List.find?_some hfind⟩
    · cases h

theorem find_eq_ok {c : Client} {name : String} {reply : Reply} {p : Package}
    (h : (c.find name reply).result = .ok p) :
    ∃ status body, Arrived (c.find name reply).exchanges status body ∧
        Http.isSuccess status = true ∧ p ∈ (Listing.ofBody body).items ∧ p.name = name := by
  simp only [find, Http.Traffic.map] at h ⊢
  split at h
  · rename_i page hpage
    obtain ⟨status, body, harrived, hsuccess, rfl⟩ := list_eq_ok_iff.mp hpage
    exact ⟨status, body, harrived, hsuccess, pick_eq_ok h⟩
  · cases h

/-! ## Every reply -/

/-- What a listing comes to, for every reply. -/
structure ListingOutcome (c : Client) (reply : Reply) (t : Traffic (Except Failure Listing)) :
    Prop where
  sent : c.Reaches → ∃ r : Request, r.url = c.endpoint ∧ t.exchanges = [(r, reply)]
  transport : (∃ url cause, t.result = .error (.transport url cause)) ↔
    ∀ status body, ¬ Arrived t.exchanges status body
  rejection : ∀ status, (∃ detail, t.result = .error (.rejection status detail)) ↔
    (∃ body, Arrived t.exchanges status body) ∧ ¬ (200 ≤ status ∧ status ≤ 299)
  success : (∃ page, t.result = .ok page) ↔
    ∃ status body, Arrived t.exchanges status body ∧ 200 ≤ status ∧ status ≤ 299
  page : ∀ status body page, Arrived t.exchanges status body → t.result = .ok page →
    Listing.Shows body page
  notMalformed : ∀ problem, t.result ≠ .error (.malformed problem)
  notOther : ∀ text, t.result ≠ .error (.other text)

section Responses

variable {c : Client} {r : Request} {status : Nat} {body : List UInt8}

theorem outcome_of_success (hurl : r.url = c.endpoint) (h : 200 ≤ status ∧ status ≤ 299) :
    ListingOutcome c (.response status body)
      ⟨[(r, .response status body)], .ok (Listing.ofBody body)⟩ where
  sent _ := ⟨r, hurl, rfl⟩
  transport := by simp [arrived_singleton_iff]
  rejection := by
    intro s
    simp only [arrived_singleton_iff, reduceCtorEq, exists_false, false_iff]
    rintro ⟨⟨b, hreply⟩, hrejected⟩
    cases hreply
    exact hrejected h
  success := by simp [arrived_singleton_iff, h]
  page := by
    intro s b page harrived hpage
    cases arrived_singleton_iff.mp harrived
    cases hpage
    exact Listing.shows_ofBody body
  notMalformed := by simp
  notOther := by simp

theorem outcome_of_rejection (hurl : r.url = c.endpoint) (h : ¬ (200 ≤ status ∧ status ≤ 299))
    (detail : String) :
    ListingOutcome c (.response status body)
      ⟨[(r, .response status body)], .error (.rejection status detail)⟩ where
  sent _ := ⟨r, hurl, rfl⟩
  transport := by simp [arrived_singleton_iff]
  rejection := by
    intro s
    simp only [arrived_singleton_iff, Except.error.injEq, Failure.rejection.injEq]
    constructor
    · rintro ⟨_, rfl, -⟩
      exact ⟨⟨body, rfl⟩, h⟩
    · rintro ⟨⟨b, hreply⟩, -⟩
      cases hreply
      exact ⟨detail, rfl, rfl⟩
  success := by simpa [arrived_singleton_iff] using h
  page := by simp
  notMalformed := by simp
  notOther := by simp

end Responses

/-- A listing fails only if no response came back or its status is not one of success, and else
every body whatsoever gives a page. -/
theorem list_is_classified (c : Client) (f : Filters) (reply : Reply) :
    ListingOutcome c reply (c.list f reply) := by
  by_cases hreaches : c.Reaches
  · obtain ⟨r, hurl, hlist⟩ := list_of_reaches hreaches f reply
    rw [hlist]
    cases reply with
    | interrupted cause => constructor <;> simp [Arrived, bodyOf, hurl]
    | response status body =>
        by_cases hsuccess : Http.isSuccess status = true
        · rw [bodyOf, if_pos hsuccess]
          exact outcome_of_success hurl (isSuccess_iff.mp hsuccess)
        · rw [bodyOf, if_neg hsuccess]
          exact outcome_of_rejection hurl (mt isSuccess_iff.mpr hsuccess) _
  · rw [list_of_not_reaches hreaches f reply]
    constructor <;> simp [Arrived, Traffic.silent, hreaches]

end Client

end PackageRegistry
