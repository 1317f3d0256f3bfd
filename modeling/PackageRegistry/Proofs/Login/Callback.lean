import PackageRegistry.Login
import PackageRegistry.Proofs.Url.Query

/-! # What a user comes back with

The code and the state reach the program as they were sent, however the user hands over the address
that the provider led to: as a whole, or only its query.
-/

namespace PackageRegistry.Callback

open Url.Form (LastValue last?_eq_some_iff last?_eq_none_iff)

/-! ## The parameters of a callback -/

/-- There is no pair with a name, or the last one has no value. -/
def Lacks (ps : List (String × String)) (name : String) : Prop :=
  (∀ p ∈ ps, p.1 ≠ name) ∨ LastValue ps name ""

section Parameters

variable {ps : List (String × String)} {name value : String}

theorem parameter_of_lacks (h : Lacks ps name) :
    parameter ps name = .error (.missingParameter name) := by
  rw [Lacks, ← last?_eq_none_iff, ← last?_eq_some_iff] at h
  rcases h with hnone | hempty
  · rw [parameter, hnone]
  · rw [parameter, hempty]
    rfl

theorem parameter_of_last (h : LastValue ps name value) (hne : value ≠ "") :
    parameter ps name = .ok value := by
  rw [parameter, last?_eq_some_iff.mpr h]
  split <;> simp_all

/-- A name has a last value that is not empty, or lacks one. -/
theorem lacks_or_last (ps : List (String × String)) (name : String) :
    Lacks ps name ∨ ∃ value, LastValue ps name value ∧ value ≠ "" := by
  cases hlast : Url.Form.last? name ps with
  | none => exact .inl (.inl (last?_eq_none_iff.mp hlast))
  | some value =>
      have hvalue := last?_eq_some_iff.mp hlast
      by_cases hempty : value = ""
      · subst hempty
        exact .inl (.inr hvalue)
      · exact .inr ⟨value, hvalue, hempty⟩

theorem not_lacks_of_last (h : LastValue ps name value) (hne : value ≠ "") :
    ¬ Lacks ps name := by
  intro hlacks
  have hparameter := parameter_of_lacks hlacks
  rw [parameter_of_last h hne] at hparameter
  cases hparameter

end Parameters

/-- What is made of pairs: the last code and the last state, or the first of them that is lacking. -/
structure ReadFrom (ps : List (String × String)) (r : Except LoginFailure Callback) : Prop where
  read : ∀ code state, r = .ok ⟨code, state⟩ ↔
    LastValue ps "code" code ∧ code ≠ "" ∧ LastValue ps "state" state ∧ state ≠ ""
  noCode : r = .error (.missingParameter "code") ↔ Lacks ps "code"
  noState : r = .error (.missingParameter "state") ↔ ¬ Lacks ps "code" ∧ Lacks ps "state"

theorem readFrom_ofPairs (ps : List (String × String)) : ReadFrom ps (ofPairs ps) := by
  rcases lacks_or_last ps "code" with hcode | ⟨code, hcode, hcodeNe⟩
  · have hresult : ofPairs ps = .error (.missingParameter "code") := by
      rw [ofPairs, parameter_of_lacks hcode, Results.error_bind]
    rw [hresult]
    refine ⟨?_, by simp [hcode], by simp [hcode]⟩
    intro code state
    simp only [reduceCtorEq, false_iff]
    rintro ⟨hlast, hne, -⟩
    exact not_lacks_of_last hlast hne hcode
  · have hpresent := not_lacks_of_last hcode hcodeNe
    rcases lacks_or_last ps "state" with hstate | ⟨state, hstate, hstateNe⟩
    · have hresult : ofPairs ps = .error (.missingParameter "state") := by
        rw [ofPairs, parameter_of_last hcode hcodeNe, Results.ok_bind, parameter_of_lacks hstate,
          Results.error_bind]
      rw [hresult]
      refine ⟨?_, by simp [hpresent], by simp [hpresent, hstate]⟩
      intro code state
      simp only [reduceCtorEq, false_iff]
      rintro ⟨-, -, hlast, hne⟩
      exact not_lacks_of_last hlast hne hstate
    · have hresult : ofPairs ps = .ok ⟨code, state⟩ := by
        rw [ofPairs, parameter_of_last hcode hcodeNe, Results.ok_bind,
          parameter_of_last hstate hstateNe, Results.ok_bind, Results.pure_eq_ok]
      rw [hresult]
      refine ⟨?_, by simp [hpresent], by simp [not_lacks_of_last hstate hstateNe]⟩
      intro code' state'
      simp only [Except.ok.injEq, Callback.mk.injEq]
      constructor
      · rintro ⟨rfl, rfl⟩
        exact ⟨hcode, hcodeNe, hstate, hstateNe⟩
      · rintro ⟨hcode', -, hstate', -⟩
        exact ⟨hcode.unique hcode', hstate.unique hstate'⟩

/-! ## Pasted addresses -/

/-- A whole address says what its query says, without the blanks at its end. -/
theorem parse_of_begins {base : String} {u : Url} (h : Url.Begins base u) {s : String}
    {cs : List Char} (hs : s.toList = base.toList ++ '?' :: cs) :
    parse s = ofPairs (u.follow (Text.dropTail Text.isBlankChar cs)).queryPairs := by
  have htrim : (Text.trim s).toList =
      (String.ofList (base.toList.dropWhile Text.isBlankChar)).toList ++
        '?' :: Text.dropTail Text.isBlankChar cs := by
    rw [Text.trim, hs, Text.trimChars_append_cons (by decide), String.toList_ofList,
      String.toList_ofList]
  simp only [parse, h.dropBlanks.parse_follow htrim]

/-- Whatever the pairs of a query are, the last code and the last state come out of every URL with
this query, be there a fragment behind it or not. -/
theorem parameters_survive_the_address {base : String} {u : Url} (h : Url.Begins base u)
    (ps : List (String × String)) (fragment : Option String) :
    ReadFrom ps (parse (base ++ "?" ++ Url.Form.written ps ++ Url.marked "#" fragment)) := by
  have hlist : (base ++ "?" ++ Url.Form.written ps ++ Url.marked "#" fragment).toList =
      base.toList ++ '?' :: (Url.Form.written ps ++ Url.marked "#" fragment).toList := by
    simp
  rw [parse_of_begins h hlist, Url.queryPairs_follow_written]
  exact readFrom_ofPairs ps

/-- The address that the provider leads back to. -/
def home : Url where
  scheme := "https"
  host := some (.domain "registry.rads-lang.org")
  path := .segments ["api", "auth", "callback"]
  query := some ""

theorem begins_home : Url.Begins "https://registry.rads-lang.org/api/auth/callback" home where
  unmarked := by simp
  parse := by decide +kernel

/-- The last code and the last state, with every mark of a URL in their values. -/
theorem marks_in_values_survive :
    let ps := [("code", ""), ("state", "old"), ("code", "a+b &=#?%41é日"), ("state", " x\t")]
    Url.Begins "https://registry.rads-lang.org/api/auth/callback" home ∧
      parse ("https://registry.rads-lang.org/api/auth/callback" ++ "?" ++ Url.Form.written ps ++
        Url.marked "#" (some "code=other")) = .ok ⟨"a+b &=#?%41é日", " x\t"⟩ := by
  intro ps
  have hread := parameters_survive_the_address begins_home ps (some "code=other")
  refine ⟨begins_home, (hread.read _ _).mpr ⟨?_, by decide, ?_, by decide⟩⟩
  · exact ⟨[("code", ""), ("state", "old")], [("state", " x\t")], rfl, by decide⟩
  · exact ⟨[("code", ""), ("state", "old"), ("code", "a+b &=#?%41é日")], [], rfl, by simp⟩

/-! ## Pasted queries -/

/-- What the characters behind the question mark of a web address say. -/
def ofQuery (cs : List Char) : Except LoginFailure Callback :=
  ofPairs (Url.Form.pairs
    (Url.Parser.encoded .specialQuery (Url.Parser.queryOf (Url.Parser.ending cs))))

theorem ofPairs_follow {u : Url} (h : u.queryPart = .specialQuery) (cs : List Char) :
    ofPairs (u.follow cs).queryPairs = ofQuery cs := by
  simp only [ofQuery, Url.queryPairs, Url.follow, Option.getD_some, h]

/-- The address that a query is put behind when it comes alone. -/
def bareAddress : Url where
  scheme := "http"
  host := some (.domain "callback.invalid")
  path := .segments [""]
  query := some ""

theorem begins_bareAddress : Url.Begins "http://callback.invalid/" bareAddress where
  unmarked := by simp
  parse := by decide +kernel

/-- A text that is no URL is taken for a query. -/
theorem parse_of_not_url {s : String} (h : ∀ u, Url.parse (Text.trim s) ≠ .ok u) :
    parse s = ofQuery ((Text.trim s).toList.dropWhile (· == '?')) := by
  cases hparse : Url.parse (Text.trim s) with
  | ok u => exact absurd hparse (h u)
  | error flaw =>
      have hlist : ("http://callback.invalid/?" ++
          String.ofList ((Text.trim s).toList.dropWhile (· == '?'))).toList =
          "http://callback.invalid/".toList ++
            '?' :: (Text.trim s).toList.dropWhile (· == '?') := by
        simp
      simp only [parse, hparse, begins_bareAddress.parse_follow hlist]
      exact ofPairs_follow rfl _

/-- Every input is read as some pairs. -/
theorem exists_ofPairs (input : String) : ∃ ps, parse input = ofPairs ps := by
  by_cases h : ∃ u, Url.parse (Text.trim input) = .ok u
  · obtain ⟨u, hu⟩ := h
    exact ⟨u.queryPairs, by simp only [parse, hu]⟩
  · exact ⟨_, parse_of_not_url (not_exists.mp h)⟩

theorem ofPairs_cases (ps : List (String × String)) :
    (∃ code state, ofPairs ps = .ok ⟨code, state⟩ ∧ code ≠ "" ∧ state ≠ "") ∨
      ofPairs ps = .error (.missingParameter "code") ∨
      ofPairs ps = .error (.missingParameter "state") := by
  have hread := readFrom_ofPairs ps
  rcases lacks_or_last ps "code" with hcode | ⟨code, hcode, hcodeNe⟩
  · exact .inr (.inl (hread.noCode.mpr hcode))
  · rcases lacks_or_last ps "state" with hstate | ⟨state, hstate, hstateNe⟩
    · exact .inr (.inr (hread.noState.mpr ⟨not_lacks_of_last hcode hcodeNe, hstate⟩))
    · exact .inl ⟨code, state, (hread.read code state).mpr ⟨hcode, hcodeNe, hstate, hstateNe⟩,
        hcodeNe, hstateNe⟩

theorem dropWhile_question_dropTail {p : Char → Bool} {cs : List Char}
    (h : cs.head? ≠ some '?') :
    (Text.dropTail p cs).dropWhile (· == '?') = Text.dropTail p cs := by
  obtain ⟨tail, hcs, -⟩ := Text.exists_dropTail_append p cs
  cases hdrop : Text.dropTail p cs with
  | nil => rfl
  | cons c rest =>
      rw [hdrop] at hcs
      have hc : c ≠ '?' := by
        rintro rfl
        simp [hcs] at h
      exact List.dropWhile_cons_of_neg (by simpa using hc)

/-- A question mark in front of a query is as good as an address. -/
theorem parse_question {q : String} (h : q.toList.head? ≠ some '?') :
    parse ("?" ++ q) = ofQuery (Text.dropTail Text.isBlankChar q.toList) := by
  have hlist : ("?" ++ q).toList = [] ++ '?' :: q.toList := by simp
  have htrim : (Text.trim ("?" ++ q)).toList =
      [] ++ '?' :: Text.dropTail Text.isBlankChar q.toList := by
    rw [Text.trim, hlist, Text.trimChars_append_cons (by decide), String.toList_ofList]
    rfl
  have hnot : ∀ u, Url.parse (Text.trim ("?" ++ q)) ≠ .ok u := by
    intro u hu
    rw [Url.parse_question htrim (by simp)] at hu
    cases hu
  rw [parse_of_not_url hnot, htrim, List.nil_append, List.dropWhile_cons_of_pos (by decide),
    dropWhile_question_dropTail h]

theorem parse_bare {q : String} (hblank : ∀ c, q.toList.head? = some c → Text.isBlankChar c = false)
    (hmark : q.toList.head? ≠ some '?') (hurl : ∀ u, Url.parse (Text.trim q) ≠ .ok u) :
    parse q = ofQuery (Text.dropTail Text.isBlankChar q.toList) := by
  have htrim : (Text.trim q).toList = Text.dropTail Text.isBlankChar q.toList := by
    have hfront : q.toList.dropWhile Text.isBlankChar = q.toList := by
      cases hq : q.toList with
      | nil => rfl
      | cons c cs => exact List.dropWhile_cons_of_neg (by simp [hblank c (by simp [hq])])
    rw [Text.trim, Text.trimChars, hfront, String.toList_ofList]
  rw [parse_of_not_url hurl, htrim, dropWhile_question_dropTail hmark]

/-- Every input gives a code and a state or lacks one of them, and never fails to be read. A query
that is pasted alone says what it says behind a question mark or behind the address of the callback,
unless it is a URL once the blanks around it are gone. -/
theorem bare_query_says_what_its_address_says :
    (∀ input,
      (∃ code state, parse input = .ok ⟨code, state⟩ ∧ code ≠ "" ∧ state ≠ "") ∨
        parse input = .error (.missingParameter "code") ∨
        parse input = .error (.missingParameter "state")) ∧
    ∀ q : String, (∀ c, q.toList.head? = some c → Text.isBlankChar c = false ∧ c ≠ '?') →
      (∀ u, Url.parse (Text.trim q) ≠ .ok u) →
      parse q = parse ("?" ++ q) ∧
        parse q = parse ("https://registry.rads-lang.org/api/auth/callback?" ++ q) := by
  constructor
  · intro input
    obtain ⟨ps, hps⟩ := exists_ofPairs input
    rw [hps]
    exact ofPairs_cases ps
  · intro q hfirst hurl
    have hmark : q.toList.head? ≠ some '?' := fun h => (hfirst '?' h).2 rfl
    have haddress : parse ("https://registry.rads-lang.org/api/auth/callback?" ++ q) =
        ofQuery (Text.dropTail Text.isBlankChar q.toList) := by
      have hlist : ("https://registry.rads-lang.org/api/auth/callback?" ++ q).toList =
          "https://registry.rads-lang.org/api/auth/callback".toList ++ '?' :: q.toList := by
        simp
      rw [parse_of_begins begins_home hlist]
      exact ofPairs_follow rfl _
    rw [parse_bare (fun c hc => (hfirst c hc).1) hmark hurl, parse_question hmark, haddress]
    exact ⟨rfl, rfl⟩

/-- A query with a port that is none, a fragment, and blanks of two kinds behind it. -/
theorem port_that_is_none_is_read_as_query :
    let q := "http://h:x&code=a+b&state=c#d \u3000"
    (∀ u, Url.parse (Text.trim q) ≠ .ok u) ∧ parse q = .ok ⟨"a b", "c"⟩ ∧
      parse ("https://registry.rads-lang.org/api/auth/callback?" ++ q) = .ok ⟨"a b", "c"⟩ := by
  intro q
  have hhead : q.toList.head? = some 'h' := by decide +kernel
  have hfirst : ∀ c, q.toList.head? = some c → Text.isBlankChar c = false ∧ c ≠ '?' := by
    intro c hc
    cases hhead.symm.trans hc
    decide
  have hflaw : Url.parse (Text.trim q) = .error .invalidPort := by decide +kernel
  have hurl : ∀ u, Url.parse (Text.trim q) ≠ .ok u := by
    intro u hu
    cases hflaw.symm.trans hu
  have hparse : parse q = .ok ⟨"a b", "c"⟩ := by decide +kernel
  obtain ⟨-, haddress⟩ := bare_query_says_what_its_address_says.2 q hfirst hurl
  exact ⟨hurl, hparse, haddress ▸ hparse⟩

/-- A blank past ASCII behind a port keeps a text from being a URL, but it is trimmed before the text
is read: what is left is a URL without a query, and the parameters stand in its host. -/
theorem trimmed_address_hides_parameters :
    let q := "https://x&code=a&state=b:1\u3000"
    (∀ c, q.toList.head? = some c → Text.isBlankChar c = false ∧ c ≠ '?') ∧
      (∀ u, Url.parse q ≠ .ok u) ∧ parse q = .error (.missingParameter "code") ∧
      parse ("?" ++ q) = .ok ⟨"a", "b:1"⟩ := by
  intro q
  have hhead : q.toList.head? = some 'h' := by decide +kernel
  have hflaw : Url.parse q = .error .invalidPort := by decide +kernel
  refine ⟨?_, ?_, by decide +kernel, by decide +kernel⟩
  · intro c hc
    cases hhead.symm.trans hc
    decide
  · intro u hu
    cases hflaw.symm.trans hu

end PackageRegistry.Callback
