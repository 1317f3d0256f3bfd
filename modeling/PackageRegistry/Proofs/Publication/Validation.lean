import PackageRegistry.Proofs.Results
import PackageRegistry.Proofs.Text.Blank
import PackageRegistry.Publication

/-! # The check of a form

A form is checked for seven things in a fixed order, and the first that fails is reported. What
comes out of a form that passes is in a settled form: handed in again, it comes out as it is.
-/

namespace PackageRegistry.Form

/-! ## Checks in order -/

/-- Something that has to hold, and what is wrong where it does not. -/
structure Check where
  holds : Prop
  flaw : FormFlaw

/-- A flaw belongs to the first check that fails. -/
def FirstFlaw (checks : List Check) (flaw : FormFlaw) : Prop :=
  ∃ passed failed rest, checks = passed ++ failed :: rest ∧ (∀ c ∈ passed, c.holds) ∧
    ¬ failed.holds ∧ failed.flaw = flaw

theorem not_firstFlaw_nil (flaw : FormFlaw) : ¬ FirstFlaw [] flaw := by
  rintro ⟨passed, failed, rest, h, -⟩
  simp at h

theorem firstFlaw_cons_iff {c : Check} {checks : List Check} {flaw : FormFlaw} :
    FirstFlaw (c :: checks) flaw ↔
      ¬ c.holds ∧ c.flaw = flaw ∨ c.holds ∧ FirstFlaw checks flaw := by
  constructor
  · rintro ⟨passed, failed, rest, hchecks, hpassed, hfailed, hflaw⟩
    cases passed with
    | nil =>
        obtain ⟨rfl, rfl⟩ := List.cons.inj hchecks
        exact .inl ⟨hfailed, hflaw⟩
    | cons d passed =>
        obtain ⟨rfl, rfl⟩ := List.cons.inj hchecks
        refine .inr ⟨hpassed c (by simp), passed, failed, rest, rfl, ?_, hfailed, hflaw⟩
        intro d hd
        exact hpassed d (by simp [hd])
  · rintro (⟨hfails, hflaw⟩ | ⟨hholds, passed, failed, rest, rfl, hpassed, hfailed, hflaw⟩)
    · exact ⟨[], c, checks, rfl, by simp, hfails, hflaw⟩
    · refine ⟨c :: passed, failed, rest, rfl, ?_, hfailed, hflaw⟩
      simpa [hholds] using hpassed

theorem firstFlaw_append_iff {checks more : List Check} {flaw : FormFlaw} :
    FirstFlaw (checks ++ more) flaw ↔
      FirstFlaw checks flaw ∨ (∀ c ∈ checks, c.holds) ∧ FirstFlaw more flaw := by
  induction checks with
  | nil => simp [not_firstFlaw_nil]
  | cons c checks ih =>
      rw [List.cons_append, firstFlaw_cons_iff, firstFlaw_cons_iff, ih, List.forall_mem_cons]
      tauto

theorem exists_firstFlaw_iff {checks : List Check} :
    (∃ flaw, FirstFlaw checks flaw) ↔ ¬ ∀ c ∈ checks, c.holds := by
  induction checks with
  | nil => simp [not_firstFlaw_nil]
  | cons c checks ih =>
      by_cases hc : c.holds
      · simp [firstFlaw_cons_iff, hc, ih]
      · simp [firstFlaw_cons_iff, hc]

/-- A computation that fails at the first check that fails, and at nothing else. -/
def Follows {α : Type} (checks : List Check) (r : Except FormFlaw α) : Prop :=
  ∀ flaw, r = .error flaw ↔ FirstFlaw checks flaw

section Follows

variable {α β : Type} {checks more : List Check} {r : Except FormFlaw α}

theorem follows_ok (a : α) : Follows [] (.ok a) := by
  intro flaw
  simp [not_firstFlaw_nil]

theorem follows_single {c : Check} (hholds : c.holds → ∃ a, r = .ok a)
    (hfails : ¬ c.holds → r = .error c.flaw) : Follows [c] r := by
  intro flaw
  by_cases hc : c.holds
  · obtain ⟨a, rfl⟩ := hholds hc
    simp [firstFlaw_cons_iff, not_firstFlaw_nil, hc]
  · simp [firstFlaw_cons_iff, hc, hfails hc]

theorem Follows.exists_ok_iff (h : Follows checks r) :
    (∃ a, r = .ok a) ↔ ∀ c ∈ checks, c.holds := by
  rw [← not_iff_not, ← exists_firstFlaw_iff]
  cases r with
  | error flaw => simpa using ⟨flaw, (h flaw).mp rfl⟩
  | ok a => simpa using fun flaw hflaw => nomatch (h flaw).mpr hflaw

/-- Checks that are made one after the other. -/
theorem Follows.bind (h : Follows checks r) {f : α → Except FormFlaw β}
    (hf : ∀ a, r = .ok a → Follows more (f a)) : Follows (checks ++ more) (r >>= f) := by
  intro flaw
  rw [firstFlaw_append_iff]
  cases r with
  | error e =>
      have hfailed : ¬ ∀ c ∈ checks, c.holds := exists_firstFlaw_iff.mp ⟨e, (h e).mp rfl⟩
      rw [Results.error_bind, ← h flaw]
      simp [hfailed]
  | ok a =>
      have hpassed : ∀ c ∈ checks, c.holds := h.exists_ok_iff.mp ⟨a, rfl⟩
      rw [Results.ok_bind, hf a rfl flaw, ← h flaw]
      simp only [reduceCtorEq, false_or]
      exact (and_iff_right hpassed).symm

end Follows

/-! ## The checks of a form -/

/-- Some character is not blank. -/
def Legible (s : String) : Prop := ∃ c ∈ s.toList, Text.isBlankChar c = false

/-- Small letters, digits and hyphens only. -/
def Plain (s : String) : Prop :=
  ∀ c ∈ s.toList, 'a' ≤ c ∧ c ≤ 'z' ∨ '0' ≤ c ∧ c ≤ '9' ∨ c = '-'

/-- What a form is checked for, in order. -/
def checks (f : Form) (a : Account) : List Check := [
  ⟨a.token.isSome ∧ a.user.isSome, .notLoggedIn⟩,
  ⟨Text.trim f.name ≠ "", .missing "name"⟩,
  ⟨Plain (Text.trim f.name), .invalidName (Text.trim f.name)⟩,
  ⟨Legible f.description, .missing "description"⟩,
  ⟨Legible f.version, .missing "version"⟩,
  ⟨Legible f.repository, .missing "repository"⟩,
  ⟨Legible f.readme, .missing "readme"⟩]

theorem plain_iff {s : String} : Plain s ↔ s.toList.all isNameChar = true := by
  simp [Plain, isNameChar, or_assoc]

theorem legible_iff {s : String} : Legible s ↔ Text.isBlank s = false := by
  simp [Legible, Text.isBlank]

theorem follows_author (a : Account) :
    Follows [⟨a.token.isSome ∧ a.user.isSome, .notLoggedIn⟩] (author a) := by
  apply follows_single
  · rintro ⟨htoken, huser⟩
    obtain ⟨token, htoken⟩ := Option.isSome_iff_exists.mp htoken
    obtain ⟨user, huser⟩ := Option.isSome_iff_exists.mp huser
    exact ⟨user, by rw [author, htoken, huser]⟩
  · intro h
    unfold author
    split
    · simp_all
    · rfl

theorem follows_required (field text : String) :
    Follows [⟨Legible text, .missing field⟩] (required field text) := by
  apply follows_single
  · intro h
    exact ⟨(), by simp [required, legible_iff.mp h]⟩
  · intro h
    have hblank : Text.isBlank text = true := by simpa [legible_iff] using h
    simp [required, hblank]

theorem packageName_eq_ok_iff {text name : String} :
    packageName text = .ok name ↔ name ≠ "" ∧ Text.trim text = name ∧ Plain name := by
  rw [packageName, plain_iff]
  cases htrimmed : Text.trimmed? text with
  | none =>
      have hempty : Text.trim text = "" := by simpa [Text.trimmed?_eq] using htrimmed
      simp only [hempty, reduceCtorEq, false_iff]
      rintro ⟨hne, rfl, -⟩
      exact hne rfl
  | some t =>
      obtain ⟨hne, rfl⟩ := Text.trimmed?_eq_some_iff.mp htrimmed
      dsimp only
      constructor
      · intro h
        split_ifs at h with hall
        cases h
        exact ⟨hne, rfl, hall⟩
      · rintro ⟨-, rfl, hall⟩
        rw [if_pos hall]

theorem follows_packageName (name : String) :
    Follows [⟨Text.trim name ≠ "", .missing "name"⟩,
      ⟨Plain (Text.trim name), .invalidName (Text.trim name)⟩] (packageName name) := by
  intro flaw
  rw [packageName, Text.trimmed?_eq, firstFlaw_cons_iff, firstFlaw_cons_iff, plain_iff]
  by_cases hempty : Text.trim name = ""
  · simp [hempty]
  · cases hall : (Text.trim name).toList.all isNameChar with
    | true => simp [hempty, hall, not_firstFlaw_nil]
    | false => simp [hempty, hall, not_firstFlaw_nil]

/-- The checks of a form are made in their order, and nothing else can be wrong. -/
theorem follows_validate (f : Form) (a : Account) : Follows (f.checks a) (f.validate a) := by
  unfold validate
  apply (follows_author a).bind
  intro user _
  apply (follows_packageName f.name).bind
  intro name _
  apply (follows_required "description" f.description).bind
  intro _ _
  apply (follows_required "version" f.version).bind
  intro _ _
  apply (follows_required "repository" f.repository).bind
  intro _ _
  apply (follows_required "readme" f.readme).bind
  intro _ _
  exact follows_ok _

/-! ## Keywords -/

theorem trimmed?_of_mem_splitKeywords {s k : String} (h : k ∈ splitKeywords s) :
    Text.trimmed? k = some k ∧ ',' ∉ k.toList := by
  obtain ⟨piece, hpiece, hk⟩ := List.mem_filterMap.mp h
  obtain ⟨hne, rfl⟩ := Text.trimmed?_eq_some_iff.mp hk
  refine ⟨Text.trimmed?_eq_some_iff.mpr ⟨hne, Text.trim_trim piece⟩, ?_⟩
  intro hcomma
  exact Text.notMem_of_mem_split hpiece (Text.mem_of_mem_trim hcomma)

/-- Keywords that are joined with commas come apart again. -/
theorem splitKeywords_intercalate (s : String) :
    splitKeywords (",".intercalate (splitKeywords s)) = splitKeywords s := by
  by_cases hnone : splitKeywords s = []
  · rw [hnone]
    decide
  · have hsplit : Text.split ',' (",".intercalate (splitKeywords s)) = splitKeywords s :=
      Text.split_intercalate hnone fun k hk => (trimmed?_of_mem_splitKeywords hk).2
    have htrimmed : ∀ k ∈ splitKeywords s, Text.trimmed? k = some k :=
      fun k hk => (trimmed?_of_mem_splitKeywords hk).1
    rw [splitKeywords, hsplit, List.filterMap_congr htrimmed, List.filterMap_some]

/-! ## The publication that comes out -/

/-- What a form describes, under a name and with an author. -/
def described (f : Form) (user : Profile) (name : String) : Publication where
  name := name
  displayName := (Text.trimmed? f.displayName).getD name
  description := Text.trim f.description
  version := f.version
  author := user.login
  repository := Text.trim f.repository
  homepage := Text.trim f.homepage
  category := f.category
  license := f.license.getD .mit
  keywords := splitKeywords f.keywords
  readme := f.readme

/-- The form with the fields of a publication. -/
def ofPublication (p : Publication) : Form where
  name := p.name
  displayName := p.displayName
  description := p.description
  version := p.version
  repository := p.repository
  homepage := p.homepage
  category := p.category
  license := some p.license
  keywords := ",".intercalate p.keywords
  readme := p.readme

theorem required_eq_ok_iff {field text : String} {u : Unit} :
    required field text = .ok u ↔ Text.isBlank text = false := by
  cases hblank : Text.isBlank text <;> simp [required, hblank]

theorem validate_eq_ok_iff {f : Form} {a : Account} {p : Publication} :
    f.validate a = .ok p ↔ ∃ user name, author a = .ok user ∧ packageName f.name = .ok name ∧
      Text.isBlank f.description = false ∧ Text.isBlank f.version = false ∧
      Text.isBlank f.repository = false ∧ Text.isBlank f.readme = false ∧
      f.described user name = p := by
  simp only [validate, Results.bind_eq_ok_iff, required_eq_ok_iff, Results.pure_eq_ok,
    Except.ok.injEq, described, exists_and_left, exists_const]

/-- A display name, chosen or taken from the name, is kept as it is. -/
theorem trimmed?_displayName {text name : String} (hname : Text.trimmed? name = some name) :
    Text.trimmed? ((Text.trimmed? text).getD name) = some ((Text.trimmed? text).getD name) := by
  cases htext : Text.trimmed? text with
  | none => exact hname
  | some t =>
      obtain ⟨hne, rfl⟩ := Text.trimmed?_eq_some_iff.mp htext
      exact Text.trimmed?_eq_some_iff.mpr ⟨hne, Text.trim_trim text⟩

/-- What is described is described again by its own fields. -/
theorem described_ofPublication (f : Form) (user : Profile) {name : String}
    (hname : Text.trimmed? name = some name) :
    (ofPublication (f.described user name)).described user name = f.described user name := by
  simp only [described, ofPublication, Text.trim_trim, trimmed?_displayName hname,
    splitKeywords_intercalate, Option.getD_some]

/-- Handed in again, a publication comes out as it is. -/
theorem validate_ofPublication {f : Form} {a : Account} {p : Publication}
    (h : f.validate a = .ok p) : (ofPublication p).validate a = .ok p := by
  obtain ⟨user, name, hauthor, hname, hdescription, hversion, hrepository, hreadme, rfl⟩ :=
    validate_eq_ok_iff.mp h
  obtain ⟨hne, htrim, hplain⟩ := packageName_eq_ok_iff.mp hname
  have htrimmed : Text.trim name = name := by rw [← htrim, Text.trim_trim]
  have hagain : packageName name = .ok name := packageName_eq_ok_iff.mpr ⟨hne, htrimmed, hplain⟩
  rw [validate_eq_ok_iff]
  refine ⟨user, name, hauthor, hagain, ?_, hversion, ?_, hreadme, ?_⟩
  · exact (Text.isBlank_trim f.description).trans hdescription
  · exact (Text.isBlank_trim f.repository).trans hrepository
  · exact described_ofPublication f user (Text.trimmed?_eq_some_iff.mpr ⟨hne, htrimmed⟩)

/-! ## The whole check -/

/-- What the check of a form comes to. -/
structure Validated (f : Form) (a : Account) (r : Except FormFlaw Publication) : Prop where
  accepted : (∃ p, r = .ok p) ↔
    (a.token.isSome ∧ a.user.isSome) ∧ Text.trim f.name ≠ "" ∧ Plain (Text.trim f.name) ∧
      Legible f.description ∧ Legible f.version ∧ Legible f.repository ∧ Legible f.readme
  refused : ∀ flaw, r = .error flaw ↔ FirstFlaw (f.checks a) flaw
  keyword : ∀ p, r = .ok p → ∀ k ∈ p.keywords, k ≠ "" ∧ Text.trim k = k ∧ ',' ∉ k.toList
  keywords : ∀ p, r = .ok p → ∃ pieces, pieces ≠ [] ∧ ",".intercalate pieces = f.keywords ∧
    (∀ s ∈ pieces, ',' ∉ s.toList) ∧
    p.keywords = (pieces.filter fun s => !Text.isBlank s).map Text.trim
  again : ∀ p, r = .ok p → (ofPublication p).validate a = .ok p

/-- A form is accepted exactly when all that is checked holds, the first thing that is wrong is what
is reported, and what comes out is settled. -/
theorem validation_is_exact_and_settled (f : Form) (a : Account) :
    Validated f a (f.validate a) where
  accepted := by
    rw [(follows_validate f a).exists_ok_iff]
    simp [checks]
  refused := follows_validate f a
  keyword := by
    intro p hp k hk
    obtain ⟨user, name, -, -, -, -, -, -, rfl⟩ := validate_eq_ok_iff.mp hp
    obtain ⟨htrimmed, hcomma⟩ := trimmed?_of_mem_splitKeywords hk
    obtain ⟨hne, htrim⟩ := Text.trimmed?_eq_some_iff.mp htrimmed
    exact ⟨hne, htrim, hcomma⟩
  keywords := by
    intro p hp
    obtain ⟨user, name, -, -, -, -, -, -, rfl⟩ := validate_eq_ok_iff.mp hp
    exact ⟨Text.split ',' f.keywords, Text.split_ne_nil ',' f.keywords,
      Text.intercalate_split ',' f.keywords, fun s hs => Text.notMem_of_mem_split hs,
      Text.filterMap_trimmed? _⟩
  again := fun _ hp => validate_ofPublication hp

end PackageRegistry.Form
