import PackageRegistry.Proofs.Json.Fields
import PackageRegistry.Proofs.Listing
import PackageRegistry.Proofs.Text.Utf8

/-! # Entries that are packages

An entry of a listing is a package when its fields, as they are written, are of the types that a
package has. The fields that may be missing have defaults, and what is written besides them, and in
which order, does not matter. Where a record is an array, or a field with a default is null, it
takes a lenient or a strict reader to tell.
-/

namespace PackageRegistry

open Json (Decides Mark Manner Raw Reads Value)
open Json.Raw (Fills IsList IsNatural IsRecordOf IsText MayBeText Tidy)

/-- The manner in which packages are meant to be written: records are objects, and null is as good
as nothing. -/
def Json.Manner.documented : Manner := ⟨false, true⟩

namespace Package

variable {m m' : Manner} {x : Raw}

/-! ## What describes a package -/

structure Statistics.DescribedBy (m : Manner) (part : String → Option Raw) (s : Statistics) :
    Prop where
  downloads : Fills m.lenient IsNatural 0 (part "downloads") s.downloads
  stars : Fills m.lenient IsNatural 0 (part "stars") s.stars
  lastUpdated : MayBeText (part "lastUpdated") s.lastUpdated

structure Release.DescribedBy (m : Manner) (part : String → Option Raw) (r : Release) :
    Prop where
  version : Fills m.lenient IsText "" (part "version") r.version
  releaseDate : MayBeText (part "releaseDate") r.releaseDate
  releaseUrl : MayBeText (part "releaseUrl") r.releaseUrl
  downloadUrl : MayBeText (part "downloadUrl") r.downloadUrl
  checksum : MayBeText (part "checksum") r.checksum

def Statistics.Described (m : Manner) : Raw → Statistics → Prop :=
  IsRecordOf m fieldNames (DescribedBy m)

def Release.Described (m : Manner) : Raw → Release → Prop :=
  IsRecordOf m fieldNames (DescribedBy m)

/-- The parts of a record describe a package: there is a name, and every other field is of its type
or has its default. -/
structure DescribedBy (m : Manner) (part : String → Option Raw) (p : Package) : Prop where
  name : ∃ y, part "name" = some y ∧ y.IsText p.name
  displayName : Fills m.lenient IsText "" (part "displayName") p.displayName
  description : Fills m.lenient IsText "" (part "description") p.description
  version : Fills m.lenient IsText "" (part "version") p.version
  author : Fills m.lenient IsText "" (part "author") p.author
  repository : Fills m.lenient IsText "" (part "repository") p.repository
  homepage : MayBeText (part "homepage") p.homepage
  keywords : Fills m.lenient (IsList IsText) [] (part "keywords") p.keywords
  license : MayBeText (part "license") p.license
  category : MayBeText (part "category") p.category
  readme : Fills m.lenient IsText "" (part "readme") p.readme
  latestVersion : MayBeText (part "latestVersion") p.latestVersion
  versions : Fills m.lenient (IsList (Release.Described m)) [] (part "versions") p.versions
  stats : Fills m.lenient (Statistics.Described m) {} (part "stats") p.stats

def Described (m : Manner) : Raw → Package → Prop := IsRecordOf m fieldNames (DescribedBy m)

/-! ## What is read is what is described -/

theorem Statistics.decides_ofJson : Decides Statistics.ofJson (Described .observed) := by
  apply Json.decides_record
  intro part fields h s
  simp (disch := decide) only [Results.bind_eq_ok_iff, Results.pure_eq_ok, Except.ok.injEq,
    h.withDefault_eq_ok_iff Json.decides_natural, h.optional_eq_ok_iff]
  constructor
  · rintro ⟨_, hdownloads, _, hstars, _, hupdated, rfl⟩
    exact ⟨hdownloads, hstars, hupdated⟩
  · rintro ⟨hdownloads, hstars, hupdated⟩
    exact ⟨_, hdownloads, _, hstars, _, hupdated, rfl⟩

theorem Release.decides_ofJson : Decides Release.ofJson (Described .observed) := by
  apply Json.decides_record
  intro part fields h r
  simp (disch := decide) only [Results.bind_eq_ok_iff, Results.pure_eq_ok, Except.ok.injEq,
    h.withDefault_eq_ok_iff Json.decides_text, h.optional_eq_ok_iff]
  constructor
  · rintro ⟨_, hversion, _, hdate, _, hrelease, _, hdownload, _, hchecksum, rfl⟩
    exact ⟨hversion, hdate, hrelease, hdownload, hchecksum⟩
  · rintro ⟨hversion, hdate, hrelease, hdownload, hchecksum⟩
    exact ⟨_, hversion, _, hdate, _, hrelease, _, hdownload, _, hchecksum, rfl⟩

theorem decides_ofJson : Decides Package.ofJson (Described .observed) := by
  have hkeywords := Json.decides_list Json.decides_text
  have hversions := Json.decides_list Release.decides_ofJson
  apply Json.decides_record
  intro part fields h p
  simp (disch := decide) only [Results.bind_eq_ok_iff, Results.pure_eq_ok, Except.ok.injEq,
    h.required_eq_ok_iff Json.decides_text, h.withDefault_eq_ok_iff Json.decides_text,
    h.withDefault_eq_ok_iff hkeywords, h.withDefault_eq_ok_iff hversions,
    h.withDefault_eq_ok_iff Statistics.decides_ofJson, h.optional_eq_ok_iff]
  constructor
  · rintro ⟨_, hname, _, hdisplay, _, hdescription, _, hversion, _, hauthor, _, hrepository, _,
      hhomepage, _, hkeywords, _, hlicense, _, hcategory, _, hreadme, _, hlatest, _, hversions, _,
      hstats, rfl⟩
    exact ⟨hname, hdisplay, hdescription, hversion, hauthor, hrepository, hhomepage, hkeywords,
      hlicense, hcategory, hreadme, hlatest, hversions, hstats⟩
  · rintro ⟨hname, hdisplay, hdescription, hversion, hauthor, hrepository, hhomepage, hkeywords,
      hlicense, hcategory, hreadme, hlatest, hversions, hstats⟩
    exact ⟨_, hname, _, hdisplay, _, hdescription, _, hversion, _, hauthor, _, hrepository, _,
      hhomepage, _, hkeywords, _, hlicense, _, hcategory, _, hreadme, _, hlatest, _, hversions, _,
      hstats, rfl⟩

/-! ## Where the manners agree -/

/-- The fields of a package that have a default and cannot be null. -/
def defaulted : List String :=
  ["displayName", "description", "version", "author", "repository", "keywords", "readme",
    "versions", "stats"]

/-- All records in an entry are objects, and no field with a default in them is null. -/
structure TidyEntry (x : Raw) : Prop where
  entry : Tidy fieldNames defaulted x
  stats : ∀ y, x.part? fieldNames "stats" = some y →
    Tidy Statistics.fieldNames ["downloads", "stars"] y
  versions : ∀ items, x.part? fieldNames "versions" = some (.array items) →
    ∀ y ∈ items, Tidy Release.fieldNames ["version"] y

theorem Statistics.Described.change {s : Statistics} (h : Statistics.Described m x s)
    (hx : Tidy fieldNames ["downloads", "stars"] x) (m' : Manner) :
    Statistics.Described m' x s := by
  obtain ⟨hrecord, hparts⟩ := h
  refine ⟨(Raw.isRecord_iff_of_tidy hx m m').mp hrecord, ?_, ?_, hparts.lastUpdated⟩
  · exact (Raw.fills_iff (hx.notNull _ (by decide)) fun _ _ => Iff.rfl).mp hparts.downloads
  · exact (Raw.fills_iff (hx.notNull _ (by decide)) fun _ _ => Iff.rfl).mp hparts.stars

theorem Release.Described.change {r : Release} (h : Release.Described m x r)
    (hx : Tidy fieldNames ["version"] x) (m' : Manner) : Release.Described m' x r := by
  obtain ⟨hrecord, hparts⟩ := h
  refine ⟨(Raw.isRecord_iff_of_tidy hx m m').mp hrecord, ?_, hparts.releaseDate,
    hparts.releaseUrl, hparts.downloadUrl, hparts.checksum⟩
  exact (Raw.fills_iff (hx.notNull _ (by decide)) fun _ _ => Iff.rfl).mp hparts.version

/-- A tidy entry describes the same package in every manner. -/
theorem Described.change {p : Package} (h : Described m x p) (hx : TidyEntry x) (m' : Manner) :
    Described m' x p := by
  have hstats : ∀ y, x.part? fieldNames "stats" = some y →
      (Statistics.Described m y p.stats ↔ Statistics.Described m' y p.stats) :=
    fun y hy => ⟨fun hp => hp.change (hx.stats y hy) m', fun hp => hp.change (hx.stats y hy) m⟩
  have hversions : ∀ y, x.part? fieldNames "versions" = some y →
      (IsList (Release.Described m) y p.versions ↔ IsList (Release.Described m') y p.versions) := by
    intro y hy
    apply Raw.isList_congr
    rintro items rfl z hz r
    have hz := hx.versions items hy z hz
    exact ⟨fun hr => hr.change hz m', fun hr => hr.change hz m⟩
  have hnull := hx.entry.notNull
  obtain ⟨hrecord, hparts⟩ := h
  exact ⟨(Raw.isRecord_iff_of_tidy hx.entry m m').mp hrecord, {
    hparts with
    displayName :=
      (Raw.fills_iff (hnull _ (by decide)) fun _ _ => Iff.rfl).mp hparts.displayName
    description :=
      (Raw.fills_iff (hnull _ (by decide)) fun _ _ => Iff.rfl).mp hparts.description
    version := (Raw.fills_iff (hnull _ (by decide)) fun _ _ => Iff.rfl).mp hparts.version
    author := (Raw.fills_iff (hnull _ (by decide)) fun _ _ => Iff.rfl).mp hparts.author
    repository := (Raw.fills_iff (hnull _ (by decide)) fun _ _ => Iff.rfl).mp hparts.repository
    keywords := (Raw.fills_iff (hnull _ (by decide)) fun _ _ => Iff.rfl).mp hparts.keywords
    readme := (Raw.fills_iff (hnull _ (by decide)) fun _ _ => Iff.rfl).mp hparts.readme
    versions := (Raw.fills_iff (hnull _ (by decide)) hversions).mp hparts.versions
    stats := (Raw.fills_iff (hnull _ (by decide)) hstats).mp hparts.stats }⟩

/-- A package is described by its known fields alone. -/
theorem DescribedBy.of_same {part part' : String → Option Raw} {p : Package}
    (h : DescribedBy m part p) (hsame : ∀ name ∈ fieldNames, part' name = part name) :
    DescribedBy m part' p := by
  cases h
  constructor <;> simp (disch := decide) only [hsame] <;> assumption

end Package

/-! ## The entries of a body -/

namespace Listing

open Package (Described TidyEntry)

variable {body : List UInt8} {members : List (List Mark × Raw)} {entries : List Raw}

theorem toValue_of_mem_items {d : Nat} {values : List Value}
    (h : Raw.itemValues d entries = .ok values) {entry : Raw} (hentry : entry ∈ entries) :
    ∃ v, entry.toValue d = .ok v := by
  induction entries generalizing values with
  | nil => cases hentry
  | cons x entries ih =>
      obtain ⟨v, rest, hv, hrest, -⟩ := Raw.itemValues_cons_eq_ok_iff.mp h
      rcases List.mem_cons.mp hentry with rfl | hentry
      · exact ⟨v, hv⟩
      · exact ih hrest hentry

/-- Every entry of a body can be read by itself. -/
theorem toValue_of_enumerates (hbody : Carries body (.object members))
    (hentries : Enumerates members entries) {entry : Raw} (hentry : entry ∈ entries) :
    ∃ v, entry.toValue Raw.maxDepth = .ok v := by
  obtain ⟨-, v, hv⟩ := hbody
  generalize hmax : Raw.maxDepth = d at hv
  cases Raw.means_of_toValue hv with
  | @object d members fields hfields =>
      have hpackages := Raw.rel_member? hfields "packages"
      rw [hentries] at hpackages
      generalize Keyed.find? "packages" (Keyed.sort fields) = found at hpackages
      cases hpackages with
      | @some _ w hw =>
          cases Raw.means_of_toValue hw with
          | @array d _ values hitems =>
              obtain ⟨u, hu⟩ := toValue_of_mem_items hitems hentry
              exact ⟨u, Raw.toValue_mono entry hu (by omega)⟩

theorem describes_iff {entry : Raw} {v : Value} (hv : entry.toValue Raw.maxDepth = .ok v)
    (p : Package) : Describes entry p ↔ Described .observed entry p := by
  rw [← Package.decides_ofJson hv p]
  constructor
  · rintro ⟨v', hv', hp⟩
    cases hv.symm.trans hv'
    exact hp
  · exact fun hp => ⟨v, hv, hp⟩

/-- The entries of a body that describe a package are kept, in their order. Of a tidy entry that is
said in whatever manner; and unknown fields or another order of the fields make no difference. -/
theorem entries_are_kept_as_described {total : Nat} (hbody : Carries body (.object members))
    (htotal : Counts members total) (hentries : Enumerates members entries) :
    (ofBody body).problem = none ∧ (ofBody body).total = total ∧
    Kept entries (ofBody body).items ∧
    ∀ entry ∈ entries, ∀ p,
      (Describes entry p ↔ Described .observed entry p) ∧
      (TidyEntry entry → (Describes entry p ↔ Described .documented entry p)) ∧
      ∀ ms ms', entry = .object ms →
        ((∀ name ∈ Package.fieldNames, Raw.member? name ms' = Raw.member? name ms) ∨
          ms.Perm ms' ∧ (ms.map fun m => (Json.markText m.1).toOption).Nodup) →
        (Describes entry p ↔ Described .observed (.object ms') p) := by
  have hshows := shows_ofBody body
  have hitems := hshows.items members total entries hbody htotal hentries
  refine ⟨hshows.complete.mpr ⟨members, total, entries, hbody, htotal, hentries⟩, hitems.1,
    hitems.2, ?_⟩
  intro entry hentry p
  obtain ⟨v, hv⟩ := toValue_of_enumerates hbody hentries hentry
  have hdescribes := describes_iff hv p
  refine ⟨hdescribes, ?_, ?_⟩
  · intro htidy
    rw [hdescribes]
    exact ⟨fun h => h.change htidy _, fun h => h.change htidy _⟩
  · rintro ms ms' rfl hagree
    have hsame : ∀ name ∈ Package.fieldNames, Raw.member? name ms' = Raw.member? name ms := by
      rcases hagree with hsame | ⟨hperm, hkeys⟩
      · exact hsame
      · exact fun name _ => Raw.member?_perm hperm hkeys name
    rw [hdescribes]
    constructor
    · exact fun h => ⟨trivial, h.2.of_same hsame⟩
    · exact fun h => ⟨trivial, h.2.of_same fun name hname => (hsame name hname).symm⟩

/-! ### A body with entries of three kinds -/

/-- The member of an object that is written from its fields. -/
theorem member?_ofFields (key : String) (fs : List (String × Value)) :
    Raw.member? key (Raw.ofFields fs) = (Keyed.find? key fs.reverse).map Raw.ofValue := by
  have hmap : Raw.ofFields fs = fs.map fun f => (Json.marks f.1, Raw.ofValue f.2) := by
    induction fs with
    | nil => rfl
    | cons f fs ih => rw [Raw.ofFields, ih, List.map_cons]
  rw [Raw.member?, hmap, ← List.map_reverse]
  generalize fs.reverse = gs
  induction gs with
  | nil => rfl
  | cons g gs ih =>
      by_cases hg : g.1 = key
      · simp [Keyed.find?, hg, Json.markText_marks, Except.toOption]
      · simpa [Keyed.find?, hg, Json.markText_marks, Except.toOption] using ih

/-- A package as an array of its fields. -/
def listed : Value := .array [.string "x"]

/-- A package with a field that is null. -/
def nulled : Value := .object [("name", .string "y"), ("displayName", .null)]

/-- A package with a field that is not known. -/
def strayed : Value := .object [("stray", .null), ("name", .string "z")]

def mixedFields : List (String × Value) :=
  [("total", .nat 3), ("packages", .array [listed, nulled, strayed])]

def mixedBody : List UInt8 := Text.Utf8.encode (Value.object mixedFields).pretty

theorem carries_mixedBody : Carries mixedBody (.object (Raw.ofFields mixedFields)) := by
  have hplain : (Value.object mixedFields).Plain := by
    simp [mixedFields, listed, nulled, strayed, Value.Plain, Value.PlainFields, Value.PlainItems,
      Value.nat, Json.largest]
  have hdepth : (Value.object mixedFields).depth ≤ Raw.maxDepth := by decide
  refine ⟨?_, _, Json.toValue_ofValue _ _ hplain hdepth⟩
  rw [mixedBody, Text.Utf8.decode_encode, Json.Reader.document_pretty hplain]
  rfl

theorem counts_mixedFields : Counts (Raw.ofFields mixedFields) 3 := by
  refine ⟨.ofNat 3, ?_, by decide, by decide, by decide, by decide, by decide⟩
  rw [member?_ofFields]
  rfl

theorem enumerates_mixedFields :
    Enumerates (Raw.ofFields mixedFields) ([listed, nulled, strayed].map Raw.ofValue) := by
  rw [Enumerates, member?_ofFields]
  rfl

theorem tidyEntry_strayed : TidyEntry (Raw.ofValue strayed) := by
  have hnone : ∀ name ∈ Package.defaulted,
      (Raw.ofValue strayed).part? Package.fieldNames name = none := by
    have hfind : ∀ name ∈ Package.defaulted,
        (Keyed.find? name [("name", Value.string "z"), ("stray", .null)]).isNone = true := by decide
    intro name hname
    refine (member?_ofFields name _).trans ?_
    rw [Option.map_eq_none_iff, ← Option.isNone_iff_eq_none]
    exact hfind name hname
  refine ⟨⟨by simp [strayed, Raw.ofValue], ?_⟩, ?_, ?_⟩
  · intro name hname
    simp [hnone name hname]
  · simp [hnone "stats" (by decide)]
  · simp [hnone "versions" (by decide)]

/-- The body is read as its entries describe it, and the tidy one among them as it is meant to. -/
theorem strayed_is_kept_as_described :
    (ofBody mixedBody).total = 3 ∧
    Kept ([listed, nulled, strayed].map Raw.ofValue) (ofBody mixedBody).items ∧
    ∀ p, Describes (Raw.ofValue strayed) p ↔ Described .documented (Raw.ofValue strayed) p := by
  obtain ⟨-, htotal, hkept, hentries⟩ :=
    entries_are_kept_as_described carries_mixedBody counts_mixedFields enumerates_mixedFields
  refine ⟨htotal, hkept, ?_⟩
  intro p
  exact (hentries _ (by simp) p).2.1 tidyEntry_strayed

/-- A name will do for a package, also where its display name is null. -/
theorem described_nulled : Described .documented (Raw.ofValue nulled) { name := "y" } := by
  have hparts : ∀ name, (Raw.ofValue nulled).part? Package.fieldNames name =
      (Keyed.find? name [("displayName", .null), ("name", .string "y")]).map Raw.ofValue :=
    fun name => member?_ofFields name _
  refine ⟨trivial, ?_⟩
  constructor <;>
    simp [hparts, Keyed.find?, Raw.ofValue, Fills, MayBeText, IsText, Json.markText_marks,
      Manner.documented]

/-- What is kept of the body is not what is meant to be: an array is, and a package is not for a
field that is null. -/
theorem arrays_are_kept_and_nulls_are_not :
    Carries mixedBody (.object (Raw.ofFields mixedFields)) ∧
      Counts (Raw.ofFields mixedFields) 3 ∧
      Enumerates (Raw.ofFields mixedFields) ([listed, nulled, strayed].map Raw.ofValue) ∧
      (ofBody mixedBody).items = [{ name := "x" }, { name := "z" }] ∧
      (∀ p, ¬ Described .documented (Raw.ofValue listed) p) ∧
      Described .documented (Raw.ofValue nulled) { name := "y" } := by
  refine ⟨carries_mixedBody, counts_mixedFields, enumerates_mixedFields, by decide +kernel, ?_,
    described_nulled⟩
  rintro p ⟨hrecord, -⟩
  exact absurd hrecord.1 (by decide)

end Listing

end PackageRegistry
