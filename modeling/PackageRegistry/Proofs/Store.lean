import PackageRegistry.Proofs.Disk.Whole
import PackageRegistry.Proofs.Json.RoundTrip
import PackageRegistry.Proofs.Text.Utf8
import PackageRegistry.Store

/-! # Keeping an account

What is kept in a file is loaded from it. Keeping and forgetting an account change the disk in few
ways, and all that comes later rests on these.
-/

namespace PackageRegistry

open Json (Raw)
open Text (Glyph)

/-! ## Accounts as documents -/

namespace Profile

theorem plain_toJson (p : Profile) : p.toJson.Plain := by
  have hoptional : ∀ o : Option String, (Json.Value.optional o).Plain := by
    intro o
    cases o <;> trivial
  exact ⟨trivial, hoptional _, hoptional _, hoptional _, hoptional _, trivial⟩

theorem ofJson_toJson (p : Profile) : Profile.ofJson (Raw.ofValue p.toJson) = .ok p := by
  simp [ofJson, toJson, fieldNames, Json.Decode.record, Json.shape_ofValue_object,
    Json.Decode.known, Json.Decode.required, Json.Decode.optional, Json.Decode.withDefault,
    Keyed.find?]

end Profile

namespace Account

theorem plain_toJson (a : Account) : a.toJson.Plain := by
  obtain ⟨token, user⟩ := a
  refine ⟨?_, ?_, trivial⟩
  · cases token <;> trivial
  · cases user with
    | none => trivial
    | some u => exact u.plain_toJson

theorem ofJson_toJson (a : Account) : Account.ofJson (Raw.ofValue a.toJson) = .ok a := by
  obtain ⟨token, user⟩ := a
  have huser : Json.Decode.nullable Profile.ofJson
      (Raw.ofValue ((user.map Profile.toJson).getD .null)) = .ok user := by
    cases user with
    | none => exact Json.Decode.nullable_null _
    | some u =>
        refine (Json.Decode.nullable_object _ _).trans ?_
        have hprofile := u.ofJson_toJson
        rw [Profile.toJson] at hprofile
        rw [hprofile, Results.map_ok]
  simp [ofJson, toJson, fieldNames, Json.Decode.record, Json.shape_ofValue_object,
    Json.Decode.known, Json.Decode.optional, Json.Decode.withDefault, Keyed.find?, huser]

end Account

namespace AccountFile

variable {d e : Disk} {l directory : Location} {a : Account}

/-! ## Loading -/

/-- The bytes of a file that an account is loaded from. -/
def Holds (bytes : List UInt8) (a : Account) : Prop :=
  ∃ text, Text.Utf8.text? bytes = some text ∧
    Json.parseAs Account.ofJson (Glyph.ofString text) = .ok a

theorem holds_content (a : Account) : Holds (content a) a :=
  ⟨a.toJson.pretty, Text.Utf8.text?_encode _, Json.parseAs_pretty a.plain_toJson a.ofJson_toJson⟩

/-- What an account is loaded from is not blank. -/
theorem Holds.isBlank_eq_false {bytes : List UInt8} {text : String} (h : Holds bytes a)
    (htext : Text.Utf8.text? bytes = some text) : Text.isBlank text = false := by
  obtain ⟨text', htext', hparse⟩ := h
  obtain rfl : text = text' := Option.some.inj (htext.symm.trans htext')
  cases hblank : Text.isBlank text with
  | false => rfl
  | true =>
      obtain ⟨raw, hdocument, -⟩ := Results.bind_eq_ok_iff.mp hparse
      exact absurd hdocument (Json.Reader.document_ne_ok_of_blank hblank raw)

theorem readText_of_error {fault : DiskFault} (h : d.read l = .error fault) :
    d.readText l = .error fault := by
  simp only [Disk.readText, h, Results.error_bind]

theorem readText_eq_ok_iff {text : String} :
    d.readText l = .ok text ↔
      ∃ bytes, d.read l = .ok bytes ∧ Text.Utf8.text? bytes = some text := by
  cases hread : d.read l with
  | error fault => simp [readText_of_error hread]
  | ok bytes =>
      simp only [Disk.readText, hread, Results.ok_bind]
      cases htext : Text.Utf8.text? bytes <;> simp [htext]

/-- Only the bytes of the file matter for what is loaded. -/
theorem load_congr (h : e.read l = d.read l) : load l e = load l d := by
  rw [load, load, Disk.readText, Disk.readText, h]

theorem load_of_notFound (h : d.read l = .error .notFound) : load l d = .ok {} := by
  rw [load, readText_of_error h]

theorem load_of_error {fault : DiskFault} (h : d.read l = .error fault) (hne : fault ≠ .notFound) :
    load l d = .error (.read l fault) := by
  rw [load, readText_of_error h]
  cases fault <;> first | rfl | exact absurd rfl hne

theorem load_of_holds {bytes : List UInt8} (h : d.read l = .ok bytes) (hbytes : Holds bytes a) :
    load l d = .ok a := by
  obtain ⟨text, htext, hparse⟩ := hbytes
  have hread : d.readText l = .ok text := readText_eq_ok_iff.mpr ⟨bytes, h, htext⟩
  simp only [load, hread, hparse, Results.mapError_ok]

/-- An account is loaded from a file that holds it; where there is no file, it is empty. -/
theorem load_eq_ok_iff :
    load l d = .ok a ↔
      d.read l = .error .notFound ∧ a = {} ∨ ∃ bytes, d.read l = .ok bytes ∧ Holds bytes a := by
  constructor
  · intro h
    cases hread : d.read l with
    | error fault =>
        by_cases hnone : fault = .notFound
        · subst hnone
          rw [load_of_notFound hread] at h
          exact .inl ⟨rfl, (Except.ok.inj h).symm⟩
        · rw [load_of_error hread hnone] at h
          cases h
    | ok bytes =>
        refine .inr ⟨bytes, rfl, ?_⟩
        rw [load] at h
        split at h
        · rename_i hfault
          simp [Disk.readText, hread] at hfault
          split at hfault <;> simp at hfault
        · cases h
        · rename_i text htext
          obtain ⟨bytes', hbytes, htext⟩ := readText_eq_ok_iff.mp htext
          obtain rfl : bytes = bytes' := Except.ok.inj (hread.symm.trans hbytes)
          exact ⟨text, htext, Results.mapError_eq_ok_iff.mp h⟩
  · rintro (⟨hnone, rfl⟩ | ⟨bytes, hread, hbytes⟩)
    · exact load_of_notFound hnone
    · exact load_of_holds hread hbytes

/-- An account that is not empty comes from a file at the end of the way. -/
theorem exists_file_of_load (h : load l d = .ok a) (hne : a ≠ {}) :
    ∃ bytes, d.get? (d.pathOf l) = some (.file bytes) ∧ Holds bytes a := by
  rcases load_eq_ok_iff.mp h with ⟨-, hempty⟩ | ⟨bytes, hread, hholds⟩
  · exact absurd hempty hne
  · obtain ⟨path, hresolve, hfile⟩ := Disk.read_eq_ok_iff.mp hread
    rw [Disk.eq_pathOf_of_resolve hresolve] at hfile
    exact ⟨bytes, hfile, hholds⟩

/-- New directories do not hide a file. -/
theorem load_grown (hgrown : Disk.Grown d e) (h : load l d = .ok a) (hne : a ≠ {}) :
    load l e = .ok a := by
  rw [← h]
  apply load_congr
  apply hgrown.read_eq
  intro hmissing
  rw [load_of_notFound hmissing] at h
  exact hne (Except.ok.inj h).symm

/-! ## The place of the file -/

theorem isAbsolute_location (directory : Location) :
    (location directory).isAbsolute = directory.isAbsolute :=
  Location.isAbsolute_join directory (by decide)

theorem names_location (directory : Location) :
    (location directory).names = directory.names ++ ["session.json"] :=
  Location.names_join directory (by decide)

/-- The directory of the file is the data directory, without dots at its end. -/
theorem names_parent_location (directory : Location) :
    ∃ dots, directory.names = (location directory).parent.names ++ dots ∧
      ∀ n ∈ dots, n = "." := by
  rcases (location directory).names_parent_cases with
    ⟨hnil, -⟩ | ⟨dots, name, more, hnames, hdots, hmore⟩
  · simp [names_location] at hnil
  · refine ⟨dots, ?_, hdots⟩
    rw [names_location, ← List.append_assoc] at hnames
    -- no dot can stand behind the name of the file
    cases more using List.reverseRecOn with
    | nil => exact (List.append_inj' hnames rfl).1
    | append_singleton more last _ =>
        rw [← List.cons_append, ← List.append_assoc, hmore last (by simp)] at hnames
        have hlast := (List.append_inj' hnames rfl).2
        simp at hlast

theorem pathOf_location (d : Disk) (directory : Location) :
    d.pathOf (location directory) =
      Disk.arrive (d.origin directory) directory.names ++ ["session.json"] :=
  Disk.pathOf_join (c := 'n') d directory (by decide) (by decide) (by decide) (by decide)
    (by decide) (by decide)

/-- The way to the directory of the file is the way to the data directory. -/
theorem leadsThrough_parent_iff {path : List String} :
    d.LeadsThrough (location directory).parent path ↔ d.LeadsThrough directory path := by
  have hway : ∀ start, Disk.way start (location directory).parent.names =
      Disk.way start directory.names := by
    intro start
    obtain ⟨dots, hnames, hdots⟩ := names_parent_location directory
    rw [hnames, Disk.way_append_dots start _ hdots]
  have habsolute : (location directory).parent.isAbsolute = directory.isAbsolute := by
    rw [Location.isAbsolute_parent, isAbsolute_location]
  rw [Disk.LeadsThrough, Disk.LeadsThrough, Disk.origin, Disk.origin, hway, habsolute]

/-- What is at the place of the account file of a data directory. -/
def found (directory : Location) (d : Disk) : Option Entry :=
  d.get? (d.pathOf (location directory))

theorem found_congr (hcurrent : e.current = d.current)
    (h : e.get? (d.pathOf (location directory)) = d.get? (d.pathOf (location directory))) :
    found directory e = found directory d := by
  rw [found, found, Disk.pathOf_congr hcurrent, h]

/-! ## Keeping -/

/-- An account is kept at the place of the file, or at most directories above it are made, which
does not bring a file to light. -/
theorem save_cases (l : Location) (a : Account) (d : Disk) :
    (∃ fault, save l a d = (.error fault, (d.makeParent l).2) ∧
      ((d.makeParent l).2 = d ∨ ∀ bytes, (d.makeParent l).2.read l ≠ .ok bytes)) ∨
    (save l a d = (.ok (), (d.makeParent l).2.put (d.pathOf l) (.file (content a))) ∧
      ((d.makeParent l).2.put (d.pathOf l) (.file (content a))).read l = .ok (content a)) := by
  have hpath : (d.makeParent l).2.pathOf l = d.pathOf l :=
    Disk.pathOf_congr (Disk.grown_makeParent d l).current l
  have hfail : ∀ fault, (d.makeParent l).1 = .error fault →
      (d.makeParent l).2 = d ∨ ∀ bytes, (d.makeParent l).2.read l ≠ .ok bytes :=
    fun _ => Disk.read_makeParent_error
  rw [save]
  rcases hparent : d.makeParent l with ⟨result, e⟩
  rw [hparent] at hpath hfail
  cases result with
  | error fault => exact .inl ⟨.write fault, rfl, hfail fault rfl⟩
  | ok _ =>
      rcases e.write_cases l (content a) with ⟨fault, hwrite, hread⟩ | ⟨hresolve, hplace, hwrite⟩
      · exact .inl ⟨.replace fault, by simp only [hwrite], .inr hread⟩
      · right
        rw [hpath] at hwrite hresolve hplace
        simp only [hwrite, true_and]
        exact Disk.read_put _ hresolve hplace

theorem location_ne_empty (directory : Location) : location directory ≠ "" := by
  intro hempty
  have hnames := names_location directory
  rw [hempty, show Location.names "" = [] from rfl] at hnames
  simp at hnames

theorem target_location (directory : Location) :
    ∃ dots, (location directory).target =
        (location directory).parent.names ++ (dots ++ ["session.json"]) ∧ ∀ n ∈ dots, n = "." := by
  obtain ⟨dots, hnames, hdots⟩ := names_parent_location directory
  have htarget : (location directory).target = directory.names ++ ["session.json"] :=
    Location.target_join (c := 'n') directory (by decide) (by decide) (by decide)
  exact ⟨dots, by rw [htarget, ← List.append_assoc, ← hnames], hdots⟩

/-- A missing account file can be gone to once the data directory has been made. -/
theorem resolve_location (h : d.Whole) (hmissing : d.read (location directory) = .error .notFound)
    (hmade : (d.makeParent (location directory)).1 = .ok ()) :
    (d.makeParent (location directory)).2.resolve (location directory) =
      .ok (d.pathOf (location directory)) := by
  have hcurrent := (Disk.grown_makeParent d (location directory)).current
  have hreaches := h.reaches_makeDirectory hmade
  rw [← Disk.makeParent, Disk.origin_parent] at hreaches
  obtain ⟨dots, htarget, hdots⟩ := target_location directory
  have hresolve : (d.makeParent (location directory)).2.resolve (location directory) =
      .ok (Disk.arrive (d.origin (location directory)) (location directory).parent.names ++
        ["session.json"]) := by
    rw [Disk.resolve_eq_follow (Disk.fault?_of_notFound hmissing) (location_ne_empty directory),
      Disk.origin_congr hcurrent, htarget, Disk.follow_append, hreaches.follow]
    refine (Disk.follow_dots_append hreaches.directory hdots _).trans ?_
    have hshort : Disk.isTooLong "session.json" = false := by decide
    simp [Disk.follow, hreaches.directory, hshort]
  rw [hresolve, Disk.eq_pathOf_of_resolve hresolve, Disk.pathOf_congr hcurrent]

/-- Where nothing is at the place of the account file, an account can be kept if the data directory
can be made without using that place. -/
theorem save_of_found_none (h : d.Whole) (hmissing : d.read (location directory) = .error .notFound)
    (hnone : found directory d = none) (hmade : (d.makeParent (location directory)).1 = .ok ())
    (hdata : ¬ d.LeadsThrough directory (d.pathOf (location directory))) (a : Account) :
    (save (location directory) a d).1 = .ok () := by
  have hresolve := resolve_location h hmissing hmade
  have hfree : (d.makeParent (location directory)).2.get? (d.pathOf (location directory)) =
      none :=
    (Disk.get?_makeDirectory (mt leadsThrough_parent_iff.mp hdata)).trans hnone
  rw [save]
  rcases hparent : d.makeParent (location directory) with ⟨result, e⟩
  rw [hparent] at hmade hresolve hfree
  obtain rfl : result = .ok () := hmade
  simp only at hresolve hfree
  simp only [Disk.write, hresolve, hfree]

theorem current_save (l : Location) (a : Account) (d : Disk) :
    (save l a d).2.current = d.current := by
  have hgrown : Disk.Grown d (d.makeParent l).2 := Disk.grown_makeParent d l
  rcases save_cases l a d with ⟨fault, heq, -⟩ | ⟨heq, -⟩
  · simp only [heq, hgrown.current]
  · simp only [heq, Disk.current_put, hgrown.current]

/-- What was kept is loaded. -/
theorem load_save (h : (save l a d).1 = .ok ()) : load l (save l a d).2 = .ok a := by
  rcases save_cases l a d with ⟨fault, hsave, -⟩ | ⟨hsave, hread⟩
  · rw [hsave] at h
    cases h
  · rw [hsave]
    exact load_of_holds hread (holds_content a)

theorem found_save_error {fault : StoreFault}
    (hsave : (save (location directory) a d).1 = .error fault)
    (hdata : ¬ d.LeadsThrough directory (d.pathOf (location directory))) :
    Disk.Grown d (save (location directory) a d).2 ∧
      found directory (save (location directory) a d).2 = found directory d := by
  have hgrown : Disk.Grown d (d.makeParent (location directory)).2 := Disk.grown_makeParent d _
  rcases save_cases (location directory) a d with ⟨fault, heq, -⟩ | ⟨heq, -⟩
  · simp only [heq]
    refine ⟨hgrown, found_congr hgrown.current ?_⟩
    exact Disk.get?_makeDirectory (mt leadsThrough_parent_iff.mp hdata)
  · simp [heq] at hsave

/-! ## Forgetting -/

/-- A file is taken away, or was not there, or nothing can be done about it. -/
theorem clear_cases (l : Location) (d : Disk) :
    (∃ fault, clear l d = (.error fault, d)) ∨
    (clear l d = (.ok (), d) ∧ d.read l = .error .notFound) ∨
    (clear l d = (.ok (), d.erase (d.pathOf l)) ∧
      (d.erase (d.pathOf l)).read l = .error .notFound) := by
  rcases d.remove_cases l with ⟨fault, hremove, hread⟩ | ⟨bytes, hresolve, hfile, hremove⟩
  · by_cases hnone : fault = .notFound
    · subst hnone
      exact .inr (.inl ⟨by simp only [clear, hremove], hread⟩)
    · refine .inl ⟨.write fault, ?_⟩
      rw [clear, hremove]
      cases fault <;> first | rfl | exact absurd rfl hnone
  · right
    right
    refine ⟨by simp only [clear, hremove], ?_⟩
    exact Disk.read_erase hresolve (by simp [hfile])

theorem load_clear (h : (clear l d).1 = .ok ()) : load l (clear l d).2 = .ok {} := by
  rcases clear_cases l d with ⟨fault, hclear⟩ | ⟨hclear, hread⟩ | ⟨hclear, hread⟩
  · rw [hclear] at h
    cases h
  · rw [hclear]
    exact load_of_notFound hread
  · rw [hclear]
    exact load_of_notFound hread

end AccountFile

end PackageRegistry
