import PackageRegistry.Proofs.Login

/-! # A file in place of memory

Whoever uses a store sees no difference between an account in memory and one in a file, as long as
the disk does its part; and where an account can be kept at first, it always does. A use that fails
leaves at the place of the file what was there, unless the way to the data directory leads through
that place.
-/

namespace PackageRegistry

/-- A fault of the disk, and not of what is written in the file. -/
def StoreFault.OfDisk : StoreFault → Prop
  | .parse _ _ => False
  | .read _ _ | .write _ | .replace _ => True

namespace AccountFile

variable {d e : Disk} {l : Location} {a b : Account}

/-! ## Faults -/

theorem ofDisk_of_save {fault : StoreFault} (h : (save l a d).1 = .error fault) :
    fault.OfDisk := by
  unfold save at h
  split at h
  · cases h
    trivial
  · split at h
    · cases h
      trivial
    · cases h

theorem ofDisk_of_clear {fault : StoreFault} (h : (clear l d).1 = .error fault) :
    fault.OfDisk := by
  unfold clear at h
  split at h
  · cases h
  · cases h
  · cases h
    trivial

/-! ## Places where an account can be kept -/

/-- The directory of the file is there, and so is room for the file. -/
structure Ready (l : Location) (d : Disk) : Prop where
  made : d.makeParent l = (.ok (), d)
  resolved : d.resolve l = .ok (d.pathOf l)
  free : d.get? (d.pathOf l) ≠ some .directory

/-- A change of the file itself leaves its place ready. -/
theorem Ready.of_elsewhere (h : Ready l d) (hcurrent : e.current = d.current)
    (hother : ∀ q, q ≠ d.pathOf l → e.get? q = d.get? q)
    (hfree : e.get? (d.pathOf l) ≠ some .directory) : Ready l e := by
  have hdirectories : ∀ q, d.get? q = some .directory → e.get? q = some .directory := by
    intro q hq
    rw [hother q fun heq => h.free (heq ▸ hq), hq]
  rw [← Disk.pathOf_congr hcurrent] at hfree
  refine ⟨?_, ?_, hfree⟩
  · refine Disk.makeDirectory_of_made (d := d) ?_ hcurrent ?_
    · exact congrArg Prod.fst h.made
    · rw [show d.makeDirectory l.parent = (.ok (), d) from h.made]
      exact hdirectories
  · rw [Disk.pathOf_congr hcurrent]
    exact Disk.resolve_of_directories hcurrent hdirectories h.resolved

theorem Ready.put (h : Ready l d) (bytes : List UInt8) :
    Ready l (d.put (d.pathOf l) (.file bytes)) := by
  refine h.of_elsewhere rfl (fun q hq => Disk.get?_put_of_ne d _ hq) ?_
  rw [Disk.get?_put_self d _ (Disk.ne_nil_of_get? h.free)]
  simp

theorem Ready.erase (h : Ready l d) : Ready l (d.erase (d.pathOf l)) := by
  refine h.of_elsewhere rfl (fun q hq => Disk.get?_erase_of_ne d hq) ?_
  rw [Disk.get?_erase_self d (Disk.ne_nil_of_get? h.free)]
  simp

theorem Ready.save (h : Ready l e) (hparent : d.makeParent l = (.ok (), e)) (a : Account) :
    save l a d = (.ok (), e.put (e.pathOf l) (.file (content a))) := by
  have hwrite : e.write l (content a) = (.ok (), e.put (e.pathOf l) (.file (content a))) := by
    simp only [Disk.write, h.resolved]
    split
    · exact absurd ‹_› h.free
    · rfl
  simp only [AccountFile.save, hparent, hwrite]

/-- Whether an account can be kept does not depend on the account. -/
theorem save_eq_ok_iff :
    (save l a d).1 = .ok () ↔ ∃ e, d.makeParent l = (.ok (), e) ∧ Ready l e := by
  constructor
  · intro h
    have hgrown : Disk.Grown d (d.makeParent l).2 := Disk.grown_makeParent d l
    rw [save] at h
    rcases hparent : d.makeParent l with ⟨result, e⟩
    rw [hparent] at h hgrown
    cases result with
    | error fault => cases h
    | ok _ =>
        have hmade : e.makeParent l = (.ok (), e) := by
          refine Disk.makeDirectory_of_made (d := d) (congrArg Prod.fst hparent) hgrown.current ?_
          rw [show d.makeDirectory l.parent = (.ok (), e) from hparent]
          exact fun q hq => hq
        rcases e.write_cases l (content a) with ⟨fault, hwrite, -⟩ | ⟨hresolve, hfree, -⟩
        · simp [hwrite] at h
        · exact ⟨e, rfl, hmade, hresolve, hfree⟩
  · rintro ⟨e, hparent, hready⟩
    rw [hready.save hparent]

/-- What was kept can be kept anew. -/
theorem ready_save (h : (save l a d).1 = .ok ()) : Ready l (save l a d).2 := by
  obtain ⟨e, hparent, hready⟩ := save_eq_ok_iff.mp h
  rw [hready.save hparent]
  exact hready.put _

theorem Ready.clear (h : Ready l d) :
    (clear l d).1 = .ok () ∧ Ready l (clear l d).2 := by
  rcases d.remove_cases l with ⟨fault, hremove, hread⟩ | ⟨bytes, -, -, hremove⟩
  · obtain rfl : fault = .notFound := by
      rw [Disk.read_of_resolve h.resolved] at hread
      split at hread
      · exact (Except.error.inj hread).symm
      · exact absurd ‹_› h.free
      · cases hread
    simpa [AccountFile.clear, hremove] using h
  · simpa [AccountFile.clear, hremove] using h.erase

/-- An account can be kept, and there is nothing but a file to be taken away. -/
def Open (l : Location) (d : Disk) : Prop :=
  Ready l d ∨ d.read l = .error .notFound ∧ ∃ e, d.makeParent l = (.ok (), e) ∧ Ready l e

theorem Open.save (h : Open l d) (a : Account) :
    (save l a d).1 = .ok () ∧ Open l (save l a d).2 := by
  have hsave : (AccountFile.save l a d).1 = .ok () := by
    refine save_eq_ok_iff.mpr ?_
    rcases h with hready | ⟨-, hready⟩
    · exact ⟨d, hready.made, hready⟩
    · exact hready
  exact ⟨hsave, .inl (ready_save hsave)⟩

theorem Open.clear (h : Open l d) : (clear l d).1 = .ok () ∧ Open l (clear l d).2 := by
  rcases h with hready | ⟨hmissing, hready⟩
  · exact ⟨hready.clear.1, .inl hready.clear.2⟩
  · rcases d.remove_cases l with ⟨fault, hremove, hread⟩ | ⟨bytes, hresolve, hfile, -⟩
    · cases hmissing.symm.trans hread
      simp only [AccountFile.clear, hremove, true_and]
      exact .inr ⟨hmissing, hready⟩
    · rw [Disk.read_of_resolve hresolve, hfile] at hmissing
      cases hmissing

end AccountFile

/-! ## Using a store -/

namespace Store

open AccountFile (found location)

/-- One use of a store. -/
inductive Use where
  | load
  | save (a : Account)
  | clear
deriving DecidableEq, Repr

/-- What a use gives, which is an account if it loads one, and the store after it. -/
def use : Use → Store → Except StoreFault (Option Account) × Store
  | .load, s => (s.load.map some, s)
  | .save a, s => ((s.save a).1.map fun _ => none, (s.save a).2)
  | .clear, s => (s.clear.1.map fun _ => none, s.clear.2)

/-- What uses give one after the other. -/
def results : List Use → Store → List (Except StoreFault (Option Account))
  | [], _ => []
  | u :: us, s => (use u s).1 :: results us (use u s).2

/-- The store after uses. -/
def after (us : List Use) (s : Store) : Store := us.foldl (fun s u => (use u s).2) s

variable {d : Disk} {l directory : Location} {a : Account} {fault : StoreFault}

theorem use_save_file (a : Account) (l : Location) (d : Disk) :
    use (.save a) (.file l d) =
      ((AccountFile.save l a d).1.map fun _ => none, .file l (AccountFile.save l a d).2) := by
  rw [use, save]

theorem use_clear_file (l : Location) (d : Disk) :
    use .clear (.file l d) =
      ((AccountFile.clear l d).1.map fun _ => none, .file l (AccountFile.clear l d).2) := by
  rw [use, clear]

/-! ## One use -/

/-- A file from which an account is loaded is used like the account in memory, or the disk has a
fault. -/
theorem use_file_cases (h : AccountFile.load l d = .ok a) (u : Use) :
    (∃ fault, (use u (.file l d)).1 = .error fault ∧ fault.OfDisk) ∨
      ∃ b e, use u (.file l d) = ((use u (.memory a)).1, .file l e) ∧
        (use u (.memory a)).2 = .memory b ∧ AccountFile.load l e = .ok b := by
  cases u with
  | load => exact .inr ⟨a, d, by simp only [use, load, h], rfl, h⟩
  | save b =>
      rw [use_save_file]
      cases hsave : (AccountFile.save l b d).1 with
      | error fault => exact .inl ⟨fault, rfl, AccountFile.ofDisk_of_save hsave⟩
      | ok _ => exact .inr ⟨b, _, rfl, rfl, AccountFile.load_save hsave⟩
  | clear =>
      rw [use_clear_file]
      cases hclear : (AccountFile.clear l d).1 with
      | error fault => exact .inl ⟨fault, rfl, AccountFile.ofDisk_of_clear hclear⟩
      | ok _ => exact .inr ⟨{}, _, rfl, rfl, AccountFile.load_clear hclear⟩

/-- Where an account can be kept and is loaded, no use fails. -/
theorem use_file_of_open (hopen : AccountFile.Open l d) (h : AccountFile.load l d = .ok a)
    (u : Use) :
    ∃ result e, use u (.file l d) = (.ok result, .file l e) ∧ AccountFile.Open l e := by
  cases u with
  | load => exact ⟨some a, d, by simp only [use, load, h, Results.map_ok], hopen⟩
  | save b =>
      obtain ⟨hsave, hafter⟩ := hopen.save b
      exact ⟨none, _, by rw [use_save_file, hsave, Results.map_ok], hafter⟩
  | clear =>
      obtain ⟨hclear, hafter⟩ := hopen.clear
      exact ⟨none, _, by rw [use_clear_file, hclear, Results.map_ok], hafter⟩

/-- A use that fails leaves what is at the place of the file. -/
theorem found_use (other : Disk)
    (hdata : ¬ d.LeadsThrough directory (d.pathOf (location directory))) (u : Use)
    (h : (use u (.file (location directory) d)).1 = .error fault) :
    found directory ((use u (.file (location directory) d)).2.diskOr other) =
      found directory d := by
  cases u with
  | load => rfl
  | save a =>
      rw [use_save_file] at h ⊢
      cases hsave : (AccountFile.save (location directory) a d).1 with
      | error fault => exact (AccountFile.found_save_error hsave hdata).2
      | ok _ => simp [hsave] at h
  | clear =>
      rw [use_clear_file] at h ⊢
      rcases AccountFile.clear_cases (location directory) d with
        ⟨fault, heq⟩ | ⟨heq, -⟩ | ⟨heq, -⟩
      · rw [heq]
        rfl
      · simp [heq] at h
      · simp [heq] at h

/-- A file store stays one, in the same place. -/
theorem use_file (l : Location) (d : Disk) (u : Use) :
    ∃ e, (use u (.file l d)).2 = .file l e ∧ e.current = d.current := by
  cases u with
  | load => exact ⟨d, rfl, rfl⟩
  | save a => exact ⟨_, by rw [use_save_file], AccountFile.current_save l a d⟩
  | clear =>
      refine ⟨_, by rw [use_clear_file], ?_⟩
      rcases AccountFile.clear_cases l d with ⟨fault, heq⟩ | ⟨heq, -⟩ | ⟨heq, -⟩
      · rw [heq]
      · rw [heq]
      · rw [heq, Disk.current_erase]

/-! ## Many uses -/

theorem after_file (l : Location) (us : List Use) (d : Disk) :
    ∃ e, after us (.file l d) = .file l e ∧ e.current = d.current := by
  induction us generalizing d with
  | nil => exact ⟨d, rfl, rfl⟩
  | cons u us ih =>
      obtain ⟨e, huse, hcurrent⟩ := use_file l d u
      obtain ⟨e', hafter, hcurrent'⟩ := ih e
      refine ⟨e', ?_, hcurrent'.trans hcurrent⟩
      rw [← hafter, ← huse]
      rfl

/-- Uses without a fault of the disk give what the account in memory gives. -/
theorem results_file (h : AccountFile.load l d = .ok a) (us : List Use)
    (hdisk : ∀ fault, .error fault ∈ results us (.file l d) → ¬ fault.OfDisk) :
    results us (.file l d) = results us (.memory a) := by
  induction us generalizing d a with
  | nil => rfl
  | cons u us ih =>
      rcases use_file_cases h u with ⟨fault, hfault, hof⟩ | ⟨b, e, huse, hmemory, hload⟩
      · exact absurd hof (hdisk fault (by simp [results, hfault]))
      · rw [results, huse] at hdisk ⊢
        rw [results, hmemory, ih hload fun fault hmem => hdisk fault (by simp [hmem])]

/-- Where an account can be kept at first, no use ever fails. -/
theorem error_not_mem_results (hopen : AccountFile.Open l d) (h : AccountFile.load l d = .ok a)
    (us : List Use) (fault : StoreFault) : .error fault ∉ results us (.file l d) := by
  induction us generalizing d a with
  | nil => simp [results]
  | cons u us ih =>
      obtain ⟨result, e, huse, hopen'⟩ := use_file_of_open hopen h u
      rcases use_file_cases h u with ⟨fault, hfault, -⟩ | ⟨b, e', huse', -, hload⟩
      · simp [huse] at hfault
      · have hload' : AccountFile.load l e = .ok b := by
          cases (Prod.mk.inj (huse.symm.trans huse')).2
          exact hload
        simpa [results, huse] using ih hopen' hload'

theorem load_of_use_save {s : Store} (h : (use (.save a) s).1 = .ok none) :
    (use .load (use (.save a) s).2).1 = .ok (some a) := by
  have hsave : (s.save a).1 = .ok () := by
    rw [use] at h
    cases hresult : (s.save a).1 with
    | error fault => simp [hresult] at h
    | ok _ => rfl
  simp only [use, load_save hsave, Results.map_ok]

/-- A disk with something at the place of the account file. -/
def occupied (entry : Entry) : Disk where
  entries := [(["d"], .directory), (["d", "session.json"], entry)]

end Store

end PackageRegistry
