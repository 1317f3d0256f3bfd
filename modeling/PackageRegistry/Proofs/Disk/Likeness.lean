import PackageRegistry.Proofs.Disk

/-! # Disks that are alike but for one file

Two disks that differ in what one file says cannot be told apart by going anywhere, by making
directories, or by how an access ends. Only who reads that file sees a difference.
-/

namespace PackageRegistry.Disk

variable {d e : Disk} {path : List String}

/-- The same disks but for what is at a path. -/
structure SameBut (path : List String) (d e : Disk) : Prop where
  current : e.current = d.current
  home : e.home = d.home
  elsewhere : ∀ q, q ≠ path → e.get? q = d.get? q

theorem sameBut_put (d : Disk) (path : List String) (entry entry' : Entry) :
    SameBut path (d.put path entry) (d.put path entry') := by
  refine ⟨rfl, rfl, ?_⟩
  intro q hq
  rw [get?_put_of_ne d entry' hq, get?_put_of_ne d entry hq]

/-- The same disks but for what the file at a path says. -/
structure Alike (path : List String) (d e : Disk) : Prop extends SameBut path d e where
  file : ∃ content, d.get? path = some (.file content)
  otherFile : ∃ content, e.get? path = some (.file content)

theorem Alike.get?_cases (h : Alike path d e) (q : List String) :
    e.get? q = d.get? q ∨ q = path ∧
      (∃ content, d.get? q = some (.file content)) ∧
        ∃ content, e.get? q = some (.file content) := by
  by_cases hq : q = path
  · subst hq
    exact .inr ⟨rfl, h.file, h.otherFile⟩
  · exact .inl (h.elsewhere q hq)

/-! ## Going somewhere -/

theorem Alike.follow_eq (h : Alike path d e) (start names : List String) :
    e.follow start names = d.follow start names := by
  induction names generalizing start with
  | nil => rfl
  | cons name names ih =>
      unfold follow
      rcases h.get?_cases start with hsame | ⟨-, ⟨content, hd⟩, ⟨content', he⟩⟩
      · rw [hsame]
        simp only [ih]
      · rw [hd, he]

theorem Alike.resolve_eq (h : Alike path d e) (l : Location) : e.resolve l = d.resolve l := by
  rcases resolve_eq_follow_or l with hfollow | ⟨fault, hfault⟩
  · rw [hfollow, hfollow, origin_congr h.current, h.follow_eq]
  · rw [hfault, hfault]

/-! ## Reading -/

/-- A read ends in the same way, and with the same bytes unless they are those of the file. -/
theorem Alike.read_cases (h : Alike path d e) (l : Location) :
    e.read l = d.read l ∨ d.resolve l = .ok path ∧
      (∃ content, d.read l = .ok content) ∧ ∃ content, e.read l = .ok content := by
  cases hresolve : d.resolve l with
  | error fault =>
      left
      rw [read_of_resolve_error hresolve, read_of_resolve_error ((h.resolve_eq l).trans hresolve)]
  | ok q =>
      have hd := read_of_resolve hresolve
      have he := read_of_resolve ((h.resolve_eq l).trans hresolve)
      rcases h.get?_cases q with hsame | ⟨rfl, ⟨content, hfile⟩, ⟨content', hother⟩⟩
      · left
        rw [hd, he, hsame]
      · right
        rw [hfile] at hd
        rw [hother] at he
        exact ⟨rfl, ⟨content, hd⟩, ⟨content', he⟩⟩

theorem Alike.entry?_eq (h : Alike path d e) {l : Location} (hl : d.resolve l ≠ .ok path) :
    e.entry? l = d.entry? l := by
  unfold entry?
  rw [h.resolve_eq]
  cases hresolve : d.resolve l with
  | error fault => rfl
  | ok q =>
      refine h.elsewhere q ?_
      rintro rfl
      exact hl hresolve

/-! ## Changing the disks -/

/-- Writing ends in the same way. -/
theorem Alike.write_fst (h : Alike path d e) (l : Location) (content : List UInt8) :
    (e.write l content).1 = (d.write l content).1 := by
  unfold write
  rw [h.resolve_eq]
  cases d.resolve l with
  | error fault => rfl
  | ok q =>
      rcases h.get?_cases q with hsame | ⟨-, ⟨bytes, hd⟩, ⟨bytes', he⟩⟩
      · simp only [hsame]
        split <;> rfl
      · simp only [hd, he]

/-- Removing ends in the same way. -/
theorem Alike.remove_fst (h : Alike path d e) (l : Location) :
    (e.remove l).1 = (d.remove l).1 := by
  unfold remove
  rw [h.resolve_eq]
  cases d.resolve l with
  | error fault => rfl
  | ok q =>
      rcases h.get?_cases q with hsame | ⟨-, ⟨bytes, hd⟩, ⟨bytes', he⟩⟩
      · simp only [hsame]
        split <;> rfl
      · simp only [hd, he]

theorem Alike.put (h : Alike path d e) {q : List String} (hq : q ≠ path) (entry : Entry) :
    Alike path (d.put q entry) (e.put q entry) := by
  have hd : (d.put q entry).get? path = d.get? path := get?_put_of_ne d entry (Ne.symm hq)
  have he : (e.put q entry).get? path = e.get? path := get?_put_of_ne e entry (Ne.symm hq)
  refine ⟨⟨h.current, h.home, ?_⟩, ?_, ?_⟩
  · intro p hp
    by_cases hself : p = q
    · subst hself
      by_cases hroot : p = []
      · simp [hroot]
      · rw [get?_put_self _ _ hroot, get?_put_self _ _ hroot]
    · rw [get?_put_of_ne _ _ hself, get?_put_of_ne _ _ hself, h.elsewhere p hp]
  · rw [hd]
    exact h.file
  · rw [he]
    exact h.otherFile

/-- Directories are made along the same way, and the disks stay alike. -/
theorem Alike.makeAlong (h : Alike path d e) (start names : List String) :
    (e.makeAlong start names).1 = (d.makeAlong start names).1 ∧
      Alike path (d.makeAlong start names).2 (e.makeAlong start names).2 := by
  induction names generalizing d e start with
  | nil => exact ⟨rfl, h⟩
  | cons name names ih =>
      unfold Disk.makeAlong
      by_cases hdot : name = "."
      · simp only [if_pos hdot]
        exact ih h start
      by_cases hup : name = ".."
      · simp only [if_neg hdot, if_pos hup]
        exact ih h _
      by_cases hlong : isTooLong name = true
      · simp only [if_neg hdot, if_neg hup, if_pos hlong]
        exact ⟨trivial, h⟩
      simp only [if_neg hdot, if_neg hup, if_neg hlong]
      rcases h.get?_cases (start ++ [name]) with hsame | ⟨-, ⟨bytes, hd⟩, ⟨bytes', he⟩⟩
      · rw [hsame]
        cases hget : d.get? (start ++ [name]) with
        | none =>
            refine ih (h.put ?_ .directory) _
            rintro rfl
            obtain ⟨content, hfile⟩ := h.file
            simp [hget] at hfile
        | some entry =>
            cases entry with
            | directory => exact ih h _
            | file content => exact ⟨rfl, h⟩
      · rw [hd, he]
        exact ⟨rfl, h⟩

theorem Alike.makeAbove (h : Alike path d e) (start names : List String) :
    (e.makeAbove start names).1 = (d.makeAbove start names).1 ∧
      Alike path (d.makeAbove start names).2 (e.makeAbove start names).2 := by
  unfold Disk.makeAbove
  rw [h.follow_eq]
  split
  · exact ⟨rfl, h⟩
  · obtain ⟨hsame, halike⟩ := h.makeAlong start (aboveLast names)
    rcases hd : d.makeAlong start (aboveLast names) with ⟨result, d'⟩
    rcases he : e.makeAlong start (aboveLast names) with ⟨result', e'⟩
    rw [hd, he] at hsame halike
    obtain rfl : result' = result := hsame
    cases result' with
    | error fault => exact ⟨rfl, halike⟩
    | ok _ =>
        replace halike : Alike path d' e' := halike
        exact ⟨by simp only [halike.follow_eq], halike⟩
  · exact ⟨rfl, h⟩

theorem Alike.makeDirectory (h : Alike path d e) (l : Location) :
    (e.makeDirectory l).1 = (d.makeDirectory l).1 ∧
      Alike path (d.makeDirectory l).2 (e.makeDirectory l).2 := by
  unfold Disk.makeDirectory
  rw [origin_congr h.current]
  split
  · exact ⟨rfl, h⟩
  · split_ifs
    · exact h.makeAbove _ _
    · exact h.makeAlong _ _

end PackageRegistry.Disk
