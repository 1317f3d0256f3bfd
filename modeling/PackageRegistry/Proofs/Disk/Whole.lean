import PackageRegistry.Proofs.Disk

/-! # Whole disks

On a disk where everything stands in a directory, a directory that was made can be gone to.
-/

namespace PackageRegistry.Disk

variable {d : Disk} {path names : List String}

/-- Everything on the disk stands in a directory, and the current directory is one. -/
structure Whole (d : Disk) : Prop where
  current : d.get? d.current = some .directory
  above : ∀ path name, d.get? (path ++ [name]) ≠ none → d.get? path = some .directory

theorem whole_empty : Whole {} := by
  refine ⟨get?_nil _, ?_⟩
  intro path name h
  simp [get?] at h

theorem Whole.dropLast (h : d.Whole) (hpath : d.get? path = some .directory) :
    d.get? path.dropLast = some .directory := by
  cases path using List.reverseRecOn with
  | nil => exact hpath
  | append_singleton path name _ =>
      rw [List.dropLast_concat]
      exact h.above path name (by simp [hpath])

theorem Whole.origin (h : d.Whole) (l : Location) : d.get? (d.origin l) = some .directory := by
  unfold Disk.origin
  split_ifs
  · exact get?_nil d
  · exact h.current

/-- A directory is put into a directory. -/
theorem Whole.put (h : d.Whole) {name : String} (hpath : d.get? path = some .directory)
    (hnone : d.get? (path ++ [name]) = none) : (d.put (path ++ [name]) .directory).Whole := by
  have hgrown := grown_put hnone
  refine ⟨hgrown.kept _ _ h.current, ?_⟩
  intro other last hother
  by_cases hself : other ++ [last] = path ++ [name]
  · obtain rfl := (List.append_inj' hself rfl).1
    exact hgrown.kept _ _ hpath
  · rw [get?_put_of_ne d _ hself] at hother
    exact hgrown.kept _ _ (h.above other last hother)

/-- Where a way was made, it can be gone along to a directory. -/
structure Reaches (d : Disk) (path names : List String) : Prop where
  follow : d.follow path names = .ok (arrive path names)
  directory : d.get? (arrive path names) = some .directory

theorem Reaches.cons {name : String} (h : Reaches d (enter path name) names)
    (hpath : d.get? path = some .directory)
    (hname : name = "." ∨ name = ".." ∨ isTooLong name = false) :
    Reaches d path (name :: names) :=
  ⟨follow_cons_eq_ok_iff.mpr ⟨hpath, hname, h.follow⟩, h.directory⟩

theorem Reaches.cons_name {name : String} (h : Reaches d (path ++ [name]) names)
    (hpath : d.get? path = some .directory) (hdot : name ≠ ".") (hup : name ≠ "..")
    (hlong : ¬ isTooLong name = true) : Reaches d path (name :: names) := by
  refine .cons ?_ hpath (.inr (.inr (by simpa using hlong)))
  rwa [enter, if_neg hdot, if_neg hup]

theorem Whole.reaches_makeAlong (h : d.Whole) (hpath : d.get? path = some .directory)
    (hmade : (d.makeAlong path names).1 = .ok ()) :
    Reaches (d.makeAlong path names).2 path names := by
  fun_induction makeAlong d path names with
  | case1 d path => exact ⟨rfl, hpath⟩
  | case2 d path names ih =>
      exact (ih h hpath hmade).cons ((grown_makeAlong d path names).kept _ _ hpath) (.inl rfl)
  | case3 d path names _ ih =>
      exact (ih h (h.dropLast hpath) hmade).cons ((grown_makeAlong d _ names).kept _ _ hpath)
        (.inr (.inl rfl))
  | case4 => cases hmade
  | case5 d path name names hdot hup hlong next hnone ih =>
      have hgrown : Grown d (d.put next .directory) := grown_put hnone
      have hnext : (d.put next .directory).get? next = some .directory :=
        get?_put_self d _ (by simp [next])
      have hkept := (hgrown.trans (grown_makeAlong _ next names)).kept _ _ hpath
      exact (ih (h.put hpath hnone) hnext hmade).cons_name hkept hdot hup hlong
  | case6 d path name names hdot hup hlong next hdirectory ih =>
      have hkept := (grown_makeAlong d next names).kept _ _ hpath
      exact (ih h hdirectory hmade).cons_name hkept hdot hup hlong
  | case7 => cases hmade

/-- Whoever follows names to a dot at their end is in a directory. -/
theorem reaches_of_follow {p : List String} (h : d.follow path names = .ok p)
    (hlast : names.getLast? = some ".") : Reaches d path names := by
  obtain rfl := eq_arrive_of_follow h
  obtain ⟨front, rfl⟩ := List.getLast?_eq_some_iff.mp hlast
  refine ⟨h, ?_⟩
  rw [follow_append] at h
  obtain ⟨q, hq, hdot⟩ := Results.bind_eq_ok_iff.mp h
  have hdirectory := (follow_cons_eq_ok_iff.mp hdot).1
  obtain rfl := eq_arrive_of_follow hq
  simpa [arrive, enter] using hdirectory

/-- A directory that was made can be gone to. -/
theorem Whole.reaches_makeDirectory (h : d.Whole) {l : Location}
    (hmade : (d.makeDirectory l).1 = .ok ()) :
    Reaches (d.makeDirectory l).2 (d.origin l) l.names := by
  unfold makeDirectory at hmade ⊢
  split at hmade
  · cases hmade
  · split_ifs at hmade ⊢ with hlast
    · rcases makeAbove_cases d (d.origin l) l.names with ⟨d', -, hmake⟩ | ⟨fault, -, hfault⟩
      · rw [hmake] at hmade ⊢
        cases hfollow : d'.follow (d.origin l) l.names with
        | error fault => simp [hfollow] at hmade
        | ok p => exact reaches_of_follow hfollow hlast
      · simp [hfault] at hmade
    · exact h.reaches_makeAlong (h.origin l) hmade

end PackageRegistry.Disk
