import PackageRegistry.Proofs.Location
import PackageRegistry.Proofs.Results

/-! # What a location leads to

A location leads to one real path, whatever is on the disk; what is there only decides whether the
way can be taken. Making directories along a way adds directories to a disk and touches nothing
else.
-/

namespace PackageRegistry

namespace Disk

variable {d e : Disk}

/-! ## Ways -/

/-- Where a name leads to from a path. -/
def enter (path : List String) (name : String) : List String :=
  if name = "." then path else if name = ".." then path.dropLast else path ++ [name]

/-- Where names lead to from a path. -/
def arrive (path names : List String) : List String := names.foldl enter path

/-- The paths that names enter from a path on. -/
def way (path : List String) : List String → List (List String)
  | [] => []
  | name :: names =>
    if name = "." then way path names
    else if name = ".." then way path.dropLast names
    else (path ++ [name]) :: way (path ++ [name]) names

/-- The real path that a location leads to, whether or not the way there can be taken. -/
def pathOf (d : Disk) (l : Location) : List String := arrive (d.origin l) l.target

/-- Whether the way to a location, or the location itself, is at a path. -/
def LeadsThrough (d : Disk) (l : Location) (path : List String) : Prop :=
  path ∈ way (d.origin l) l.names

instance (d : Disk) (l : Location) (path : List String) : Decidable (d.LeadsThrough l path) :=
  inferInstanceAs (Decidable (path ∈ way (d.origin l) l.names))

/-- A way goes on from a directory, by a name that is not too long. -/
theorem follow_cons_eq_ok_iff {path names p : List String} {name : String} :
    d.follow path (name :: names) = .ok p ↔
      d.get? path = some .directory ∧ (name = "." ∨ name = ".." ∨ isTooLong name = false) ∧
        d.follow (enter path name) names = .ok p := by
  rw [follow, enter]
  cases d.get? path with
  | none => simp
  | some entry =>
      cases entry with
      | file content => simp
      | directory => split_ifs <;> simp_all

/-- What is followed to its end ends where it leads. -/
theorem eq_arrive_of_follow {path names p : List String} (h : d.follow path names = .ok p) :
    p = arrive path names := by
  induction names generalizing path with
  | nil => exact (Except.ok.inj h).symm
  | cons name names ih => exact ih (follow_cons_eq_ok_iff.mp h).2.2

theorem follow_append (d : Disk) (path xs ys : List String) :
    d.follow path (xs ++ ys) = (d.follow path xs).bind fun q => d.follow q ys := by
  induction xs generalizing path with
  | nil => rfl
  | cons name xs ih =>
      rw [List.cons_append, follow, follow]
      cases d.get? path with
      | none => rfl
      | some entry =>
          cases entry with
          | file content => rfl
          | directory =>
              simp only [ih]
              split_ifs <;> rfl

/-- Dots lead from a directory to itself. -/
theorem follow_dots_append {path dots : List String} (h : d.get? path = some .directory)
    (hdots : ∀ n ∈ dots, n = ".") (ys : List String) :
    d.follow path (dots ++ ys) = d.follow path ys := by
  induction dots with
  | nil => rfl
  | cons name dots ih =>
      obtain rfl := hdots name (by simp)
      rw [List.cons_append, follow, h]
      simpa using ih fun n hn => hdots n (by simp [hn])

/-- The paths on a part of the way are on the way. -/
theorem mem_way_append {path xs q : List String} (h : q ∈ way path xs) (ys : List String) :
    q ∈ way path (xs ++ ys) := by
  fun_induction way path xs with
  | case1 => cases h
  | case2 path xs ih => simpa [way] using ih h
  | case3 path xs _ ih => simpa [way] using ih h
  | case4 path name xs hdot hup ih =>
      rw [List.cons_append, way, if_neg hdot, if_neg hup]
      rcases List.mem_cons.mp h with rfl | h
      · exact List.mem_cons_self
      · exact List.mem_cons_of_mem _ (ih h)

/-- Dots at the end of a way lead no further. -/
theorem way_append_dots (path xs : List String) {dots : List String} (h : ∀ n ∈ dots, n = ".") :
    way path (xs ++ dots) = way path xs := by
  fun_induction way path xs with
  | case1 path =>
      induction dots with
      | nil => rfl
      | cons name dots ih =>
          obtain rfl := h name (by simp)
          simpa [way] using ih fun n hn => h n (by simp [hn])
  | case2 path xs ih => simpa [way] using ih
  | case3 path xs _ ih => simpa [way] using ih
  | case4 path name xs hdot hup ih =>
      rw [List.cons_append, way, if_neg hdot, if_neg hup, ih]

theorem follow_of_resolve {l : Location} {p : List String} (h : d.resolve l = .ok p) :
    d.follow (d.origin l) l.target = .ok p := by
  unfold resolve at h
  split at h
  · cases h
  · split_ifs at h
    exact h

theorem eq_pathOf_of_resolve {l : Location} {p : List String} (h : d.resolve l = .ok p) :
    p = d.pathOf l :=
  eq_arrive_of_follow (follow_of_resolve h)

theorem origin_congr (h : e.current = d.current) (l : Location) : e.origin l = d.origin l := by
  rw [origin, origin, h]

theorem origin_parent (d : Disk) (l : Location) : d.origin l.parent = d.origin l := by
  rw [origin, origin, Location.isAbsolute_parent]

theorem pathOf_congr (h : e.current = d.current) (l : Location) : e.pathOf l = d.pathOf l := by
  rw [pathOf, pathOf, origin_congr h]

/-- A name leads to an entry of its own below a location. -/
theorem pathOf_join (d : Disk) (base : Location) {name : Location} {c : Char}
    (hrelative : name.isAbsolute = false) (hlast : name.toList.getLast? = some c) (hc : c ≠ '/')
    (hnames : name.names = [name]) (hdot : name ≠ ".") (hup : name ≠ "..") :
    d.pathOf (base.join name) = arrive (d.origin base) base.names ++ [name] := by
  rw [pathOf, Location.target_join base hrelative hlast hc, hnames, arrive, List.foldl_append,
    origin, origin, Location.isAbsolute_join base hrelative]
  simp only [List.foldl_cons, List.foldl_nil, enter, if_neg hdot, if_neg hup]
  rfl

/-- A location can be resolved by following its names, or on no disk at all. -/
theorem resolve_eq_follow_or (l : Location) :
    (∀ d : Disk, d.resolve l = d.follow (d.origin l) l.target) ∨
      ∃ fault, ∀ d : Disk, d.resolve l = .error fault := by
  unfold resolve
  cases hfault : l.fault? with
  | some fault => exact .inr ⟨fault, fun _ => rfl⟩
  | none =>
      by_cases hempty : l = ""
      · exact .inr ⟨.notFound, fun _ => if_pos hempty⟩
      · exact .inl fun _ => if_neg hempty

theorem resolve_eq_follow {l : Location} (hfault : l.fault? = none) (hne : l ≠ "") (d : Disk) :
    d.resolve l = d.follow (d.origin l) l.target := by
  rw [resolve, hfault]
  exact if_neg hne

/-! ## Disks with the same directories -/

/-- Where a way can be taken, it still can as long as no directory goes away. -/
theorem follow_of_directories (h : ∀ q, d.get? q = some .directory → e.get? q = some .directory)
    {path p : List String} {names : List String} (hd : d.follow path names = .ok p) :
    e.follow path names = .ok p := by
  induction names generalizing path with
  | nil => exact hd
  | cons name names ih =>
      obtain ⟨hpath, hname, hrest⟩ := follow_cons_eq_ok_iff.mp hd
      exact follow_cons_eq_ok_iff.mpr ⟨h path hpath, hname, ih hrest⟩

theorem resolve_of_directories (hcurrent : e.current = d.current)
    (h : ∀ q, d.get? q = some .directory → e.get? q = some .directory) {l : Location}
    {p : List String} (hd : d.resolve l = .ok p) : e.resolve l = .ok p := by
  rcases resolve_eq_follow_or l with hfollow | ⟨fault, hfault⟩
  · rw [hfollow] at hd ⊢
    rw [origin_congr hcurrent]
    exact follow_of_directories h hd
  · rw [hfault] at hd
    cases hd

theorem read_of_resolve {l : Location} {p : List String} (h : d.resolve l = .ok p) :
    d.read l = match d.get? p with
      | none => .error .notFound
      | some .directory => .error .isADirectory
      | some (.file content) => .ok content := by
  cases hget : d.get? p with
  | none => simp only [read, h, Results.ok_bind, hget]
  | some entry => cases entry <;> simp only [read, h, Results.ok_bind, hget]

theorem read_of_resolve_error {l : Location} {fault : DiskFault} (h : d.resolve l = .error fault) :
    d.read l = .error fault := by
  simp only [read, h, Results.error_bind]

/-- A location that can be on no disk is not just missing. -/
theorem fault?_of_notFound {l : Location} (h : d.read l = .error .notFound) :
    l.fault? = none := by
  cases hfault : l.fault? with
  | none => rfl
  | some fault =>
      have hresolve : d.resolve l = .error fault := by simp only [resolve, hfault]
      obtain rfl : fault = .notFound :=
        Except.error.inj ((read_of_resolve_error hresolve).symm.trans h)
      unfold Location.fault? at hfault
      split_ifs at hfault <;> cases hfault

theorem read_eq_ok_iff {l : Location} {content : List UInt8} :
    d.read l = .ok content ↔ ∃ p, d.resolve l = .ok p ∧ d.get? p = some (.file content) := by
  constructor
  · intro h
    cases hresolve : d.resolve l with
    | error fault => simp [read_of_resolve_error hresolve] at h
    | ok p =>
        rw [read_of_resolve hresolve] at h
        refine ⟨p, rfl, ?_⟩
        split at h <;> simp_all
  · rintro ⟨p, hresolve, hfile⟩
    rw [read_of_resolve hresolve, hfile]

/-! ## Writing and removing a file -/

@[simp] theorem current_put (d : Disk) (path : List String) (entry : Entry) :
    (d.put path entry).current = d.current := rfl

@[simp] theorem current_erase (d : Disk) (path : List String) :
    (d.erase path).current = d.current := rfl

/-- A change where no directory is leaves all ways as they are. -/
theorem resolve_of_elsewhere {p : List String} (hcurrent : e.current = d.current)
    (hp : d.get? p ≠ some .directory) (h : ∀ q, q ≠ p → e.get? q = d.get? q) {l : Location}
    {q : List String} (hd : d.resolve l = .ok q) : e.resolve l = .ok q := by
  refine resolve_of_directories hcurrent ?_ hd
  intro q hq
  rw [h q fun heq => hp (heq ▸ hq), hq]

theorem ne_nil_of_get? {p : List String} (hp : d.get? p ≠ some .directory) : p ≠ [] := by
  rintro rfl
  exact hp (get?_nil d)

/-- A file that was put at the end of a way is read from there. -/
theorem read_put {l : Location} {p : List String} (content : List UInt8)
    (hresolve : d.resolve l = .ok p) (hp : d.get? p ≠ some .directory) :
    (d.put p (.file content)).read l = .ok content := by
  refine read_eq_ok_iff.mpr ⟨p, ?_, get?_put_self d _ (ne_nil_of_get? hp)⟩
  exact resolve_of_elsewhere (current_put d p _) hp (fun q hq => get?_put_of_ne d _ hq) hresolve

theorem read_erase {l : Location} {p : List String} (hresolve : d.resolve l = .ok p)
    (hp : d.get? p ≠ some .directory) : (d.erase p).read l = .error .notFound := by
  have hstill : (d.erase p).resolve l = .ok p :=
    resolve_of_elsewhere (current_erase d p) hp (fun q hq => get?_erase_of_ne d hq) hresolve
  rw [read_of_resolve hstill, get?_erase_self d (ne_nil_of_get? hp)]

/-- Writing changes the disk at one path, or fails where no file can be. -/
theorem write_cases (d : Disk) (l : Location) (content : List UInt8) :
    (∃ fault, d.write l content = (.error fault, d) ∧ ∀ bytes, d.read l ≠ .ok bytes) ∨
      (d.resolve l = .ok (d.pathOf l) ∧ d.get? (d.pathOf l) ≠ some .directory ∧
        d.write l content = (.ok (), d.put (d.pathOf l) (.file content))) := by
  cases hresolve : d.resolve l with
  | error fault =>
      refine .inl ⟨fault, by simp only [write, hresolve], ?_⟩
      simp [read_of_resolve_error hresolve]
  | ok p =>
      obtain rfl := eq_pathOf_of_resolve hresolve
      by_cases hp : d.get? (d.pathOf l) = some .directory
      · refine .inl ⟨.isADirectory, by simp only [write, hresolve, hp], ?_⟩
        simp [read_of_resolve hresolve, hp]
      · refine .inr ⟨rfl, hp, ?_⟩
        simp only [write, hresolve]

/-- Removing takes a file away, or fails and says why there is none. -/
theorem remove_cases (d : Disk) (l : Location) :
    (∃ fault, d.remove l = (.error fault, d) ∧ d.read l = .error fault) ∨
      ∃ content, d.resolve l = .ok (d.pathOf l) ∧ d.get? (d.pathOf l) = some (.file content) ∧
        d.remove l = (.ok (), d.erase (d.pathOf l)) := by
  cases hresolve : d.resolve l with
  | error fault =>
      exact .inl ⟨fault, by simp only [remove, hresolve], read_of_resolve_error hresolve⟩
  | ok p =>
      obtain rfl := eq_pathOf_of_resolve hresolve
      have hread := read_of_resolve hresolve
      cases hget : d.get? (d.pathOf l) with
      | none => exact .inl ⟨.notFound, by simp only [remove, hresolve, hget], by rw [hread, hget]⟩
      | some entry =>
          cases entry with
          | directory =>
              exact .inl ⟨.isADirectory, by simp only [remove, hresolve, hget], by rw [hread, hget]⟩
          | file content =>
              exact .inr ⟨content, rfl, rfl, by simp only [remove, hresolve, hget]⟩

/-! ## Making directories -/

/-- One disk has all that the other has, and maybe more directories. -/
structure Grown (d e : Disk) : Prop where
  current : e.current = d.current
  home : e.home = d.home
  kept : ∀ q entry, d.get? q = some entry → e.get? q = some entry
  made : ∀ q, d.get? q = none → e.get? q = none ∨ e.get? q = some .directory

theorem Grown.refl (d : Disk) : Grown d d :=
  ⟨rfl, rfl, fun _ _ h => h, fun _ h => .inl h⟩

theorem grown_put {path : List String} (h : d.get? path = none) :
    Grown d (d.put path .directory) := by
  have hne : path ≠ [] := by
    rintro rfl
    simp at h
  refine ⟨rfl, rfl, ?_, ?_⟩
  · intro q entry hq
    have hother : q ≠ path := by
      rintro rfl
      simp [h] at hq
    rw [get?_put_of_ne d _ hother, hq]
  · intro q hq
    by_cases hself : q = path
    · subst hself
      exact .inr (get?_put_self d _ hne)
    · rw [get?_put_of_ne d _ hself]
      exact .inl hq

theorem Grown.trans {f : Disk} (h : Grown d e) (h' : Grown e f) : Grown d f := by
  refine ⟨h'.current.trans h.current, h'.home.trans h.home, ?_, ?_⟩
  · exact fun q entry hq => h'.kept q entry (h.kept q entry hq)
  · intro q hq
    rcases h.made q hq with hnone | hmade
    · exact h'.made q hnone
    · exact .inr (h'.kept q _ hmade)

theorem grown_makeAlong (d : Disk) (path names : List String) :
    Grown d (d.makeAlong path names).2 := by
  fun_induction makeAlong d path names with
  | case1 | case4 | case7 => exact .refl _
  | case2 | case3 | case6 => assumption
  | case5 d path name names _ _ _ next hnone ih => exact (grown_put hnone).trans ih

theorem exists_aboveLast_append (names : List String) :
    ∃ last, names = aboveLast names ++ last := by
  have hfront : aboveLast names <+: names := by
    have hsuffix : (names.reverse.dropWhile (· = ".")).tail <:+ names.reverse :=
      (List.tail_suffix _).trans (List.dropWhile_suffix _)
    simpa [aboveLast] using List.reverse_prefix.mpr hsuffix
  obtain ⟨last, hlast⟩ := hfront
  exact ⟨last, hlast.symm⟩

/-- A way that ends in a dot is gone along, maybe after what is above was made, or that fails. -/
theorem makeAbove_cases (d : Disk) (path names : List String) :
    (∃ d', (d' = d ∨ d' = (d.makeAlong path (aboveLast names)).2) ∧
      d.makeAbove path names = ((d'.follow path names).map fun _ => (), d')) ∨
    ∃ fault, d.makeAlong path (aboveLast names) = (.error fault, (d.makeAbove path names).2) ∧
      (d.makeAbove path names).1 = .error fault := by
  unfold makeAbove
  cases hfollow : d.follow path names with
  | ok p => exact .inl ⟨d, .inl rfl, by rw [hfollow]; rfl⟩
  | error fault =>
      by_cases hmissing : fault = .notFound
      · subst hmissing
        rcases hmade : d.makeAlong path (aboveLast names) with ⟨result, e⟩
        cases result with
        | ok _ => exact .inl ⟨e, .inr rfl, rfl⟩
        | error fault => exact .inr ⟨fault, rfl, rfl⟩
      · refine .inl ⟨d, .inl rfl, ?_⟩
        rw [hfollow]
        cases fault <;> first | rfl | exact absurd rfl hmissing

theorem grown_makeAbove (d : Disk) (path names : List String) :
    Grown d (d.makeAbove path names).2 := by
  rcases makeAbove_cases d path names with ⟨_, rfl | rfl, hmake⟩ | ⟨fault, hmake, -⟩
  · rw [hmake]
    exact .refl _
  · rw [hmake]
    exact grown_makeAlong _ _ _
  · have hgrown := grown_makeAlong d path (aboveLast names)
    rwa [hmake] at hgrown

theorem grown_makeDirectory (d : Disk) (l : Location) : Grown d (d.makeDirectory l).2 := by
  unfold makeDirectory
  split
  · exact .refl d
  · split_ifs
    · exact grown_makeAbove _ _ _
    · exact grown_makeAlong _ _ _

theorem grown_makeParent (d : Disk) (l : Location) : Grown d (d.makeParent l).2 :=
  grown_makeDirectory d l.parent

theorem get?_makeAlong {path names q : List String} (h : q ∉ way path names) :
    (d.makeAlong path names).2.get? q = d.get? q := by
  fun_induction makeAlong d path names with
  | case1 | case4 | case7 => rfl
  | case2 | case3 => simp_all [way]
  | case5 d path name names hdot hup _ next _ ih =>
      simp only [way, hdot, hup, if_false, List.mem_cons, not_or] at h
      rw [ih h.2, get?_put_of_ne d _ h.1]
  | case6 d path name names hdot hup _ next _ ih =>
      simp only [way, hdot, hup, if_false, List.mem_cons, not_or] at h
      exact ih h.2

theorem get?_makeAbove {path names q : List String} (h : q ∉ way path names) :
    (d.makeAbove path names).2.get? q = d.get? q := by
  have hmade : (d.makeAlong path (aboveLast names)).2.get? q = d.get? q := by
    obtain ⟨last, hlast⟩ := exists_aboveLast_append names
    refine get?_makeAlong fun hq => h ?_
    rw [hlast]
    exact mem_way_append hq last
  rcases makeAbove_cases d path names with ⟨_, rfl | rfl, hmake⟩ | ⟨fault, hmake, -⟩
  · rw [hmake]
  · rw [hmake, hmade]
  · rwa [hmake] at hmade

theorem get?_makeDirectory {l : Location} {q : List String} (h : ¬ d.LeadsThrough l q) :
    (d.makeDirectory l).2.get? q = d.get? q := by
  unfold makeDirectory
  split
  · rfl
  · split_ifs
    · exact get?_makeAbove h
    · exact get?_makeAlong h

/-- Where a way was made, there is nothing left to make. -/
theorem makeAlong_of_made {path names : List String} (h : (d.makeAlong path names).1 = .ok ())
    (he : ∀ q, (d.makeAlong path names).2.get? q = some .directory → e.get? q = some .directory) :
    e.makeAlong path names = (.ok (), e) := by
  fun_induction makeAlong d path names with
  | case1 => rfl
  | case2 d path names ih =>
      rw [makeAlong, if_pos rfl]
      exact ih h he
  | case3 d path names hdot ih =>
      rw [makeAlong, if_neg hdot, if_pos rfl]
      exact ih h he
  | case4 => cases h
  | case5 d path name names hdot hup hlong next _ ih =>
      have hmade : (d.put next .directory).get? next = some .directory :=
        get?_put_self d _ (by simp [next])
      have hnext := he next ((grown_makeAlong _ next names).kept next _ hmade)
      simp only [makeAlong, hdot, hup, hlong, if_false, next, hnext]
      exact ih h he
  | case6 d path name names hdot hup hlong next hdirectory ih =>
      have hnext := he next ((grown_makeAlong _ next names).kept next _ hdirectory)
      simp only [makeAlong, hdot, hup, hlong, if_false, next, hnext]
      exact ih h he
  | case7 => cases h

theorem makeAbove_of_made {path names : List String} (h : (d.makeAbove path names).1 = .ok ())
    (he : ∀ q, (d.makeAbove path names).2.get? q = some .directory → e.get? q = some .directory) :
    e.makeAbove path names = (.ok (), e) := by
  rcases makeAbove_cases d path names with ⟨d', -, hmake⟩ | ⟨fault, -, hfault⟩
  · rw [hmake] at h he
    cases hfollow : d'.follow path names with
    | error fault => simp [hfollow] at h
    | ok p => rw [makeAbove, follow_of_directories he hfollow]
  · simp [hfault] at h

theorem makeDirectory_of_made {l : Location} (h : (d.makeDirectory l).1 = .ok ())
    (hcurrent : e.current = d.current)
    (he : ∀ q, (d.makeDirectory l).2.get? q = some .directory → e.get? q = some .directory) :
    e.makeDirectory l = (.ok (), e) := by
  unfold makeDirectory at h he ⊢
  cases hfault : l.fault? with
  | some fault => simp [hfault] at h
  | none =>
      simp only [hfault] at h he ⊢
      rw [origin_congr hcurrent]
      split_ifs at h he ⊢
      · exact makeAbove_of_made h he
      · exact makeAlong_of_made h he

/-- A way that cannot be made cannot be taken any further either. -/
theorem follow_makeAlong_error {path names rest : List String} {fault : DiskFault}
    (h : (d.makeAlong path names).1 = .error fault) (hrest : rest ≠ []) (p : List String) :
    (d.makeAlong path names).2.follow path (names ++ rest) ≠ .ok p := by
  intro hfollow
  fun_induction makeAlong d path names with
  | case1 => cases h
  | case2 d path names ih => exact ih h (follow_cons_eq_ok_iff.mp hfollow).2.2
  | case3 d path names _ ih => exact ih h (follow_cons_eq_ok_iff.mp hfollow).2.2
  | case4 d path name names hdot hup hlong =>
      have hname := (follow_cons_eq_ok_iff.mp hfollow).2.1
      simp [hdot, hup, hlong] at hname
  | case5 d path name names hdot hup _ next _ ih =>
      have hnext := (follow_cons_eq_ok_iff.mp hfollow).2.2
      rw [enter, if_neg hdot, if_neg hup] at hnext
      exact ih h hnext
  | case6 d path name names hdot hup _ next _ ih =>
      have hnext := (follow_cons_eq_ok_iff.mp hfollow).2.2
      rw [enter, if_neg hdot, if_neg hup] at hnext
      exact ih h hnext
  | case7 d path name names hdot hup _ next content hfile =>
      obtain ⟨more, others, hcons⟩ : ∃ more others, names ++ rest = more :: others :=
        List.exists_cons_of_ne_nil (by simp [hrest])
      have hnext : d.follow (enter path name) (names ++ rest) = .ok p :=
        (follow_cons_eq_ok_iff.mp hfollow).2.2
      rw [enter, if_neg hdot, if_neg hup, hcons] at hnext
      have hdirectory := (follow_cons_eq_ok_iff.mp hnext).1
      exact absurd (hfile.symm.trans hdirectory) (by simp)

theorem follow_makeAbove_error {path names rest : List String} {fault : DiskFault}
    (h : (d.makeAbove path names).1 = .error fault) (hrest : rest ≠ []) (p : List String) :
    (d.makeAbove path names).2.follow path (names ++ rest) ≠ .ok p := by
  intro hfollow
  rcases makeAbove_cases d path names with ⟨d', -, hmake⟩ | ⟨fault, hmake, -⟩
  · rw [hmake] at h hfollow
    rw [follow_append] at hfollow
    obtain ⟨q, hq, -⟩ := Results.bind_eq_ok_iff.mp hfollow
    simp [hq] at h
  · obtain ⟨last, hlast⟩ := exists_aboveLast_append names
    rw [hlast, List.append_assoc, ← hlast] at hfollow
    have hstuck := follow_makeAlong_error (congrArg Prod.fst hmake)
      (List.append_ne_nil_of_right_ne_nil last hrest) p
    rw [hmake] at hstuck
    exact hstuck hfollow

/-! ## Reading from a disk that has grown -/

/-- What was found is found, and so is every obstacle but a missing entry. -/
theorem Grown.follow_eq (h : Grown d e) {path names : List String}
    (hd : d.follow path names ≠ .error .notFound) : e.follow path names = d.follow path names := by
  induction names generalizing path with
  | nil => rfl
  | cons name names ih =>
      unfold follow at hd ⊢
      cases hget : d.get? path with
      | none => simp [hget] at hd
      | some entry =>
          simp only [h.kept path entry hget, hget] at hd ⊢
          cases entry with
          | file content => rfl
          | directory =>
              dsimp only at hd ⊢
              split_ifs at hd ⊢
              · exact ih hd
              · exact ih hd
              · rfl
              · exact ih hd

theorem Grown.resolve_eq (h : Grown d e) {l : Location} (hd : d.resolve l ≠ .error .notFound) :
    e.resolve l = d.resolve l := by
  rcases resolve_eq_follow_or l with hfollow | ⟨fault, hfault⟩
  · rw [hfollow] at hd
    rw [hfollow, hfollow, origin_congr h.current]
    exact h.follow_eq hd
  · rw [hfault, hfault]

theorem Grown.read_eq (h : Grown d e) {l : Location} (hd : d.read l ≠ .error .notFound) :
    e.read l = d.read l := by
  have hresolve : e.resolve l = d.resolve l :=
    h.resolve_eq fun hnone => hd (read_of_resolve_error hnone)
  cases hd' : d.resolve l with
  | error fault => rw [read_of_resolve_error hd', read_of_resolve_error (hresolve.trans hd')]
  | ok p =>
      rw [read_of_resolve hd', read_of_resolve (hresolve.trans hd')]
      rw [read_of_resolve hd'] at hd
      cases hget : d.get? p with
      | none => simp [hget] at hd
      | some entry => rw [h.kept p entry hget]

/-- There is more to the way of a location than the names above it, if these are any. -/
theorem names_parent_or_target (l : Location) :
    l.parent.names = [] ∨
      ∃ rest, rest ≠ [] ∧ l.target = l.parent.names ++ rest := by
  rcases l.names_parent_cases with ⟨-, hparent⟩ | ⟨dots, name, more, hnames, -, -⟩
  · exact .inl hparent
  · right
    rw [Location.target]
    split_ifs
    · exact ⟨(dots ++ name :: more) ++ ["."], by simp, by rw [← List.append_assoc, ← hnames]⟩
    · exact ⟨dots ++ name :: more, by simp, hnames⟩

/-- Directories above a location that cannot be made leave no file to be read there. -/
theorem read_makeParent_error {l : Location} {fault : DiskFault}
    (h : (d.makeParent l).1 = .error fault) :
    (d.makeParent l).2 = d ∨ ∀ bytes, (d.makeParent l).2.read l ≠ .ok bytes := by
  have hcurrent : (d.makeParent l).2.current = d.current := (grown_makeParent d l).current
  unfold makeParent makeDirectory at h hcurrent ⊢
  cases hfault : l.parent.fault? with
  | some fault => exact .inl rfl
  | none =>
      right
      intro bytes hread
      simp only [hfault] at h hread hcurrent
      obtain ⟨p, hresolve, -⟩ := read_eq_ok_iff.mp hread
      have hfollow := follow_of_resolve hresolve
      obtain ⟨rest, hrest, htarget⟩ :=
        (names_parent_or_target l).resolve_left fun hnil => by simp [hnil, makeAlong] at h
      rw [origin_congr hcurrent, ← origin_parent d l, htarget] at hfollow
      split_ifs at h hfollow
      · exact follow_makeAbove_error h hrest p hfollow
      · exact follow_makeAlong_error h hrest p hfollow

end Disk

end PackageRegistry
