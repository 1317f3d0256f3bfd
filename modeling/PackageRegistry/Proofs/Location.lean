import Mathlib.Data.List.TakeWhile
import Mathlib.Tactic.SplitIfs
import PackageRegistry.Disk
import PackageRegistry.Proofs.Text.Pieces

/-! # The names of a location

What stands between the slashes of a location, of the one above it and of those below it.
-/

namespace PackageRegistry

namespace Location

/-! ## Names among characters -/

/-- The names between slashes among characters. -/
def namesOf (cs : List Char) : List String :=
  ((Text.pieces '/' cs).map String.ofList).filter (· ≠ "")

theorem names_eq (l : Location) : l.names = namesOf l.toList := rfl

theorem namesOf_append_slash (xs ys : List Char) :
    namesOf (xs ++ '/' :: ys) = namesOf xs ++ namesOf ys := by
  rw [namesOf, Text.pieces_append_cons, List.map_append, List.filter_append]
  rfl

theorem namesOf_slashes {cs : List Char} (h : ∀ c ∈ cs, c = '/') : namesOf cs = [] := by
  induction cs with
  | nil => rfl
  | cons c cs ih =>
      obtain rfl := h c (by simp)
      have hrest := ih fun c hc => h c (by simp [hc])
      rw [← List.nil_append ('/' :: cs), namesOf_append_slash, hrest]
      rfl

theorem namesOf_append_slashes (xs : List Char) {ys : List Char} (h : ∀ c ∈ ys, c = '/') :
    namesOf (xs ++ ys) = namesOf xs := by
  cases ys with
  | nil => rw [List.append_nil]
  | cons c ys =>
      obtain rfl := h c (by simp)
      have hrest : namesOf ys = [] := namesOf_slashes fun c hc => h c (by simp [hc])
      rw [namesOf_append_slash, hrest, List.append_nil]

theorem namesOf_name {cs : List Char} (hne : cs ≠ []) (h : '/' ∉ cs) :
    namesOf cs = [String.ofList cs] := by
  have hname : String.ofList cs ≠ "" := by simpa using hne
  simp [namesOf, Text.pieces_of_notMem h, hname]

/-! ## The location above -/

/-- Only single dots are taken from the end of a text, beside the slashes. -/
theorem exists_namesOf_dropBack (cs : List Char) :
    ∃ dots, namesOf cs.reverse = namesOf (dropBack cs).reverse ++ dots ∧ ∀ n ∈ dots, n = "." := by
  fun_induction dropBack cs with
  | case1 c cs ih =>
      obtain ⟨dots, hnames, hdots⟩ := ih
      rw [List.reverse_cons, namesOf_append_slashes _ (by simp)]
      exact ⟨dots, hnames, hdots⟩
  | case2 cs ih =>
      obtain ⟨dots, hnames, hdots⟩ := ih
      have hdot : namesOf ('.' :: '/' :: cs).reverse = namesOf ('/' :: cs).reverse ++ ["."] := by
        rw [List.reverse_cons, List.reverse_cons, List.append_assoc, List.singleton_append,
          namesOf_append_slash, namesOf_append_slashes _ (by simp)]
        rfl
      refine ⟨dots ++ ["."], ?_, ?_⟩
      · rw [hdot, hnames, List.append_assoc]
      · intro n hn
        rcases List.mem_append.mp hn with hn | hn
        · exact hdots n hn
        · exact List.mem_singleton.mp hn
  | case3 cs => exact ⟨[], by simp, by simp⟩

theorem getLast?_dropBack (cs : List Char) : (dropBack cs).getLast? = cs.getLast? := by
  fun_induction dropBack cs with
  | case1 c cs ih => simpa using ih
  | case2 cs ih => simpa using ih
  | case3 cs => rfl

/-- What is left begins with its last name, unless nothing is left but the root. -/
theorem dropBack_slash_cons {cs rest : List Char} (h : dropBack cs = '/' :: rest) : rest = [] := by
  fun_induction dropBack cs with
  | case1 c cs ih => exact ih h
  | case2 cs ih => exact ih h
  | case3 cs hslash hdot =>
      cases rest with
      | nil => rfl
      | cons c cs => exact absurd h (hslash c cs)

/-- The text of a location is its last name and what stands in front of it. -/
theorem namesOf_front {cs : List Char} (h : ∀ rest, cs = '/' :: rest → rest = []) :
    namesOf cs.reverse = [] ∧ namesOf (cs.dropWhile fun c => c ≠ '/').reverse = [] ∨
      ∃ name, namesOf cs.reverse =
        namesOf (cs.dropWhile fun c => c ≠ '/').reverse ++ [name] := by
  have hsplit := List.takeWhile_append_dropWhile (p := fun c => c ≠ '/') (l := cs)
  cases hname : cs.takeWhile fun c => c ≠ '/' with
  | nil =>
      left
      rw [hname, List.nil_append] at hsplit
      rw [hsplit, and_self]
      cases cs with
      | nil => rfl
      | cons c rest =>
          obtain rfl : c = '/' := by simpa using hname
          rw [h rest rfl]
          rfl
  | cons c name =>
      right
      have hplain : '/' ∉ (c :: name).reverse := by
        rw [List.mem_reverse, ← hname]
        intro hmem
        simpa using List.mem_takeWhile_imp hmem
      have hlast := namesOf_name (by simp) hplain
      have hreverse : cs.reverse =
          (cs.dropWhile fun c => c ≠ '/').reverse ++ (c :: name).reverse := by
        rw [← hname, ← List.reverse_append, hsplit]
      refine ⟨String.ofList (c :: name).reverse, ?_⟩
      rw [hreverse, ← hlast]
      cases hfront : cs.dropWhile fun c => c ≠ '/' with
      | nil => rfl
      | cons slash rest =>
          have hslash := List.head?_dropWhile_not (fun c => c ≠ '/') cs
          simp only [hfront, List.head?_cons, decide_eq_false_iff_not, not_not] at hslash
          subst hslash
          rw [List.reverse_cons, List.append_assoc, List.singleton_append, namesOf_append_slash,
            namesOf_append_slashes rest.reverse (by simp)]

/-- Behind the names of the location above come the last name and dots, if there are names. -/
theorem names_parent_cases (l : Location) :
    l.names = [] ∧ l.parent.names = [] ∨
      ∃ dots name more, l.names = l.parent.names ++ (dots ++ name :: more) ∧
        (∀ n ∈ dots, n = ".") ∧ ∀ n ∈ more, n = "." := by
  obtain ⟨more, hnames, hmore⟩ := exists_namesOf_dropBack l.toList.reverse
  obtain ⟨dots, hfront, hdots⟩ :=
    exists_namesOf_dropBack ((dropBack l.toList.reverse).dropWhile fun c => c ≠ '/')
  have hparent : l.parent.names = namesOf
      (dropBack ((dropBack l.toList.reverse).dropWhile fun c => c ≠ '/')).reverse := by
    rw [names_eq, parent, String.toList_ofList]
  rw [List.reverse_reverse, ← names_eq] at hnames
  rw [← hparent] at hfront
  rcases namesOf_front fun _ h => dropBack_slash_cons h with
    ⟨hnone, habove⟩ | ⟨name, hname⟩
  · -- there is nothing but dots and slashes
    rw [hnone, List.nil_append] at hnames
    rw [habove, eq_comm, List.append_eq_nil_iff] at hfront
    cases more with
    | nil => exact .inl ⟨hnames, hfront.1⟩
    | cons name more =>
        refine .inr ⟨[], name, more, by rw [hnames, hfront.1]; rfl, by simp, ?_⟩
        exact fun n hn => hmore n (List.mem_cons_of_mem _ hn)
  · refine .inr ⟨dots, name, more, ?_, hdots, hmore⟩
    rw [hnames, hname, hfront]
    simp

theorem isAbsolute_parent (l : Location) : l.parent.isAbsolute = l.isAbsolute := by
  rw [isAbsolute, isAbsolute, parent, String.toList_ofList, List.head?_reverse, getLast?_dropBack]
  have hlast : (dropBack l.toList.reverse).getLast? = l.toList.head? := by
    rw [getLast?_dropBack, List.getLast?_reverse]
  rw [← hlast]
  congr 1
  rw [eq_iff_iff]
  constructor
  · intro hslash
    obtain ⟨front, hfront⟩ := List.getLast?_eq_some_iff.mp hslash
    rw [← List.takeWhile_append_dropWhile (p := fun c => c ≠ '/') (l := dropBack l.toList.reverse),
      hfront, ← List.append_assoc, List.getLast?_concat]
  · intro hslash
    obtain ⟨front, hfront⟩ := List.getLast?_eq_some_iff.mp hslash
    rw [hfront, List.dropWhile_append]
    split_ifs with hempty
    · simp
    · exact List.getLast?_concat

/-! ## Locations below a location -/

theorem toList_join (base : Location) {l : Location} (h : l.isAbsolute = false) :
    (base.join l).toList = base.toList ++ l.toList ∧
        (base.toList = [] ∨ ∃ start, base.toList = start ++ ['/']) ∨
      base.toList ≠ [] ∧ (base.join l).toList = base.toList ++ '/' :: l.toList := by
  unfold join
  rw [if_neg (by simp [h])]
  split_ifs with hempty hslash
  · subst hempty
    exact .inl ⟨rfl, .inl rfl⟩
  · refine .inl ⟨String.toList_append, .inr ?_⟩
    obtain ⟨start, hstart⟩ := List.getLast?_eq_some_iff.mp hslash
    exact ⟨start, hstart⟩
  · refine .inr ⟨by simpa using hempty, ?_⟩
    simp

theorem names_join (base : Location) {l : Location} (h : l.isAbsolute = false) :
    (base.join l).names = base.names ++ l.names := by
  rw [names_eq, names_eq, names_eq]
  rcases toList_join base h with ⟨hjoin, hnil | ⟨start, hstart⟩⟩ | ⟨-, hjoin⟩
  · rw [hjoin, hnil]
    rfl
  · rw [hjoin, hstart, List.append_assoc, List.singleton_append, namesOf_append_slash,
      namesOf_append_slashes start (by simp)]
  · rw [hjoin, namesOf_append_slash]

theorem isAbsolute_join (base : Location) {l : Location} (h : l.isAbsolute = false) :
    (base.join l).isAbsolute = base.isAbsolute := by
  rcases toList_join base h with ⟨hjoin, hbase⟩ | ⟨hne, hjoin⟩
  · rw [isAbsolute] at h
    rw [isAbsolute, isAbsolute, hjoin]
    rcases hbase with hnil | ⟨start, hstart⟩
    · rw [hnil]
      simpa using h
    · rw [hstart]
      cases start <;> simp
  · rw [isAbsolute, isAbsolute, hjoin]
    cases hbase : base.toList with
    | nil => exact absurd hbase hne
    | cons c cs => rfl

/-- A location that does not end in a slash asks for nothing but its names. -/
theorem target_join (base : Location) {l : Location} {c : Char} (h : l.isAbsolute = false)
    (hlast : l.toList.getLast? = some c) (hc : c ≠ '/') :
    (base.join l).target = base.names ++ l.names := by
  have hend : (base.join l).toList.getLast? = some c := by
    rcases toList_join base h with ⟨hjoin, -⟩ | ⟨-, hjoin⟩ <;>
      simp [hjoin, List.getLast?_append, List.getLast?_cons, hlast]
  rw [target, hend, if_neg (by simpa using hc), names_join base h]

end Location

end PackageRegistry
