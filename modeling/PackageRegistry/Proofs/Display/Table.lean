import Mathlib.Data.List.Forall2
import PackageRegistry.Display
import PackageRegistry.Proofs.Text.Pieces

/-! # The listing as a table

Every package has one row, and all descriptions begin in one column. The column is as wide as the
longest name has bytes; names have no more characters than bytes, so each of them fits. No column is
filled up beyond `greatestWidth`, so a name of more bytes leaves the whole listing unprinted.
-/

namespace PackageRegistry.Display

/-! ## The column of names -/

/-- A character takes at least one byte. -/
theorem length_le_utf8ByteSize (s : String) : s.length ≤ s.utf8ByteSize := by
  induction s using String.push_induction with
  | empty => simp
  | push s c ih =>
      have hpos := c.utf8Size_pos
      rw [String.length_push, String.utf8ByteSize_push]
      omega

theorem foldl_max_le_iff (items : List Package) (w b : Nat) :
    items.foldl (fun w p => max w p.name.utf8ByteSize) w ≤ b ↔
      w ≤ b ∧ ∀ p ∈ items, p.name.utf8ByteSize ≤ b := by
  induction items generalizing w with
  | nil => simp
  | cons p items ih =>
      rw [List.foldl_cons, ih, Nat.max_le, List.forall_mem_cons, and_assoc]

theorem nameWidth_le_iff {items : List Package} {b : Nat} :
    nameWidth items ≤ b ↔ ∀ p ∈ items, p.name.utf8ByteSize ≤ b := by
  rw [nameWidth, foldl_max_le_iff]
  exact and_iff_right (Nat.zero_le b)

theorem utf8ByteSize_le_nameWidth {items : List Package} {p : Package} (h : p ∈ items) :
    p.name.utf8ByteSize ≤ nameWidth items :=
  nameWidth_le_iff.mp le_rfl p h

theorem length_name_le {items : List Package} {p : Package} (h : p ∈ items) :
    p.name.length ≤ nameWidth items :=
  (length_le_utf8ByteSize p.name).trans (utf8ByteSize_le_nameWidth h)

/-! ## Rows -/

/-- A description in one line: a blank one is made up for, and line feeds give way to spaces. -/
inductive InOneLine (text : String) : String → Prop where
  | blank (h : Text.isBlank text = true) : InOneLine text "<no description provided>"
  | words (line : String) (h : Text.isBlank text = false)
      (hline : line.toList =
        (Text.trim text).toList.map fun c => if c = '\n' then ' ' else c) :
      InOneLine text line

/-- How often a package was downloaded and starred. -/
def counters (p : Package) : String :=
  "  (⬇ " ++ count p.stats.downloads ++ ", ★ " ++ count p.stats.stars ++ ")"

/-- A row of a table whose column of names is so wide: the whole name filled up with spaces, two
spaces, and from there the description and the counters. -/
structure IsRow (width : Nat) (p : Package) (row : String) : Prop where
  fits : p.name.length ≤ width
  name : row.toList.take width = p.name.toList ++ List.replicate (width - p.name.length) ' '
  gap : (row.toList.drop width).take 2 = [' ', ' ']
  description : ∃ line, InOneLine p.description line ∧
    row.toList.drop (width + 2) = line.toList ++ (counters p).toList

/-- The rows of a table: none in an empty text, else what stands between the line feeds. -/
def rowsOf (text : String) : List String :=
  if text = "" then [] else Text.split '\n' text

theorem inOneLine_summaryLine (p : Package) : InOneLine p.description (summaryLine p) := by
  unfold summaryLine Text.trimmed?
  cases hblank : Text.isBlank p.description with
  | true => exact .blank hblank
  | false => exact .words _ hblank String.toList_map

theorem length_padRight {width : Nat} {s : String} (h : s.length ≤ width) :
    (padRight width s).toList.length = width := by
  simp only [padRight, String.toList_append, String.toList_ofList, List.length_append,
    List.length_replicate, String.length_toList]
  omega

theorem isRow_row {width : Nat} {p : Package} (h : p.name.length ≤ width) :
    IsRow width p (row width p) := by
  have htext : (row width p).toList =
      (padRight width p.name).toList ++
        ([' ', ' '] ++ ((summaryLine p).toList ++ (counters p).toList)) := by
    simp [row, counters]
  have hlength := length_padRight h
  refine ⟨h, ?_, ?_, summaryLine p, inOneLine_summaryLine p, ?_⟩
  · rw [htext, List.take_left' hlength]
    simp [padRight]
  · rw [htext, List.drop_left' hlength]
    rfl
  · rw [htext, ← List.drop_drop, List.drop_left' hlength]
    rfl

/-! ## Line feeds -/

theorem notMem_toDigits (n : Nat) : '\n' ∉ Nat.toDigits 10 n := by
  intro h
  exact absurd (Nat.isDigit_of_mem_toDigits (by omega) (by omega) h) (by decide)

theorem notMem_tenths (n unit : Nat) : '\n' ∉ (tenths n unit).toList := by
  unfold tenths
  split
  · simp [Numeric.oneDecimal, notMem_toDigits]
  · decide

theorem notMem_count (n : Nat) : '\n' ∉ (count n).toList := by
  unfold count
  split_ifs
  · simp [notMem_toDigits]
  · simp [notMem_tenths]
  · simp [notMem_tenths]

theorem notMem_summaryLine (p : Package) : '\n' ∉ (summaryLine p).toList := by
  unfold summaryLine
  split
  · decide
  · rw [String.toList_map, List.mem_map]
    rintro ⟨c, -, hc⟩
    split_ifs at hc with hfeed
    · cases hc
    · exact hfeed hc

theorem notMem_row {p : Package} (h : '\n' ∉ p.name.toList) (width : Nat) :
    '\n' ∉ (row width p).toList := by
  simp [row, padRight, h, notMem_summaryLine, notMem_count]

theorem row_ne_empty (width : Nat) (p : Package) : row width p ≠ "" := by
  intro h
  have hclose : ')' ∈ (row width p).toList := by simp [row]
  simp [h] at hclose

/-- The rows are the ones that the table was put together from. -/
theorem rowsOf_table {l : Listing} (h : ∀ p ∈ l.items, '\n' ∉ p.name.toList) :
    rowsOf (table l) = l.items.map (row (nameWidth l.items)) := by
  by_cases hitems : l.items = []
  · rw [rowsOf, table, hitems]
    rfl
  · have hsplit : Text.split '\n' (table l) = l.items.map (row (nameWidth l.items)) := by
      refine Text.split_intercalate (mt List.map_eq_nil_iff.mp hitems) ?_
      intro r hr
      obtain ⟨p, hp, rfl⟩ := List.mem_map.mp hr
      exact notMem_row (h p hp) _
    have hne : table l ≠ "" := by
      intro hempty
      have hmem : "" ∈ l.items.map (row (nameWidth l.items)) := by
        rw [← hsplit, hempty]
        decide
      obtain ⟨p, -, hrow⟩ := List.mem_map.mp hmem
      exact row_ne_empty _ p hrow
    rw [rowsOf, if_neg hne, hsplit]

/-- A listing has one row for each package, in their order, and one column in which all descriptions
begin. -/
theorem forall₂_isRow_table {l : Listing} (h : ∀ p ∈ l.items, '\n' ∉ p.name.toList) :
    List.Forall₂ (IsRow (nameWidth l.items)) l.items (rowsOf (table l)) := by
  rw [rowsOf_table h, List.forall₂_map_right_iff, List.forall₂_same]
  intro p hp
  exact isRow_row (length_name_le hp)

/-! ## What is printed -/

theorem printed?_eq_none_iff {l : Listing} :
    printed? l = none ↔ ∃ p ∈ l.items, greatestWidth < p.name.utf8ByteSize := by
  simp [printed?, nameWidth_le_iff]

theorem eq_table_of_printed? {l : Listing} {text : String} (h : printed? l = some text) :
    text = table l := by
  unfold printed? at h
  split_ifs at h
  exact (Option.some.inj h).symm

/-- A listing is printed unless a name is too long for any column. What is printed has one row for
each package, in their order, and one column in which all descriptions begin. -/
theorem listing_is_printed_in_aligned_rows (l : Listing)
    (h : ∀ p ∈ l.items, '\n' ∉ p.name.toList) :
    (printed? l = none ↔ ∃ p ∈ l.items, greatestWidth < p.name.utf8ByteSize) ∧
      ∀ text, printed? l = some text →
        List.Forall₂ (IsRow (nameWidth l.items)) l.items (rowsOf text) := by
  refine ⟨printed?_eq_none_iff, ?_⟩
  intro text htext
  rw [eq_table_of_printed? htext]
  exact forall₂_isRow_table h

/-! ### Names in two scripts -/

def bilingual : Listing where
  items := [
    { name := "orm", description := " Object\nmapper\n", stats := { downloads := 1500 } },
    { name := "数据库" }]
  total := 2

example : table bilingual =
    "orm        Object mapper  (⬇ 1.5k, ★ 0)\n" ++
      "数据库        <no description provided>  (⬇ 0, ★ 0)" := by
  decide +kernel

theorem bilingual_rows_are_aligned :
    (∀ p ∈ bilingual.items, '\n' ∉ p.name.toList) ∧
      printed? bilingual = some (table bilingual) ∧
      List.Forall₂ (IsRow 9) bilingual.items (rowsOf (table bilingual)) := by
  have hnames : ∀ p ∈ bilingual.items, '\n' ∉ p.name.toList := by decide
  have hprinted : printed? bilingual = some (table bilingual) := rfl
  exact ⟨hnames, hprinted, (listing_is_printed_in_aligned_rows bilingual hnames).2 _ hprinted⟩

/-! ### A name that no column holds -/

/-- One package whose name is so many letters long. -/
def longNamed (n : Nat) : Listing where
  items := [{ name := String.ofList (List.replicate n 'a') }]
  total := 1

theorem notMem_longNamed (n : Nat) : ∀ p ∈ (longNamed n).items, '\n' ∉ p.name.toList := by
  simp [longNamed, List.mem_replicate]

theorem printed?_longNamed {n : Nat} (h : greatestWidth < n) : printed? (longNamed n) = none := by
  refine printed?_eq_none_iff.mpr ⟨_, List.mem_singleton_self _, Nat.lt_of_lt_of_le h ?_⟩
  have hlength := length_le_utf8ByteSize (String.ofList (List.replicate n 'a'))
  rwa [String.length_ofList, List.length_replicate] at hlength

theorem longNamed_is_not_printed :
    ¬ ∀ l : Listing, (∀ p ∈ l.items, '\n' ∉ p.name.toList) →
      ∃ text, printed? l = some text ∧
        List.Forall₂ (IsRow (nameWidth l.items)) l.items (rowsOf text) := by
  intro hall
  obtain ⟨text, hprinted, -⟩ := hall (longNamed 65536) (notMem_longNamed 65536)
  have hnone : printed? (longNamed 65536) = none := printed?_longNamed (by decide)
  rw [hnone] at hprinted
  cases hprinted

end PackageRegistry.Display
