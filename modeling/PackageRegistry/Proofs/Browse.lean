import PackageRegistry.Browse
import PackageRegistry.Proofs.Search.Typing

/-! # The lines of a browsing user

A line is a command if a slash comes first, with a word right behind it and an argument behind
blanks; blanks around the parts say nothing. Every other line is typing, which never searches at
once.
-/

namespace PackageRegistry

namespace Browse

open Search (Session Millis)
open Text (isBlank isBlankChar trim trimChars dropTail)

/-! ## Words and arguments -/

/-- What a command means, or what to tell the user about it. -/
def obey (word argument : String) : Except String Input :=
  match word with
  | "category" => choose Patch.toggleCategory argument
  | "license" => choose Patch.toggleLicense argument
  | "sort" => choose Patch.setSort argument
  | "clear" => .ok (.edit .clearAll)
  | "search" => .ok .submit
  | "quit" | "q" => .ok .quit
  | other => .error ("unknown command '/" ++ other ++ "'")

/-- The commands there are, by word and argument. -/
inductive Means : String → String → Input → Prop where
  | category (c : Category) : Means "category" (Vocabulary.wire c) (.edit (.toggleCategory c))
  | license (l : License) : Means "license" (Vocabulary.wire l) (.edit (.toggleLicense l))
  | sort (s : SortKey) : Means "sort" (Vocabulary.wire s) (.edit (.setSort s))
  | clear (argument : String) : Means "clear" argument (.edit .clearAll)
  | search (argument : String) : Means "search" argument .submit
  | quit (argument : String) : Means "quit" argument .quit
  | q (argument : String) : Means "q" argument .quit

/-- A word of a vocabulary is chosen by its wire name. -/
theorem choose_eq_ok_iff {α : Type} [Vocabulary α]
    (hwire : ∀ w : α, Vocabulary.parse? (Vocabulary.wire w) = some w) (edit : α → Patch)
    (argument : String) (i : Input) :
    choose edit argument = .ok i ↔ ∃ w, Vocabulary.wire w = argument ∧ i = .edit (edit w) := by
  unfold choose Vocabulary.parse
  cases hparse : (Vocabulary.parse? argument : Option α) with
  | none =>
      simp only [reduceCtorEq, false_iff]
      rintro ⟨w, rfl, -⟩
      rw [hwire w] at hparse
      cases hparse
  | some w =>
      have hw : Vocabulary.wire w = argument := by simpa using List.find?_some hparse
      simp only [Except.ok.injEq]
      constructor
      · intro h
        exact ⟨w, hw, h.symm⟩
      · rintro ⟨w', hw', rfl⟩
        rw [← hw', hwire w', Option.some.injEq] at hparse
        rw [hparse]

theorem obey_eq_ok_iff (word argument : String) (i : Input) :
    obey word argument = .ok i ↔ Means word argument i := by
  constructor
  · intro h
    unfold obey at h
    split at h
    · obtain ⟨c, rfl, rfl⟩ := (choose_eq_ok_iff Category.parse?_wire _ _ _).mp h
      exact .category c
    · obtain ⟨l, rfl, rfl⟩ := (choose_eq_ok_iff License.parse?_wire _ _ _).mp h
      exact .license l
    · obtain ⟨s, rfl, rfl⟩ := (choose_eq_ok_iff SortKey.parse?_wire _ _ _).mp h
      exact .sort s
    all_goals cases h
    · exact .clear argument
    · exact .search argument
    · exact .quit argument
    · exact .q argument
  · intro h
    cases h with
    | category c => exact (choose_eq_ok_iff Category.parse?_wire _ _ _).mpr ⟨c, rfl, rfl⟩
    | license l => exact (choose_eq_ok_iff License.parse?_wire _ _ _).mpr ⟨l, rfl, rfl⟩
    | sort s => exact (choose_eq_ok_iff SortKey.parse?_wire _ _ _).mpr ⟨s, rfl, rfl⟩
    | clear | search | quit | q => rfl

/-- The word ends at the first blank, and the argument is what stands behind it. -/
theorem splitCommand_dropTail {w rest : List Char} (hw : ∀ c ∈ w, isBlankChar c = false)
    (hrest : ∀ c ∈ rest.head?, isBlankChar c = true) :
    splitCommand (dropTail isBlankChar (w ++ rest)) =
      (String.ofList w, trim (String.ofList rest)) := by
  by_cases hblank : ∀ c ∈ rest, isBlankChar c = true
  · have hnone : trimChars rest = [] := (Text.trimChars_eq_nil_iff rest).mpr hblank
    rw [Text.dropTail_append_of_blank hblank, Text.dropTail_of_forall hw, splitCommand,
      Text.cutAt_of_forall hw, trim, String.toList_ofList, hnone]
  · obtain ⟨c, tail, rfl⟩ : ∃ c tail, rest = c :: tail := by
      cases rest with
      | nil => simp at hblank
      | cons c tail => exact ⟨c, tail, rfl⟩
    have hc : isBlankChar c = true := hrest c rfl
    -- not all of the tail is blank, so the first blank is not dropped
    have hvisible : ¬ ∀ x ∈ tail, isBlankChar x = true := by simpa [hc] using hblank
    obtain ⟨front, d, back, rfl, hd⟩ := Text.exists_visible hvisible
    have hdrop : dropTail isBlankChar (w ++ c :: (front ++ d :: back)) =
        w ++ c :: dropTail isBlankChar (front ++ d :: back) := by
      have happend := Text.dropTail_append_cons hd (w ++ c :: front) back
      rw [Text.dropTail_append_cons hd front back]
      simpa using happend
    have hblanks : ∀ x ∈ [c], isBlankChar x = true := by simpa using hc
    have hargument := Text.trimChars_append_of_blank hblanks (front ++ d :: back)
    rw [hdrop, splitCommand, Text.cutAt_append hw hc]
    simp only [trim, String.toList_ofList, Text.trimChars_dropTail, ← hargument]
    rfl

/-! ## Lines -/

/-- A line that begins with a slash behind blanks, the word of a command, and its argument. -/
structure Spells (line word argument : String) : Prop where
  word_visible : ∀ c ∈ word.toList, isBlankChar c = false
  parts : ∃ front rest, isBlank front = true ∧ (∀ c ∈ rest.toList.head?, isBlankChar c = true) ∧
    line = front ++ "/" ++ word ++ rest ∧ argument = trim rest

theorem isBlankChar_slash : isBlankChar '/' = false := by decide

theorem Spells.toList_trim {line word argument : String} (h : Spells line word argument) :
    ∃ cs, (trim line).toList = '/' :: cs ∧ splitCommand cs = (word, argument) := by
  obtain ⟨hword, front, rest, hfront, hrest, rfl, rfl⟩ := h
  have hblank : front.toList.dropWhile isBlankChar = [] := by
    simpa [isBlank] using hfront
  refine ⟨dropTail isBlankChar (word.toList ++ rest.toList), ?_, ?_⟩
  · rw [trim, String.toList_ofList]
    have hline : (front ++ "/" ++ word ++ rest).toList =
        front.toList ++ '/' :: (word.toList ++ rest.toList) := by simp
    rw [hline, Text.trimChars_append_cons isBlankChar_slash, hblank]
    rfl
  · rw [splitCommand_dropTail hword hrest, String.ofList_toList, String.ofList_toList]

theorem read_of_slash {line : String} {cs : List Char} (h : (trim line).toList = '/' :: cs) :
    read line = obey (splitCommand cs).1 (splitCommand cs).2 := by
  rw [read, h]
  rfl

/-- A line means what its word and its argument say. -/
theorem Spells.read_eq {line word argument : String} (h : Spells line word argument) :
    read line = obey word argument := by
  obtain ⟨cs, hline, hsplit⟩ := h.toList_trim
  rw [read_of_slash hline, hsplit]

/-- Every line that begins with a slash spells a command. -/
theorem exists_spells {line : String} (h : (trim line).toList.head? = some '/') :
    ∃ word argument, Spells line word argument := by
  obtain ⟨front, cs, hline, hfront⟩ : ∃ front cs, line.toList = front ++ '/' :: cs ∧
      ∀ c ∈ front, isBlankChar c = true := by
    refine ⟨line.toList.takeWhile isBlankChar, (line.toList.dropWhile isBlankChar).tail, ?_,
      fun c hc => List.mem_takeWhile_imp hc⟩
    have hhead : (line.toList.dropWhile isBlankChar).head? = some '/' := by
      rw [trim, String.toList_ofList, trimChars] at h
      obtain ⟨rest, hrest⟩ := List.rdropWhile_prefix isBlankChar
        (l := line.toList.dropWhile isBlankChar)
      rw [← hrest, List.head?_append]
      change (List.rdropWhile isBlankChar _).head? = some '/' at h
      rw [h]
      rfl
    rw [List.head?_eq_some_iff] at hhead
    obtain ⟨cs, hcs⟩ := hhead
    rw [hcs, List.tail_cons, ← hcs, List.takeWhile_append_dropWhile]
  refine ⟨String.ofList (cs.takeWhile (!isBlankChar ·)),
    trim (String.ofList (cs.dropWhile (!isBlankChar ·))), ?_, String.ofList front,
    String.ofList (cs.dropWhile (!isBlankChar ·)), ?_, ?_, ?_, rfl⟩
  · intro c hc
    rw [String.toList_ofList] at hc
    simpa using List.mem_takeWhile_imp hc
  · simpa [isBlank] using hfront
  · intro c hc
    rw [String.toList_ofList] at hc
    have hnot := List.head?_dropWhile_not (!isBlankChar ·) cs
    rw [Option.mem_def.mp hc] at hnot
    simpa using hnot
  · rw [← String.toList_inj, hline]
    simp [List.takeWhile_append_dropWhile]

/-- The parts of a line may have any blanks around them. -/
theorem spells_of_blanks {u w v a x : String} (hu : isBlank u = true)
    (hw : ∀ c ∈ w.toList, isBlankChar c = false) (hv : isBlank v = true) (hne : v ≠ "")
    (hx : isBlank x = true) : Spells (u ++ "/" ++ w ++ v ++ a ++ x) w (trim a) := by
  refine ⟨hw, u, v ++ a ++ x, hu, ?_, ?_, (Text.trim_of_blanks hv hx a).symm⟩
  · intro c hc
    obtain ⟨d, ds, hd⟩ := List.exists_cons_of_ne_nil (String.toList_eq_nil_iff.not.mpr hne)
    obtain rfl : d = c := by simpa [hd] using hc
    exact List.all_eq_true.mp hv d (by simp [hd])
  · simp only [String.append_assoc]

theorem read_of_not_slash {line : String} (h : (trim line).toList.head? ≠ some '/') :
    read line = .ok (.edit (.setQuery line)) := by
  unfold read
  split
  · rename_i cs hline
    simp [hline] at h
  · rfl

/-! ## What lines do -/

/-- Typing merges into the filters and searches nothing by itself. -/
theorem edit_setQuery (s : Session) (line : String) (now : Millis) :
    (s.edit (.setQuery line) now).1 = none ∧
      s.filters.SameControls (s.edit (.setQuery line) now).2.filters := by
  have hnames : (Search.Command.edit (.setQuery line)).NamesQueryOnly := ⟨rfl, rfl, rfl, rfl⟩
  obtain ⟨hnone, hfilters, -⟩ := s.step_typed hnames now
  refine ⟨hnone, ?_⟩
  change s.filters.SameControls (s.step (.edit (.setQuery line) now)).2.filters
  rw [show (s.step (.edit (.setQuery line) now)).2.filters = s.filters.merge (.setQuery line) from
    hfilters]
  exact ⟨rfl, rfl, rfl⟩

/-- A line that means nothing sends nothing, wherever it stands. -/
theorem commands_script_of_error {l : Line} {complaint : String}
    (h : read l.text = .error complaint) (before after : List Line) :
    Search.commands (script (before ++ l :: after)) =
      Search.commands (script (before ++ after)) := by
  induction before with
  | nil => simp [script, h]
  | cons m before ih =>
      cases hread : read m.text with
      | error _ => simpa [script, hread] using ih
      | ok input => cases input <;> simp [script, hread, ih]

/-- A line without a slash in front is the text to search for, and never searches at once. A line
with one is read by its word and its argument, whatever blanks are around them; it is one of the
commands there are, or it is turned down and sends nothing. -/
theorem lines_are_read_by_the_grammar :
    (∀ line, (trim line).toList.head? ≠ some '/' →
      read line = .ok (.edit (.setQuery line)) ∧
      (Search.Command.edit (.setQuery line)).NamesQueryOnly ∧
      ∀ (s : Session) (now : Millis), (s.edit (.setQuery line) now).1 = none ∧
        s.filters.SameControls (s.edit (.setQuery line) now).2.filters) ∧
    (∀ u w v a x, isBlank u = true → (∀ c ∈ w.toList, isBlankChar c = false) →
      isBlank v = true → v ≠ "" → isBlank x = true →
      read (u ++ "/" ++ w ++ v ++ a ++ x) = read ("/" ++ w ++ " " ++ trim a) ∧
      ∀ i, read (u ++ "/" ++ w ++ v ++ a ++ x) = .ok i ↔ Means w (trim a) i) ∧
    (∀ line, (trim line).toList.head? = some '/' →
      ∃ word argument, Spells line word argument ∧
        ((∃ i, Means word argument i ∧ read line = .ok i) ∨
          (∀ i, ¬ Means word argument i) ∧ ∃ complaint, read line = .error complaint)) ∧
    (∀ (l : Line) complaint, read l.text = .error complaint → ∀ before after,
      Search.commands (script (before ++ l :: after)) =
        Search.commands (script (before ++ after))) := by
  refine ⟨?_, ?_, ?_, fun l complaint h => commands_script_of_error h⟩
  · intro line hline
    exact ⟨read_of_not_slash hline, ⟨rfl, rfl, rfl, rfl⟩, fun s now => edit_setQuery s line now⟩
  · intro u w v a x hu hw hv hne hx
    have hspells := spells_of_blanks (a := a) hu hw hv hne hx
    have hplain : Spells ("/" ++ w ++ " " ++ trim a) w (trim a) := by
      have h := spells_of_blanks (u := "") (v := " ") (a := trim a) (x := "") rfl hw (by decide)
        (by decide) rfl
      rwa [Text.trim_trim, String.append_empty, String.empty_append] at h
    refine ⟨hspells.read_eq.trans hplain.read_eq.symm, fun i => ?_⟩
    rw [hspells.read_eq, obey_eq_ok_iff]
  · intro line hline
    obtain ⟨word, argument, hspells⟩ := exists_spells hline
    refine ⟨word, argument, hspells, ?_⟩
    simp only [← obey_eq_ok_iff, hspells.read_eq]
    cases obey word argument with
    | ok i => exact .inl ⟨i, rfl, rfl⟩
    | error complaint => exact .inr ⟨by simp, complaint, rfl⟩

end Browse

end PackageRegistry
