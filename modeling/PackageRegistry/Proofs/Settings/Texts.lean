import PackageRegistry.Proofs.Settings

/-! # Texts in variables

A text setting takes over what its variable is taken for, so a text that reads as a truth value or a
number comes out in the spelling of that value. The configuration file has texts of its own, and
they arrive as they are.
-/

namespace PackageRegistry.Settings

open Numeric (Binary64)
open Toml (Value)

/-- The text that a variable gives a text setting: truth values in small letters, numbers as they
are written in decimal, and all else as it is. -/
def respelled (t : String) : String :=
  if lower t = "true" ∨ lower t = "false" then lower t
  else
    match integer? t, Binary64.parse? t with
    | some n, _ => toString n
    | none, some x => x.display
    | none, none => t

example : respelled "007" = "7" ∧ respelled "1.50" = "1.5" ∧ respelled "TRUE" = "true" ∧
    respelled "1e3" = "1000" ∧ respelled "https://h" = "https://h" := by decide +kernel

/-- The texts that a variable leaves as they are: words, and values in their own spelling. -/
inductive Survives (t : String) : Prop where
  | words (h : SettingKind.isWordy t = true)
  | truth (b : Bool) (h : t = toString b)
  | integer (n : Int) (hfits : Toml.fits n = true) (h : t = toString n)
  | number (x : Binary64) (hword : lower t ≠ "true" ∧ lower t ≠ "false")
      (hinteger : integer? t = none) (hread : Binary64.parse? t = some x) (h : t = x.display)

/-! ## Integers in their own spelling -/

theorem isDecimal_of_mem_toDigits {c : Char} {n : Nat} (h : c ∈ Nat.toDigits 10 n) :
    Toml.isDecimal c = true := by
  have hdigit := Nat.isDigit_of_mem_toDigits (by omega) le_rfl h
  simpa [Toml.isDecimal, Char.isDigit, Char.le_def, UInt32.le_iff_toNat_le] using hdigit

theorem valueOf_eq {ds : List Char} (h : ∀ c ∈ ds, Toml.isDecimal c = true) :
    Toml.valueOf 10 ds = Nat.ofDigitChars 10 ds 0 := by
  have hfrom : ∀ n, ds.foldl (fun n c => n * 10 + (Text.hexValue? c).getD 0) n =
      Nat.ofDigitChars 10 ds n := by
    induction ds with
    | nil => simp
    | cons c ds ih =>
        intro n
        have hc : Text.hexValue? c = some (c.toNat - 48) := by
          rw [Text.hexValue?, if_pos (by simpa [Toml.isDecimal] using h c (by simp))]
        rw [List.foldl_cons, ih (fun d hd => h d (List.mem_cons_of_mem c hd)), hc,
          Nat.ofDigitChars_cons, Nat.mul_comm]
        rfl
  exact hfrom 0

theorem sign_of_forall {ds : List Char} (h : ∀ c ∈ ds, Toml.isDecimal c = true) :
    Toml.sign ds = (false, ds) := by
  unfold Toml.sign
  split
  · exact absurd (h '-' (by simp)) (by decide)
  · exact absurd (h '+' (by simp)) (by decide)
  · rfl

theorem toList_toString (n : Int) : (toString n).toList =
    if n < 0 then '-' :: Nat.toDigits 10 n.natAbs else Nat.toDigits 10 n.natAbs := by
  cases n with
  | ofNat n =>
      have htext : (toString (Int.ofNat n)).toList = Nat.toDigits 10 n := by
        change (Nat.repr n).toList = _
        rw [Nat.repr_eq_ofList_toDigits, String.toList_ofList]
      rw [htext, if_neg (by simp)]
      rfl
  | negSucc n =>
      have htext : (toString (Int.negSucc n)).toList = '-' :: Nat.toDigits 10 (n + 1) := by
        change ("-" ++ Nat.repr (n + 1)).toList = _
        simp [Nat.repr_eq_ofList_toDigits]
      rw [htext, if_pos (Int.negSucc_lt_zero n)]
      rfl

/-- An integer is read from its own spelling. -/
theorem integer?_toString {n : Int} (h : Toml.fits n = true) : integer? (toString n) = some n := by
  have hdigits : ∀ c ∈ Nat.toDigits 10 n.natAbs, Toml.isDecimal c = true :=
    fun c hc => isDecimal_of_mem_toDigits hc
  have hall : (Nat.toDigits 10 n.natAbs).all Toml.isDecimal = true := List.all_eq_true.mpr hdigits
  have hread : ¬ ((Nat.toDigits 10 n.natAbs).isEmpty = true ∨
      (!(Nat.toDigits 10 n.natAbs).all Toml.isDecimal) = true) := by
    simp [hall, Nat.toDigits_ne_nil]
  have hvalue : Toml.valueOf 10 (Nat.toDigits 10 n.natAbs) = n.natAbs := by
    rw [valueOf_eq hdigits, Nat.ofDigitChars_ten_toDigits]
  by_cases hneg : n < 0
  · have hsign : Toml.sign (toString n).toList = (true, Nat.toDigits 10 n.natAbs) := by
      rw [toList_toString, if_pos hneg]
      rfl
    have habs : -(n.natAbs : Int) = n := by omega
    rw [integer?, hsign]
    simp only [if_neg hread, hvalue, habs, if_true, h]
  · have hsign : Toml.sign (toString n).toList = (false, Nat.toDigits 10 n.natAbs) := by
      rw [toList_toString, if_neg hneg, sign_of_forall hdigits]
    have habs : (n.natAbs : Int) = n := by omega
    rw [integer?, hsign]
    simp only [if_neg hread, hvalue, habs, Bool.false_eq_true, if_false, h, if_true]

/-! ## What a variable leaves as it is -/

theorem respelled_of_truth {t : String} (h : lower t = "true" ∨ lower t = "false") :
    respelled t = lower t := if_pos h

theorem respelled_of_integer {t : String} {n : Int} (h : integer? t = some n) :
    respelled t = toString n := by
  have htrue := lower_ne_of_integer? h "true" (by decide)
  have hfalse := lower_ne_of_integer? h "false" (by decide)
  rw [respelled, if_neg (not_or.mpr ⟨htrue, hfalse⟩), h]

theorem respelled_of_number {t : String} {x : Binary64}
    (hword : lower t ≠ "true" ∧ lower t ≠ "false") (hinteger : integer? t = none)
    (hread : Binary64.parse? t = some x) :
    respelled t = x.display := by
  rw [respelled, if_neg (not_or.mpr hword), hinteger, hread]

theorem isWordy_iff {t : String} : SettingKind.isWordy t = true ↔
    (lower t ≠ "true" ∧ lower t ≠ "false") ∧ integer? t = none ∧ Binary64.parse? t = none := by
  simp [SettingKind.isWordy, and_assoc]

theorem respelled_of_wordy {t : String} (h : SettingKind.isWordy t = true) : respelled t = t := by
  obtain ⟨hword, hinteger, hread⟩ := isWordy_iff.mp h
  rw [respelled, if_neg (not_or.mpr hword), hinteger, hread]

/-- A text is a truth value, an integer, another number, or words. -/
theorem text_cases (t : String) :
    (lower t = "true" ∨ lower t = "false") ∨ (∃ n, integer? t = some n) ∨
      (∃ x, (lower t ≠ "true" ∧ lower t ≠ "false") ∧ integer? t = none ∧
        Binary64.parse? t = some x) ∨
      SettingKind.isWordy t = true := by
  by_cases htruth : lower t = "true" ∨ lower t = "false"
  · exact .inl htruth
  · have hword := not_or.mp htruth
    rcases hinteger : integer? t with _ | n
    · rcases hread : Binary64.parse? t with _ | x
      · exact .inr (.inr (.inr (isWordy_iff.mpr ⟨hword, hinteger, hread⟩)))
      · exact .inr (.inr (.inl ⟨x, hword, rfl, rfl⟩))
    · exact .inr (.inl ⟨n, rfl⟩)

theorem fits_of_integer? {t : String} {n : Int} (h : integer? t = some n) :
    Toml.fits n = true := by
  simp only [integer?, Option.ite_none_left_eq_some, Option.ite_none_right_eq_some,
    Option.some.injEq] at h
  obtain ⟨-, hfits, rfl⟩ := h
  exact hfits

theorem survives_iff {t : String} : Survives t ↔ respelled t = t := by
  constructor
  · intro h
    cases h with
    | words h => exact respelled_of_wordy h
    | truth b h =>
        subst h
        cases b <;> decide
    | integer n hfits h =>
        subst h
        exact respelled_of_integer (integer?_toString hfits)
    | number x hword hinteger hread h =>
        exact (respelled_of_number hword hinteger hread).trans h.symm
  · intro h
    obtain htruth | ⟨n, hinteger⟩ | ⟨x, hword, hinteger, hread⟩ | hwords := text_cases t
    · rw [respelled_of_truth htruth] at h
      obtain htrue | hfalse := htruth
      · exact .truth true (h.symm.trans htrue)
      · exact .truth false (h.symm.trans hfalse)
    · rw [respelled_of_integer hinteger] at h
      exact .integer n (fits_of_integer? hinteger) h.symm
    · rw [respelled_of_number hword hinteger hread] at h
      exact .number x hword hinteger hread h.symm
    · exact .words hwords

/-! ## Settings -/

theorem variableValue_of_number {t : String} {x : Binary64}
    (hword : lower t ≠ "true" ∧ lower t ≠ "false") (hinteger : integer? t = none)
    (hread : Binary64.parse? t = some x) (name : String) : variableValue name t = .float x := by
  unfold variableValue
  split
  · exact absurd ‹_› hword.1
  · exact absurd ‹_› hword.2
  · simp [hinteger, hread]

/-- A text setting reads the value of its variable as the respelled text. -/
theorem reading?_variableValue (k : Setting) (hkind : k.kind = .text) (t : String) :
    k.kind.reading? (variableValue k.name t) = some (.text (respelled t)) := by
  have hname : k.name ≠ "oauth.scopes" := Setting.name_ne_of_kind (by simp [hkind])
  rw [hkind]
  obtain htruth | ⟨n, hinteger⟩ | ⟨x, hword, hinteger, hread⟩ | hwords := text_cases t
  · rw [respelled_of_truth htruth]
    obtain htrue | hfalse := htruth
    · simp [variableValue, htrue, SettingKind.reading?, text?]
    · simp [variableValue, hfalse, SettingKind.reading?, text?]
  · rw [respelled_of_integer hinteger, variableValue_of_integer hinteger]
    rfl
  · rw [respelled_of_number hword hinteger hread, variableValue_of_number hword hinteger hread]
    rfl
  · rw [respelled_of_wordy hwords, variableValue_of_wordy hwords, if_neg hname]
    rfl

theorem readableVariable_of_text {var text : String} {k : Setting}
    (hname : settingName? var = some k.name) (hkind : k.kind = .text) :
    ReadableVariable var text := by
  intro name hname' l
  cases hname.symm.trans hname'
  by_cases heq : k = l
  · subst heq
    exact .inl ⟨rfl, _, reading?_variableValue k hkind text⟩
  · rw [k.steps_name]
    exact .inr (Setting.apart_of_ne heq)

/-! ## One more variable -/

/-- The name under which a setting is usually exported. -/
def variableName : Setting → String
  | .dispatchUrl => "RADS_DISPATCH_URL"
  | .dataDir => "RADS_DATA_DIR"
  | .userAgent => "RADS_USER_AGENT"
  | .debounce => "RADS_DEBOUNCE_MS"
  | .clientId => "RADS_OAUTH__CLIENT_ID"
  | .authorizeUrl => "RADS_OAUTH__AUTHORIZE_URL"
  | .redirectUri => "RADS_OAUTH__REDIRECT_URI"
  | .scopes => "RADS_OAUTH__SCOPES"

theorem settingName?_variableName (k : Setting) : settingName? (variableName k) = some k.name := by
  cases k <;> decide +kernel

/-- An environment with one more variable for a setting. -/
def exporting (env : Environment) (k : Setting) (t : String) : Environment :=
  env ++ [(variableName k, t)]

theorem held?_exporting (env : Environment) (k : Setting) (t : String) :
    held? (exporting env k t) k = some t := by
  simp [held?, exporting, settingName?_variableName]

theorem get?_exporting (env : Environment) (k : Setting) (t : String) {name : String}
    (h : name ∈ ["HOME", "RADS_CONFIG_DIR", "XDG_CONFIG_HOME", "XDG_DATA_HOME"]) :
    Environment.get? (exporting env k t) name = Environment.get? env name := by
  have hne : name ≠ variableName k := by
    rintro rfl
    revert h
    cases k <;> decide
  simp [Environment.get?, exporting, Keyed.find?_append, Keyed.find?, hne.symm]

section Readable

variable {lib : Library} {env : Environment} {d : Disk} {configDir dataDir : Location}
  {file : Table}

/-- Any text can be exported for a text setting. -/
theorem Readable.exporting (h : Readable lib env d configDir dataDir file) {k : Setting}
    (hkind : k.kind = .text) (t : String) :
    Readable lib (exporting env k t) d configDir dataDir file where
  located := by
    have hlocated := h.located
    simp only [configDirOf, baseDir?, homeDir?] at hlocated ⊢
    rw [get?_exporting _ _ _ (by simp), get?_exporting _ _ _ (by simp),
      get?_exporting _ _ _ (by simp)]
    exact hlocated
  stored := by
    have hstored := h.stored
    simp only [dataDirOf, baseDir?, homeDir?] at hstored ⊢
    rw [get?_exporting _ _ _ (by simp), get?_exporting _ _ _ (by simp)]
    exact hstored
  made := h.made
  parsed := h.parsed
  keys := h.keys
  vars := by
    intro e he
    rcases List.mem_append.mp he with hmem | hmem
    · exact h.vars e hmem
    · rw [List.mem_singleton.mp hmem]
      exact readableVariable_of_text (settingName?_variableName k) hkind

/-- A text setting is the respelled text of its variable, which can be any and is the text itself if
that survives; the text of a file is taken over where no variable gives one. -/
theorem text_settings_are_respelled_by_variables
    (h : Readable lib env d configDir dataDir file) :
    (∀ k : Setting, k.kind = .text → ∀ t,
      Readable lib (exporting env k t) d configDir dataDir file ∧
        held? (exporting env k t) k = some t) ∧
    ∃ s, (load lib env d).1 = .ok s ∧ ∀ k : Setting, k.kind = .text →
      (∀ t, held? env k = some t →
        s.get? k = some (.text (respelled t)) ∧ (s.get? k = some (.text t) ↔ Survives t)) ∧
      ∀ t, held? env k = none → ofFile? file k = some (.text t) → s.get? k = some (.text t) := by
  refine ⟨fun k hkind t => ⟨h.exporting hkind t, held?_exporting env k t⟩, ?_⟩
  obtain ⟨s, hload, hget⟩ := exists_load_of_readable h
  refine ⟨s, hload, fun k hkind => ⟨?_, ?_⟩⟩
  · intro t ht
    have hrespelled : s.get? k = some (.text (respelled t)) := by
      rw [hget, given?, ht, Option.map_some, Option.some_or, Option.bind_some,
        reading?_variableValue k hkind, Option.some_or]
    refine ⟨hrespelled, ?_⟩
    rw [hrespelled, Option.some.injEq, Value.text.injEq, survives_iff]
  · intro t hnone hfile
    rw [hget, given?, hnone, hfile, hkind]
    rfl

end Readable

/-! ### A client whose name is a number -/

theorem exported_client_is_respelled :
    Readable .plain (exporting exported .clientId "007") filled "/c" "/h/.local/share/rads" writtenFile ∧
      ∃ s, (load .plain (exporting exported .clientId "007") filled).1 = .ok s ∧
        s.get? .clientId = some (.text "7") := by
  have hreadable := (readable_of_tidy tidy_filled).exporting (k := .clientId) rfl "007"
  obtain ⟨-, s, hload, htexts⟩ := text_settings_are_respelled_by_variables hreadable
  refine ⟨hreadable, s, hload, ?_⟩
  rw [((htexts .clientId rfl).1 "007" (held?_exporting _ _ _)).1]
  decide +kernel

/-- A file with the same client. -/
def numbered : Disk where
  entries := [(["c"], .directory), (["c", "registry.toml"], .file (Text.Utf8.encode
    "[oauth]\nclient_id = '007'\n"))]

theorem file_keeps_what_a_variable_respells :
    (load .plain exported numbered).1 = .ok { defaults "/c" "/h/.local/share/rads" with
      debounce := 7, provider := { clientId := "007" } } ∧
    ¬ ∀ (t : String) (s : Settings),
      (load .plain (exporting exported .clientId t) {}).1 = .ok s → s.provider.clientId = t := by
  refine ⟨by decide +kernel, ?_⟩
  intro hall
  have hload : (load .plain (exporting exported .clientId "007") {}).1 =
      .ok { defaults "/c" "/h/.local/share/rads" with
        debounce := 7, provider := { clientId := "7" } } := by decide +kernel
  have hkept := hall "007" _ hload
  revert hkept
  decide

end PackageRegistry.Settings
