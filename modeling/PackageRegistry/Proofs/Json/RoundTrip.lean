import Mathlib.Tactic.IntervalCases
import Mathlib.Tactic.SplitIfs
import PackageRegistry.Json.Decode
import PackageRegistry.Json.Printer
import PackageRegistry.Proofs.Results
import PackageRegistry.Text.Blank

/-! # Reading what was written

A value written over several lines reads back as the same value. The reader is followed rule by
rule, and what comes behind a value is left open, so that the parts of a document fit together.
-/

namespace PackageRegistry.Json

open Text (Glyph)

/-- Text as the reader sees it. -/
def glyphs (cs : List Char) : List Glyph := cs.map .char

@[simp] theorem glyphs_nil : glyphs [] = [] := rfl

@[simp] theorem glyphs_cons (c : Char) (cs : List Char) : glyphs (c :: cs) = .char c :: glyphs cs :=
  rfl

@[simp] theorem glyphs_append (cs ds : List Char) : glyphs (cs ++ ds) = glyphs cs ++ glyphs ds :=
  List.map_append

@[simp] theorem length_glyphs (cs : List Char) : (glyphs cs).length = cs.length :=
  List.length_map _

/-! ## Documents of values -/

/-- The marks of a text. -/
def marks (s : String) : List Mark := s.toList.map .char

/-- A natural number as it is written. -/
def Numeral.ofNat (n : Nat) : Numeral := ⟨false, Nat.toDigits 10 n, none, none⟩

namespace Raw

mutual

/-- The document that a value is written as, numbers other than natural ones aside. -/
def ofValue : Value → Raw
  | .null => .null
  | .bool b => .bool b
  | .number (.natural n) => .number (.ofNat n)
  | .number _ => .null
  | .string s => .string (marks s)
  | .array vs => .array (ofItems vs)
  | .object fs => .object (ofFields fs)

def ofItems : List Value → List Raw
  | [] => []
  | v :: vs => ofValue v :: ofItems vs

def ofFields : List (String × Value) → List (List Mark × Raw)
  | [] => []
  | (k, v) :: fs => (marks k, ofValue v) :: ofFields fs

end

end Raw

namespace Value

mutual

/-- No numbers but natural ones of at most 64 bits. -/
def Plain : Value → Prop
  | .number (.natural n) => n ≤ largest
  | .number _ => False
  | .array vs => PlainItems vs
  | .object fs => PlainFields fs
  | .null | .bool _ | .string _ => True

def PlainItems : List Value → Prop
  | [] => True
  | v :: vs => Plain v ∧ PlainItems vs

def PlainFields : List (String × Value) → Prop
  | [] => True
  | (_, v) :: fs => Plain v ∧ PlainFields fs

end

end Value

namespace Reader

/-! ## Blanks -/

theorem skipSpace_newLine (level : Nat) (rest : List Glyph) :
    skipSpace (glyphs (newLine level) ++ rest) = skipSpace rest := by
  have hspaces : ∀ n, (glyphs (List.replicate n ' ') ++ rest).dropWhile isSpace =
      rest.dropWhile isSpace := by
    intro n
    induction n with
    | zero => rfl
    | succ n ih => simpa [List.replicate_succ, isSpace] using ih
  simpa [skipSpace, newLine, isSpace] using hspaces (2 * level)

theorem skipSpace_char {c : Char} (h : isSpace (.char c) = false) (rest : List Glyph) :
    skipSpace (.char c :: rest) = .char c :: rest := by
  simp [skipSpace, h]

/-! ## String literals -/

theorem hexValue?_hexDigit : ∀ n < 16, Text.hexValue? (hexDigit n) = some n := by decide

theorem hexUnit_control {n : Nat} (h : n < 32) (rest : List Glyph) :
    hexUnit (glyphs ['0', '0', hexDigit (n / 16), hexDigit (n % 16)] ++ rest) = .ok (n, rest) := by
  have hzero : Text.hexValue? '0' = some 0 := by decide
  have hhigh := hexValue?_hexDigit (n / 16) (by omega)
  have hlow := hexValue?_hexDigit (n % 16) (by omega)
  have hsum : n / 16 * 16 + n % 16 = n := by omega
  simp [hexUnit, hexUnit?, hzero, hhigh, hlow, hsum]

/-- A written character is read in one turn. -/
theorem stringMarks_escapeChar (fuel : Nat) (c : Char) (rest : List Glyph) :
    stringMarks (fuel + 1) (glyphs (escapeChar c) ++ rest) =
      (stringMarks fuel rest).map fun (ms, r) => (.char c :: ms, r) := by
  unfold escapeChar
  split_ifs with hquote hslash hfeed hreturn htab hback hform hcontrol
  · subst hquote
    simp [stringMarks, shortEscape?]
  · subst hslash
    simp [stringMarks, shortEscape?]
  · subst hfeed
    simp [stringMarks, shortEscape?]
  · subst hreturn
    simp [stringMarks, shortEscape?]
  · subst htab
    simp [stringMarks, shortEscape?]
  · have hchar : Char.ofNat 8 = c := by rw [← hback, Char.ofNat_toNat]
    simp [stringMarks, shortEscape?, ← hchar]
  · have hchar : Char.ofNat 12 = c := by rw [← hform, Char.ofNat_toNat]
    simp [stringMarks, shortEscape?, ← hchar]
  · have hunit := hexUnit_control hcontrol rest
    have hmark : unitMark c.toNat = .char c := by
      rw [unitMark, if_neg (by omega), Char.ofNat_toNat]
    simp only [glyphs_cons, glyphs_nil, List.cons_append, List.nil_append] at hunit ⊢
    simp [stringMarks, hunit, hmark]
  · simp [stringMarks, hquote, hslash, hcontrol]

theorem stringMarks_escaped (cs : List Char) (rest : List Glyph) :
    ∀ fuel, cs.length < fuel →
      stringMarks fuel (glyphs (cs.flatMap escapeChar) ++ .char '"' :: rest) =
        .ok (cs.map .char, rest) := by
  induction cs with
  | nil =>
      intro fuel hfuel
      obtain ⟨fuel, rfl⟩ := Nat.exists_eq_succ_of_ne_zero (Nat.ne_of_gt hfuel)
      simp [stringMarks]
  | cons c cs ih =>
      intro fuel hfuel
      obtain ⟨fuel, rfl⟩ := Nat.exists_eq_succ_of_ne_zero (Nat.ne_zero_of_lt hfuel)
      rw [List.flatMap_cons, glyphs_append, List.append_assoc, stringMarks_escapeChar,
        ih fuel (by simpa using hfuel)]
      rfl

theorem length_le_length_escaped (cs : List Char) :
    cs.length ≤ (cs.flatMap escapeChar).length := by
  induction cs with
  | nil => simp
  | cons c cs ih =>
      have hpos : 0 < (escapeChar c).length := by
        unfold escapeChar
        split_ifs <;> simp
      simp only [List.flatMap_cons, List.length_append, List.length_cons]
      omega

/-- A literal reads back as its text, from behind its opening quotation mark. -/
theorem stringLiteral_written (s : String) (rest : List Glyph) :
    stringLiteral (glyphs (s.toList.flatMap escapeChar ++ ['"']) ++ rest) = .ok (marks s, rest) := by
  have hlength := length_le_length_escaped s.toList
  rw [stringLiteral, glyphs_append, List.append_assoc]
  apply stringMarks_escaped
  simp only [List.length_append, length_glyphs]
  omega

/-! ## Numbers -/

/-- What comes behind a number does not go on with it. -/
def Ends (rest : List Glyph) : Prop :=
  ∀ c more, rest = .char c :: more → c.isDigit = false ∧ c ≠ '.' ∧ c ≠ 'e' ∧ c ≠ 'E'

theorem ends_nil : Ends [] := by
  intro c more h
  cases h

theorem ends_char {c : Char} (h : c.isDigit = false ∧ c ≠ '.' ∧ c ≠ 'e' ∧ c ≠ 'E')
    (rest : List Glyph) : Ends (.char c :: rest) := by
  intro c' more heq
  cases heq
  exact h

theorem digits_written {ds : List Char} {rest : List Glyph} (hds : ∀ c ∈ ds, c.isDigit = true)
    (hrest : Ends rest) : digits (glyphs ds ++ rest) = (ds, rest) := by
  induction ds with
  | nil =>
      match rest with
      | [] => rfl
      | .stray _ :: _ => rfl
      | .char c :: more =>
          have hc := (hrest c more rfl).1
          simp [digits, digit?, hc]
  | cons d ds ih =>
      have hd := hds d (by simp)
      have htail := ih fun c hc => hds c (by simp [hc])
      simp [digits, digit?, hd, htail]

theorem fraction_of_ends {rest : List Glyph} (hrest : Ends rest) :
    fraction rest = .ok (none, rest) := by
  unfold fraction
  split
  · rename_i more
    exact absurd rfl (hrest '.' more rfl).2.1
  · rfl

theorem exponent_of_ends {rest : List Glyph} (hrest : Ends rest) :
    exponent rest = .ok (none, rest) := by
  unfold exponent
  split
  · rename_i c more
    obtain ⟨_, _, he, hE⟩ := hrest c more rfl
    simp [he, hE]
  · rfl

/-- A number above nine does not begin with a zero. -/
theorem head?_toDigits_ne_zero : ∀ n, 0 < n → (Nat.toDigits 10 n).head? ≠ some '0' := by
  intro n
  induction n using Nat.strongRecOn with
  | ind n ih =>
      intro hpos
      by_cases hlt : n < 10
      · rw [Nat.toDigits_of_lt_base hlt]
        interval_cases n <;> decide
      · have hquot := ih (n / 10) (by omega) (by omega)
        rw [Nat.toDigits_of_base_le (by omega) (by omega), List.head?_append]
        cases hhead : (Nat.toDigits 10 (n / 10)).head? with
        | none => simp [Nat.toDigits_ne_nil] at hhead
        | some c => simpa [hhead] using hquot

theorem whole_toDigits (n : Nat) {rest : List Glyph} (hrest : Ends rest) :
    whole (glyphs (Nat.toDigits 10 n) ++ rest) = .ok (Nat.toDigits 10 n, rest) := by
  have hdigits : ∀ c ∈ Nat.toDigits 10 n, c.isDigit = true :=
    fun c hc => Nat.isDigit_of_mem_toDigits (by omega) le_rfl hc
  rw [whole, digits_written hdigits hrest]
  by_cases hzero : n = 0
  · subst hzero
    rfl
  · have hhead := head?_toDigits_ne_zero n (Nat.pos_of_ne_zero hzero)
    have hne : Nat.toDigits 10 n ≠ [] := Nat.toDigits_ne_nil
    split <;> simp_all

theorem number_toDigits (n : Nat) {rest : List Glyph} (hrest : Ends rest) :
    number false (glyphs (Nat.toDigits 10 n) ++ rest) = .ok (.number (.ofNat n), rest) := by
  simp [number, whole_toDigits n hrest, fraction_of_ends hrest, exponent_of_ends hrest,
    Numeral.ofNat]

/-! ## The rules of the reader -/

/-- A character that a value can begin with. -/
structure Opens (c : Char) : Prop where
  space : isSpace (.char c) = false
  arrayEnd : c ≠ ']'
  objectEnd : c ≠ '\x7d'

section Rules

attribute [local simp] value items fields

theorem value_null (fuel : Nat) (rest : List Glyph) :
    value (fuel + 1) (glyphs ['n', 'u', 'l', 'l'] ++ rest) = .ok (.null, rest) := by
  simp [skipSpace, isSpace, word]

theorem value_true (fuel : Nat) (rest : List Glyph) :
    value (fuel + 1) (glyphs ['t', 'r', 'u', 'e'] ++ rest) = .ok (.bool true, rest) := by
  simp [skipSpace, isSpace, word]

theorem value_false (fuel : Nat) (rest : List Glyph) :
    value (fuel + 1) (glyphs ['f', 'a', 'l', 's', 'e'] ++ rest) = .ok (.bool false, rest) := by
  simp [skipSpace, isSpace, word]

theorem value_string (fuel : Nat) (s : String) (rest : List Glyph) :
    value (fuel + 1) (glyphs (Json.stringLiteral s) ++ rest) = .ok (.string (marks s), rest) := by
  have hliteral := stringLiteral_written s rest
  simp only [glyphs_append, glyphs_cons, glyphs_nil, List.append_assoc, List.cons_append,
    List.nil_append] at hliteral
  simp [skipSpace, isSpace, Json.stringLiteral, hliteral]

theorem isDigit_ne {c : Char} (h : c.isDigit = true) :
    isSpace (.char c) = false ∧ c ≠ 'n' ∧ c ≠ 't' ∧ c ≠ 'f' ∧ c ≠ '-' := by
  refine ⟨?_, ?_, ?_, ?_, ?_⟩
  · simp only [isSpace, Bool.or_eq_false_iff, decide_eq_false_iff_not]
    refine ⟨⟨⟨?_, ?_⟩, ?_⟩, ?_⟩ <;> rintro rfl <;> revert h <;> decide
  all_goals rintro rfl; revert h; decide

theorem value_natural (fuel n : Nat) {rest : List Glyph} (hrest : Ends rest) :
    value (fuel + 1) (glyphs (Nat.toDigits 10 n) ++ rest) = .ok (.number (.ofNat n), rest) := by
  have hnumber := number_toDigits n hrest
  cases hdigits : Nat.toDigits 10 n with
  | nil => exact absurd hdigits Nat.toDigits_ne_nil
  | cons c cs =>
      have hc : c.isDigit = true :=
        Nat.isDigit_of_mem_toDigits (b := 10) (n := n) (by omega) le_rfl (by simp [hdigits])
      obtain ⟨hspace, hn, ht, hf, hminus⟩ := isDigit_ne hc
      rw [hdigits] at hnumber
      simp only [glyphs_cons, List.cons_append] at hnumber ⊢
      simp only [value, skipSpace_char hspace, hn, ht, hf, hminus, hc, if_true, if_false, hnumber]

theorem value_array_nil (fuel : Nat) (rest : List Glyph) :
    value (fuel + 1) (glyphs ['[', ']'] ++ rest) = .ok (.array [], rest) := by
  simp [skipSpace, isSpace]

theorem value_object_nil (fuel : Nat) (rest : List Glyph) :
    value (fuel + 1) (glyphs ['\x7b', '\x7d'] ++ rest) = .ok (.object [], rest) := by
  simp [skipSpace, isSpace]

theorem value_array {fuel : Nat} {c : Char} {input more rest : List Glyph} {vs : List Raw}
    (hopens : Opens c) (hskip : skipSpace input = .char c :: more)
    (hitems : items fuel (.char c :: more) = .ok (vs, rest)) :
    value (fuel + 1) (.char '[' :: input) = .ok (.array vs, rest) := by
  have hne := hopens.arrayEnd
  simp only [value, skipSpace_char (c := '[') (by decide), hskip]
  simp [hne, hitems]

theorem value_object {fuel : Nat} {input more rest : List Glyph} {fs : List (List Mark × Raw)}
    (hskip : skipSpace input = .char '"' :: more)
    (hfields : fields fuel (.char '"' :: more) = .ok (fs, rest)) :
    value (fuel + 1) (.char '\x7b' :: input) = .ok (.object fs, rest) := by
  simp only [value, skipSpace_char (c := '\x7b') (by decide), hskip]
  simp [hfields]

theorem items_last {fuel : Nat} {g : Glyph} {input rest after : List Glyph} {v : Raw}
    (hvalue : value fuel (g :: input) = .ok (v, rest))
    (hskip : skipSpace rest = .char ']' :: after) :
    items (fuel + 1) (g :: input) = .ok ([v], after) := by
  simp [hvalue, hskip]

theorem items_cons {fuel : Nat} {c : Char} {g : Glyph} {input rest after next last : List Glyph}
    {v : Raw} {vs : List Raw} (hvalue : value fuel (g :: input) = .ok (v, rest))
    (hcomma : skipSpace rest = .char ',' :: after) (hopens : Opens c)
    (hskip : skipSpace after = .char c :: next)
    (hitems : items fuel (.char c :: next) = .ok (vs, last)) :
    items (fuel + 1) (g :: input) = .ok (v :: vs, last) := by
  have hne := hopens.arrayEnd
  simp [hvalue, hcomma, hskip, hne, hitems]

theorem fields_last {fuel : Nat} {k : List Mark} {v : Raw}
    {input colon start rest after : List Glyph} (hkey : stringLiteral input = .ok (k, colon))
    (hcolon : skipSpace colon = .char ':' :: start) (hvalue : value fuel start = .ok (v, rest))
    (hskip : skipSpace rest = .char '\x7d' :: after) :
    fields (fuel + 1) (.char '"' :: input) = .ok ([(k, v)], after) := by
  simp [hkey, hcolon, hvalue, hskip]

theorem fields_cons {fuel : Nat} {k : List Mark} {v : Raw} {fs : List (List Mark × Raw)}
    {input colon start rest after next last : List Glyph}
    (hkey : stringLiteral input = .ok (k, colon)) (hcolon : skipSpace colon = .char ':' :: start)
    (hvalue : value fuel start = .ok (v, rest)) (hcomma : skipSpace rest = .char ',' :: after)
    (hskip : skipSpace after = .char '"' :: next)
    (hfields : fields fuel (.char '"' :: next) = .ok (fs, last)) :
    fields (fuel + 1) (.char '"' :: input) = .ok ((k, v) :: fs, last) := by
  simp [hkey, hcolon, hvalue, hcomma, hskip, hfields]

/-- A blank in front of a value changes nothing. -/
theorem value_space (fuel : Nat) (input : List Glyph) :
    value fuel (.char ' ' :: input) = value fuel input := by
  cases fuel with
  | zero => rfl
  | succ fuel => simp [skipSpace, isSpace]

end Rules

/-! ## Written values -/

open Value (Plain PlainItems PlainFields)

theorem opens_of_isDigit {c : Char} (h : c.isDigit = true) : Opens c := by
  refine ⟨(isDigit_ne h).1, ?_, ?_⟩ <;> rintro rfl <;> revert h <;> decide

theorem exists_opens_prettyChars (level : Nat) {v : Value} (hv : Plain v) :
    ∃ c cs, prettyChars level v = c :: cs ∧ Opens c := by
  match v, hv with
  | .null, _ => exact ⟨_, _, rfl, ⟨by decide, by decide, by decide⟩⟩
  | .bool true, _ => exact ⟨_, _, rfl, ⟨by decide, by decide, by decide⟩⟩
  | .bool false, _ => exact ⟨_, _, rfl, ⟨by decide, by decide, by decide⟩⟩
  | .string s, _ => exact ⟨_, _, rfl, ⟨by decide, by decide, by decide⟩⟩
  | .array [], _ => exact ⟨_, _, rfl, ⟨by decide, by decide, by decide⟩⟩
  | .array (_ :: _), _ => exact ⟨_, _, rfl, ⟨by decide, by decide, by decide⟩⟩
  | .object [], _ => exact ⟨_, _, rfl, ⟨by decide, by decide, by decide⟩⟩
  | .object (_ :: _), _ => exact ⟨_, _, rfl, ⟨by decide, by decide, by decide⟩⟩
  | .number (.natural n), _ =>
      cases hdigits : Nat.toDigits 10 n with
      | nil => exact absurd hdigits Nat.toDigits_ne_nil
      | cons c cs =>
          have hc : c.isDigit = true :=
            Nat.isDigit_of_mem_toDigits (b := 10) (n := n) (by omega) le_rfl (by simp [hdigits])
          exact ⟨c, cs, hdigits, opens_of_isDigit hc⟩

theorem ends_newLine (level : Nat) (rest : List Glyph) : Ends (glyphs (newLine level) ++ rest) :=
  ends_char (by decide) _

theorem skipSpace_closing {c : Char} (h : isSpace (.char c) = false) (level : Nat)
    (rest : List Glyph) :
    skipSpace (glyphs (newLine level) ++ .char c :: rest) = .char c :: rest := by
  rw [skipSpace_newLine, skipSpace_char h]

/-- What stands on the next line. -/
theorem skipSpace_member {c : Char} (h : isSpace (.char c) = false) (level : Nat)
    {text cs : List Char} (htext : text = c :: cs) (rest : List Glyph) :
    skipSpace (glyphs (newLine level) ++ (glyphs text ++ rest)) =
      .char c :: (glyphs cs ++ rest) := by
  rw [skipSpace_newLine, htext]
  exact skipSpace_char h _

/-- The first of the members on lines of their own comes first. -/
theorem exists_inner_cons (level : Nat) (x : List Char) (rest : List (List Char)) :
    ∃ tail, block.inner level (x :: rest) = x ++ tail := by
  cases rest with
  | nil => exact ⟨[], by simp [block.inner]⟩
  | cons y rest => exact ⟨_, List.append_assoc _ _ _⟩

theorem inner_cons_cons (level : Nat) (x y : List Char) (rest : List (List Char)) :
    block.inner level (x :: y :: rest) =
      x ++ ',' :: (newLine (level + 1) ++ block.inner level (y :: rest)) := by
  simp [block.inner]

/-- The members of an array begin like the first of them. -/
theorem exists_opens_items (level : Nat) {v : Value} (hv : Plain v) (vs : List Value) :
    ∃ c cs, block.inner level (prettyItems (level + 1) (v :: vs)) = c :: cs ∧ Opens c := by
  obtain ⟨c, cs, hchars, hopens⟩ := exists_opens_prettyChars (level + 1) hv
  obtain ⟨tail, htail⟩ :=
    exists_inner_cons level (prettyChars (level + 1) v) (prettyItems (level + 1) vs)
  refine ⟨c, cs ++ tail, ?_, hopens⟩
  rw [prettyItems, htail, hchars, List.cons_append]

/-- The fields of an object begin with the quotation mark of a key. -/
theorem exists_inner_fields (level : Nat) (f : String × Value) (fs : List (String × Value)) :
    ∃ cs, block.inner level (prettyFields (level + 1) (f :: fs)) = '"' :: cs := by
  obtain ⟨tail, htail⟩ := exists_inner_cons level
    (Json.stringLiteral f.1 ++ ':' :: ' ' :: prettyChars (level + 1) f.2)
    (prettyFields (level + 1) fs)
  exact ⟨_, htail⟩

mutual

theorem value_prettyChars : ∀ (v : Value) (level fuel : Nat) (rest : List Glyph), Plain v →
    Ends rest → (prettyChars level v).length ≤ fuel →
    value fuel (glyphs (prettyChars level v) ++ rest) = .ok (.ofValue v, rest)
  | _, level, 0, _, hv, _, hfuel => by
      obtain ⟨c, cs, hchars, _⟩ := exists_opens_prettyChars level hv
      simp [hchars] at hfuel
  | .null, _, fuel + 1, rest, _, _, _ => value_null fuel rest
  | .bool true, _, fuel + 1, rest, _, _, _ => value_true fuel rest
  | .bool false, _, fuel + 1, rest, _, _, _ => value_false fuel rest
  | .string s, _, fuel + 1, rest, _, _, _ => value_string fuel s rest
  | .number (.natural n), _, fuel + 1, _, _, hrest, _ => value_natural fuel n hrest
  | .array [], _, fuel + 1, rest, _, _, _ => value_array_nil fuel rest
  | .object [], _, fuel + 1, rest, _, _, _ => value_object_nil fuel rest
  | .array (v :: vs), level, fuel + 1, rest, hv, _, hfuel => by
      have hlength :
          (block.inner level (prettyItems (level + 1) (v :: vs))).length < fuel := by
        simp only [prettyChars, block, prettyItems, newLine, List.length_cons, List.length_append,
          List.length_nil] at hfuel ⊢
        omega
      have hitems := items_pretty (v :: vs) level fuel rest (List.cons_ne_nil _ _) hv hlength
      obtain ⟨c, cs, hchars, hopens⟩ := exists_opens_items level hv.1 vs
      rw [hchars] at hitems
      have hskip := skipSpace_member hopens.space (level + 1) hchars
        (glyphs (newLine level) ++ .char ']' :: rest)
      have hvalue := value_array hopens hskip hitems
      simpa [prettyChars, block, prettyItems, Raw.ofValue] using hvalue
  | .object (f :: fs), level, fuel + 1, rest, hv, _, hfuel => by
      have hlength :
          (block.inner level (prettyFields (level + 1) (f :: fs))).length < fuel := by
        simp only [prettyChars, block, prettyFields, newLine, List.length_cons, List.length_append,
          List.length_nil] at hfuel ⊢
        omega
      have hfields := fields_pretty (f :: fs) level fuel rest (List.cons_ne_nil _ _) hv hlength
      obtain ⟨cs, hchars⟩ := exists_inner_fields level f fs
      rw [hchars] at hfields
      have hskip := skipSpace_member (c := '"') (by decide) (level + 1) hchars
        (glyphs (newLine level) ++ .char '\x7d' :: rest)
      have hvalue := value_object hskip hfields
      simpa [prettyChars, block, prettyFields, Raw.ofValue] using hvalue

theorem items_pretty : ∀ (vs : List Value) (level fuel : Nat) (rest : List Glyph),
    vs ≠ [] → PlainItems vs → (block.inner level (prettyItems (level + 1) vs)).length < fuel →
    items fuel (glyphs (block.inner level (prettyItems (level + 1) vs)) ++
      (glyphs (newLine level) ++ .char ']' :: rest)) = .ok (Raw.ofItems vs, rest)
  | _, _, 0, _, _, _, hfuel => absurd hfuel (Nat.not_lt_zero _)
  | [v], level, fuel + 1, rest, _, hvs, hfuel => by
      obtain ⟨c, cs, hchars, _⟩ := exists_opens_prettyChars (level + 1) hvs.1
      have hvalue := value_prettyChars v (level + 1) fuel
        (glyphs (newLine level) ++ .char ']' :: rest) hvs.1 (ends_newLine _ _)
        (Nat.le_of_lt_succ hfuel)
      simp only [prettyItems, block.inner, hchars, glyphs_cons, List.cons_append] at hvalue ⊢
      exact items_last hvalue (skipSpace_closing (by decide) level rest)
  | v :: w :: ws, level, fuel + 1, rest, _, hvs, hfuel => by
      have htext : block.inner level (prettyItems (level + 1) (v :: w :: ws)) =
          prettyChars (level + 1) v ++
            ',' :: (newLine (level + 1) ++ block.inner level (prettyItems (level + 1) (w :: ws))) :=
        inner_cons_cons _ _ _ _
      rw [htext] at hfuel ⊢
      simp only [List.length_append, List.length_cons] at hfuel
      have hitems := items_pretty (w :: ws) level fuel rest (List.cons_ne_nil _ _) hvs.2 (by omega)
      have hvalue := value_prettyChars v (level + 1) fuel
        (.char ',' :: (glyphs (newLine (level + 1)) ++
          (glyphs (block.inner level (prettyItems (level + 1) (w :: ws))) ++
            (glyphs (newLine level) ++ .char ']' :: rest))))
        hvs.1 (ends_char (by decide) _) (by omega)
      obtain ⟨c, cs, hchars, _⟩ := exists_opens_prettyChars (level + 1) hvs.1
      obtain ⟨d, ds, hnext, hopens⟩ := exists_opens_items level hvs.2.1 ws
      simp only [hchars, glyphs_cons, List.cons_append] at hvalue
      rw [hnext] at hitems
      have hskip := skipSpace_member hopens.space (level + 1) hnext
        (glyphs (newLine level) ++ .char ']' :: rest)
      have hall := items_cons hvalue (skipSpace_char (by decide) _) hopens hskip hitems
      simpa [hchars, Raw.ofItems] using hall

theorem fields_pretty : ∀ (fs : List (String × Value)) (level fuel : Nat) (rest : List Glyph),
    fs ≠ [] → PlainFields fs → (block.inner level (prettyFields (level + 1) fs)).length < fuel →
    fields fuel (glyphs (block.inner level (prettyFields (level + 1) fs)) ++
      (glyphs (newLine level) ++ .char '\x7d' :: rest)) = .ok (Raw.ofFields fs, rest)
  | _, _, 0, _, _, _, hfuel => absurd hfuel (Nat.not_lt_zero _)
  | [(k, v)], level, fuel + 1, rest, _, hfs, hfuel => by
      simp only [prettyFields, block.inner, List.length_append, List.length_cons] at hfuel
      have hvalue := value_prettyChars v (level + 1) fuel
        (glyphs (newLine level) ++ .char '\x7d' :: rest) hfs.1 (ends_newLine _ _) (by omega)
      rw [← value_space] at hvalue
      have hkey := stringLiteral_written k (.char ':' :: .char ' ' ::
        (glyphs (prettyChars (level + 1) v) ++ (glyphs (newLine level) ++ .char '\x7d' :: rest)))
      have hall := fields_last hkey (skipSpace_char (by decide) _) hvalue
        (skipSpace_closing (by decide) level rest)
      simpa [prettyFields, block.inner, Json.stringLiteral, Raw.ofFields] using hall
  | (k, v) :: f :: fs, level, fuel + 1, rest, _, hfs, hfuel => by
      have htext : block.inner level (prettyFields (level + 1) ((k, v) :: f :: fs)) =
          Json.stringLiteral k ++ ':' :: ' ' :: prettyChars (level + 1) v ++
            ',' :: (newLine (level + 1) ++ block.inner level (prettyFields (level + 1) (f :: fs))) :=
        inner_cons_cons _ _ _ _
      rw [htext] at hfuel ⊢
      simp only [List.length_append, List.length_cons] at hfuel
      have hfields := fields_pretty (f :: fs) level fuel rest (List.cons_ne_nil _ _) hfs.2 (by omega)
      have hvalue := value_prettyChars v (level + 1) fuel
        (.char ',' :: (glyphs (newLine (level + 1)) ++
          (glyphs (block.inner level (prettyFields (level + 1) (f :: fs))) ++
            (glyphs (newLine level) ++ .char '\x7d' :: rest))))
        hfs.1 (ends_char (by decide) _) (by omega)
      rw [← value_space] at hvalue
      have hkey := stringLiteral_written k (.char ':' :: .char ' ' ::
        (glyphs (prettyChars (level + 1) v) ++ (.char ',' :: (glyphs (newLine (level + 1)) ++
          (glyphs (block.inner level (prettyFields (level + 1) (f :: fs))) ++
            (glyphs (newLine level) ++ .char '\x7d' :: rest))))))
      obtain ⟨cs, hnext⟩ := exists_inner_fields level f fs
      have hskip := skipSpace_member (c := '"') (by decide) (level + 1) hnext
        (glyphs (newLine level) ++ .char '\x7d' :: rest)
      rw [hnext] at hfields
      have hall := fields_cons hkey (skipSpace_char (by decide) _) hvalue
        (skipSpace_char (by decide) _) hskip hfields
      simpa [Json.stringLiteral, Raw.ofFields] using hall

end

/-- The form of a written document is that of its value. -/
theorem document_pretty {v : Value} (hv : Plain v) :
    document (Glyph.ofString v.pretty) = .ok (.ofValue v) := by
  have htext : Glyph.ofString v.pretty = glyphs (prettyChars 0 v) ++ [] := by
    simp [Glyph.ofString, Value.pretty, glyphs]
  have hvalue := value_prettyChars v 0 (2 * (glyphs (prettyChars 0 v) ++ []).length + 2) [] hv
    ends_nil (by simp only [List.length_append, length_glyphs]; omega)
  rw [htext, document, hvalue]
  rfl

/-! ## Blank texts -/

theorem isDigit_of_blank {c : Char} (h : Text.isBlankChar c = true) : c.isDigit = false := by
  cases hdigit : c.isDigit with
  | false => rfl
  | true =>
      have hrange : 48 ≤ c.toNat ∧ c.toNat ≤ 57 := by
        simpa [Char.isDigit, UInt32.le_iff_toNat_le] using hdigit
      simp only [Text.isBlankChar, Bool.or_eq_true, Bool.and_eq_true, decide_eq_true_eq,
        beq_iff_eq] at h
      omega

/-- No document is blank. -/
theorem document_ne_ok_of_blank {s : String} (h : Text.isBlank s = true) (v : Raw) :
    document (Glyph.ofString s) ≠ .ok v := by
  have hstop : ∀ fuel, ∃ stop, value fuel (Glyph.ofString s) = .error stop := by
    intro fuel
    cases fuel with
    | zero => exact ⟨_, rfl⟩
    | succ fuel =>
        rw [value]
        split
        · exact ⟨_, rfl⟩
        · exact ⟨_, rfl⟩
        · rename_i c rest hskip
          have hmem : Glyph.char c ∈ Glyph.ofString s :=
            (List.dropWhile_sublist isSpace).subset (by rw [skipSpace] at hskip; simp [hskip])
          have hblank : Text.isBlankChar c = true := by
            refine List.all_eq_true.mp h c ?_
            simpa [Glyph.ofString] using hmem
          have hne : ∀ d, Text.isBlankChar d = false → c ≠ d := by
            rintro d hd rfl
            simp [hblank] at hd
          simp only [isDigit_of_blank hblank, if_neg (hne 'n' (by decide)),
            if_neg (hne 't' (by decide)), if_neg (hne 'f' (by decide)),
            if_neg (hne '-' (by decide)), if_neg (hne '"' (by decide)),
            if_neg (hne '[' (by decide)), if_neg (hne '\x7b' (by decide))]
          exact ⟨_, rfl⟩
  obtain ⟨stop, hvalue⟩ := hstop (2 * (Glyph.ofString s).length + 2)
  simp [document, hvalue]

end Reader

/-! ## The meaning of a written document -/

theorem markText_marks (s : String) : markText (marks s) = .ok s := by
  have hchars : ∀ cs : List Char, markChars (cs.map .char) = .ok cs := by
    intro cs
    induction cs with
    | nil => rfl
    | cons c cs ih => simp [markChars, ih]
  rw [markText, marks, hchars, Results.map_ok, String.ofList_toList]

theorem fieldKeys_ofFields (fs : List (String × Value)) :
    fieldKeys (Raw.ofFields fs) = .ok (fs.map fun f => (f.1, Raw.ofValue f.2)) := by
  induction fs with
  | nil => rfl
  | cons f fs ih => simp [Raw.ofFields, fieldKeys, markText_marks, ih]

theorem shape_ofValue_string (s : String) :
    Document.shape (Raw.ofValue (.string s)) = .ok (.string s) := by
  simp [Document.shape, Raw.ofValue, markText_marks]

theorem shape_ofValue_object (fs : List (String × Value)) :
    Document.shape (Raw.ofValue (.object fs)) =
      .ok (.object (fs.map fun f => (f.1, Raw.ofValue f.2))) := by
  simp [Document.shape, Raw.ofValue, fieldKeys_ofFields]

namespace Decode

@[simp] theorem text_ofValue (s : String) : text (Raw.ofValue (.string s)) = .ok s := by
  simp [text, shape_ofValue_string]

theorem nullable_null {α : Type} (read : Raw → Except Defect α) :
    nullable read (Raw.ofValue .null) = .ok none := by
  simp [nullable, Document.shape, Raw.ofValue]

theorem nullable_string {α : Type} (read : Raw → Except Defect α) (s : String) :
    nullable read (Raw.ofValue (.string s)) = (read (Raw.ofValue (.string s))).map some := by
  simp [nullable, shape_ofValue_string]

theorem nullable_object {α : Type} (read : Raw → Except Defect α) (fs : List (String × Value)) :
    nullable read (Raw.ofValue (.object fs)) = (read (Raw.ofValue (.object fs))).map some := by
  simp [nullable, shape_ofValue_object]

@[simp] theorem nullable_text_optional (o : Option String) :
    nullable text (Raw.ofValue (.optional o)) = .ok o := by
  cases o with
  | none => exact nullable_null text
  | some s => rw [Value.optional, nullable_string, text_ofValue, Results.map_ok]

end Decode

/-- Typed data is read from a written value as from the value itself. -/
theorem parseAs_pretty {α : Type} {read : Raw → Except Defect α} {v : Value} {a : α}
    (hv : v.Plain) (hread : read (.ofValue v) = .ok a) :
    parseAs read (Glyph.ofString v.pretty) = .ok a := by
  simp [parseAs, Reader.document_pretty hv, hread]

end PackageRegistry.Json
