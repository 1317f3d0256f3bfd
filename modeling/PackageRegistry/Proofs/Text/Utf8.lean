import Mathlib.Tactic.SplitIfs
import PackageRegistry.Text.Utf8

/-! # Text survives its encoding

The bytes of a text decode to its characters again, with no stray run among them.
-/

namespace PackageRegistry.Text

namespace Utf8

/-! ## The bytes of a character -/

theorem toNat_ofNat_of_lt {n : Nat} (h : n < 256) : (UInt8.ofNat n).toNat = n := by
  simp [Nat.mod_eq_of_lt h]

theorem toNat_continuation (n : Nat) : (continuation n).toNat = 0x80 + n % 64 :=
  toNat_ofNat_of_lt (by omega)

/-- A character has a number below the end of the code space, outside the surrogates. -/
theorem toNat_lt_or (c : Char) : c.toNat < 0xD800 ∨ 0xDFFF < c.toNat ∧ c.toNat < 0x110000 :=
  c.valid

/-- The byte that completes a character. -/
theorem decodeFrom_last {p : Partial} {n : Nat} (rest : List UInt8) (hmissing : p.missing = 1)
    (hlow : p.range.1 ≤ 0x80 + n % 64) (hhigh : 0x80 + n % 64 ≤ p.range.2) :
    decodeFrom (some p) (continuation n :: rest) =
      .char (Char.ofNat (p.value * 64 + n % 64)) :: decodeFrom none rest := by
  have hwithin : within p.range.1 p.range.2 (continuation n) = true := by
    simp [within, toNat_continuation, hlow, hhigh]
  have hmod : (0x80 + n % 64) % 64 = n % 64 := by omega
  simp [decodeFrom, hwithin, hmissing, toNat_continuation, hmod]

/-- A byte in the middle of a character. -/
theorem decodeFrom_more {p : Partial} {n : Nat} (rest : List UInt8) (hmissing : p.missing ≠ 1)
    (hlow : p.range.1 ≤ 0x80 + n % 64) (hhigh : 0x80 + n % 64 ≤ p.range.2) :
    decodeFrom (some p) (continuation n :: rest) =
      decodeFrom (some ⟨p.bytes ++ [continuation n], p.value * 64 + n % 64, p.missing - 1,
        (0x80, 0xBF)⟩) rest := by
  have hwithin : within p.range.1 p.range.2 (continuation n) = true := by
    simp [within, toNat_continuation, hlow, hhigh]
  have hmod : (0x80 + n % 64) % 64 = n % 64 := by omega
  simp [decodeFrom, hwithin, hmissing, toNat_continuation, hmod]

theorem decodeFrom_begin {b : UInt8} {p : Partial} (rest : List UInt8) (h : begin b = .inr p) :
    decodeFrom none (b :: rest) = decodeFrom (some p) rest := by
  simp [decodeFrom, h]

theorem begin_one {n : Nat} (h : n < 0x80) :
    begin (UInt8.ofNat n) = .inl (.char (Char.ofNat n)) := by
  rw [begin, toNat_ofNat_of_lt (by omega), if_pos h]

theorem begin_two {n : Nat} (hlow : 2 ≤ n) (hhigh : n < 0x20) :
    begin (UInt8.ofNat (0xC0 + n)) = .inr ⟨[UInt8.ofNat (0xC0 + n)], n, 1, (0x80, 0xBF)⟩ := by
  have hrange : secondRange (0xC0 + n) = (0x80, 0xBF) := by
    simp only [secondRange]
    grind
  rw [begin, toNat_ofNat_of_lt (by omega), if_neg (by omega), if_pos (by omega), hrange]
  simp

theorem begin_three {n : Nat} (h : n < 0x10) :
    begin (UInt8.ofNat (0xE0 + n)) =
      .inr ⟨[UInt8.ofNat (0xE0 + n)], n, 2, secondRange (0xE0 + n)⟩ := by
  rw [begin, toNat_ofNat_of_lt (by omega), if_neg (by omega), if_neg (by omega),
    if_pos (by omega)]
  simp

theorem begin_four {n : Nat} (h : n < 5) :
    begin (UInt8.ofNat (0xF0 + n)) =
      .inr ⟨[UInt8.ofNat (0xF0 + n)], n, 3, secondRange (0xF0 + n)⟩ := by
  rw [begin, toNat_ofNat_of_lt (by omega), if_neg (by omega), if_neg (by omega),
    if_neg (by omega), if_pos (by omega)]
  simp

/-- What the second byte may be leaves out overlong forms and surrogates only. -/
theorem secondRange_three {n : Nat} (hlow : 0x800 ≤ n) (hhigh : n < 0x10000)
    (hvalid : n < 0xD800 ∨ 0xDFFF < n) :
    (secondRange (0xE0 + n / 4096)).1 ≤ 0x80 + n / 64 % 64 ∧
      0x80 + n / 64 % 64 ≤ (secondRange (0xE0 + n / 4096)).2 := by
  unfold secondRange
  split_ifs <;> dsimp only <;> omega

/-- What the second byte may be leaves out overlong forms and what no character has only. -/
theorem secondRange_four {n : Nat} (hlow : 0x10000 ≤ n) (hhigh : n < 0x110000) :
    (secondRange (0xF0 + n / 262144)).1 ≤ 0x80 + n / 4096 % 64 ∧
      0x80 + n / 4096 % 64 ≤ (secondRange (0xF0 + n / 262144)).2 := by
  unfold secondRange
  split_ifs <;> dsimp only <;> omega

theorem decodeFrom_encodeChar (c : Char) (rest : List UInt8) :
    decodeFrom none (encodeChar c ++ rest) = .char c :: decodeFrom none rest := by
  have hvalid := toNat_lt_or c
  have hofNat : ∀ n, n = c.toNat → Char.ofNat n = c := by
    rintro n rfl
    exact Char.ofNat_toNat c
  simp only [encodeChar]
  split_ifs with hone htwo hthree
  · simp [decodeFrom, begin_one hone, hofNat]
  · have hbegin := begin_two (n := c.toNat / 64) (by omega) (by omega)
    simp only [List.cons_append, List.nil_append]
    rw [decodeFrom_begin _ hbegin,
      decodeFrom_last _ rfl (by dsimp only; omega) (by dsimp only; omega),
      hofNat _ (by dsimp only; omega)]
  · have hbegin := begin_three (n := c.toNat / 4096) (by omega)
    obtain ⟨hlow, hhigh⟩ := secondRange_three (n := c.toNat) (by omega) hthree (by omega)
    simp only [List.cons_append, List.nil_append]
    rw [decodeFrom_begin _ hbegin, decodeFrom_more _ (Nat.succ_ne_self 1) hlow hhigh,
      decodeFrom_last _ rfl (by dsimp only; omega) (by dsimp only; omega),
      hofNat _ (by dsimp only; omega)]
  · have hbegin := begin_four (n := c.toNat / 262144) (by omega)
    obtain ⟨hlow, hhigh⟩ := secondRange_four (n := c.toNat) (by omega) (by omega)
    simp only [List.cons_append, List.nil_append]
    rw [decodeFrom_begin _ hbegin, decodeFrom_more _ (by simp) hlow hhigh,
      decodeFrom_more _ (by simp) (by dsimp only; omega) (by dsimp only; omega),
      decodeFrom_last _ rfl (by dsimp only; omega) (by dsimp only; omega),
      hofNat _ (by dsimp only; omega)]

/-! ## The bytes of a text -/

theorem decode_encode (s : String) : decode (encode s) = Glyph.ofString s := by
  unfold decode encode Glyph.ofString
  induction s.toList with
  | nil => rfl
  | cons c cs ih => rw [List.flatMap_cons, decodeFrom_encodeChar, ih, List.map_cons]

theorem chars?_map_char (cs : List Char) : chars? (cs.map .char) = some cs := by
  induction cs with
  | nil => rfl
  | cons c cs ih => simp [chars?, ih]

theorem text?_encode (s : String) : text? (encode s) = some s := by
  rw [text?, decode_encode, Glyph.ofString, chars?_map_char, Option.map_some, String.ofList_toList]

theorem lossy_encode (s : String) : lossy (encode s) = s := by
  simp [lossy, decode_encode, Glyph.ofString, Function.comp_def]

/-! ## Bytes of ASCII -/

theorem le_secondRange (lead : Nat) : 0x80 ≤ (secondRange lead).1 := by
  unfold secondRange
  split_ifs <;> decide

theorem le_range_of_begin {b : UInt8} {p : Partial} (h : begin b = .inr p) : 0x80 ≤ p.range.1 := by
  unfold begin at h
  dsimp only at h
  split_ifs at h <;> cases h <;> exact le_secondRange _

/-- Where nothing is open, a byte of ASCII is kept if it is kept further on. -/
theorem char_mem_decodeFrom_none {b c : UInt8} (hb : b.toNat < 0x80) {rest : List UInt8}
    (h : b ∈ c :: rest)
    (hrest : ∀ p : Option Partial, b ∈ rest → (∀ q ∈ p, 0x80 ≤ q.range.1) →
      .char (Char.ofNat b.toNat) ∈ decodeFrom p rest) :
    .char (Char.ofNat b.toNat) ∈ decodeFrom none (c :: rest) := by
  have hbegin : begin b = .inl (.char (Char.ofNat b.toNat)) := by rw [begin, if_pos hb]
  rw [decodeFrom]
  rcases List.mem_cons.mp h with rfl | hmem
  · simp [hbegin]
  · cases hc : begin c with
    | inl g => exact List.mem_cons_of_mem _ (hrest none hmem (by simp))
    | inr q => exact hrest (some q) hmem (by simpa using le_range_of_begin hc)

/-- A byte of ASCII is never taken for a part of a longer character. -/
theorem char_mem_decodeFrom {b : UInt8} (hb : b.toNat < 0x80) {bytes : List UInt8}
    (h : b ∈ bytes) {p : Option Partial} (hp : ∀ q ∈ p, 0x80 ≤ q.range.1) :
    .char (Char.ofNat b.toNat) ∈ decodeFrom p bytes := by
  induction bytes generalizing p with
  | nil => cases h
  | cons c rest ih =>
      cases p with
      | none => exact char_mem_decodeFrom_none hb h fun _ hmem hq => ih hmem hq
      | some q =>
          rw [decodeFrom]
          have hne : within q.range.1 q.range.2 c = true → b ∈ rest := by
            intro hwithin
            rcases List.mem_cons.mp h with rfl | hmem
            · have hrange := hp q rfl
              simp only [within, Bool.and_eq_true, decide_eq_true_eq] at hwithin
              omega
            · exact hmem
          split_ifs with hwithin hlast
          · exact List.mem_cons_of_mem _ (ih (hne hwithin) (by simp))
          · exact ih (hne hwithin) (by simp)
          · have hbegins := char_mem_decodeFrom_none hb h fun _ hmem hq => ih hmem hq
            rw [decodeFrom] at hbegins
            exact List.mem_cons_of_mem _ hbegins

theorem mem_of_chars? {gs : List Glyph} {cs : List Char} (h : chars? gs = some cs) {c : Char}
    (hc : .char c ∈ gs) : c ∈ cs := by
  induction gs generalizing cs with
  | nil => cases hc
  | cons g gs ih =>
      cases g with
      | stray bytes => cases h
      | char d =>
          obtain ⟨rest, hrest, rfl⟩ := Option.map_eq_some_iff.mp h
          rcases List.mem_cons.mp hc with heq | hc
          · cases heq
            simp
          · exact List.mem_cons_of_mem _ (ih hrest hc)

end Utf8

end PackageRegistry.Text
