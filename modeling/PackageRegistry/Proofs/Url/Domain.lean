import PackageRegistry.Proofs.Text.Pieces
import PackageRegistry.Proofs.Text.Utf8
import PackageRegistry.Proofs.Unicode.Composition
import PackageRegistry.Url.Parser

/-! # Names without blanks and controls

The blanks and controls of ASCII are parts of no other character, so they stay where they are while
a name is decoded and folded. They are still there when its labels are checked, be these plain or in
Punycode, and no label may have them.
-/

namespace PackageRegistry.Url

open Unicode (isVisible)

variable {x : Char}

/-! ## Labels -/

namespace Punycode

theorem digitValue?_of_not_visible (hx : isVisible x = false) : digitValue? x = none :=
  Unicode.of_not_visible (P := fun x => digitValue? x = none) (by decide) hx

theorem read_eq_some {d e : Decoder} {c : Char} (h : d.read c = some e) :
    (digitValue? c).isSome = true ∧ ∀ x ∈ d.label, x ∈ e.label := by
  obtain ⟨n, hn, h⟩ := Option.bind_eq_some_iff.mp h
  refine ⟨by simp [hn], ?_⟩
  intro x hx
  dsimp only at h
  split_ifs at h
  · obtain ⟨ch, -, h⟩ := Option.bind_eq_some_iff.mp h
    cases h
    rw [List.mem_append, List.mem_cons]
    rw [← List.take_append_drop ((d.place + (d.value + n * d.weight)) % (d.label.length + 1))
      d.label, List.mem_append] at hx
    tauto
  · cases h
    exact hx

theorem readAll_eq_some {d e : Decoder} {cs : List Char} (h : d.readAll cs = some e) :
    (∀ c ∈ cs, (digitValue? c).isSome = true) ∧ ∀ x ∈ d.label, x ∈ e.label := by
  induction cs generalizing d with
  | nil =>
      cases h
      simp
  | cons c cs ih =>
      obtain ⟨d', hread, hrest⟩ := Option.bind_eq_some_iff.mp h
      obtain ⟨hdigit, hlabel⟩ := read_eq_some hread
      obtain ⟨hdigits, hlabels⟩ := ih hrest
      exact ⟨by simpa [hdigit] using hdigits, fun x hx => hlabels x (hlabel x hx)⟩

/-- A text is divided at a hyphen, if at all. -/
theorem mem_divide {text : List Char} (h : x ∈ text) (hx : x ≠ '-') :
    x ∈ (divide text).1 ∨ x ∈ (divide text).2 := by
  have hparts := List.takeWhile_append_dropWhile (p := (· ≠ '-')) (l := text.reverse)
  have hhead := List.head?_dropWhile_not (· ≠ '-') text.reverse
  simp only [divide]
  generalize text.reverse.takeWhile (· ≠ '-') = tail at hparts ⊢
  generalize text.reverse.dropWhile (· ≠ '-') = front at hparts hhead
  have htext : text = front.reverse ++ tail.reverse := by
    rw [← List.reverse_append, hparts, List.reverse_reverse]
  split_ifs with hplain
  · exact .inr h
  · cases front with
    | nil =>
        rw [htext] at h
        exact .inr (by simpa using h)
    | cons d front =>
        have hd : d = '-' := by simpa using hhead
        have htake : text.take (text.length - tail.reverse.length - 1) = front.reverse := by
          rw [htext, List.reverse_cons, List.append_assoc]
          exact List.take_left' (by simp; omega)
        rw [htake]
        rw [htext, hd] at h
        simpa [hx] using h

/-- A blank or control stays what it is. -/
theorem mem_decode? (hx : isVisible x = false) {text label : List Char}
    (h : decode? text = some label) (hmem : x ∈ text) : x ∈ label := by
  have hhyphen : x ≠ '-' := by
    rintro rfl
    exact absurd hx (by decide)
  obtain ⟨d, hread, h⟩ := Option.bind_eq_some_iff.mp h
  split_ifs at h
  cases h
  obtain ⟨hdigits, hlabel⟩ := readAll_eq_some hread
  rcases mem_divide hmem hhyphen with hplain | htail
  · exact hlabel x hplain
  · have hdigit := hdigits x htail
    simp [digitValue?_of_not_visible hx] at hdigit

end Punycode

namespace Domain

theorem mem_of_mapM {α β : Type} {f : α → Option β} {as : List α} {bs : List β}
    (h : as.mapM f = some bs) : ∀ a ∈ as, ∃ b ∈ bs, f a = some b := by
  induction as generalizing bs with
  | nil => simp
  | cons a as ih =>
      rw [List.mapM_cons] at h
      obtain ⟨b, hb, h⟩ := Option.bind_eq_some_iff.mp h
      obtain ⟨rest, hrest, h⟩ := Option.bind_eq_some_iff.mp h
      cases h
      intro a' ha'
      rcases List.mem_cons.mp ha' with rfl | ha'
      · exact ⟨b, by simp, hb⟩
      · obtain ⟨b', hb', hf⟩ := ih hrest a' ha'
        exact ⟨b', List.mem_cons_of_mem _ hb', hf⟩

theorem mapChar_of_not_visible (hx : isVisible x = false) :
    x.toLower = x ∧ mapChar x = some [x] :=
  Unicode.of_not_visible (P := fun x => x.toLower = x ∧ mapChar x = some [x]) (by decide) hx

theorem mem_fold (hx : isVisible x = false) {name folded : List Char}
    (h : fold name = some folded) (hmem : x ∈ name) : x ∈ folded := by
  obtain ⟨hlower, hmap⟩ := mapChar_of_not_visible hx
  unfold fold at h
  split_ifs at h
  · cases h
    exact List.mem_map.mpr ⟨x, hmem, hlower⟩
  · obtain ⟨parts, hparts, rfl⟩ := Option.map_eq_some_iff.mp h
    obtain ⟨part, hpart, hchar⟩ := mem_of_mapM hparts x hmem
    rw [hmap, Option.some.injEq] at hchar
    apply Unicode.mem_composed hx
    exact List.mem_flatten.mpr ⟨part, hpart, by simp [← hchar]⟩

theorem isAllowed_of_not_visible (hx : isVisible x = false) : isAllowed x = false :=
  Unicode.of_not_visible (P := fun x => isAllowed x = false) (by decide) hx

/-- No label has a blank or control in it, whatever it stands for. -/
theorem visible_of_checkedLabel? {label meant : List Char} (h : checkedLabel? label = some meant) :
    ∀ x ∈ label, isVisible x = true := by
  intro x hmem
  by_contra hx
  rw [Bool.not_eq_true] at hx
  obtain ⟨meant', hmeaning, h⟩ := Option.bind_eq_some_iff.mp h
  split_ifs at h with hallowed
  cases h
  have hmeant : x ∈ meant := by
    unfold meaning? at hmeaning
    split at hmeaning
    · rename_i text
      have htext : x ∈ text := by
        have hne : ∀ y ∈ ['x', 'n', '-'], x ≠ y := by
          rintro y hy rfl
          have hvisible : ['x', 'n', '-'].all isVisible = true := by decide
          simp [List.all_eq_true.mp hvisible x hy] at hx
        simpa [hne] using hmem
      unfold decodeLabel? at hmeaning
      split_ifs at hmeaning
      split at hmeaning
      · rename_i decoded hdecode
        split_ifs at hmeaning
        cases hmeaning
        exact Punycode.mem_decode? hx hdecode htext
      · cases hmeaning
    · cases hmeaning
      exact hmem
  have hall := (Bool.and_eq_true _ _ ▸ hallowed).1
  rw [List.all_eq_true] at hall
  have hok := hall x hmeant
  simp [isAllowed_of_not_visible hx] at hok

theorem visible_of_toAscii? {name ascii : List Char} (h : toAscii? name = some ascii) :
    ∀ x ∈ name, isVisible x = true := by
  intro x hmem
  by_contra hx
  rw [Bool.not_eq_true] at hx
  obtain ⟨labels, hlabels, -⟩ := Option.map_eq_some_iff.mp h
  obtain ⟨folded, hfold, hlabels⟩ := Option.bind_eq_some_iff.mp hlabels
  obtain ⟨checked, hchecked, -⟩ := Option.bind_eq_some_iff.mp hlabels
  have hdot : x ≠ '.' := by
    rintro rfl
    exact absurd hx (by decide)
  obtain ⟨label, hlabel, hx'⟩ := Text.exists_mem_pieces (mem_fold hx hfold hmem) hdot
  obtain ⟨meant, -, hmeant⟩ := mem_of_mapM hchecked label hlabel
  simp [visible_of_checkedLabel? hmeant x hx'] at hx

end Domain

/-! ## Hosts -/

/-- A blank or control is no part of an escape, and stays among the bytes. -/
theorem mem_percentDecode (hx : isVisible x = false) {cs : List Char} (h : x ∈ cs) :
    UInt8.ofNat x.toNat ∈ percentDecode cs := by
  obtain ⟨hpercent, hhex, hencode⟩ : x ≠ '%' ∧ Text.hexValue? x = none ∧
      Text.Utf8.encodeChar x = [UInt8.ofNat x.toNat] :=
    Unicode.of_not_visible (P := fun x => x ≠ '%' ∧ Text.hexValue? x = none ∧
      Text.Utf8.encodeChar x = [UInt8.ofNat x.toNat]) (by decide) hx
  have hdigit : ∀ {c : Char} {n : Nat}, Text.hexValue? c = some n → x ≠ c := by
    rintro c n hc rfl
    simp [hhex] at hc
  induction cs using percentDecode.induct with
  | case1 => cases h
  | case2 a b rest _ _ hb ha ih =>
      have hrest : x ∈ rest := by simpa [hpercent, hdigit ha, hdigit hb] using h
      simpa [percentDecode, ha, hb] using .inr (ih hrest)
  | case3 a b rest hnot ih =>
      have hrest : x ∈ a :: b :: rest := by simpa [hpercent] using h
      have hdecode : percentDecode ('%' :: a :: b :: rest) =
          37 :: percentDecode (a :: b :: rest) := by
        rw [percentDecode]
        split
        · exact absurd ‹_› (by simpa using hnot _ _ ‹_›)
        · rfl
      rw [hdecode]
      exact List.mem_cons_of_mem _ (ih hrest)
  | case4 c rest hnot ih =>
      rw [percentDecode]
      · rw [List.mem_append]
        rcases List.mem_cons.mp h with rfl | hrest
        · exact .inl (by simp [hencode])
        · exact .inr (ih hrest)
      · exact hnot

namespace Parser

/-- The host of a name does not end in a blank or control. -/
theorem visible_of_namedHost {name : List Char} {host : Host}
    (h : namedHost (name ++ [x]) = .ok host) : isVisible x = true := by
  by_contra hx
  rw [Bool.not_eq_true] at hx
  unfold namedHost at h
  split at h
  · have hlast : (name ++ [x]).getLast? ≠ some ']' := by
      rw [List.getLast?_concat]
      rintro ⟨⟩
      exact absurd hx (by decide)
    rw [sixHost, if_neg hlast] at h
    cases h
  · have hbyte := mem_percentDecode hx (show x ∈ name ++ [x] by simp)
    have hlow : (UInt8.ofNat x.toNat).toNat = x.toNat ∧ x.toNat < 0x80 :=
      Unicode.of_not_visible (P := fun x => (UInt8.ofNat x.toNat).toNat = x.toNat ∧ x.toNat < 0x80)
        (by decide) hx
    have hglyph := Text.Utf8.char_mem_decodeFrom (by omega) hbyte (p := none) (by simp)
    rw [hlow.1, Char.ofNat_toNat] at hglyph
    cases hchars : Text.Utf8.chars? (Text.Utf8.decode (percentDecode (name ++ [x]))) with
    | none => simp [hchars] at h
    | some chars =>
        have hmem : x ∈ chars := Text.Utf8.mem_of_chars? hchars hglyph
        cases hascii : Domain.toAscii? chars with
        | none => simp [hchars, hascii] at h
        | some ascii => simp [Domain.visible_of_toAscii? hascii x hmem] at hx

end Parser

end PackageRegistry.Url
