import PackageRegistry.Proofs.Text.Pieces
import PackageRegistry.Proofs.Text.Utf8
import PackageRegistry.Url.Form

/-! # Pairs survive their query

Names and values are read back from a query as they were written, whatever characters they have, and
pairs behind a query come behind the pairs it has.
-/

namespace PackageRegistry.Url

open Text (Utf8.encodeChar Utf8.encode hexValue?)

/-! ## Percent encoding -/

theorem hexValue?_hexDigit : ∀ n < 16, hexValue? (hexDigit n) = some n := by decide

theorem percentDecode_cons_of_ne {c : Char} (h : c ≠ '%') (rest : List Char) :
    percentDecode (c :: rest) = Utf8.encodeChar c ++ percentDecode rest := by
  rw [percentDecode]
  rintro a b rest rfl
  exact absurd rfl h

theorem percentDecode_percentByte (b : UInt8) (rest : List Char) :
    percentDecode (percentByte b ++ rest) = b :: percentDecode rest := by
  have hb : b.toNat < 256 := b.toNat_lt
  have hbyte : b.toNat / 16 * 16 + b.toNat % 16 = b.toNat := by omega
  simp only [percentByte, List.cons_append, List.nil_append, percentDecode,
    hexValue?_hexDigit (b.toNat / 16) (by omega), hexValue?_hexDigit (b.toNat % 16) (by omega),
    hbyte, UInt8.ofNat_toNat]

theorem percentDecode_percentBytes (bytes : List UInt8) (rest : List Char) :
    percentDecode (bytes.flatMap percentByte ++ rest) = bytes ++ percentDecode rest := by
  induction bytes with
  | nil => rfl
  | cons b bytes ih =>
      rw [List.flatMap_cons, List.append_assoc, percentDecode_percentByte, ih, List.cons_append]

/-- A text of characters that are kept is written as it is. -/
theorem percentEncode_of_forall {keeps : Char → Bool} {cs : List Char}
    (h : ∀ c ∈ cs, keeps c = true) : percentEncode keeps cs = cs := by
  induction cs with
  | nil => rfl
  | cons c cs ih =>
      have hc : keeps c = true := h c (by simp)
      have hcs := ih fun d hd => h d (by simp [hd])
      rw [percentEncode, List.flatMap_cons, percentChar, if_pos hc]
      exact congrArg (c :: ·) hcs

namespace Form

/-! ## Names and values -/

/-- The characters that an encoded name or value has. -/
def isWritten (c : Char) : Bool := keeps c || c == '+' || c == '%'

theorem keeps_hexDigit : ∀ n < 16, keeps (hexDigit n) = true := by decide

theorem isWritten_of_mem_percentByte {b : UInt8} {c : Char} (h : c ∈ percentByte b) :
    isWritten c = true := by
  have hb : b.toNat < 256 := b.toNat_lt
  simp only [percentByte, List.mem_cons, List.not_mem_nil, or_false] at h
  rcases h with rfl | rfl | rfl
  · decide
  · simp [isWritten, keeps_hexDigit (b.toNat / 16) (by omega)]
  · simp [isWritten, keeps_hexDigit (b.toNat % 16) (by omega)]

theorem isWritten_of_mem_encode {s : String} {c : Char} (h : c ∈ encode s) :
    isWritten c = true := by
  obtain ⟨d, -, hc⟩ := List.mem_flatMap.mp h
  unfold encodeChar percentChar at hc
  split_ifs at hc with hspace hkeeps
  · obtain rfl := List.mem_singleton.mp hc
    decide
  · obtain rfl := List.mem_singleton.mp hc
    simp [isWritten, hkeeps]
  · obtain ⟨b, -, hb⟩ := List.mem_flatMap.mp hc
    exact isWritten_of_mem_percentByte hb

/-- A plus sign as the space that it stands for. -/
def spaced (c : Char) : Char := if c = '+' then ' ' else c

theorem spaced_of_ne {c : Char} (h : c ≠ '+') : spaced c = c := if_neg h

theorem map_spaced_percentByte (b : UInt8) : (percentByte b).map spaced = percentByte b := by
  have hb : b.toNat < 256 := b.toNat_lt
  have hne : ∀ n < 16, hexDigit n ≠ '+' := by decide
  have hhigh : spaced (hexDigit (b.toNat / 16)) = hexDigit (b.toNat / 16) :=
    spaced_of_ne (hne _ (by omega))
  have hlow : spaced (hexDigit (b.toNat % 16)) = hexDigit (b.toNat % 16) :=
    spaced_of_ne (hne _ (by omega))
  simp only [percentByte, List.map_cons, List.map_nil, hhigh, hlow]
  rfl

theorem map_spaced_percentBytes (bytes : List UInt8) :
    (bytes.flatMap percentByte).map spaced = bytes.flatMap percentByte := by
  rw [List.map_flatMap]
  simp only [map_spaced_percentByte]

/-- A character comes back as its bytes: a space from its plus sign, what is kept from itself, and
all else from its escapes. -/
theorem percentDecode_encodeChar (c : Char) (rest : List Char) :
    percentDecode ((encodeChar c).map spaced ++ rest) =
      Utf8.encodeChar c ++ percentDecode rest := by
  unfold encodeChar percentChar
  split_ifs with hspace hkeeps
  · subst hspace
    exact percentDecode_cons_of_ne (by decide) rest
  · have hplus : c ≠ '+' := by
      rintro rfl
      exact absurd hkeeps (by decide)
    have hpercent : c ≠ '%' := by
      rintro rfl
      exact absurd hkeeps (by decide)
    rw [List.map_singleton, spaced_of_ne hplus]
    exact percentDecode_cons_of_ne hpercent rest
  · rw [map_spaced_percentBytes, percentDecode_percentBytes]

theorem percentDecode_encode (cs : List Char) :
    percentDecode ((cs.flatMap encodeChar).map spaced) = cs.flatMap Utf8.encodeChar := by
  induction cs with
  | nil => rfl
  | cons c cs ih =>
      rw [List.flatMap_cons, List.map_append, percentDecode_encodeChar, ih, List.flatMap_cons]

@[simp] theorem decode_encode (s : String) : decode (encode s) = s := by
  change Text.Utf8.lossy (percentDecode ((s.toList.flatMap encodeChar).map spaced)) = s
  rw [percentDecode_encode]
  exact Text.Utf8.lossy_encode s

/-! ## Pairs -/

/-- The characters that a query made of pairs has. -/
def isQueryChar (c : Char) : Bool := isWritten c || c == '&' || c == '='

theorem notMem_encode {s : String} {c : Char} (h : isWritten c = false) : c ∉ encode s := by
  intro hc
  simp [isWritten_of_mem_encode hc] at h

theorem amp_notMem_encodePair (p : String × String) : '&' ∉ encodePair p := by
  have hname : '&' ∉ encode p.1 := notMem_encode (by decide)
  have hvalue : '&' ∉ encode p.2 := notMem_encode (by decide)
  simp [encodePair, hname, hvalue]

theorem isQueryChar_of_mem_encodePair {p : String × String} {c : Char} (h : c ∈ encodePair p) :
    isQueryChar c = true := by
  rw [encodePair, List.mem_append, List.mem_cons] at h
  rcases h with hname | rfl | hvalue
  · simp [isQueryChar, isWritten_of_mem_encode hname]
  · decide
  · simp [isQueryChar, isWritten_of_mem_encode hvalue]

@[simp] theorem decodePair_encodePair (p : String × String) : decodePair (encodePair p) = p := by
  have hname : ∀ c ∈ encode p.1, (c == '=') = false := by
    intro c hc
    rw [beq_eq_false_iff_ne]
    rintro rfl
    exact notMem_encode (by decide) hc
  rw [decodePair, encodePair, Text.cutAt_append hname (by decide)]
  simp

/-- The pairs of a query among characters. -/
def pairsOf (cs : List Char) : List (String × String) :=
  ((Text.pieces '&' cs).filter fun p => !p.isEmpty).map decodePair

theorem pairs_eq (query : String) : pairs query = pairsOf query.toList := rfl

theorem pairsOf_append_amp (xs ys : List Char) :
    pairsOf (xs ++ '&' :: ys) = pairsOf xs ++ pairsOf ys := by
  rw [pairsOf, Text.pieces_append_cons, List.filter_append, List.map_append]
  rfl

theorem pairsOf_encodePair (p : String × String) : pairsOf (encodePair p) = [p] := by
  have hne : encodePair p ≠ [] := by simp [encodePair]
  simp [pairsOf, Text.pieces_of_notMem (amp_notMem_encodePair p), hne]

/-- The characters of a query with a pair behind it. -/
theorem toList_append (query : Option String) (p : String × String) :
    ((append query p).getD "").toList =
      if query.getD "" = "" then encodePair p
      else (query.getD "").toList ++ '&' :: encodePair p := by
  unfold append
  split <;> simp_all

theorem pairs_append (query : Option String) (p : String × String) :
    pairs ((append query p).getD "") = pairs (query.getD "") ++ [p] := by
  rw [pairs_eq, toList_append]
  split_ifs with hempty
  · rw [hempty, pairsOf_encodePair]
    rfl
  · rw [pairsOf_append_amp, pairsOf_encodePair]
    rfl

/-- All pairs are read back behind those that the query had. -/
theorem pairs_foldl_append (ps : List (String × String)) (query : Option String) :
    pairs ((ps.foldl append query).getD "") = pairs (query.getD "") ++ ps := by
  induction ps generalizing query with
  | nil => simp
  | cons p ps ih => rw [List.foldl_cons, ih, pairs_append, List.append_assoc, List.singleton_append]

/-- The query that is made of pairs alone. -/
def written (ps : List (String × String)) : String := (ps.foldl append none).getD ""

@[simp] theorem pairs_written (ps : List (String × String)) : pairs (written ps) = ps :=
  pairs_foldl_append ps none

theorem isQueryChar_of_mem_foldl {ps : List (String × String)} {query : Option String}
    (hquery : ∀ c ∈ (query.getD "").toList, isQueryChar c = true) :
    ∀ c ∈ ((ps.foldl append query).getD "").toList, isQueryChar c = true := by
  induction ps generalizing query with
  | nil => exact hquery
  | cons p ps ih =>
      apply ih
      intro c hc
      rw [toList_append] at hc
      split_ifs at hc with hempty
      · exact isQueryChar_of_mem_encodePair hc
      · rw [List.mem_append, List.mem_cons] at hc
        rcases hc with hc | rfl | hc
        · exact hquery c hc
        · decide
        · exact isQueryChar_of_mem_encodePair hc

theorem isQueryChar_of_mem_written {ps : List (String × String)} {c : Char}
    (h : c ∈ (written ps).toList) : isQueryChar c = true :=
  isQueryChar_of_mem_foldl (by simp) c h

/-! ## The last pair with a name -/

/-- The value of the last pair with a name. -/
def LastValue (ps : List (String × String)) (name value : String) : Prop :=
  ∃ earlier later, ps = earlier ++ (name, value) :: later ∧ ∀ p ∈ later, p.1 ≠ name

section LastValue

variable {ps : List (String × String)} {name value : String}

theorem last?_eq_some_iff : last? name ps = some value ↔ LastValue ps name value := by
  unfold last? LastValue
  constructor
  · intro h
    obtain ⟨⟨key, value⟩, hfind, rfl⟩ := Option.map_eq_some_iff.mp h
    obtain ⟨hkey, later, earlier, hps, hlater⟩ := List.find?_eq_some_iff_append.mp hfind
    obtain rfl : key = name := by simpa using hkey
    refine ⟨earlier.reverse, later.reverse, ?_, ?_⟩
    · rw [← List.reverse_reverse ps, hps]
      simp
    · intro p hp
      simpa using hlater p (List.mem_reverse.mp hp)
  · rintro ⟨earlier, later, rfl, hlater⟩
    rw [Option.map_eq_some_iff]
    refine ⟨(name, value), ?_, rfl⟩
    rw [List.find?_eq_some_iff_append]
    refine ⟨by simp, later.reverse, earlier.reverse, by simp, ?_⟩
    intro p hp
    simpa using hlater p (List.mem_reverse.mp hp)

theorem last?_eq_none_iff : last? name ps = none ↔ ∀ p ∈ ps, p.1 ≠ name := by
  simp [last?]

theorem LastValue.unique {value' : String} (h : LastValue ps name value)
    (h' : LastValue ps name value') : value = value' := by
  rw [← last?_eq_some_iff] at h h'
  exact Option.some.inj (h.symm.trans h')

end LastValue

end Form

@[simp] theorem queryPairs_appendPairs (u : Url) (ps : List (String × String)) :
    (u.appendPairs ps).queryPairs = u.queryPairs ++ ps :=
  Form.pairs_foldl_append ps u.query

end PackageRegistry.Url
