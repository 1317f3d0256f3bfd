import PackageRegistry.Proofs.Results
import PackageRegistry.Proofs.Text.Blank
import PackageRegistry.Proofs.Url.Form

/-! # What follows a question mark

A URL is read up to its first question mark before anything behind the mark counts. So whatever
follows it, the text remains a URL, of which only the query and the fragment depend on what follows.
-/

namespace PackageRegistry.Url

open Results (bind_eq_ok_iff map_eq_ok_iff)

namespace Parser

/-! ## The scheme that is read -/

section Scheme

variable {scheme : String} {k : Kind} {cs : List Char} {followed : Bool} {u : Url}

theorem scheme_withAuthority (h : withAuthority scheme k cs followed = .ok u) :
    u.scheme = scheme := by
  unfold withAuthority at h
  dsimp only at h
  split at h
  · obtain ⟨⟨host, port, path⟩, -, hu⟩ := bind_eq_ok_iff.mp h
    cases hu
    rfl
  · split_ifs at h
    · cases h
    · obtain ⟨⟨host, port, path⟩, -, hu⟩ := bind_eq_ok_iff.mp h
      dsimp only at hu
      split_ifs at hu
      · cases hu
      · cases hu
        rfl

theorem scheme_fileUrl (h : fileUrl cs = .ok u) : u.scheme = "file" := by
  unfold fileUrl at h
  dsimp only at h
  split at h
  · split_ifs at h with hslashes hdrive hempty hslash
    · cases h
      rfl
    · cases h
      rfl
    · obtain ⟨host, -, rfl⟩ := map_eq_ok_iff.mp h
      split_ifs <;> rfl
    · cases h
      rfl
    · cases h
      rfl
  · cases h
    rfl
  · cases h
    rfl

theorem ofScheme_eq_file (h : Kind.ofScheme scheme = .file) : scheme = "file" := by
  unfold Kind.ofScheme at h
  split_ifs at h with hweb hfile
  exact hfile

theorem scheme_body (h : body scheme cs followed = .ok u) : u.scheme = scheme := by
  unfold body at h
  split at h
  · exact scheme_withAuthority h
  · rename_i hkind
    rw [scheme_fileUrl h, ofScheme_eq_file hkind]
  · split at h
    · exact scheme_withAuthority h
    · cases h
      rfl
    · cases h
      rfl

end Scheme

/-! ## The characters that count -/

/-- Blanks and controls, which do not count at the two ends. -/
def isOuter (c : Char) : Bool := c.toNat ≤ 0x20

/-- All but the line breaks and tabs, which do not count anywhere. -/
def isInner (c : Char) : Bool := c ≠ '\t' ∧ c ≠ '\n' ∧ c ≠ '\r'

/-- What counts of a text that something follows. -/
def opening (cs : List Char) : List Char := (cs.dropWhile isOuter).filter isInner

/-- What counts of a text that follows something. -/
def ending (cs : List Char) : List Char := (Text.dropTail isOuter cs).filter isInner

theorem relevant_eq (cs : List Char) :
    relevant cs = (Text.dropTail isOuter (cs.dropWhile isOuter)).filter isInner := rfl

theorem isInner_of_not_isOuter {c : Char} (h : isOuter c = false) : isInner c = true := by
  rw [isInner, decide_eq_true_eq]
  refine ⟨?_, ?_, ?_⟩ <;> rintro rfl <;> exact absurd h (by decide)

theorem relevant_append_cons {m : Char} (hm : isOuter m = false) (xs ys : List Char) :
    relevant (xs ++ m :: ys) = opening xs ++ m :: ending ys := by
  rw [relevant_eq, Text.dropWhile_append_cons hm, Text.dropTail_append_cons hm,
    List.filter_append, List.filter_cons_of_pos (isInner_of_not_isOuter hm)]
  rfl

/-- Nothing is left out of a text that has neither blanks nor controls, nor before the mark that
follows it. -/
theorem ending_append {xs : List Char} (hxs : ∀ c ∈ xs, isOuter c = false) {c : Char}
    (hc : isOuter c = false) (ys : List Char) : ending (xs ++ c :: ys) = xs ++ c :: ending ys := by
  have hinner : xs.filter isInner = xs :=
    List.filter_eq_self.mpr fun x hx => isInner_of_not_isOuter (hxs x hx)
  rw [ending, Text.dropTail_append_cons hc, List.filter_append, hinner,
    List.filter_cons_of_pos (isInner_of_not_isOuter hc)]
  rfl

theorem ending_of_forall {cs : List Char} (h : ∀ c ∈ cs, isOuter c = false) : ending cs = cs := by
  rw [ending, Text.dropTail_of_forall h]
  exact List.filter_eq_self.mpr fun c hc => isInner_of_not_isOuter (h c hc)

/-! ## The parts behind the scheme -/

theorem scheme?_eq_none {cs : List Char} (h : cs.dropWhile isSchemeChar = []) :
    scheme? cs = none := by
  unfold scheme?
  rw [h]
  cases cs <;> rfl

theorem scheme?_cons {c d : Char} {cs rest : List Char}
    (h : (c :: cs).dropWhile isSchemeChar = d :: rest) :
    scheme? (c :: cs) =
      if d = ':' ∧ isLetter c = true then
        some (String.ofList (((c :: cs).takeWhile isSchemeChar).map Char.toLower), rest)
      else none := by
  unfold scheme?
  rw [h]
  by_cases hd : d = ':'
  · subst hd
    simp
  · split
    · simp_all
    · simp [hd]

theorem exists_of_scheme? {cs rest : List Char} {scheme : String}
    (h : scheme? cs = some (scheme, rest)) :
    (∃ c cs', cs = c :: cs' ∧ isLetter c = true) ∧ ∀ c ∈ rest, c ∈ cs := by
  cases cs with
  | nil => cases h
  | cons c cs =>
      cases hdrop : (c :: cs).dropWhile isSchemeChar with
      | nil => simp [scheme?_eq_none hdrop] at h
      | cons d rest' =>
          rw [scheme?_cons hdrop] at h
          split_ifs at h with hcolon
          cases h
          refine ⟨⟨c, cs, rfl, hcolon.2⟩, ?_⟩
          intro x hx
          apply (List.dropWhile_suffix isSchemeChar).subset
          rw [hdrop]
          exact List.mem_cons_of_mem d hx

/-- A scheme ends before a mark that is neither part of one nor the colon behind it. -/
theorem scheme?_append_cons {m : Char} (hm : isSchemeChar m = false) (hcolon : m ≠ ':')
    (xs ys : List Char) :
    scheme? (xs ++ m :: ys) = (scheme? xs).map fun s => (s.1, s.2 ++ m :: ys) := by
  have hfront : (m :: ys).dropWhile isSchemeChar = m :: ys :=
    List.dropWhile_cons_of_neg (by simp [hm])
  cases xs with
  | nil =>
      rw [List.nil_append, scheme?_cons hfront, if_neg (by simp [hcolon])]
      rfl
  | cons c xs =>
      cases hdrop : (c :: xs).dropWhile isSchemeChar with
      | nil =>
          have hwhole : (c :: (xs ++ m :: ys)).dropWhile isSchemeChar = m :: ys := by
            rw [← List.cons_append, List.dropWhile_append, hdrop]
            exact hfront
          rw [List.cons_append, scheme?_cons hwhole, if_neg (by simp [hcolon]),
            scheme?_eq_none hdrop]
          rfl
      | cons d rest =>
          have hwhole : (c :: (xs ++ m :: ys)).dropWhile isSchemeChar =
              d :: (rest ++ m :: ys) := by
            rw [← List.cons_append, List.dropWhile_append, hdrop]
            rfl
          have hshort : ((c :: xs).takeWhile isSchemeChar).length ≠ (c :: xs).length := by
            have hlength := congrArg List.length
              (List.takeWhile_append_dropWhile (p := isSchemeChar) (l := c :: xs))
            rw [hdrop, List.length_append, List.length_cons] at hlength
            omega
          have htake : (c :: (xs ++ m :: ys)).takeWhile isSchemeChar =
              (c :: xs).takeWhile isSchemeChar := by
            rw [← List.cons_append, List.takeWhile_append, if_neg hshort]
          rw [List.cons_append, scheme?_cons hwhole, scheme?_cons hdrop, htake]
          split_ifs <;> rfl

/-- The query among the characters behind a question mark. -/
def queryOf (cs : List Char) : List Char := cs.takeWhile fun c => !(c == '#')

/-- The fragment among the characters behind a question mark. -/
def fragmentOf (cs : List Char) : Option (List Char) :=
  (Text.cutAt (· == '#') cs).map Prod.snd

theorem queryOf_of_notMem {cs : List Char} (h : '#' ∉ cs) : queryOf cs = cs := by
  rw [queryOf, List.takeWhile_eq_self_iff]
  intro c hc
  simpa using ne_of_mem_of_not_mem hc h

theorem queryOf_append {xs : List Char} (h : '#' ∉ xs) (ys : List Char) :
    queryOf (xs ++ '#' :: ys) = xs := by
  have hpass : ∀ c ∈ xs, (!(c == '#')) = true := by
    intro c hc
    simpa using ne_of_mem_of_not_mem hc h
  rw [queryOf, List.takeWhile_append_of_pos hpass]
  simp

theorem cut_question {xs : List Char} (h : ∀ c ∈ xs, c ≠ '?' ∧ c ≠ '#') (ys : List Char) :
    cut (xs ++ '?' :: ys) = ⟨xs, some (queryOf ys), fragmentOf ys⟩ := by
  have hquestion : ∀ c ∈ xs, (c == '?') = false := by simpa using fun c hc => (h c hc).1
  have hfront : ∀ zs, '#' ∉ zs → ∀ c ∈ xs ++ '?' :: zs, (c == '#') = false := by
    intro zs hzs c hc
    rw [beq_eq_false_iff_ne]
    rcases List.mem_append.mp hc with hc | hc
    · exact (h c hc).2
    · rcases List.mem_cons.mp hc with rfl | hc
      · decide
      · exact ne_of_mem_of_not_mem hc hzs
  -- the fragment is cut off first: the query ends at the first hash mark, not at a later one
  by_cases hhash : '#' ∈ ys
  · obtain ⟨query, fragment, rfl, hquery⟩ := List.eq_append_cons_of_mem hhash
    have hcut : Text.cutAt (· == '#') (xs ++ '?' :: (query ++ '#' :: fragment)) =
        some (xs ++ '?' :: query, fragment) := by
      rw [← List.cons_append, ← List.append_assoc]
      exact Text.cutAt_append (hfront query hquery) (by decide) fragment
    have hfragment : fragmentOf (query ++ '#' :: fragment) = some fragment := by
      have hpass : ∀ c ∈ query, (c == '#') = false := by
        simpa using fun c hc => ne_of_mem_of_not_mem hc hquery
      rw [fragmentOf, Text.cutAt_append hpass (by decide), Option.map_some]
    simp only [cut, hcut, Text.cutAt_append hquestion (show ('?' == '?') = true by decide),
      queryOf_append hquery, hfragment]
  · have hcut : Text.cutAt (· == '#') (xs ++ '?' :: ys) = none :=
      Text.cutAt_of_forall (hfront ys hhash)
    have hfragment : fragmentOf ys = none := by
      have hpass : ∀ c ∈ ys, (c == '#') = false := by
        simpa using fun c hc => ne_of_mem_of_not_mem hc hhash
      rw [fragmentOf, Text.cutAt_of_forall hpass, Option.map_none]
    simp only [cut, hcut, Text.cutAt_append hquestion (show ('?' == '?') = true by decide),
      queryOf_of_notMem hhash, hfragment]

end Parser

/-! ## A URL and what follows it -/

open PackageRegistry.Url.Parser

/-- The rules by which the query is written. -/
def queryPart (u : Url) : Part :=
  if (Kind.ofScheme u.scheme).isSpecial then .specialQuery else .query

/-- The URL with query and fragment from what stands behind its question mark. -/
def follow (u : Url) (cs : List Char) : Url :=
  { u with
    query := some (encoded u.queryPart (queryOf (ending cs)))
    fragment := (fragmentOf (ending cs)).map (encoded .fragment) }

/-- What a text comes to before its question mark. -/
def before (cs : List Char) : Except Flaw Url :=
  match scheme? (opening cs) with
  | none => .error .noScheme
  | some (scheme, rest) => body scheme rest true

theorem parse_question {s : String} {xs ys : List Char} (hs : s.toList = xs ++ '?' :: ys)
    (hxs : ∀ c ∈ xs, c ≠ '?' ∧ c ≠ '#') : parse s = (before xs).map (follow · ys) := by
  rw [parse, before, hs, relevant_append_cons (by decide),
    scheme?_append_cons (by decide) (by decide)]
  cases hscheme : scheme? (opening xs) with
  | none => rfl
  | some found =>
      obtain ⟨scheme, rest⟩ := found
      have hrest : ∀ c ∈ rest, c ≠ '?' ∧ c ≠ '#' := by
        intro c hc
        have hmem : c ∈ opening xs := (exists_of_scheme? hscheme).2 c hc
        exact hxs c ((List.dropWhile_suffix isOuter).subset (List.mem_of_mem_filter hmem))
      simp only [Option.map_some, cut_question hrest, Option.isSome_some, Bool.true_or]
      cases hbody : body scheme rest true with
      | error flaw => rfl
      | ok u => simp only [Results.map_ok, follow, queryPart, scheme_body hbody]

/-- A text that is a URL with a question mark behind it: all of a URL that stands before a query. -/
structure Begins (base : String) (u : Url) : Prop where
  unmarked : ∀ c ∈ base.toList, c ≠ '?' ∧ c ≠ '#'
  parse : Url.parse (base ++ "?") = .ok u

section Begins

variable {base : String} {u : Url}

theorem parse_eq_before (hbase : ∀ c ∈ base.toList, c ≠ '?' ∧ c ≠ '#') :
    Url.parse (base ++ "?") = (before base.toList).map (follow · []) :=
  parse_question (by simp) hbase

/-- Whatever follows the question mark, the text is the same URL up to there. -/
theorem Begins.parse_follow (h : Begins base u) {s : String} {cs : List Char}
    (hs : s.toList = base.toList ++ '?' :: cs) : Url.parse s = .ok (u.follow cs) := by
  have hparse := h.parse
  rw [parse_eq_before h.unmarked] at hparse
  obtain ⟨u', hbefore, rfl⟩ := map_eq_ok_iff.mp hparse
  rw [parse_question hs h.unmarked, hbefore]
  rfl

/-- Blanks before a letter are left out by the reader anyway. -/
theorem dropWhile_isOuter_dropWhile_isBlankChar {cs cs' : List Char} {c : Char}
    (h : cs.dropWhile isOuter = c :: cs') (hc : Text.isBlankChar c = false) :
    (cs.dropWhile Text.isBlankChar).dropWhile isOuter = c :: cs' := by
  induction cs with
  | nil => cases h
  | cons d cs ih =>
      by_cases hblank : Text.isBlankChar d = true
      · have houter : isOuter d = true := by
          by_contra hnot
          rw [List.dropWhile_cons_of_neg hnot] at h
          cases h
          simp [hblank] at hc
        rw [List.dropWhile_cons_of_pos houter] at h
        rw [List.dropWhile_cons_of_pos hblank]
        exact ih h
      · rw [List.dropWhile_cons_of_neg hblank]
        exact h

theorem isBlankChar_of_isLetter {c : Char} (h : isLetter c = true) :
    Text.isBlankChar c = false := by
  have hrange : 65 ≤ c.toNat ∧ c.toNat ≤ 90 ∨ 97 ≤ c.toNat ∧ c.toNat ≤ 122 := by
    simp only [isLetter, Bool.or_eq_true, Bool.and_eq_true, decide_eq_true_eq] at h
    exact h.symm
  exact Text.isBlankChar_of_visible (by omega) (by omega)

theorem opening_dropWhile_isBlankChar {cs : List Char} {c : Char} {cs' : List Char}
    (h : opening cs = c :: cs') (hc : isLetter c = true) :
    opening (cs.dropWhile Text.isBlankChar) = opening cs := by
  cases hdrop : cs.dropWhile isOuter with
  | nil => simp [opening, hdrop] at h
  | cons d rest =>
      have houter : isOuter d = false := by
        have hhead := List.head?_dropWhile_not isOuter cs
        simpa [hdrop] using hhead
      have hd : d = c := by
        rw [opening, hdrop, List.filter_cons_of_pos (isInner_of_not_isOuter houter)] at h
        exact (List.cons.inj h).1
      subst hd
      rw [opening, opening, hdrop,
        dropWhile_isOuter_dropWhile_isBlankChar hdrop (isBlankChar_of_isLetter hc)]

/-- A beginning is one also without the blanks in front of it. -/
theorem Begins.dropBlanks (h : Begins base u) :
    Begins (String.ofList (base.toList.dropWhile Text.isBlankChar)) u := by
  have hunmarked : ∀ c ∈ (String.ofList (base.toList.dropWhile Text.isBlankChar)).toList,
      c ≠ '?' ∧ c ≠ '#' := by
    intro c hc
    rw [String.toList_ofList] at hc
    exact h.unmarked c ((List.dropWhile_suffix _).subset hc)
  refine ⟨hunmarked, ?_⟩
  have hparse := h.parse
  rw [parse_eq_before h.unmarked] at hparse
  have hbefore : before (base.toList.dropWhile Text.isBlankChar) = before base.toList := by
    cases hscheme : scheme? (opening base.toList) with
    | none => simp [before, hscheme] at hparse
    | some found =>
        obtain ⟨c, cs, hopening, hletter⟩ := (exists_of_scheme? hscheme).1
        rw [before, before, opening_dropWhile_isBlankChar hopening hletter]
  rw [parse_eq_before hunmarked, String.toList_ofList, hbefore, hparse]

end Begins

/-! ## Pairs behind a question mark -/

namespace Form

variable {c : Char}

theorem toNat_of_isQueryChar (h : isQueryChar c = true) : 37 ≤ c.toNat ∧ c.toNat ≤ 122 := by
  have hle : ∀ a b : Char, a ≤ b ↔ a.toNat ≤ b.toNat := fun _ _ => Iff.rfl
  simp only [isQueryChar, isWritten, keeps, Bool.or_eq_true, Bool.and_eq_true, decide_eq_true_eq,
    beq_iff_eq, hle, ← Char.toNat_inj, Char.reduceToNat] at h
  omega

theorem isOuter_of_isQueryChar (h : isQueryChar c = true) : isOuter c = false := by
  have hrange := toNat_of_isQueryChar h
  rw [isOuter, decide_eq_false_iff_not]
  omega

theorem isBlankChar_of_isQueryChar (h : isQueryChar c = true) : Text.isBlankChar c = false := by
  have hrange := toNat_of_isQueryChar h
  exact Text.isBlankChar_of_visible (by omega) (by omega)

/-- What pairs are written with stands for itself in a query, whatever the scheme. -/
theorem keeps_of_isQueryChar (h : isQueryChar c = true) (u : Url) :
    u.queryPart.keeps c = true := by
  have hrange := toNat_of_isQueryChar h
  have hcontrol : isControl c = false := by
    simp only [isControl, Bool.or_eq_false_iff, decide_eq_false_iff_not, beq_eq_false_iff_ne]
    omega
  have hreserved : u.queryPart.reserved.all (fun r => !isQueryChar r) = true := by
    unfold queryPart
    split_ifs <;> decide
  have hfree : c ∉ u.queryPart.reserved := by
    intro hc
    have hnot := List.all_eq_true.mp hreserved c hc
    simp [h] at hnot
  have hascii : c.toNat < 0x80 := by omega
  simp [Part.keeps, hcontrol, hfree, hascii]

variable (ps : List (String × String))

theorem encoded_written (u : Url) : encoded u.queryPart (written ps).toList = written ps := by
  have hkeeps : ∀ c ∈ (written ps).toList, u.queryPart.keeps c = true :=
    fun c hc => keeps_of_isQueryChar (isQueryChar_of_mem_written hc) u
  rw [encoded, percentEncode_of_forall hkeeps, String.ofList_toList]

theorem hash_notMem_written : '#' ∉ (written ps).toList := by
  intro hhash
  exact absurd (isQueryChar_of_mem_written hhash) (by decide)

/-- The query is found again before a fragment or the end, whatever blanks are there. -/
theorem queryOf_written (fragment : Option String) :
    queryOf (ending (Text.dropTail Text.isBlankChar
      (written ps ++ marked "#" fragment).toList)) = (written ps).toList := by
  have houter : ∀ c ∈ (written ps).toList, isOuter c = false :=
    fun c hc => isOuter_of_isQueryChar (isQueryChar_of_mem_written hc)
  have hblank : ∀ c ∈ (written ps).toList, Text.isBlankChar c = false :=
    fun c hc => isBlankChar_of_isQueryChar (isQueryChar_of_mem_written hc)
  cases fragment with
  | none =>
      rw [marked, String.append_empty, Text.dropTail_of_forall hblank, ending_of_forall houter,
        queryOf_of_notMem (hash_notMem_written ps)]
  | some f =>
      have hlist : (written ps ++ marked "#" (some f)).toList =
          (written ps).toList ++ '#' :: f.toList := by
        simp [marked]
      rw [hlist, Text.dropTail_append_cons (by decide), ending_append houter (by decide),
        queryOf_append (hash_notMem_written ps)]

end Form

/-- Pairs that are written behind a question mark are the pairs of the URL. -/
theorem queryPairs_follow_written (u : Url) (ps : List (String × String))
    (fragment : Option String) :
    (u.follow (Text.dropTail Text.isBlankChar
      (Form.written ps ++ marked "#" fragment).toList)).queryPairs = ps := by
  rw [queryPairs, follow, Option.getD_some, Form.queryOf_written, Form.encoded_written,
    Form.pairs_written]

end PackageRegistry.Url
