import PackageRegistry.Proofs.Url.Domain
import PackageRegistry.Proofs.Url.Query

/-! # What is put behind a URL

Where a segment is put behind the text of a URL, it is the last segment of the path only if the text
ends in its path. Behind a query or a fragment it becomes a part of these, and behind two slashes
with no host it becomes the host.
-/

namespace PackageRegistry.Url

open Results (map_eq_ok_iff)
open Unicode (isVisible)

namespace Parser

/-! ## Between the slashes and the path -/

/-- Slashes of either kind in front do not count on the web. -/
def skipSlashes (cs : List Char) : List Char := cs.dropWhile fun c => c == '/' || c == '\\'

/-- What stands in front of the path. -/
def place (cs : List Char) : List Char := cs.takeWhile fun c => !endsAuthority .web c

/-- The path and what follows it. -/
def beyond (cs : List Char) : List Char := cs.dropWhile fun c => !endsAuthority .web c

/-- Host and port. -/
def hostAndPort (scheme : String) (cs : List Char) : Except Flaw (Host × Option Nat) := do
  let (name, portText) := cutPort false cs
  let host ← if name.isEmpty then .error .emptyHost else namedHost name
  match portText with
  | none => return (host, none)
  | some digits =>
    if host = .domain "" then .error .emptyHost
    let port ← readPort scheme digits
    return (host, port)

theorem place_append_beyond (cs : List Char) : place cs ++ beyond cs = cs :=
  List.takeWhile_append_dropWhile

theorem not_endsAuthority_of_mem_place {cs : List Char} {c : Char} (h : c ∈ place cs) :
    endsAuthority .web c = false := by
  simpa using List.mem_takeWhile_imp h

theorem place_beyond (cs : List Char) : place (beyond cs) = [] := by
  have hhead := List.head?_dropWhile_not (fun c => !endsAuthority .web c) cs
  cases hbeyond : beyond cs with
  | nil => rfl
  | cons c rest =>
      rw [beyond] at hbeyond
      rw [hbeyond] at hhead
      exact List.takeWhile_cons_of_neg (by simpa using hhead)

/-- Everything up to the first slash, question mark or hash is in front of the path. -/
theorem place_append {xs ys : List Char} (hxs : ∀ c ∈ xs, endsAuthority .web c = false)
    (hys : place ys = []) : place (xs ++ ys) = xs ∧ beyond (xs ++ ys) = ys := by
  have hpass : ∀ c ∈ xs, (!endsAuthority .web c) = true := by simpa using hxs
  have hbeyond : beyond ys = ys := by
    have hwhole := place_append_beyond ys
    rwa [hys, List.nil_append] at hwhole
  constructor
  · rw [place, List.takeWhile_append_of_pos hpass]
    exact (congrArg (xs ++ ·) hys).trans (List.append_nil xs)
  · rw [beyond, List.dropWhile_append_of_pos hpass]
    exact hbeyond

theorem place_of_forall {cs : List Char} (h : ∀ c ∈ cs, endsAuthority .web c = false) :
    place cs = cs ∧ beyond cs = [] := by
  have hparts := place_append h (show place [] = [] from rfl)
  rwa [List.append_nil] at hparts

section Authority

variable {scheme : String}

theorem cutPort_eq {inside : Bool} {cs name : List Char} {port : Option (List Char)}
    (h : cutPort inside cs = (name, port)) :
    cs = name ++ (port.map (':' :: ·)).getD [] := by
  induction cs generalizing inside name port with
  | nil =>
      cases h
      rfl
  | cons c cs ih =>
      rw [cutPort] at h
      split_ifs at h with hcolon hopen hclose
      · cases h
        simp [hcolon.1]
      all_goals
        cases h
        exact congrArg (c :: ·) (ih rfl)

theorem hostAndPath_append (scheme : String) {xs ys : List Char}
    (hxs : ∀ c ∈ xs, endsAuthority .web c = false) (hys : place ys = []) :
    hostAndPath scheme .web (xs ++ ys) =
      (hostAndPort scheme xs).map fun o => (o.1, o.2, pathAfterHost .web ys) := by
  obtain ⟨hplace, hbeyond⟩ := place_append hxs hys
  rw [place] at hplace
  rw [beyond] at hbeyond
  rcases hcut : cutPort false xs with ⟨name, portText⟩
  have hspecial : Kind.web.isSpecial = true := rfl
  simp only [hostAndPath, hostAndPort, hplace, hbeyond, hcut, hspecial, if_true]
  by_cases hname : name.isEmpty = true
  · simp only [hname, if_true]
    rfl
  · simp only [hname]
    cases namedHost name with
    | error flaw => rfl
    | ok host =>
        cases portText with
        | none => rfl
        | some digits =>
            have hbackslash : cutBackslash digits = (digits, []) := by
              have hpass : ∀ c ∈ digits, c ≠ '\\' := by
                rintro c hc rfl
                have hmem : '\\' ∈ xs := by simp [cutPort_eq hcut, hc]
                exact absurd (hxs _ hmem) (by decide)
              simpa [cutBackslash] using hpass
            simp only [Results.ok_bind, hbackslash, List.nil_append]
            by_cases hempty : host = .domain ""
            · simp only [hempty, if_true]
              rfl
            · simp only [hempty, if_false]
              cases readPort scheme digits <;> rfl

theorem hostAndPath_of_forall (scheme : String) {cs : List Char}
    (h : ∀ c ∈ cs, endsAuthority .web c = false) :
    hostAndPath scheme .web cs =
      (hostAndPort scheme cs).map fun o => (o.1, o.2, .segments [""]) := by
  have hwhole := hostAndPath_append scheme h (show place [] = [] from rfl)
  rw [List.append_nil] at hwhole
  exact hwhole

theorem isVisible_of_isDigit {c : Char} (h : Address.isDigit c = true) : isVisible c = true := by
  have hle : ∀ a b : Char, a ≤ b ↔ a.toNat ≤ b.toNat := fun _ _ => Iff.rfl
  simp only [Address.isDigit, hle, Char.reduceToNat, Bool.and_eq_true, decide_eq_true_eq] at h
  rw [isVisible, decide_eq_true_eq]
  omega

theorem isDigit_of_readPort {digits : List Char} {port : Option Nat}
    (h : readPort scheme digits = .ok port) : ∀ d ∈ digits, Address.isDigit d = true := by
  by_cases hall : digits.all Address.isDigit = true
  · exact List.all_eq_true.mp hall
  · rw [readPort, if_neg hall] at h
    cases h

/-- The host ends in something that counts. -/
theorem visible_of_hostAndPort {cs : List Char} {c : Char} {o : Host × Option Nat}
    (h : hostAndPort scheme (cs ++ [c]) = .ok o) : isVisible c = true := by
  rcases hcut : cutPort false (cs ++ [c]) with ⟨name, portText⟩
  have hwhole := cutPort_eq hcut
  simp only [hostAndPort, hcut] at h
  split_ifs at h with hname
  · cases h
  · obtain ⟨host, hhost, h⟩ := Results.bind_eq_ok_iff.mp h
    cases portText with
    | none =>
        have hsame : cs ++ [c] = name := by simpa using hwhole
        exact visible_of_namedHost (hsame ▸ hhost)
    | some digits =>
        dsimp only at h
        split_ifs at h with hdomain
        · cases h
        · obtain ⟨port, hport, -⟩ := Results.bind_eq_ok_iff.mp h
          -- the last character is the colon or a digit
          rw [Option.map_some, Option.getD_some] at hwhole
          rcases List.eq_nil_or_concat' digits with rfl | ⟨front, d, rfl⟩
          · have hc : c = ':' := by simpa using congrArg List.getLast? hwhole
            rw [hc]
            decide
          · rw [← List.cons_append, ← List.append_assoc] at hwhole
            obtain ⟨-, hc⟩ := List.append_inj' hwhole rfl
            cases hc
            exact isVisible_of_isDigit (isDigit_of_readPort hport c (by simp))

theorem cutLast_eq_some {mark : Char} {cs front tail : List Char}
    (h : cutLast mark cs = some (front, tail)) :
    tail = (cs.reverse.takeWhile (· ≠ mark)).reverse := by
  rw [cutLast] at h
  split_ifs at h
  cases h
  rfl

theorem mem_of_cutLast {mark : Char} {cs front tail : List Char}
    (h : cutLast mark cs = some (front, tail)) : ∀ c ∈ tail, c ∈ cs := by
  intro c hc
  rw [cutLast_eq_some h, List.mem_reverse] at hc
  exact List.mem_reverse.mp ((List.takeWhile_prefix _).subset hc)

/-- Who is named in front of a host does not depend on what is behind it. -/
theorem withAuthority_append (scheme : String) (followed : Bool) {xs ys : List Char}
    (hxs : ∀ c ∈ xs, endsAuthority .web c = false) (hys : place ys = []) :
    withAuthority scheme .web (xs ++ ys) followed =
      (withAuthority scheme .web xs false).map fun u =>
        { u with path := pathAfterHost .web ys } := by
  obtain ⟨hplace, hbeyond⟩ := place_append hxs hys
  obtain ⟨hplace', hbeyond'⟩ := place_of_forall hxs
  rw [place] at hplace hplace'
  rw [beyond] at hbeyond hbeyond'
  simp only [withAuthority, hplace, hbeyond, hplace', hbeyond']
  cases hcut : cutLast '@' xs with
  | none =>
      simp only [hostAndPath_append scheme hxs hys, hostAndPath_of_forall scheme hxs]
      cases hostAndPort scheme xs <;> rfl
  | some parts =>
      obtain ⟨info, after⟩ := parts
      have hafter : ∀ c ∈ after, endsAuthority .web c = false :=
        fun c hc => hxs c (mem_of_cutLast hcut c hc)
      simp only [hostAndPath_append scheme hafter hys, List.append_nil,
        hostAndPath_of_forall scheme hafter]
      cases after with
      | nil =>
          -- without a host, it does not matter which of the two checks fails
          have hempty : hostAndPort scheme [] = .error .emptyHost := rfl
          simp only [hempty]
          split_ifs <;> rfl
      | cons c after =>
          simp only [List.isEmpty_cons, Bool.false_eq_true, false_and, and_false, if_false]
          cases hostAndPort scheme (c :: after) with
          | error flaw => rfl
          | ok o =>
              simp only [Results.map_ok, Results.ok_bind]
              split_ifs <;> rfl

/-- What is in front of the path ends in something that counts. -/
theorem visible_of_withAuthority {cs : List Char} {c : Char} {u : Url}
    (hcs : ∀ d ∈ cs ++ [c], endsAuthority .web d = false)
    (h : withAuthority scheme .web (cs ++ [c]) false = .ok u) : isVisible c = true := by
  obtain ⟨hplace, hbeyond⟩ := place_of_forall hcs
  rw [place] at hplace
  rw [beyond] at hbeyond
  simp only [withAuthority, hplace, hbeyond] at h
  cases hcut : cutLast '@' (cs ++ [c]) with
  | none =>
      simp only [hcut, hostAndPath_of_forall scheme hcs] at h
      obtain ⟨o, ho, -⟩ := Results.bind_eq_ok_iff.mp h
      obtain ⟨o', ho', -⟩ := map_eq_ok_iff.mp ho
      exact visible_of_hostAndPort ho'
  | some parts =>
      obtain ⟨info, after⟩ := parts
      have hafter : ∀ d ∈ after, endsAuthority .web d = false :=
        fun d hd => hcs d (mem_of_cutLast hcut d hd)
      simp only [hcut, List.append_nil, hostAndPath_of_forall scheme hafter] at h
      split_ifs at h
      · cases h
      · obtain ⟨o, ho, -⟩ := Results.bind_eq_ok_iff.mp h
        obtain ⟨o', ho', -⟩ := map_eq_ok_iff.mp ho
        by_cases hc : c = '@'
        · rw [hc]
          decide
        · have hlast : after = (cs.reverse.takeWhile (· ≠ '@')).reverse ++ [c] := by
            simp [cutLast_eq_some hcut, hc]
          exact visible_of_hostAndPort (hlast ▸ ho')

/-- A web URL is made of what is in front of its path, and of its path. -/
theorem body_web (h : Kind.ofScheme scheme = .web) (cs : List Char) (followed : Bool) :
    body scheme cs followed =
      (withAuthority scheme .web (place (skipSlashes cs)) false).map fun u =>
        { u with path := pathAfterHost .web (beyond (skipSlashes cs)) } := by
  have hbody : body scheme cs followed = withAuthority scheme .web (skipSlashes cs) followed := by
    simp only [body, h]
    rfl
  rw [hbody, ← withAuthority_append scheme followed (fun c => not_endsAuthority_of_mem_place)
    (place_beyond _), place_append_beyond]

end Authority

/-! ## A slash and more behind a text -/

theorem skipSlashes_append {xs : List Char} (h : skipSlashes xs ≠ []) (ys : List Char) :
    skipSlashes (xs ++ ys) = skipSlashes xs ++ ys := by
  rw [skipSlashes] at h
  rw [skipSlashes, List.dropWhile_append, if_neg (by simpa using h)]
  rfl

theorem skipSlashes_append_of_nil {xs : List Char} (h : skipSlashes xs = []) (ys : List Char) :
    skipSlashes (xs ++ ys) = skipSlashes ys := by
  rw [skipSlashes] at h
  rw [skipSlashes, List.dropWhile_append, if_pos (by simpa using h)]
  rfl

/-- What begins with no slash keeps its beginning behind others. -/
theorem skipSlashes_append_of_forall (xs : List Char) {ys : List Char}
    (hys : ∀ c ∈ ys, (c == '/' || c == '\\') = false) :
    skipSlashes (xs ++ ys) = skipSlashes xs ++ ys := by
  by_cases hxs : skipSlashes xs = []
  · rw [skipSlashes_append_of_nil hxs, hxs, List.nil_append]
    cases ys with
    | nil => rfl
    | cons c ys => exact List.dropWhile_cons_of_neg (by simp [hys c (by simp)])
  · exact skipSlashes_append hxs ys

theorem place_append_of_not_forall {xs : List Char}
    (hxs : ¬ ∀ c ∈ xs, endsAuthority .web c = false) (ys : List Char) :
    place (xs ++ ys) = place xs := by
  rw [place, List.takeWhile_append, if_neg]
  · rfl
  · intro hlength
    apply hxs
    intro c hc
    have hprefix := List.takeWhile_prefix (fun c => !endsAuthority .web c) (l := xs)
    rw [← hprefix.eq_of_length hlength] at hc
    exact not_endsAuthority_of_mem_place hc

theorem place_append_slash (xs ys : List Char) :
    place (xs ++ '/' :: ys) = place xs ∧ beyond (xs ++ '/' :: ys) = beyond xs ++ '/' :: ys := by
  have hbeyond : place (beyond xs ++ '/' :: ys) = [] := by
    have hxs := place_beyond xs
    cases hcases : beyond xs with
    | nil => rfl
    | cons c rest =>
        rw [hcases] at hxs
        by_cases hc : endsAuthority .web c = true
        · exact List.takeWhile_cons_of_neg (by simp [hc])
        · rw [place, List.takeWhile_cons_of_pos (by simp [hc])] at hxs
          cases hxs
  have hxs : ∀ c ∈ place xs, endsAuthority .web c = false :=
    fun c hc => not_endsAuthority_of_mem_place hc
  have hparts := place_append hxs hbeyond
  rwa [← List.append_assoc, place_append_beyond] at hparts

/-- Two texts that differ in what does not count at the end: in slashes at the end of the second, or
in blanks and controls at the end of the first. -/
def EndAlike (xs ys : List Char) : Prop :=
  (∃ n, ys = xs ++ List.replicate n '/') ∨ ∃ tail, xs = ys ++ tail ∧ ∀ c ∈ tail, isVisible c = false

section EndAlike

variable {xs ys : List Char} {scheme : String} {u : Url}

theorem EndAlike.skipSlashes_eq_nil (h : EndAlike xs ys) (hxs : skipSlashes xs = []) :
    skipSlashes ys = [] := by
  rcases h with ⟨n, rfl⟩ | ⟨tail, rfl, -⟩
  · rw [skipSlashes_append_of_nil hxs, skipSlashes, List.dropWhile_eq_nil_iff]
    intro c hc
    rw [List.eq_of_mem_replicate hc]
    decide
  · by_contra hys
    rw [skipSlashes_append hys] at hxs
    exact hys (List.append_eq_nil_iff.mp hxs).1

/-- In front of the path, nothing is left out at the end, or else there is no URL. -/
theorem EndAlike.place_eq (h : EndAlike xs ys) (hxs : skipSlashes xs ≠ [])
    (hok : withAuthority scheme .web (place (skipSlashes xs)) false = .ok u) :
    place (skipSlashes ys) = place (skipSlashes xs) := by
  rcases h with ⟨n, rfl⟩ | ⟨tail, rfl, htail⟩
  · rw [skipSlashes_append hxs]
    cases n with
    | zero => rw [List.replicate_zero, List.append_nil]
    | succ n => exact (place_append_slash _ _).1
  · have hslash : ∀ c ∈ tail, (c == '/' || c == '\\') = false ∧ endsAuthority .web c = false :=
      fun c hc => Unicode.of_not_visible
        (P := fun c => (c == '/' || c == '\\') = false ∧ endsAuthority .web c = false)
        (by decide) (htail c hc)
    rw [skipSlashes_append_of_forall _ fun c hc => (hslash c hc).1] at hok ⊢
    rcases List.eq_nil_or_concat' tail with rfl | ⟨front, c, rfl⟩
    · rw [List.append_nil]
    · by_cases hall : ∀ d ∈ skipSlashes ys, endsAuthority .web d = false
      · -- the end would belong to the host or its port
        have hplace : ∀ d ∈ skipSlashes ys ++ (front ++ [c]), endsAuthority .web d = false := by
          intro d hd
          rcases List.mem_append.mp hd with hd | hd
          · exact hall d hd
          · exact (hslash d hd).2
        rw [(place_of_forall hplace).1, ← List.append_assoc] at hok
        rw [← List.append_assoc] at hplace
        have hvisible := visible_of_withAuthority hplace hok
        simp [htail c (by simp)] at hvisible
      · exact (place_append_of_not_forall hall _).symm

end EndAlike

/-! ## The last segment -/

/-- The characters that divide a web URL. -/
def dividers : List Char := ['/', '\\', '?', '#', ':', '@']

/-- A word that enters a path, and a host, as it is written. -/
structure IsWord (s : List Char) : Prop where
  notDouble : isDoubleDot s = false
  notSingle : isSingleDot s = false
  segment : encoded .path s = String.ofList s
  host : namedHost s = .ok (.domain (String.ofList s))
  chars : ∀ c ∈ s, isOuter c = false ∧ c ∉ dividers

section Segments

variable {s : List Char}

theorem IsWord.notMem (h : IsWord s) {c : Char} (hc : c ∈ dividers) : c ∉ s :=
  fun hmem => (h.chars c hmem).2 hc

theorem IsWord.ne_nil (h : IsWord s) : s ≠ [] := by
  rintro rfl
  exact absurd h.host (by decide +kernel)

theorem resolve_concat (h : IsWord s) (before : List String) (ps : List (List Char)) :
    ∃ front, resolve .web before (ps ++ [s]) = front ++ [String.ofList s] := by
  induction ps generalizing before with
  | nil =>
      refine ⟨before, ?_⟩
      have htext : segmentText .web before s = String.ofList s := by
        rw [segmentText, h.segment]
        simp
      simp [resolve, h.notDouble, h.notSingle, htext]
  | cons p ps ih =>
      rw [List.cons_append, resolve]
      split_ifs <;> exact ih _

theorem pieces_of_isWord (h : IsWord s) :
    Text.pieces '/' (s.map fun c => if Kind.web.isSpecial ∧ c = '\\' then '/' else c) = [s] := by
  have hself : s.map (fun c => if Kind.web.isSpecial ∧ c = '\\' then '/' else c) = s.map id := by
    apply List.map_congr_left
    intro c hc
    exact if_neg fun hslash => ne_of_mem_of_not_mem hc (h.notMem (by decide)) hslash.2
  rw [hself, List.map_id]
  exact Text.pieces_of_notMem (h.notMem (by decide))

theorem pathOf_append (h : IsWord s) (xs : List Char) :
    ∃ front, pathOf .web (xs ++ '/' :: s) = .segments (front ++ [String.ofList s]) := by
  have hmark : (if Kind.web.isSpecial ∧ '/' = '\\' then '/' else '/') = '/' := by decide
  rw [pathOf, segments, List.map_append, List.map_cons, hmark, Text.pieces_append_cons,
    pieces_of_isWord h]
  obtain ⟨front, hfront⟩ := resolve_concat h [] (Text.pieces '/' _)
  exact ⟨front, by rw [hfront]⟩

/-- Behind a host, whatever the path there is, a segment becomes the last one. -/
theorem pathAfterHost_append (h : IsWord s) (xs : List Char) :
    ∃ front, pathAfterHost .web (xs ++ '/' :: s) = .segments (front ++ [String.ofList s]) := by
  cases xs with
  | nil =>
      obtain ⟨front, hfront⟩ := resolve_concat h [] []
      refine ⟨front, ?_⟩
      rw [List.nil_append, pathAfterHost, pathOf, segments, pieces_of_isWord h]
      exact congrArg Path.segments hfront
  | cons c xs =>
      rw [List.cons_append]
      unfold pathAfterHost
      split
      · rename_i heq
        cases heq
        exact pathOf_append h xs
      · rename_i heq
        cases heq
      · rename_i heq
        cases heq
        split_ifs
        · exact pathOf_append h xs
        · exact pathOf_append h (c :: xs)

end Segments

/-! ## Queries and fragments -/

/-- A character that ends the path. -/
def IsMark (c : Char) : Prop := c = '?' ∨ c = '#'

theorem cut_of_unmarked {cs : List Char} (h : ∀ c ∈ cs, ¬ IsMark c) :
    cut cs = ⟨cs, none, none⟩ := by
  have hhash : Text.cutAt (· == '#') cs = none :=
    Text.cutAt_of_forall fun c hc => beq_eq_false_iff_ne.mpr fun heq => h c hc (.inr heq)
  have hquestion : Text.cutAt (· == '?') cs = none :=
    Text.cutAt_of_forall fun c hc => beq_eq_false_iff_ne.mpr fun heq => h c hc (.inl heq)
  simp only [cut, hhash, hquestion]

theorem cut_of_marked {xs : List Char} (h : ∀ c ∈ xs, ¬ IsMark c) {m : Char} (hm : IsMark m)
    (ys : List Char) :
    ∃ query fragment, cut (xs ++ m :: ys) = ⟨xs, query, fragment⟩ ∧
      (query.isSome || fragment.isSome) = true := by
  rcases hm with rfl | rfl
  · have hxs : ∀ c ∈ xs, c ≠ '?' ∧ c ≠ '#' := fun c hc => not_or.mp (h c hc)
    exact ⟨_, _, cut_question hxs ys, by simp⟩
  · have hhash : Text.cutAt (· == '#') (xs ++ '#' :: ys) = some (xs, ys) := by
      apply Text.cutAt_append
      · exact fun c hc => beq_eq_false_iff_ne.mpr fun heq => h c hc (.inr heq)
      · decide
    have hquestion : Text.cutAt (· == '?') xs = none :=
      Text.cutAt_of_forall fun c hc => beq_eq_false_iff_ne.mpr fun heq => h c hc (.inl heq)
    exact ⟨none, some ys, by simp only [cut, hhash, hquestion], rfl⟩

/-- A text has a first mark, or none. -/
theorem unmarked_or_marked (cs : List Char) :
    (∀ c ∈ cs, ¬ IsMark c) ∨
      ∃ xs m ys, cs = xs ++ m :: ys ∧ (∀ c ∈ xs, ¬ IsMark c) ∧ IsMark m := by
  induction cs with
  | nil => exact .inl (by simp)
  | cons c cs ih =>
      by_cases hc : IsMark c
      · exact .inr ⟨[], c, cs, rfl, by simp, hc⟩
      · rcases ih with hnone | ⟨xs, m, ys, rfl, hxs, hm⟩
        · exact .inl (by simpa [hc] using hnone)
        · exact .inr ⟨c :: xs, m, ys, rfl, by simpa [hc] using hxs, hm⟩

section Marks

variable {xs ys zs : List Char} {m : Char}

theorem EndAlike.unmarked (h : EndAlike xs ys) (hxs : ∀ c ∈ xs, ¬ IsMark c) :
    ∀ c ∈ ys, ¬ IsMark c := by
  rcases h with ⟨n, rfl⟩ | ⟨tail, rfl, -⟩
  · intro c hc
    rcases List.mem_append.mp hc with hc | hc
    · exact hxs c hc
    · rw [List.eq_of_mem_replicate hc, IsMark]
      decide
  · exact fun c hc => hxs c (List.mem_append_left _ hc)

/-- A mark is at the end of neither text. -/
theorem EndAlike.marked (h : EndAlike (xs ++ m :: zs) ys) (hm : IsMark m) :
    ∃ rest, ys = xs ++ m :: rest := by
  rcases h with ⟨n, rfl⟩ | ⟨tail, heq, htail⟩
  · exact ⟨zs ++ List.replicate n '/', by simp⟩
  · have hvisible : m ∉ tail := by
      intro hmem
      have hm' := htail m hmem
      rcases hm with rfl | rfl <;> exact absurd hm' (by decide)
    rcases List.append_eq_append_iff.mp heq with ⟨a, rfl, hrest⟩ | ⟨b, rfl, hrest⟩
    · cases a with
      | nil => exact absurd (by rw [← List.nil_append tail, ← hrest]; simp) hvisible
      | cons d a =>
          cases hrest
          exact ⟨a, rfl⟩
    · exact absurd (by simp [hrest]) hvisible

end Marks

/-- What is read behind a scheme. -/
def read (scheme : String) (rest : List Char) : Except Flaw Url :=
  let c := cut rest
  let queryPart := if (Kind.ofScheme scheme).isSpecial then Part.specialQuery else Part.query
  (body scheme c.body (c.query.isSome || c.fragment.isSome)).map fun u =>
    { u with
      query := c.query.map (encoded queryPart)
      fragment := c.fragment.map (encoded .fragment) }

theorem read_of_unmarked {cs : List Char} (h : ∀ c ∈ cs, ¬ IsMark c) (scheme : String) :
    read scheme cs =
      (body scheme cs false).map fun u => { u with query := none, fragment := none } := by
  rw [read, cut_of_unmarked h]
  rfl

theorem read_of_marked {xs : List Char} (h : ∀ c ∈ xs, ¬ IsMark c) {m : Char} (hm : IsMark m)
    (ys : List Char) (scheme : String) :
    ∃ query fragment, ¬ (query = none ∧ fragment = none) ∧
      read scheme (xs ++ m :: ys) =
        (body scheme xs true).map fun u => { u with query := query, fragment := fragment } := by
  obtain ⟨query, fragment, hcut, hsome⟩ := cut_of_marked h hm ys
  refine ⟨_, _, ?_, by simp only [read, hcut, hsome]; rfl⟩
  rw [Option.map_eq_none_iff, Option.map_eq_none_iff]
  rintro ⟨rfl, rfl⟩
  cases hsome

/-! ## A segment behind a text -/

section Extension

variable {scheme : String} {s xs ys : List Char} {u : Url}

theorem IsWord.unmarked (h : IsWord s) {c : Char} (hc : c ∈ '/' :: s) : ¬ IsMark c := by
  rcases List.mem_cons.mp hc with rfl | hc
  · rw [IsMark]
    decide
  · rintro (rfl | rfl)
    · exact h.notMem (by decide) hc
    · exact h.notMem (by decide) hc

theorem cutPort_of_notMem {cs : List Char} (h : ':' ∉ cs) (inside : Bool) :
    cutPort inside cs = (cs, none) := by
  induction cs generalizing inside with
  | nil => rfl
  | cons c cs ih =>
      obtain ⟨hc, hcs⟩ := List.ne_and_not_mem_of_not_mem_cons h
      rw [cutPort, if_neg fun hcolon => hc hcolon.1.symm]
      simp only [ih hcs]

theorem IsWord.inHost (h : IsWord s) {c : Char} (hc : c ∈ s) :
    (c == '/' || c == '\\') = false ∧ endsAuthority .web c = false := by
  have hdivider := (h.chars c hc).2
  simp only [dividers, List.mem_cons, not_or] at hdivider
  simp [endsAuthority, hdivider]

/-- Where nothing but slashes is in front of it, a word is the host. -/
theorem body_word (hs : IsWord s) (h : Kind.ofScheme scheme = .web) (hxs : skipSlashes xs = []) :
    body scheme (xs ++ '/' :: s) false =
      .ok { scheme, host := some (.domain (String.ofList s)), path := .segments [""] } := by
  have hends : ∀ c ∈ s, endsAuthority .web c = false := fun c hc => (hs.inHost hc).2
  have hskip : skipSlashes (xs ++ '/' :: s) = s := by
    rw [skipSlashes_append_of_nil hxs, skipSlashes, List.dropWhile_cons_of_pos (by decide)]
    obtain ⟨c, s', rfl⟩ := List.exists_cons_of_ne_nil hs.ne_nil
    exact List.dropWhile_cons_of_neg (by simp [(hs.inHost List.mem_cons_self).1])
  have hcut : cutLast '@' s = none := by
    rw [cutLast, if_neg (by simpa using hs.notMem (by decide))]
  obtain ⟨hplace, hbeyond⟩ := place_of_forall hends
  rw [body_web h, hskip, hplace, hbeyond]
  rw [place] at hplace
  have hempty : s.isEmpty = false := by simpa using hs.ne_nil
  simp only [withAuthority, hplace, hcut, hostAndPath_of_forall scheme hends, hostAndPort,
    cutPort_of_notMem (hs.notMem (by decide)), hempty, hs.host]
  rfl

theorem body_of_skipSlashes_eq_nil (h : Kind.ofScheme scheme = .web)
    (hxs : skipSlashes xs = []) (followed : Bool) :
    body scheme xs followed = .error .emptyHost := by
  rw [body_web h, hxs]
  rfl

/-- Behind a host, the segment is the last one of the path. -/
theorem body_append_word (hs : IsWord s) (h : Kind.ofScheme scheme = .web)
    (halike : EndAlike xs ys) (hxs : skipSlashes xs ≠ [])
    (hok : body scheme (xs ++ '/' :: s) false = .ok u) :
    ∃ b front, body scheme ys false = .ok b ∧
      u = { b with path := .segments (front ++ [String.ofList s]) } := by
  obtain ⟨hplace, hbeyond⟩ := place_append_slash (skipSlashes xs) s
  obtain ⟨front, hfront⟩ := pathAfterHost_append hs (beyond (skipSlashes xs))
  rw [body_web h, skipSlashes_append hxs, hplace, hbeyond, hfront] at hok
  obtain ⟨v, hv, rfl⟩ := map_eq_ok_iff.mp hok
  refine ⟨{ v with path := pathAfterHost .web (beyond (skipSlashes ys)) }, front, ?_, rfl⟩
  rw [body_web h, halike.place_eq hxs hv, hv]
  rfl

end Extension

end Parser

open PackageRegistry.Url.Parser

/-! ## The text of a URL with a segment behind it -/

theorem parse_eq_read (s : String) :
    parse s =
      match scheme? (relevant s.toList) with
      | none => .error .noScheme
      | some (scheme, rest) => read scheme rest := rfl

section Extension

variable {scheme base : String} {s cs rest rest' : List Char} {u : Url}

/-- What is read of a text with a word behind it. -/
theorem parse_append_word (hs : IsWord s) (cs : List Char) :
    parse (String.ofList (cs ++ '/' :: s)) =
      match scheme? (opening cs) with
      | none => .error .noScheme
      | some (scheme, rest) => read scheme (rest ++ '/' :: s) := by
  have hending : ending s = s := ending_of_forall fun c hc => (hs.chars c hc).1
  rw [parse_eq_read, String.toList_ofList, relevant_append_cons (by decide), hending,
    scheme?_append_cons (by decide) (by decide)]
  cases scheme? (opening cs) <;> rfl

theorem exists_opening (cs : List Char) :
    ∃ tail, opening cs = relevant cs ++ tail ∧ ∀ c ∈ tail, isVisible c = false := by
  obtain ⟨tail, hcs, htail⟩ := Text.exists_dropTail_append isOuter (cs.dropWhile isOuter)
  refine ⟨tail.filter isInner, ?_, ?_⟩
  · rw [relevant_eq, ← List.filter_append, ← hcs]
    rfl
  · intro c hc
    have houter := htail c (List.mem_of_mem_filter hc)
    rw [isOuter, decide_eq_true_eq] at houter
    rw [isVisible, decide_eq_false_iff_not]
    omega

/-- Without its slashes at the end, a text has the same scheme, and much the same behind it. -/
theorem exists_endAlike
    (h : scheme? (opening (Text.dropTail (· == '/') cs)) = some (scheme, rest)) :
    ∃ rest', scheme? (relevant cs) = some (scheme, rest') ∧ EndAlike rest rest' := by
  obtain ⟨slashes, hcs, hslashes⟩ := Text.exists_dropTail_append (· == '/') cs
  have hreplicate : slashes = List.replicate slashes.length '/' :=
    List.eq_replicate_iff.mpr ⟨rfl, fun c hc => by simpa using hslashes c hc⟩
  cases hn : slashes.length with
  | zero =>
      -- without slashes at the end, blanks there count only if a word is behind them
      rw [List.length_eq_zero_iff.mp hn, List.append_nil] at hcs
      rw [← hcs] at h
      obtain ⟨tail, hopening, htail⟩ := exists_opening cs
      rw [hopening] at h
      cases tail with
      | nil => exact ⟨rest, by simpa using h, .inl ⟨0, by simp⟩⟩
      | cons t tail =>
          have ht : isSchemeChar t = false ∧ t ≠ ':' :=
            Unicode.of_not_visible (P := fun t => isSchemeChar t = false ∧ t ≠ ':') (by decide)
              (htail t (by simp))
          rw [scheme?_append_cons ht.1 ht.2] at h
          obtain ⟨⟨scheme', rest'⟩, hscheme, heq⟩ := Option.map_eq_some_iff.mp h
          cases heq
          exact ⟨rest', hscheme, .inr ⟨t :: tail, rfl, htail⟩⟩
  | succ n =>
      rw [hn, List.replicate_succ] at hreplicate
      have hending : ending (List.replicate n '/') = List.replicate n '/' := by
        apply ending_of_forall
        intro c hc
        rw [List.eq_of_mem_replicate hc]
        decide
      rw [hcs, hreplicate, relevant_append_cons (by decide), hending,
        scheme?_append_cons (by decide) (by decide), h]
      exact ⟨_, rfl, .inl ⟨n + 1, rfl⟩⟩

/-- What a URL becomes with a word behind its text. -/
inductive Extended (word base : String) (u : Url) : Prop where
  /-- Where the text ends in the path, the word is its last segment. -/
  | path (b : Url) (front : List String) (parse_base : parse base = .ok b)
      (unmarked : b.query = none ∧ b.fragment = none)
      (eq : u = { b with path := .segments (front ++ [word]) })
  /-- Where it ends in a query or fragment, nothing else changes. -/
  | mark (b : Url) (query fragment : Option String) (parse_base : parse base = .ok b)
      (marked : ¬ (b.query = none ∧ b.fragment = none))
      (eq : u = { b with query := query, fragment := fragment })
  /-- Where it ends before the host, there was no URL, and the word is the host. -/
  | host (parse_base : parse base = .error .emptyHost)
      (eq : u = { scheme := u.scheme, host := some (.domain word), path := .segments [""] })

theorem scheme_read (h : read scheme rest = .ok u) : u.scheme = scheme := by
  obtain ⟨v, hv, rfl⟩ := map_eq_ok_iff.mp h
  have hscheme := scheme_body hv
  exact hscheme

theorem extended_of_unmarked (hs : IsWord s) (hweb : Kind.ofScheme scheme = .web)
    (halike : EndAlike rest rest') (hrest : ∀ c ∈ rest, ¬ IsMark c)
    (hbase : parse base = read scheme rest') (h : read scheme (rest ++ '/' :: s) = .ok u) :
    Extended (String.ofList s) base u := by
  have hwhole : ∀ c ∈ rest ++ '/' :: s, ¬ IsMark c := by
    intro c hc
    rcases List.mem_append.mp hc with hc | hc
    · exact hrest c hc
    · exact hs.unmarked hc
  rw [read_of_unmarked hwhole] at h
  rw [read_of_unmarked (halike.unmarked hrest)] at hbase
  obtain ⟨v, hv, rfl⟩ := map_eq_ok_iff.mp h
  by_cases hslashes : skipSlashes rest = []
  · rw [body_of_skipSlashes_eq_nil hweb (halike.skipSlashes_eq_nil hslashes)] at hbase
    rw [body_word hs hweb hslashes] at hv
    cases hv
    exact .host hbase rfl
  · obtain ⟨b, front, hb, rfl⟩ := body_append_word hs hweb halike hslashes hv
    rw [hb] at hbase
    exact .path _ front hbase ⟨rfl, rfl⟩ rfl

theorem extended_of_marked {xs ys : List Char} {m : Char} {word : String}
    (halike : EndAlike (xs ++ m :: ys) rest') (hxs : ∀ c ∈ xs, ¬ IsMark c) (hm : IsMark m)
    (hbase : parse base = read scheme rest') (h : read scheme (xs ++ m :: ys ++ '/' :: s) = .ok u) :
    Extended word base u := by
  obtain ⟨ys', rfl⟩ := halike.marked hm
  obtain ⟨query', fragment', hmarked, hread'⟩ := read_of_marked hxs hm ys' scheme
  obtain ⟨query, fragment, -, hread⟩ := read_of_marked hxs hm (ys ++ '/' :: s) scheme
  rw [List.append_assoc, List.cons_append, hread] at h
  obtain ⟨v, hv, rfl⟩ := map_eq_ok_iff.mp h
  rw [hread', hv] at hbase
  exact .mark _ query fragment hbase hmarked rfl

/-- A word behind a slash, in place of the slashes that the text of a URL may end in. -/
theorem extended_of_parse (hs : IsWord s)
    (h : parse (String.ofList (Text.dropTail (· == '/') base.toList ++ '/' :: s)) = .ok u)
    (hweb : Kind.ofScheme u.scheme = .web) : Extended (String.ofList s) base u := by
  rw [parse_append_word hs] at h
  cases hopening : scheme? (opening (Text.dropTail (· == '/') base.toList)) with
  | none => simp [hopening] at h
  | some found =>
      obtain ⟨scheme, rest⟩ := found
      obtain ⟨rest', hscheme, halike⟩ := exists_endAlike hopening
      have hbase : parse base = read scheme rest' := by rw [parse_eq_read, hscheme]
      simp only [hopening] at h
      rw [scheme_read h] at hweb
      rcases unmarked_or_marked rest with hrest | ⟨xs, m, ys, rfl, hxs, hm⟩
      · exact extended_of_unmarked hs hweb halike hrest hbase h
      · exact extended_of_marked halike hxs hm hbase h

end Extension

end PackageRegistry.Url
