import Mathlib.Data.List.TakeWhile
import PackageRegistry.Proofs.Keyed
import PackageRegistry.Settings

/-! # Laying values over values

A layer is a list of parts, each a value at the end of a path, that are laid one after the other.
What stands at a path afterwards is the last value that was laid there, or what was there before.
Parts that leave the path on the way do not touch it.
-/

namespace PackageRegistry.Settings

open Toml (Value)

/-! ## Paths -/

/-- The value at the end of some keys. -/
def at? : List String → Option Value → Option Value
  | [], v => v
  | k :: path, v => at? path (Keyed.find? k (entriesOf v))

theorem at?_none (path : List String) : at? path none = none := by
  induction path with
  | nil => rfl
  | cons k path ih => exact ih

theorem at?_append (path path' : List String) (v : Option Value) :
    at? (path ++ path') v = at? path' (at? path v) := by
  induction path generalizing v with
  | nil => rfl
  | cons k path ih => exact ih _

/-- What has something further below it is a table. -/
theorem exists_table_of_at? {k k' : String} {path : List String} {es : Table}
    (h : at? (k :: k' :: path) (some (.table es)) ≠ none) :
    ∃ ps, Keyed.find? k es = some (.table ps) := by
  have hbelow : at? (k :: k' :: path) (some (.table es)) =
      at? path (Keyed.find? k' (entriesOf (Keyed.find? k es))) := rfl
  rw [hbelow] at h
  cases hfind : Keyed.find? k es with
  | none => simp [hfind, entriesOf, Keyed.find?, at?_none] at h
  | some v =>
      cases v with
      | table ps => exact ⟨ps, rfl⟩
      | text | integer | float | boolean | array =>
          simp [hfind, entriesOf, Keyed.find?, at?_none] at h

/-- Steps that part with a path at one of its keys. -/
def Apart : List Step → List String → Prop
  | .key k :: steps, k' :: path => k ≠ k' ∨ Apart steps path
  | _, _ => False

theorem Apart.ne_map_key {steps : List Step} {path : List String} (h : Apart steps path) :
    steps ≠ path.map .key := by
  induction path generalizing steps with
  | nil => cases steps <;> simp [Apart] at h
  | cons k path ih =>
      match steps, h with
      | .key k' :: steps, .inl hne => simp [hne]
      | .key k' :: steps, .inr hrest => simp [ih hrest]

/-- The keys in front of a path are not all of it. -/
theorem map_key_front_ne (front : List String) (k : String) (back : List String) :
    front.map Step.key ≠ (front ++ k :: back).map .key := by
  intro heq
  simpa using congrArg List.length heq

/-- A value at the end of some steps. -/
abbrev Part := List Step × Value

/-- What a part may be that concerns a path: a value for it, something beside it, or an empty table
on the way to it. -/
inductive Suits (ok : Value → Prop) (path : List String) : Part → Prop where
  | sets (v : Value) (h : ok v) : Suits ok path (path.map .key, v)
  | beside (steps : List Step) (v : Value) (h : Apart steps path) : Suits ok path (steps, v)
  | opens (front : List String) (k : String) (back : List String) (h : front ++ k :: back = path) :
      Suits ok path (front.map .key, .table [])

theorem Suits.mono {ok ok' : Value → Prop} {path : List String} {part : Part}
    (h : Suits ok path part) (hok : ∀ v, ok v → ok' v) : Suits ok' path part := by
  cases h with
  | sets v hv => exact .sets v (hok v hv)
  | beside steps v hapart => exact .beside steps v hapart
  | opens front k back hpath => exact .opens front k back hpath

/-! ## Laying one part -/

theorem overlayAt_key (v : Value) (k : String) (steps : List Step) (old : Option Value) :
    overlayAt v (.key k :: steps) old =
      .table (Keyed.insert k (overlayAt v steps (Keyed.find? k (entriesOf old))) (entriesOf old)) :=
  rfl

/-- A part that goes through a key is seen below that key only. -/
theorem at?_overlayAt_key (v : Value) (k k' : String) (steps : List Step) (path : List String)
    (old : Option Value) :
    at? (k' :: path) (some (overlayAt v (.key k :: steps) old)) =
      if k' = k then at? path (some (overlayAt v steps (Keyed.find? k (entriesOf old))))
      else at? (k' :: path) old := by
  rw [overlayAt_key, at?, entriesOf, Keyed.find?_insert]
  split_ifs with h
  · rfl
  · rfl

theorem at?_overlayAt_of_apart {steps : List Step} {path : List String} (h : Apart steps path)
    (v : Value) (old : Option Value) : at? path (some (overlayAt v steps old)) = at? path old := by
  induction path generalizing steps old with
  | nil => cases steps <;> simp [Apart] at h
  | cons k path ih =>
      match steps, h with
      | .key k' :: steps, h =>
        rw [at?_overlayAt_key]
        split_ifs with heq
        · subst heq
          exact ih (h.resolve_left fun hne => hne rfl) _
        · rfl

theorem at?_overlayAt_front (front path : List String) (v : Value) (old : Option Value) :
    at? (front ++ path) (some (overlayAt v (front.map .key) old)) =
      at? path (some (overlay (at? front old) v)) := by
  induction front generalizing old with
  | nil => rfl
  | cons k front ih =>
      rw [List.cons_append, List.map_cons, at?_overlayAt_key, if_pos rfl]
      exact ih _

theorem overlay_of_not_table {v : Value} (h : ∀ es, v ≠ .table es) (old : Option Value) :
    overlay old v = v := by
  cases v with
  | table es => exact absurd rfl (h es)
  | text | integer | float | boolean | array => simp [overlay]

theorem overlay_empty (old : Option Value) : overlay old (.table []) = .table (entriesOf old) := by
  simp [overlay, overlayEntries]

/-! ## Laying one part after the other -/

/-- Lays a part over a value. -/
def lay (old : Option Value) (part : Part) : Option Value := some (overlayAt part.2 part.1 old)

/-- The value that the last part with a path sets there. -/
def last? (path : List String) (parts : List Part) : Option Value :=
  parts.reverse.findSome? fun part => if part.1 = path.map .key then some part.2 else none

theorem last?_append (path : List String) (ps qs : List Part) :
    last? path (ps ++ qs) = (last? path qs).or (last? path ps) := by
  simp [last?, List.findSome?_append]

theorem last?_singleton (path : List String) (part : Part) :
    last? path [part] = if part.1 = path.map .key then some part.2 else none := by
  simp [last?]

/-- The last value at a path is one that is there. -/
theorem mem_of_last? {path : List String} {ps : List Part} {v : Value}
    (h : last? path ps = some v) : (path.map Step.key, v) ∈ ps := by
  obtain ⟨part, hmem, hpart⟩ := List.exists_of_findSome?_eq_some h
  split_ifs at hpart with hsteps
  obtain rfl := Option.some.inj hpart
  rw [← hsteps]
  exact List.mem_reverse.mp hmem

/-- A part with the whole path has a value for it. -/
theorem Suits.ok_of_steps {ok : Value → Prop} {path : List String} {part : Part}
    (h : Suits ok path part) (hsteps : part.1 = path.map .key) : ok part.2 := by
  cases h with
  | sets v hok => exact hok
  | beside steps v hapart => exact absurd hsteps hapart.ne_map_key
  | opens front k back hpath => exact absurd (hpath ▸ hsteps) (map_key_front_ne front k back)

theorem ok_of_last? {ok : Value → Prop} {path : List String} {ps : List Part}
    (h : ∀ part ∈ ps, Suits ok path part) {v : Value} (hv : last? path ps = some v) : ok v :=
  (h _ (mem_of_last? hv)).ok_of_steps rfl

/-- A path that is open to values: what stands on the way are tables with each key once, and the
value at its end is no table. -/
def Clear : List String → Option Value → Prop
  | _, none => True
  | [], some v => ∀ es, v ≠ .table es
  | k :: path, some v => ∃ es, v = .table es ∧ Keyed.Ordered es ∧ Clear path (Keyed.find? k es)

theorem Clear.ordered {k : String} {path : List String} {old : Option Value}
    (h : Clear (k :: path) old) : Keyed.Ordered (entriesOf old) := by
  match old, h with
  | none, _ => exact .nil
  | some _, ⟨es, rfl, hordered, _⟩ => exact hordered

theorem Clear.below {k : String} {path : List String} {old : Option Value}
    (h : Clear (k :: path) old) : Clear path (Keyed.find? k (entriesOf old)) := by
  match old, h with
  | none, _ => simp [entriesOf, Keyed.find?, Clear]
  | some _, ⟨es, rfl, _, hbelow⟩ => exact hbelow

/-- A path stays clear if it does below the key that a part goes through. -/
theorem Clear.overlayAt_key {k k' : String} {steps : List Step} {path : List String} {v : Value}
    {old : Option Value} (h : Clear (k' :: path) old)
    (hbelow : k' = k → Clear path (some (overlayAt v steps (Keyed.find? k (entriesOf old))))) :
    Clear (k' :: path) (some (overlayAt v (.key k :: steps) old)) := by
  refine ⟨_, rfl, h.ordered.insert _ _, ?_⟩
  rw [Keyed.find?_insert]
  split_ifs with heq
  · exact hbelow heq
  · exact h.below

section Parts

variable {ok : Value → Prop} (hok : ∀ v, ok v → ∀ es, v ≠ .table es) {path : List String}
include hok

/-- The step: a part sets the value of its own path, and leaves the one of any other it suits. -/
theorem at?_overlayAt {part : Part} (h : Suits ok path part) (old : Option Value) :
    at? path (some (overlayAt part.2 part.1 old)) =
      if part.1 = path.map .key then some part.2 else at? path old := by
  cases h with
  | sets v hv =>
      have hfront := at?_overlayAt_front path [] v old
      rw [List.append_nil] at hfront
      rw [if_pos rfl, hfront, overlay_of_not_table (hok v hv)]
      rfl
  | beside steps v hapart => rw [if_neg hapart.ne_map_key, at?_overlayAt_of_apart hapart]
  | opens front k back hpath =>
      subst hpath
      rw [at?_overlayAt_front, at?_append, overlay_empty, if_neg (map_key_front_ne front k back)]
      rfl

/-- The run: the value is the last one that was laid there, or the one from before. -/
theorem at?_foldl_lay {parts : List Part} (h : ∀ part ∈ parts, Suits ok path part)
    (old : Option Value) :
    at? path (parts.foldl lay old) = (last? path parts).or (at? path old) := by
  induction parts generalizing old with
  | nil => rfl
  | cons part parts ih =>
      have hcons : part :: parts = [part] ++ parts := rfl
      rw [List.foldl_cons, ih fun p hp => h p (List.mem_cons_of_mem _ hp), hcons, last?_append,
        last?_singleton, Option.or_assoc, lay, at?_overlayAt hok (h part (by simp))]
      split_ifs <;> rfl

theorem clear_overlayAt {part : Part} (h : Suits ok path part) {old : Option Value}
    (hclear : Clear path old) : Clear path (some (overlayAt part.2 part.1 old)) := by
  induction path generalizing part old with
  | nil =>
      cases h with
      | sets v hv =>
          rw [List.map_nil, overlayAt, overlay_of_not_table (hok v hv)]
          exact hok v hv
      | beside steps v hapart => cases steps <;> simp [Apart] at hapart
      | opens front k back hpath => simp at hpath
  | cons k path ih =>
      cases h with
      | sets v hv => exact hclear.overlayAt_key fun _ => ih (.sets v hv) hclear.below
      | beside steps v hapart =>
          match steps, hapart with
          | .key k' :: steps, hapart =>
            refine hclear.overlayAt_key fun heq => ?_
            subst heq
            exact ih (.beside steps v (hapart.resolve_left fun hne => hne rfl)) hclear.below
      | opens front k' back hpath =>
          cases front with
          | nil =>
              rw [List.map_nil, overlayAt, overlay_empty]
              exact ⟨_, rfl, hclear.ordered, hclear.below⟩
          | cons k'' front =>
              rw [List.cons_append, List.cons.injEq] at hpath
              obtain ⟨rfl, hpath⟩ := hpath
              exact hclear.overlayAt_key fun _ => ih (.opens front k' back hpath) hclear.below

theorem clear_foldl_lay {parts : List Part} (h : ∀ part ∈ parts, Suits ok path part)
    {old : Option Value} (hclear : Clear path old) : Clear path (parts.foldl lay old) := by
  induction parts generalizing old with
  | nil => exact hclear
  | cons part parts ih =>
      exact ih (fun p hp => h p (List.mem_cons_of_mem _ hp))
        (clear_overlayAt hok (h part (by simp)) hclear)

end Parts

/-! ## The parts of a layer -/

mutual

/-- The parts of a value at the end of some steps: those of its entries, if it has any. -/
def parts (steps : List Step) : Value → List Part
  | .table es => if es.isEmpty then [(steps, .table [])] else entryParts steps es
  | v => [(steps, v)]

def entryParts (steps : List Step) : Table → List Part
  | [] => []
  | (k, v) :: es => parts (steps ++ [.key k]) v ++ entryParts steps es

end

/-- The parts of a layer, whose names lead to them. -/
def layerParts (layer : Table) : List Part := layer.flatMap fun e => parts (steps e.1) e.2

theorem lt_length_makeRoom (items : List Value) (n : Int) :
    (makeRoom items n).2 < (makeRoom items n).1.length := by
  unfold makeRoom
  split_ifs with hpos hroom
  · simp only [List.length_append, List.length_replicate]
    omega
  · simp only
    omega
  · simp only [List.length_append, List.length_replicate]
    omega

/-- An array with room at a place has room there, whatever is put into it. -/
theorem makeRoom_set (items : List Value) (n : Int) (v : Value) :
    makeRoom ((makeRoom items n).1.set (makeRoom items n).2 v) n =
      ((makeRoom items n).1.set (makeRoom items n).2 v, (makeRoom items n).2) := by
  by_cases hpos : 0 ≤ n
  · have hlength : n.toNat + 1 - (items.length + (n.toNat + 1 - items.length)) = 0 := by omega
    simp [makeRoom, hpos, hlength]
  · by_cases hroom : n.natAbs ≤ items.length
    · simp [makeRoom, hpos, hroom]
    · have hlength : n.natAbs - items.length + items.length = n.natAbs := by omega
      simp [makeRoom, hpos, hroom, hlength]

theorem overlayAt_singleton (k : String) (v : Value) (steps : List Step) (old : Option Value) :
    overlayAt (.table [(k, v)]) steps old = overlayAt v (steps ++ [.key k]) old := by
  induction steps generalizing old with
  | nil => simp [overlayAt, overlay, overlayEntries]
  | cons step steps ih => cases step <;> simp [overlayAt, ih]

/-- The first entry of a table can be laid before the others. -/
theorem overlayAt_cons (k : String) (v : Value) (es : Table) (steps : List Step)
    (old : Option Value) :
    overlayAt (.table ((k, v) :: es)) steps old =
      overlayAt (.table es) steps (some (overlayAt v (steps ++ [.key k]) old)) := by
  induction steps generalizing old with
  | nil => simp [overlayAt, overlay, overlayEntries, entriesOf]
  | cons step steps ih =>
      cases step with
      | key k' => simp [overlayAt, entriesOf, ih, Keyed.find?_insert, Keyed.insert_insert]
      | place n =>
          have hlt := lt_length_makeRoom (itemsOf old) n
          have hitems : ∀ items, itemsOf (some (.array items)) = items := fun _ => rfl
          simp only [List.cons_append, overlayAt, hitems, makeRoom_set, List.set_set,
            List.getElem?_set_self hlt, ih]

mutual

/-- Laying a value is laying its parts. -/
theorem foldl_lay_parts (steps : List Step) (v : Value) (old : Option Value) :
    (parts steps v).foldl lay old = some (overlayAt v steps old) := by
  cases v with
  | table es =>
      rw [parts]
      split_ifs with hempty
      · rw [List.isEmpty_iff.mp hempty]
        rfl
      · exact foldl_lay_entryParts steps es (mt List.isEmpty_iff.mpr hempty) old
  | text | integer | float | boolean | array => simp [parts, lay]

theorem foldl_lay_entryParts (steps : List Step) (es : Table) (h : es ≠ [])
    (old : Option Value) :
    (entryParts steps es).foldl lay old = some (overlayAt (.table es) steps old) := by
  cases es with
  | nil => exact absurd rfl h
  | cons e es =>
      obtain ⟨k, v⟩ := e
      rw [entryParts, List.foldl_append, foldl_lay_parts]
      by_cases hrest : es = []
      · rw [hrest, entryParts, List.foldl_nil, overlayAt_singleton]
      · rw [foldl_lay_entryParts steps es hrest, ← overlayAt_cons]

end

/-! ## Layers over layers -/

theorem steps_of_bare {cs : List Char} (hne : cs ≠ []) (h : ∀ c ∈ cs, Toml.isBareChar c = true) :
    steps (String.ofList cs) = [.key (String.ofList cs)] := by
  have htake : cs.takeWhile Toml.isBareChar = cs := List.takeWhile_eq_self_iff.mpr h
  cases cs with
  | nil => exact absurd rfl hne
  | cons c cs => simp [steps, htake, moreSteps?]

/-- A name begins with a key, and that key alone is a name for itself. -/
theorem exists_steps_eq (name : String) :
    ∃ k rest, steps name = .key k :: rest ∧ steps k = [.key k] := by
  have hcases : (∃ more, steps name =
      .key (String.ofList (name.toList.takeWhile Toml.isBareChar)) :: more ∧
        name.toList.takeWhile Toml.isBareChar ≠ []) ∨ steps name = [.key name] := by
    simp only [steps]
    split
    · rename_i more hk hmore
      exact .inl ⟨more, rfl, by simp [hk]⟩
    · exact .inr rfl
  obtain ⟨more, hsteps, hne⟩ | hsteps := hcases
  · exact ⟨_, more, hsteps, steps_of_bare hne fun c hc => List.mem_takeWhile_imp hc⟩
  · exact ⟨name, [], hsteps, hsteps⟩

/-- A layer is laid part by part. -/
theorem table_overlayLayer (base layer : Table) :
    some (.table (overlayLayer base layer)) =
      (layerParts layer).foldl lay (some (.table base)) := by
  induction layer generalizing base with
  | nil => rfl
  | cons e layer ih =>
      obtain ⟨k, rest, hsteps, -⟩ := exists_steps_eq e.1
      have htable :
          some (.table (entriesOf (some (overlayAt e.2 (steps e.1) (some (.table base)))))) =
            some (overlayAt e.2 (steps e.1) (some (.table base))) := by
        rw [hsteps]
        rfl
      rw [layerParts, List.flatMap_cons, List.foldl_append, foldl_lay_parts, ← htable]
      exact ih _

theorem steps_of_mem_overlayLayer {base : Table} (hbase : ∀ e ∈ base, steps e.1 = [.key e.1])
    (layer : Table) : ∀ e ∈ overlayLayer base layer, steps e.1 = [.key e.1] := by
  induction layer generalizing base with
  | nil => exact hbase
  | cons e layer ih =>
      refine ih ?_
      obtain ⟨k, rest, hsteps, hk⟩ := exists_steps_eq e.1
      intro e' he'
      simp only [hsteps] at he'
      rcases Keyed.mem_insert he' with rfl | hmem
      · exact hk
      · exact hbase e' hmem

/-- Where names are keys, a layer is laid like a table. -/
theorem overlayLayer_eq_overlayEntries {layer : Table} (h : ∀ e ∈ layer, steps e.1 = [.key e.1])
    (base : Table) : overlayLayer base layer = overlayEntries base layer := by
  induction layer generalizing base with
  | nil =>
      rw [overlayEntries]
      rfl
  | cons e layer ih =>
      rw [overlayEntries, ← ih fun e' he' => h e' (List.mem_cons_of_mem _ he')]
      rw [overlayLayer, List.foldl_cons, h e (by simp)]
      rfl

theorem find?_overlayEntries {es : Table} (h : (es.map Prod.fst).Nodup) (base : Table)
    (k : String) :
    Keyed.find? k (overlayEntries base es) =
      ((Keyed.find? k es).map (overlay (Keyed.find? k base))).or (Keyed.find? k base) := by
  induction es generalizing base with
  | nil => simp [overlayEntries, Keyed.find?]
  | cons e es ih =>
      obtain ⟨k', v⟩ := e
      rw [List.map_cons, List.nodup_cons] at h
      rw [overlayEntries, ih h.2, Keyed.find?_insert, Keyed.find?]
      by_cases heq : k' = k
      · subst heq
        have hnone : Keyed.find? k' es = none := Keyed.find?_eq_none_iff.mpr h.1
        simp [hnone]
      · simp [heq, Ne.symm heq]

/-- What is laid over a value shows where it says something. -/
theorem at?_overlay {path : List String} {v : Value} (h : Clear path (some v))
    (old : Option Value) :
    at? path (some (overlay old v)) = (at? path (some v)).or (at? path old) := by
  induction path generalizing v old with
  | nil => simp [at?, overlay_of_not_table h]
  | cons k path ih =>
      obtain ⟨es, rfl, hordered, hbelow⟩ := h
      have hfind := find?_overlayEntries hordered.nodup (entriesOf old) k
      simp only [at?, overlay, entriesOf] at hfind ⊢
      rw [hfind]
      cases hes : Keyed.find? k es with
      | none => simp [at?_none]
      | some w =>
          rw [hes] at hbelow
          exact ih hbelow _

/-- A layer of keys, each of which comes once, can be laid in any order. -/
theorem at?_overlayLayer_perm {layer other : Table} (hperm : other.Perm layer)
    (hplain : ∀ e ∈ layer, steps e.1 = [.key e.1]) (hkeys : (layer.map Prod.fst).Nodup) (k : String)
    (path : List String) (base : Table) :
    at? (k :: path) (some (.table (overlayLayer base other))) =
      at? (k :: path) (some (.table (overlayLayer base layer))) := by
  have hkeys' : (other.map Prod.fst).Nodup := (hperm.map Prod.fst).nodup_iff.mpr hkeys
  have hplain' : ∀ e ∈ other, steps e.1 = [.key e.1] :=
    fun e he => hplain e (hperm.mem_iff.mp he)
  rw [overlayLayer_eq_overlayEntries hplain, overlayLayer_eq_overlayEntries hplain']
  simp only [at?, entriesOf, find?_overlayEntries hkeys, find?_overlayEntries hkeys',
    Keyed.find?_perm hperm hkeys]

/-- What stands at a path after two layers were put together and laid over a third. -/
theorem at?_overlayLayer {ok : Value → Prop} (hok : ∀ v, ok v → ∀ es, v ≠ .table es) {k : String}
    {path : List String} {lower upper : Table}
    (hlower : ∀ part ∈ layerParts lower, Suits ok (k :: path) part)
    (hupper : ∀ part ∈ layerParts upper, Suits ok (k :: path) part) (lib : Library)
    (base : Table) :
    at? (k :: path) (some (.table (overlayLayer base
        (lib.arrange (overlayLayer (overlayLayer [] lower) upper))))) =
      ((last? (k :: path) (layerParts upper)).or (last? (k :: path) (layerParts lower))).or
        (at? (k :: path) (some (.table base))) := by
  have hgiven : some (.table (overlayLayer (overlayLayer [] lower) upper)) =
      (layerParts lower ++ layerParts upper).foldl lay (some (.table [])) := by
    rw [List.foldl_append, ← table_overlayLayer, ← table_overlayLayer]
  have hsuits : ∀ part ∈ layerParts lower ++ layerParts upper, Suits ok (k :: path) part := by
    intro part hpart
    exact (List.mem_append.mp hpart).elim (hlower part) (hupper part)
  have hnone : ∀ e ∈ ([] : Table), steps e.1 = [.key e.1] := by simp
  have hplain := steps_of_mem_overlayLayer (steps_of_mem_overlayLayer hnone lower) upper
  have hempty : Clear (k :: path) (some (.table [])) :=
    ⟨[], rfl, .nil, by simp [Keyed.find?, Clear]⟩
  have hclear := clear_foldl_lay hok hsuits hempty
  have hat := at?_foldl_lay hok hsuits (some (.table []))
  have hnothing : at? (k :: path) (some (.table [])) = none := at?_none path
  rw [← hgiven] at hclear hat
  rw [hnothing, Option.or_none, last?_append] at hat
  have hoverlay := at?_overlay hclear (some (.table base))
  rw [overlay, ← overlayLayer_eq_overlayEntries hplain, hat] at hoverlay
  rw [at?_overlayLayer_perm (lib.perm _) hplain hclear.ordered.nodup]
  exact hoverlay

/-! ## Layers in any order -/

/-- A layer that says one thing at most at a path. -/
def Once (path : List String) (layer : Table) : Prop :=
  ∀ v w, (path.map Step.key, v) ∈ layerParts layer → (path.map Step.key, w) ∈ layerParts layer →
    v = w

theorem mem_layerParts_perm {layer other : Table} (hperm : other.Perm layer) {part : Part} :
    part ∈ layerParts other ↔ part ∈ layerParts layer :=
  (hperm.flatMap_right _).mem_iff

theorem last?_eq_some_iff {path : List String} {layer : Table} (h : Once path layer) {v : Value} :
    last? path (layerParts layer) = some v ↔ (path.map Step.key, v) ∈ layerParts layer := by
  refine ⟨mem_of_last?, fun hmem => ?_⟩
  cases hlast : last? path (layerParts layer) with
  | none =>
      have hnone := List.findSome?_eq_none_iff.mp hlast _ (List.mem_reverse.mpr hmem)
      simp at hnone
  | some w => rw [h v w hmem (mem_of_last? hlast)]

theorem last?_perm {path : List String} {layer other : Table} (hperm : other.Perm layer)
    (h : Once path layer) : last? path (layerParts other) = last? path (layerParts layer) := by
  have hother : Once path other := by
    intro v w hv hw
    exact h v w ((mem_layerParts_perm hperm).mp hv) ((mem_layerParts_perm hperm).mp hw)
  apply Option.ext
  intro v
  rw [last?_eq_some_iff hother, last?_eq_some_iff h, mem_layerParts_perm hperm]

end PackageRegistry.Settings
