import PackageRegistry.Proofs.Settings.Layers

/-! # Variables

A variable of the environment gives a setting by its name. What it holds is taken for a truth value
or a number where it is spelled like one, so only other words reach a setting that is a text.
-/

namespace PackageRegistry

open Toml (Value)

/-! ## What can be set -/

/-- The settings that a file and the environment can give. -/
inductive Setting where
  | dispatchUrl
  | dataDir
  | userAgent
  | debounce
  | clientId
  | authorizeUrl
  | redirectUri
  | scopes
deriving DecidableEq, Repr

/-- What a setting can be. -/
inductive SettingKind where
  | text
  | count
  | list
deriving DecidableEq, Repr

namespace SettingKind

/-- The values of a kind. -/
def Accepts : SettingKind → Value → Prop
  | .text, v => ∃ s, v = .text s
  | .count, v => ∃ n : Nat, v = .integer n
  | .list, v => ∃ ss : List String, v = .array (ss.map .text)

/-- Whether a text is spelled neither like a truth value nor like a number. -/
def isWordy (text : String) : Bool :=
  Settings.lower text != "true" && Settings.lower text != "false" &&
    (Settings.integer? text).isNone && (Numeric.Binary64.parse? text).isNone

/-- The value of a kind that a variable holds: a text is taken as it is, a number is not negative
and fits 64 bits with a sign, and a list has blanks between its items. -/
def meaning? : SettingKind → String → Option Value
  | .text, s => if isWordy s then some (.text s) else none
  | .count, s => (Settings.integer? s).bind fun n => if 0 ≤ n then some (.integer n) else none
  | .list, s => if isWordy s then some (.array ((Text.split ' ' s).map .text)) else none

/-- What a setting of a kind gets from a value that can be read as one. -/
def reading? : SettingKind → Value → Option Value
  | .text, v => (Settings.text? v).map .text
  | .count, v => (Settings.count? v).map fun n : Nat => .integer n
  | .list, v => (Settings.texts? v).map fun ss => .array (ss.map .text)

/-- Whether a value can be read as one of a kind. -/
def Reads (kind : SettingKind) (v : Value) : Prop := ∃ w, kind.reading? v = some w

theorem Reads.not_table {kind : SettingKind} {v : Value} (h : kind.Reads v)
    (es : List (String × Value)) : v ≠ .table es := by
  rintro rfl
  obtain ⟨w, hw⟩ := h
  cases kind <;> cases hw

theorem texts?_texts (ss : List String) : Settings.texts? (.array (ss.map .text)) = some ss := by
  have hmapM : (ss.map Value.text).mapM Settings.text? = some ss := by
    induction ss with
    | nil => rfl
    | cons s ss ih => simp [Settings.text?, ih]
  exact hmapM

/-- The values of a kind are read as they are. -/
theorem reading?_of_accepts {kind : SettingKind} {v : Value} (h : kind.Accepts v) :
    kind.reading? v = some v := by
  cases kind with
  | text =>
      obtain ⟨s, rfl⟩ := h
      rfl
  | count =>
      obtain ⟨n, rfl⟩ := h
      simp [reading?, Settings.count?]
  | list =>
      obtain ⟨ss, rfl⟩ := h
      simp [reading?, texts?_texts]

theorem accepts_of_meaning? {kind : SettingKind} {s : String} {v : Value}
    (h : kind.meaning? s = some v) : kind.Accepts v := by
  cases kind with
  | text =>
      simp only [meaning?] at h
      split_ifs at h
      exact ⟨s, (Option.some.inj h).symm⟩
  | count =>
      simp only [meaning?, Option.bind_eq_some_iff] at h
      obtain ⟨n, -, hn⟩ := h
      split_ifs at hn with hpos
      refine ⟨n.toNat, ?_⟩
      rw [Int.toNat_of_nonneg hpos]
      exact (Option.some.inj hn).symm
  | list =>
      simp only [meaning?] at h
      split_ifs at h
      exact ⟨_, (Option.some.inj h).symm⟩

end SettingKind

namespace Setting

def path : Setting → List String
  | .dispatchUrl => ["dispatch_url"]
  | .dataDir => ["data_dir"]
  | .userAgent => ["user_agent"]
  | .debounce => ["debounce_ms"]
  | .clientId => ["oauth", "client_id"]
  | .authorizeUrl => ["oauth", "authorize_url"]
  | .redirectUri => ["oauth", "redirect_uri"]
  | .scopes => ["oauth", "scopes"]

def name (k : Setting) : String := String.intercalate "." k.path

def kind : Setting → SettingKind
  | .debounce => .count
  | .scopes => .list
  | _ => .text

theorem steps_name (k : Setting) : Settings.steps k.name = k.path.map .key := by
  cases k <;> decide +kernel

theorem apart_of_ne {k l : Setting} (h : k ≠ l) : Settings.Apart (k.path.map .key) l.path := by
  cases k <;> cases l <;> first | exact absurd rfl h | simp [path, Settings.Apart]

/-- A value for one setting is nothing to the others. -/
theorem suits_of_accepts {k : Setting} {v : Value} (h : k.kind.Accepts v) (l : Setting) :
    Settings.Suits l.kind.Accepts l.path (k.path.map .key, v) := by
  by_cases heq : k = l
  · subst heq
    exact .sets v h
  · exact .beside _ _ (apart_of_ne heq)

theorem exists_path_eq (k : Setting) : ∃ key path, k.path = key :: path := by
  cases k <;> exact ⟨_, _, rfl⟩

theorem name_ne_of_kind {k : Setting} (h : k.kind ≠ .list) : k.name ≠ "oauth.scopes" := by
  cases k <;> first | exact absurd rfl h | decide +kernel

end Setting

/-! ## Variables -/

namespace Settings

theorem mem_of_mem_sign {c : Char} {cs : List Char} (h : c ∈ (Toml.sign cs).2) : c ∈ cs := by
  unfold Toml.sign at h
  split at h
  · exact List.mem_cons_of_mem _ h
  · exact List.mem_cons_of_mem _ h
  · exact h

theorem exists_digit_of_integer? {s : String} {n : Int} (h : integer? s = some n) :
    ∃ c ∈ s.toList, Toml.isDecimal c = true := by
  simp only [integer?, Option.ite_none_left_eq_some, not_or] at h
  obtain ⟨⟨hne, hall⟩, -⟩ := h
  obtain ⟨c, hc⟩ := List.exists_mem_of_ne_nil _ (mt List.isEmpty_iff.mpr hne)
  rw [Bool.not_eq_true, Bool.not_eq_false'] at hall
  exact ⟨c, mem_of_mem_sign hc, List.all_eq_true.mp hall c hc⟩

theorem toLower_of_isDecimal {c : Char} (h : Toml.isDecimal c = true) : c.toLower = c := by
  simp only [Toml.isDecimal, Bool.and_eq_true, decide_eq_true_eq] at h
  have hcapital : ¬ (c.val ≥ 'A'.val ∧ c.val ≤ 'Z'.val) := by
    rintro ⟨hlow, -⟩
    exact absurd (hlow.trans h.2) (by decide)
  exact dif_neg hcapital

/-- A number has a digit in it, and a truth value has none. -/
theorem lower_ne_of_integer? {s : String} {n : Int} (h : integer? s = some n) (word : String)
    (hword : word.toList.any Toml.isDecimal = false) : lower s ≠ word := by
  rintro rfl
  obtain ⟨c, hmem, hdecimal⟩ := exists_digit_of_integer? h
  have hin : c ∈ (lower s).toList := by
    rw [lower, String.toList_ofList, List.mem_map]
    exact ⟨c, hmem, toLower_of_isDecimal hdecimal⟩
  exact List.any_eq_false.mp hword c hin hdecimal

theorem variableValue_of_wordy {s : String} (h : SettingKind.isWordy s = true) (name : String) :
    variableValue name s =
      if name = "oauth.scopes" then .array ((Text.split ' ' s).map .text) else .text s := by
  simp only [SettingKind.isWordy, Bool.and_eq_true, bne_iff_ne, Option.isNone_iff_eq_none] at h
  obtain ⟨⟨⟨htrue, hfalse⟩, hinteger⟩, hfloat⟩ := h
  unfold variableValue
  split
  · contradiction
  · contradiction
  · simp [hinteger, hfloat]

theorem variableValue_of_integer {s : String} {n : Int} (h : integer? s = some n) (name : String) :
    variableValue name s = .integer n := by
  have htrue := lower_ne_of_integer? h "true" (by decide)
  have hfalse := lower_ne_of_integer? h "false" (by decide)
  unfold variableValue
  split
  · contradiction
  · contradiction
  · simp [h]

/-- A variable is taken for what it means. -/
theorem variableValue_eq {k : Setting} {s : String} {v : Value}
    (h : k.kind.meaning? s = some v) : variableValue k.name s = v := by
  cases hkind : k.kind with
  | text =>
      simp only [hkind, SettingKind.meaning?] at h
      split_ifs at h with hwordy
      rw [variableValue_of_wordy hwordy, if_neg (Setting.name_ne_of_kind (by simp [hkind]))]
      exact Option.some.inj h
  | count =>
      simp only [hkind, SettingKind.meaning?, Option.bind_eq_some_iff] at h
      obtain ⟨n, hn, hv⟩ := h
      split_ifs at hv
      rw [variableValue_of_integer hn]
      exact Option.some.inj hv
  | list =>
      simp only [hkind, SettingKind.meaning?] at h
      split_ifs at h with hwordy
      have hname : k.name = "oauth.scopes" := by
        cases k with
        | scopes => decide +kernel
        | _ => cases hkind
      rw [variableValue_of_wordy hwordy, if_pos hname]
      exact Option.some.inj h

theorem variableValue_ne_table (name s : String) (es : List (String × Value)) :
    variableValue name s ≠ .table es := by
  unfold variableValue
  split
  · simp
  · simp
  · split
    · simp
    · simp
    · split_ifs <;> simp

/-- A variable that gives settings what they can be, or leads past them. -/
def TidyVariable (var text : String) : Prop :=
  ∀ name, settingName? var = some name → ∀ k : Setting,
    name = k.name ∧ (k.kind.meaning? text).isSome ∨ Apart (steps name) k.path

/-- What the environment says about a setting. Variables are told apart regardless of case, and the
last one counts. -/
def ofVariables? (env : Environment) (k : Setting) : Option Value :=
  env.reverse.findSome? fun e =>
    if settingName? e.1 = some k.name then k.kind.meaning? e.2 else none

/-- A variable by the name of a setting has to mean something for that one only. -/
theorem tidyVariable_of_name {var text : String} {k : Setting}
    (hname : settingName? var = some k.name) (hsome : (k.kind.meaning? text).isSome) :
    TidyVariable var text := by
  intro name hname' l
  cases hname.symm.trans hname'
  by_cases heq : k = l
  · subst heq
    exact .inl ⟨rfl, hsome⟩
  · rw [k.steps_name]
    exact .inr (Setting.apart_of_ne heq)

theorem TidyVariable.value {var text : String} (h : TidyVariable var text) {k : Setting}
    (hname : settingName? var = some k.name) :
    k.kind.meaning? text = some (variableValue k.name text) := by
  rcases h k.name hname k with ⟨-, hsome⟩ | hapart
  · obtain ⟨v, hv⟩ := Option.isSome_iff_exists.mp hsome
    rw [hv, variableValue_eq hv]
  · exact absurd k.steps_name hapart.ne_map_key

/-- A variable that gives settings what can be read as one, or leads past them. -/
def ReadableVariable (var text : String) : Prop :=
  ∀ name, settingName? var = some name → ∀ k : Setting,
    name = k.name ∧ k.kind.Reads (variableValue name text) ∨ Apart (steps name) k.path

theorem TidyVariable.readable {var text : String} (h : TidyVariable var text) :
    ReadableVariable var text := by
  intro name hname k
  rcases h name hname k with ⟨rfl, -⟩ | hapart
  · exact .inl ⟨rfl, _, SettingKind.reading?_of_accepts
      (SettingKind.accepts_of_meaning? (h.value hname))⟩
  · exact .inr hapart

theorem ReadableVariable.suits {var text name : String} (h : ReadableVariable var text)
    (hname : settingName? var = some name) (k : Setting) :
    Suits k.kind.Reads k.path (steps name, variableValue name text) := by
  rcases h name hname k with ⟨rfl, hreads⟩ | hapart
  · rw [k.steps_name]
    exact .sets _ hreads
  · exact .beside _ _ hapart

/-- The parts of a layer without tables in it are its entries. -/
theorem layerParts_of_not_table {layer : Table} (h : ∀ e ∈ layer, ∀ es, e.2 ≠ .table es) :
    layerParts layer = layer.map fun e => (steps e.1, e.2) := by
  induction layer with
  | nil => rfl
  | cons e layer ih =>
      have hparts : parts (steps e.1) e.2 = [(steps e.1, e.2)] := by
        have htable := h e (by simp)
        generalize e.2 = v at htable
        cases v with
        | table es => exact absurd rfl (htable es)
        | text | integer | float | boolean | array => simp [parts]
      rw [layerParts, List.flatMap_cons, hparts, List.map_cons]
      exact congrArg _ (ih fun e' he' => h e' (List.mem_cons_of_mem _ he'))

/-- The settings that variables give, in their order. -/
def named (env : Environment) : Table :=
  env.filterMap fun e => (settingName? e.1).map fun name => (name, variableValue name e.2)

/-- The settings in an environment are those that variables give, the last one for each name. -/
theorem perm_environmentLayer (lib : Library) (env : Environment) :
    (environmentLayer lib env).Perm (Keyed.sort (named env)) :=
  lib.perm _

theorem mem_named_of_mem {lib : Library} {env : Environment} {e : String × Value}
    (h : e ∈ environmentLayer lib env) : e ∈ named env :=
  Keyed.mem_of_mem_sort ((perm_environmentLayer lib env).mem_iff.mp h)

theorem exists_of_mem_named {env : Environment} {e : String × Value} (h : e ∈ named env) :
    ∃ var text, (var, text) ∈ env ∧ settingName? var = some e.1 ∧ e.2 = variableValue e.1 text := by
  obtain ⟨⟨var, text⟩, hmem, hentry⟩ := List.mem_filterMap.mp h
  obtain ⟨name, hname, rfl⟩ := Option.map_eq_some_iff.mp hentry
  exact ⟨var, text, hmem, hname, rfl⟩

theorem layerParts_environmentLayer (lib : Library) (env : Environment) :
    layerParts (environmentLayer lib env) =
      (environmentLayer lib env).map fun e => (steps e.1, e.2) := by
  apply layerParts_of_not_table
  intro e he
  obtain ⟨var, text, -, -, hvalue⟩ := exists_of_mem_named (mem_named_of_mem he)
  rw [hvalue]
  exact variableValue_ne_table _ _

theorem suits_environmentLayer {env : Environment} (h : ∀ e ∈ env, ReadableVariable e.1 e.2)
    (lib : Library) (k : Setting) :
    ∀ part ∈ layerParts (environmentLayer lib env), Suits k.kind.Reads k.path part := by
  rw [layerParts_environmentLayer]
  intro part hpart
  obtain ⟨e, he, rfl⟩ := List.mem_map.mp hpart
  obtain ⟨var, text, hmem, hname, hvalue⟩ := exists_of_mem_named (mem_named_of_mem he)
  rw [hvalue]
  exact (h _ hmem).suits hname k

/-- The text that the environment holds for a setting. -/
def held? (env : Environment) (k : Setting) : Option String :=
  env.reverse.findSome? fun e => if settingName? e.1 = some k.name then some e.2 else none

/-- What variables say that mean something is what they are taken for. -/
theorem ofVariables?_eq {env : Environment} (h : ∀ e ∈ env, TidyVariable e.1 e.2) (k : Setting) :
    ofVariables? env k = (held? env k).map (variableValue k.name) := by
  have hmem : ∀ e ∈ env.reverse, TidyVariable e.1 e.2 := fun e he => h e (List.mem_reverse.mp he)
  rw [ofVariables?, held?, List.map_findSome?]
  generalize env.reverse = es at hmem
  induction es with
  | nil => rfl
  | cons e es ih =>
      have ih := ih fun e he => hmem e (List.mem_cons_of_mem _ he)
      rw [List.findSome?_cons, List.findSome?_cons, ih]
      have htidy := hmem e (by simp)
      simp only [Function.comp_apply]
      split_ifs with hname
      · rw [htidy.value hname]
        rfl
      · rfl

theorem find?_named (env : Environment) (k : Setting) :
    Keyed.find? k.name (named env) =
      (env.findSome? fun e => if settingName? e.1 = some k.name then some e.2 else none).map
        (variableValue k.name) := by
  induction env with
  | nil => rfl
  | cons e env ih =>
      cases hname : settingName? e.1 with
      | none => simpa [named, hname] using ih
      | some name =>
          by_cases heq : name = k.name
          · subst heq
            simp [named, hname, Keyed.find?]
          · simpa [named, hname, Keyed.find?, heq] using ih

/-- The last part of the environment at a setting is what its variable is taken for. -/
theorem last?_environmentLayer {env : Environment} (h : ∀ e ∈ env, ReadableVariable e.1 e.2)
    (lib : Library) (k : Setting) :
    last? k.path (layerParts (environmentLayer lib env)) =
      (held? env k).map (variableValue k.name) := by
  have hperm : (environmentLayer lib env).reverse.Perm (Keyed.sort (named env)) :=
    (List.reverse_perm _).trans (perm_environmentLayer lib env)
  have hsteps : ∀ e ∈ (environmentLayer lib env).reverse,
      steps e.1 = k.path.map .key ↔ e.1 = k.name := by
    intro e he
    obtain ⟨var, text, hmem, hname, -⟩ :=
      exists_of_mem_named (mem_named_of_mem (List.mem_reverse.mp he))
    constructor
    · intro heq
      rcases h _ hmem _ hname k with ⟨hk, -⟩ | hapart
      · exact hk
      · exact absurd heq hapart.ne_map_key
    · intro heq
      rw [heq, k.steps_name]
  calc
    last? k.path (layerParts (environmentLayer lib env))
      = (environmentLayer lib env).reverse.findSome? fun e =>
          if steps e.1 = k.path.map .key then some e.2 else none := by
        rw [layerParts_environmentLayer, last?, ← List.map_reverse, List.findSome?_map]
        rfl
    _ = Keyed.find? k.name (environmentLayer lib env).reverse :=
        Keyed.findSome?_eq_find? (p := fun name => steps name = k.path.map .key) hsteps
    _ = Keyed.find? k.name (named env).reverse := by
        rw [Keyed.find?_perm hperm (Keyed.ordered_sort _).nodup, Keyed.find?_sort]
    _ = (held? env k).map (variableValue k.name) := by
        rw [named, ← List.filterMap_reverse]
        exact find?_named env.reverse k

end Settings

end PackageRegistry
