import PackageRegistry.Proofs.Results
import PackageRegistry.Proofs.Settings.Variables

/-! # Settings in layers

Every setting comes from the highest layer that has it: the environment, the configuration file, or
the defaults. No setting shows in another one, and names that lead elsewhere show in none.
-/

namespace PackageRegistry

open Toml (Value)

namespace Toml.Value

/-! ## Equality of values -/

mutual

/-- Whether two values are the same. -/
def same : Value → Value → Bool
  | .text s, .text t => s == t
  | .integer m, .integer n => m == n
  | .float x, .float y => x == y
  | .boolean b, .boolean c => b == c
  | .array vs, .array ws => sameItems vs ws
  | .table es, .table fs => sameEntries es fs
  | _, _ => false

def sameItems : List Value → List Value → Bool
  | [], [] => true
  | v :: vs, w :: ws => same v w && sameItems vs ws
  | _, _ => false

def sameEntries : List (String × Value) → List (String × Value) → Bool
  | [], [] => true
  | (k, v) :: es, (l, w) :: fs => k == l && same v w && sameEntries es fs
  | _, _ => false

end

mutual

theorem same_iff (v w : Value) : same v w = true ↔ v = w := by
  cases v <;> cases w <;> simp [same, sameItems_iff, sameEntries_iff]

theorem sameItems_iff (vs ws : List Value) : sameItems vs ws = true ↔ vs = ws := by
  cases vs <;> cases ws <;> simp [sameItems, same_iff, sameItems_iff]

theorem sameEntries_iff (es fs : List (String × Value)) : sameEntries es fs = true ↔ es = fs := by
  match es, fs with
  | [], [] => simp [sameEntries]
  | [], _ :: _ => simp [sameEntries]
  | _ :: _, [] => simp [sameEntries]
  | (k, v) :: es, (l, w) :: fs => simp [sameEntries, same_iff, sameEntries_iff, and_assoc]

end

instance : DecidableEq Value := fun v w => decidable_of_iff _ (same_iff v w)

end Toml.Value

namespace Settings

/-! ## Reading settings -/

/-- What a setting is. -/
def get? (s : Settings) : Setting → Option Value
  | .dispatchUrl => some (.text s.dispatchUrl)
  | .dataDir => some (.text s.dataDir)
  | .userAgent => s.userAgent.map .text
  | .debounce => some (.integer s.debounce)
  | .clientId => some (.text s.provider.clientId)
  | .authorizeUrl => some (.text s.provider.authorizeUrl)
  | .redirectUri => some (.text s.provider.redirectUri)
  | .scopes => some (.array (s.provider.scopes.map .text))

/-- The settings of those who set none. -/
def defaults (configDir dataDir : Location) : Settings where
  dispatchUrl := ({} : ClientOptions).baseUrl
  dataDir := dataDir
  configDir := configDir
  userAgent := none
  debounce := 300
  provider := {}

/-- A value that can be read is, and a default is taken where there is none. -/
theorem exists_field {α : Type} (shown : α → Option Value) {kind : SettingKind}
    {read : Value → Option α} (hread : ∀ v, kind.reading? v = (read v).bind shown) {es : Table}
    {name : String} (h : ∀ v, Keyed.find? name es = some v → kind.Reads v) (default : α) :
    ∃ a, field es name default read = some a ∧
      shown a = ((Keyed.find? name es).bind kind.reading?).or (shown default) := by
  unfold field
  cases hfind : Keyed.find? name es with
  | none => exact ⟨default, rfl, rfl⟩
  | some v =>
      obtain ⟨w, hw⟩ := h v hfind
      obtain ⟨a, ha, hshown⟩ := Option.bind_eq_some_iff.mp ((hread v).symm.trans hw)
      exact ⟨a, ha, by rw [Option.bind_some, hw, hshown, Option.some_or]⟩

section Fields

variable (es : Table) (name : String)

theorem exists_text_field
    (h : ∀ v, Keyed.find? name es = some v → SettingKind.text.Reads v) (default : String) :
    ∃ s, field es name default text? = some s ∧
      some (.text s) =
        ((Keyed.find? name es).bind SettingKind.text.reading?).or (some (.text default)) := by
  refine exists_field (fun s => some (.text s)) ?_ h default
  intro v
  exact Option.map_eq_bind

theorem exists_optional_field
    (h : ∀ v, Keyed.find? name es = some v → SettingKind.text.Reads v)
    (default : Option String) :
    ∃ o, (field es name default fun v => (text? v).map some) = some o ∧
      o.map .text =
        ((Keyed.find? name es).bind SettingKind.text.reading?).or (default.map .text) := by
  refine exists_field (fun o => o.map .text) ?_ h default
  intro v
  cases hv : text? v <;> simp [SettingKind.reading?, hv]

theorem exists_count_field
    (h : ∀ v, Keyed.find? name es = some v → SettingKind.count.Reads v) (default : Nat) :
    ∃ n, field es name default count? = some n ∧
      some (.integer n) =
        ((Keyed.find? name es).bind SettingKind.count.reading?).or (some (.integer default)) := by
  refine exists_field (fun n : Nat => some (.integer n)) ?_ h default
  intro v
  exact Option.map_eq_bind

theorem exists_list_field
    (h : ∀ v, Keyed.find? name es = some v → SettingKind.list.Reads v) (default : List String) :
    ∃ ss, field es name default texts? = some ss ∧
      some (.array (ss.map .text)) =
        ((Keyed.find? name es).bind SettingKind.list.reading?).or
          (some (.array (default.map .text))) := by
  refine exists_field (fun ss => some (.array (ss.map .text))) ?_ h default
  intro v
  exact Option.map_eq_bind

end Fields

/-- What is read where a table says nothing. -/
def unset (configDir : Location) : Settings where
  dispatchUrl := ""
  dataDir := ""
  configDir := configDir
  userAgent := none
  debounce := 0
  provider := {}

theorem exists_providerOf {ps : List (String × Value)}
    (h : ∀ (k : Setting) name, k.path = ["oauth", name] →
      ∀ v, Keyed.find? name ps = some v → k.kind.Reads v) :
    ∃ p : Provider, providerOf (.table ps) = some p ∧
      some (.text p.clientId) =
        ((Keyed.find? "client_id" ps).bind SettingKind.text.reading?).or (some (.text "")) ∧
      some (.text p.authorizeUrl) =
        ((Keyed.find? "authorize_url" ps).bind SettingKind.text.reading?).or
          (some (.text ({} : Provider).authorizeUrl)) ∧
      some (.text p.redirectUri) =
        ((Keyed.find? "redirect_uri" ps).bind SettingKind.text.reading?).or
          (some (.text ({} : Provider).redirectUri)) ∧
      some (.array (p.scopes.map .text)) =
        ((Keyed.find? "scopes" ps).bind SettingKind.list.reading?).or
          (some (.array (({} : Provider).scopes.map .text))) := by
  obtain ⟨clientId, hclientId, hclientId'⟩ :=
    exists_text_field ps "client_id" (h .clientId _ rfl) ""
  obtain ⟨authorizeUrl, hauthorizeUrl, hauthorizeUrl'⟩ :=
    exists_text_field ps "authorize_url" (h .authorizeUrl _ rfl) ({} : Provider).authorizeUrl
  obtain ⟨redirectUri, hredirectUri, hredirectUri'⟩ :=
    exists_text_field ps "redirect_uri" (h .redirectUri _ rfl) ({} : Provider).redirectUri
  obtain ⟨scopes, hscopes, hscopes'⟩ :=
    exists_list_field ps "scopes" (h .scopes _ rfl) ({} : Provider).scopes
  refine ⟨⟨clientId, authorizeUrl, redirectUri, scopes⟩, ?_, hclientId', hauthorizeUrl',
    hredirectUri', hscopes'⟩
  simp [providerOf, hclientId, hauthorizeUrl, hredirectUri, hscopes]

/-- Settings are read from a table with a table for the provider, if their values can be. -/
theorem exists_ofTable {es : Table} {ps : List (String × Value)}
    (hprovider : Keyed.find? "oauth" es = some (.table ps))
    (h : ∀ (k : Setting) v, at? k.path (some (.table es)) = some v → k.kind.Reads v)
    (configDir : Location) :
    ∃ s, ofTable configDir es = some s ∧
      ∀ k : Setting, s.get? k =
        ((at? k.path (some (.table es))).bind k.kind.reading?).or ((unset configDir).get? k) := by
  have hbelow : ∀ name, at? ["oauth", name] (some (.table es)) = Keyed.find? name ps := by
    intro name
    simp [at?, entriesOf, hprovider]
  obtain ⟨dispatchUrl, hdispatchUrl, hdispatchUrl'⟩ :=
    exists_text_field es "dispatch_url" (h .dispatchUrl) ""
  obtain ⟨dataDir, hdataDir, hdataDir'⟩ := exists_text_field es "data_dir" (h .dataDir) ""
  obtain ⟨userAgent, huserAgent, huserAgent'⟩ :=
    exists_optional_field es "user_agent" (h .userAgent) none
  obtain ⟨debounce, hdebounce, hdebounce'⟩ := exists_count_field es "debounce_ms" (h .debounce) 0
  have hbelow' : ∀ (k : Setting) name, k.path = ["oauth", name] →
      ∀ v, Keyed.find? name ps = some v → k.kind.Reads v := by
    intro k name hpath v hv
    exact h k v (by rw [hpath, hbelow, hv])
  obtain ⟨provider, hread, hclientId, hauthorizeUrl, hredirectUri, hscopes⟩ :=
    exists_providerOf hbelow'
  refine ⟨⟨dispatchUrl, dataDir, configDir, userAgent, debounce, provider⟩, ?_, ?_⟩
  · simp [ofTable, hdispatchUrl, hdataDir, huserAgent, hdebounce, hprovider, hread]
  · intro k
    cases k with
    | dispatchUrl => exact hdispatchUrl'
    | dataDir => exact hdataDir'
    | userAgent => exact huserAgent'
    | debounce => exact hdebounce'
    | clientId => exact hclientId.trans (by rw [← hbelow]; rfl)
    | authorizeUrl => exact hauthorizeUrl.trans (by rw [← hbelow]; rfl)
    | redirectUri => exact hredirectUri.trans (by rw [← hbelow]; rfl)
    | scopes => exact hscopes.trans (by rw [← hbelow]; rfl)

/-! ## Layers -/

/-- What a file says about a setting: the last value at its path. -/
def ofFile? (file : Table) (k : Setting) : Option Value := last? k.path (layerParts file)

/-- An environment and a configuration file in which every name gives a setting what it can be, or
leads past all of them, and the file says at most one thing about each of them. -/
structure Tidy (lib : Library) (env : Environment) (d : Disk) (configDir dataDir : Location)
    (file : Table) : Prop where
  located : configDirOf env d = .ok configDir
  stored : dataDirOf env d = .ok dataDir
  made : (d.makeDirectory configDir).1 = .ok ()
  parsed : written lib configDir (d.makeDirectory configDir).2 = .ok file
  keys : ∀ part ∈ layerParts file, ∀ k : Setting, Suits k.kind.Accepts k.path part
  once : ∀ k : Setting, Once k.path file
  vars : ∀ e ∈ env, TidyVariable e.1 e.2

/-- An environment and a configuration file, as it is laid, in which every name gives a setting what
can be read as one, or leads past all of them. -/
structure Readable (lib : Library) (env : Environment) (d : Disk) (configDir dataDir : Location)
    (file : Table) : Prop where
  located : configDirOf env d = .ok configDir
  stored : dataDirOf env d = .ok dataDir
  made : (d.makeDirectory configDir).1 = .ok ()
  parsed : fileLayer lib configDir (d.makeDirectory configDir).2 = .ok file
  keys : ∀ part ∈ layerParts file, ∀ k : Setting, Suits k.kind.Reads k.path part
  vars : ∀ e ∈ env, ReadableVariable e.1 e.2

/-- The layer under all others, and what is read where it says nothing, make the defaults. -/
theorem get?_defaults (configDir dataDir : Location) (k : Setting) :
    (at? k.path (some (.table (defaultLayer dataDir)))).or ((unset configDir).get? k) =
      (defaults configDir dataDir).get? k := by
  cases k <;> simp [Setting.path, at?, entriesOf, defaultLayer, Keyed.find?, get?, defaults, unset]

theorem accepts_of_get? {s : Settings} {k : Setting} {v : Value} (h : s.get? k = some v) :
    k.kind.Accepts v := by
  cases k with
  | userAgent =>
      obtain ⟨agent, -, rfl⟩ := Option.map_eq_some_iff.mp h
      exact ⟨agent, rfl⟩
  | dispatchUrl | dataDir | debounce | clientId | authorizeUrl | redirectUri | scopes =>
      exact ⟨_, (Option.some.inj h).symm⟩

theorem accepts_of_default {dataDir : Location} {k : Setting} {v : Value}
    (h : at? k.path (some (.table (defaultLayer dataDir))) = some v) : k.kind.Accepts v := by
  have hget := get?_defaults "" dataDir k
  rw [h, Option.some_or] at hget
  exact accepts_of_get? hget.symm

/-- What the environment and the file give for a setting. -/
def given? (env : Environment) (file : Table) (k : Setting) : Option Value :=
  ((held? env k).map (variableValue k.name)).or (ofFile? file k)

section Readable

variable {lib : Library} {env : Environment} {d : Disk} {configDir dataDir : Location}
  {file : Table} (h : Readable lib env d configDir dataDir file)
include h

theorem load_of_ofTable {s : Settings}
    (hs : ofTable configDir (layered lib dataDir file env) = some s) :
    (load lib env d).1 = .ok s := by
  have hmade := h.made
  have hparsed := h.parsed
  rcases hmake : d.makeDirectory configDir with ⟨result, d'⟩
  rw [hmake] at hmade hparsed
  cases hmade
  simp [load, h.located, h.stored, hmake, read, hparsed, hs]

theorem at?_layered (k : Setting) :
    at? k.path (some (.table (layered lib dataDir file env))) =
      (given? env file k).or (at? k.path (some (.table (defaultLayer dataDir)))) := by
  obtain ⟨key, path, hpath⟩ := k.exists_path_eq
  have hlower : ∀ part ∈ layerParts file, Suits k.kind.Reads k.path part :=
    fun part hpart => h.keys part hpart k
  have hupper := suits_environmentLayer h.vars lib k
  rw [given?, ← last?_environmentLayer h.vars lib, ofFile?]
  rw [hpath] at hlower hupper ⊢
  exact at?_overlayLayer (fun v hv => hv.not_table) hlower hupper lib _

theorem reads_of_given {k : Setting} {v : Value} (hv : given? env file k = some v) :
    k.kind.Reads v := by
  rw [given?, ← last?_environmentLayer h.vars lib, Option.or_eq_some_iff] at hv
  obtain hvar | ⟨-, hfile⟩ := hv
  · exact ok_of_last? (suits_environmentLayer h.vars lib k) hvar
  · exact ok_of_last? (fun part hpart => h.keys part hpart k) hfile

theorem reads_of_layered {k : Setting} {v : Value}
    (hv : at? k.path (some (.table (layered lib dataDir file env))) = some v) : k.kind.Reads v := by
  rw [at?_layered h, Option.or_eq_some_iff] at hv
  obtain hgiven | ⟨-, hdefault⟩ := hv
  · exact reads_of_given h hgiven
  · exact ⟨v, SettingKind.reading?_of_accepts (accepts_of_default hdefault)⟩

/-- The defaults have something for the provider, so what is over them is a table. -/
theorem exists_provider : ∃ ps, Keyed.find? "oauth" (layered lib dataDir file env) =
    some (.table ps) := by
  have hurl : at? ["oauth", "authorize_url"]
      (some (.table (layered lib dataDir file env))) ≠ none := by
    intro hnone
    have hdefault := (at?_layered h .authorizeUrl).symm.trans hnone
    simp [Setting.path, at?, entriesOf, defaultLayer, Keyed.find?] at hdefault
  exact exists_table_of_at? hurl

/-- What is given is read, and a default is taken where nothing is. -/
theorem exists_load_of_readable :
    ∃ s, (load lib env d).1 = .ok s ∧ ∀ k,
      s.get? k = ((given? env file k).bind k.kind.reading?).or
        ((defaults configDir dataDir).get? k) := by
  obtain ⟨ps, hprovider⟩ := exists_provider h
  obtain ⟨s, hread, hget⟩ :=
    exists_ofTable hprovider (fun k v hv => reads_of_layered h hv) configDir
  refine ⟨s, load_of_ofTable h hread, fun k => ?_⟩
  rw [hget, at?_layered h, ← get?_defaults]
  cases hgiven : given? env file k with
  | none =>
      rw [Option.none_or, Option.bind_none, Option.none_or]
      cases hdefault : at? k.path (some (.table (defaultLayer dataDir))) with
      | none => rfl
      | some v =>
          rw [Option.bind_some, SettingKind.reading?_of_accepts (accepts_of_default hdefault)]
  | some v =>
      obtain ⟨w, hw⟩ := reads_of_given h hgiven
      rw [Option.some_or, Option.bind_some, hw, Option.some_or, Option.some_or]

end Readable

section Tidy

variable {lib : Library} {env : Environment} {d : Disk} {configDir dataDir : Location}
  {file : Table} (h : Tidy lib env d configDir dataDir file)
include h

theorem readable_of_tidy : Readable lib env d configDir dataDir (lib.arrange file) where
  located := h.located
  stored := h.stored
  made := h.made
  parsed := by rw [fileLayer, h.parsed, Results.map_ok]
  keys part hpart k :=
    (h.keys part ((mem_layerParts_perm (lib.perm file)).mp hpart) k).mono
      fun _ hv => ⟨_, SettingKind.reading?_of_accepts hv⟩
  vars e he := (h.vars e he).readable

/-- It does not matter in which order the file is laid. -/
theorem ofFile?_arrange (k : Setting) : ofFile? (lib.arrange file) k = ofFile? file k :=
  last?_perm (lib.perm file) (h.once k)

theorem accepts_of_given {k : Setting} {v : Value}
    (hv : (ofVariables? env k).or (ofFile? file k) = some v) : k.kind.Accepts v := by
  rw [Option.or_eq_some_iff] at hv
  obtain hvar | ⟨-, hfile⟩ := hv
  · obtain ⟨e, -, he⟩ := List.exists_of_findSome?_eq_some hvar
    split_ifs at he
    exact SettingKind.accepts_of_meaning? he
  · exact ok_of_last? (fun part hpart => h.keys part hpart k) hfile

theorem exists_load :
    ∃ s, (load lib env d).1 = .ok s ∧ ∀ k,
      s.get? k = ((ofVariables? env k).or (ofFile? file k)).or
        ((defaults configDir dataDir).get? k) := by
  obtain ⟨s, hload, hget⟩ := exists_load_of_readable (readable_of_tidy h)
  refine ⟨s, hload, fun k => ?_⟩
  rw [hget, given?, ofFile?_arrange h, ← ofVariables?_eq h.vars]
  cases hgiven : (ofVariables? env k).or (ofFile? file k) with
  | none => rfl
  | some v => rw [Option.bind_some, SettingKind.reading?_of_accepts (accepts_of_given h hgiven)]

end Tidy

theorem configDir_of_ofTable {configDir : Location} {es : Table} {s : Settings}
    (h : ofTable configDir es = some s) : s.configDir = configDir := by
  simp only [ofTable, Option.bind_eq_bind, Option.bind_eq_some_iff, Option.pure_def,
    Option.some.injEq] at h
  obtain ⟨_, -, _, -, _, -, _, -, _, -, rfl⟩ := h
  rfl

/-- The configuration directory is where the file is, whatever the layers say. -/
theorem configDir_of_load {lib : Library} {env : Environment} {d : Disk} {s : Settings}
    (h : (load lib env d).1 = .ok s) : configDirOf env d = .ok s.configDir := by
  unfold load at h
  split at h
  · cases h
  · cases h
  · rename_i configDir dataDir hconfigDir hdataDir
    split at h
    · cases h
    · obtain ⟨file, -, hread⟩ := Results.bind_eq_ok_iff.mp h
      dsimp only at hread
      split at hread
      · rename_i s' hs
        cases hread
        rw [hconfigDir, configDir_of_ofTable hs]
      · cases hread

/-- Every setting is taken from the highest layer that has it, so two runs whose layers say the same
about a setting agree on it; and so it is in whatever order the entries of layers are taken. -/
theorem settings_come_from_the_highest_layer :
    (∀ lib env d s, (load lib env d).1 = .ok s → configDirOf env d = .ok s.configDir) ∧
      (∀ lib env d configDir dataDir file, Tidy lib env d configDir dataDir file →
        ∃ s, (load lib env d).1 = .ok s ∧ ∀ k, s.get? k =
          ((ofVariables? env k).or (ofFile? file k)).or ((defaults configDir dataDir).get? k)) ∧
      ∀ lib env d configDir dataDir file lib' env' d' configDir' dataDir' file',
        Tidy lib env d configDir dataDir file → Tidy lib' env' d' configDir' dataDir' file' →
        ∀ s s', (load lib env d).1 = .ok s → (load lib' env' d').1 = .ok s' →
        ∀ k, ofVariables? env k = ofVariables? env' k → ofFile? file k = ofFile? file' k →
          (k = .dataDir → dataDir = dataDir') → s.get? k = s'.get? k := by
  refine ⟨fun lib env d s => configDir_of_load,
    fun lib env d configDir dataDir file => exists_load, ?_⟩
  intro lib env d configDir dataDir file lib' env' d' configDir' dataDir' file' h h' s s' hs hs' k
    hvars hfile hdataDir
  obtain ⟨_, hload, hget⟩ := exists_load h
  obtain ⟨_, hload', hget'⟩ := exists_load h'
  cases hs.symm.trans hload
  cases hs'.symm.trans hload'
  rw [hget, hget', hvars, hfile]
  congr 1
  cases k with
  | dataDir =>
      rw [hdataDir rfl]
      rfl
  | dispatchUrl | userAgent | debounce | clientId | authorizeUrl | redirectUri | scopes => rfl

/-! ### A run with all layers -/

def writtenFile : Table :=
  [("config_dir", .text "/elsewhere"), ("debounce_ms", .integer 150),
    ("oauth", .table [("client_id", .text "from-file")])]

def filled : Disk where
  entries := [(["c"], .directory), (["c", "registry.toml"], .file (Text.Utf8.encode
    "config_dir = '/elsewhere'\ndebounce_ms = 150\n[oauth]\nclient_id = 'from-file'\n"))]

def exported : Environment :=
  [("HOME", "/h"), ("RADS_CONFIG_DIR", "/c"), ("RADS_DEBOUNCE_MS", "7")]

theorem layerParts_writtenFile : layerParts writtenFile =
    [([.key "config_dir"], .text "/elsewhere"),
      (Setting.debounce.path.map .key, .integer 150),
      (Setting.clientId.path.map .key, .text "from-file")] := by
  decide +kernel

theorem tidy_filled : Tidy .plain exported filled "/c" "/h/.local/share/rads" writtenFile where
  located := by decide +kernel
  stored := by decide +kernel
  made := by decide +kernel
  parsed := by decide +kernel
  keys := by
    rw [layerParts_writtenFile]
    simp only [List.forall_mem_cons, List.not_mem_nil, false_imp_iff, implies_true, and_true]
    refine ⟨fun k => .beside _ _ ?_, Setting.suits_of_accepts ⟨150, rfl⟩,
      Setting.suits_of_accepts ⟨_, rfl⟩⟩
    cases k <;> simp [Setting.path, Apart]
  once := by
    intro k v w hv hw
    rw [layerParts_writtenFile] at hv hw
    cases k <;> simp_all [Setting.path]
  vars := by
    have hhome : settingName? "HOME" = none := by decide +kernel
    have hdir : settingName? "RADS_CONFIG_DIR" = some "config_dir" := by decide +kernel
    have hsteps : steps "config_dir" = [.key "config_dir"] := by decide +kernel
    simp only [exported, List.forall_mem_cons, List.not_mem_nil, false_imp_iff, implies_true,
      and_true]
    refine ⟨?_, ?_, ?_⟩
    · intro name hname
      cases hhome.symm.trans hname
    · intro name hname k
      cases hdir.symm.trans hname
      right
      rw [hsteps]
      cases k <;> simp [Setting.path, Apart]
    · have hdebounce : settingName? "RADS_DEBOUNCE_MS" = some Setting.debounce.name := by
        decide +kernel
      exact tidyVariable_of_name hdebounce (by decide +kernel)

/-- The layers of a run over each other. -/
theorem filled_settings_are_read :
    ∃ s, (load .plain exported filled).1 = .ok s ∧ s.configDir = "/c" ∧ s.debounce = 7 ∧
      s.provider.clientId = "from-file" ∧ s.provider.scopes = ({} : Provider).scopes := by
  obtain ⟨s, hload, hget⟩ := settings_come_from_the_highest_layer.2.1 _ _ _ _ _ _ tidy_filled
  have hdir := settings_come_from_the_highest_layer.1 _ _ _ _ hload
  have hdebounce : Value.integer s.debounce = .integer (7 : Nat) :=
    Option.some.inj ((hget .debounce).trans (by decide +kernel))
  have hclientId : Value.text s.provider.clientId = .text "from-file" :=
    Option.some.inj ((hget .clientId).trans (by decide +kernel))
  have hscopes : Value.array (s.provider.scopes.map .text) =
      .array (({} : Provider).scopes.map .text) :=
    Option.some.inj ((hget .scopes).trans (by decide +kernel))
  refine ⟨s, hload, ?_, ?_, ?_, ?_⟩
  · exact (Except.ok.inj (tidy_filled.located.symm.trans hdir)).symm
  · exact Int.natCast_inj.mp (Value.integer.inj hdebounce)
  · exact Value.text.inj hclientId
  · exact List.map_injective_iff.mpr (fun _ _ h => Value.text.inj h) (Value.array.inj hscopes)

/-- A name that is of no setting can lead through one, and then there are no settings at all. -/
theorem stray_variable_is_in_the_way :
    (∀ k : Setting, settingName? "RADS_DISPATCH_URL__PORT" ≠ some k.name) ∧
      (load .plain [("HOME", "/h")] {}).1 =
        .ok (defaults "/h/.config/rads" "/h/.local/share/rads") ∧
      ∀ s, (load .plain [("HOME", "/h"), ("RADS_DISPATCH_URL__PORT", "8080")] {}).1 ≠ .ok s := by
  refine ⟨?_, by decide +kernel, ?_⟩
  · intro k
    cases k <;> decide +kernel
  · have hfault : (load .plain [("HOME", "/h"), ("RADS_DISPATCH_URL__PORT", "8080")] {}).1 =
        .error (.value ["invalid value"]) := by decide +kernel
    intro s hs
    cases hs.symm.trans hfault

/-- A file that gives a setting twice, once by a name that is a path. -/
def twofold : Disk where
  entries := [(["c"], .directory), (["c", "registry.toml"], .file (Text.Utf8.encode
    "\"oauth.client_id\" = 'a'\n[oauth]\nclient_id = 'b'\n"))]

/-- It is up to the library then which one counts. -/
example : (load .plain exported twofold).1 ≠
    (load { Library.plain with arrange := List.reverse, perm := List.reverse_perm } exported
      twofold).1 := by
  decide +kernel

end Settings

end PackageRegistry
